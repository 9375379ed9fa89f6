import CardDrawing.Proofs.BuildRefusal
import CardDrawing.Proofs.BuildLoads
import CardDrawing.Proofs.BuildShape
import CardDrawing.Proofs.PaletteTable
import CardDrawing.Proofs.TemplateFields

/-!
# Where color schemes are declared

Palettes are looked up by name only, after all of them have been built. So it makes no difference
to a card where its template declares the color schemes, and in which order.
-/

namespace CardDrawing.Proofs
open Schedule

variable {c : Collaborators} {card : Card} {template template' : Template}

/-! ## Expansion looks palettes up and nothing else -/

section

variable {palettes palettes' : Palettes}

lemma resolveFieldColor_congr
    (h : ∀ scheme, Keyed.get? palettes scheme = Keyed.get? palettes' scheme) :
    resolveFieldColor palettes = resolveFieldColor palettes' := by
  funext raw
  cases raw with
  | none => rfl
  | some reference => simp only [resolveFieldColor, resolveColor, h]

variable (h : resolveFieldColor palettes = resolveFieldColor palettes')
include h

lemma buildText_congr : buildText palettes = buildText palettes' := by
  funext x y style entry
  simp only [buildText, h]

lemma buildLine_congr : buildLine palettes = buildLine palettes' := by
  funext field
  simp only [buildLine, h]

lemma expandRow_congr : expandRow palettes = expandRow palettes' := by
  funext row entry
  simp only [expandRow, buildText_congr h]

lemma expandExtra_congr : expandExtra palettes = expandExtra palettes' := by
  funext dy field
  cases field <;> simp only [expandExtra, buildLine_congr h]

lemma expandListRow_congr : expandListRow palettes = expandListRow palettes' := by
  funext y yIncr row extras i entry
  simp only [expandListRow, expandRow_congr h, expandExtra_congr h]

lemma expandRows_congr (y yIncr : Number) (row : RowField) (extras : List Field) (i : Nat)
    (entries : List Value) : expandRows palettes y yIncr row extras i entries =
      expandRows palettes' y yIncr row extras i entries := by
  induction entries generalizing i with
  | nil => rfl
  | cons entry rest ih => simp only [expandRows, expandListRow_congr h, ih]

lemma expandImage_congr : expandImage palettes = expandImage palettes' := by
  funext field value
  simp only [expandImage, buildText_congr h]

lemma expandField_congr : expandField palettes = expandField palettes' := by
  funext field value
  cases field <;>
    simp only [expandField, h, buildLine_congr h, buildText_congr h, expandRow_congr h,
      expandRows_congr h, expandImage_congr h]

lemma resolveAndExpand_congr : resolveAndExpand palettes = resolveAndExpand palettes' := by
  funext card field
  rw [resolveAndExpand_eq, resolveAndExpand_eq, expandField_congr h]

lemma buildField_congr : buildField c palettes card = buildField c palettes' card := by
  funext field
  rw [buildField, buildField, resolveAndExpand_congr h]

lemma buildFields_congr (fields : List Field) :
    buildFields c palettes card fields = buildFields c palettes' card fields := by
  rw [buildFields_eq, buildFields_eq, buildField_congr h]

end

/-! ## Sessions that look alike -/

/-- Two sessions for the same fields, in which every color is resolved alike. -/
structure Alike (session session' : Palettes × List Field) : Prop where
  colors : resolveFieldColor session.1 = resolveFieldColor session'.1
  fields : session.2 = session'.2

section

variable {session session' : Palettes × List Field} (h : Alike session session')
  (ho : openSession template card = .ok session) (ho' : openSession template' card = .ok session')
include h ho ho'

lemma build_alike : build c template card = build c template' card := by
  rw [run_build ho, run_build ho', buildFields_congr h.colors, h.fields]

lemma prepare_alike : prepare c template card = prepare c template' card := by
  obtain ⟨palettes, fields⟩ := session
  obtain ⟨palettes', fields'⟩ := session'
  obtain rfl : fields = fields' := h.fields
  rw [prepare, prepare, ho, ho']
  dsimp only [bind, Except.bind]
  rw [resolveAndExpand_congr h.colors]

end

lemma concurrentBuild_congr {answer : Pending → Except Error Resource} {bound : Nat}
    {outcome : Except Error (List Primitive)} {history : List (Event Pending)}
    (h : prepare c template card = prepare c template' card)
    (hb : ConcurrentBuild c answer bound template card outcome history) :
    ConcurrentBuild c answer bound template' card outcome history := by
  cases hb with
  | refused hp => exact .refused (h.symm.trans hp)
  | ended hp hr ho => exact .ended (h.symm.trans hp) hr ho

/-! ## Templates that place their color schemes differently -/

/-- The same fields under the same ids; those that draw keep their order. -/
structure Rearranged (template template' : Template) : Prop where
  fields : template.fields.Perm template'.fields
  drawn : template.orderedFields.filter (!·.isColorScheme) =
    template'.orderedFields.filter (!·.isColorScheme)

lemma Rearranged.ordered (h : Rearranged template template') :
    template.orderedFields.Perm template'.orderedFields :=
  h.fields.map Prod.snd

lemma Rearranged.alike (hw : WellFormed template) (h : Rearranged template template')
    (hp : ∀ field ∈ template.orderedFields, field.isColorScheme = true → HasPalette card field) :
    ∃ session session', openSession template card = .ok session ∧
      openSession template' card = .ok session' ∧ Alike session session' := by
  have hschemes := h.ordered.filter Field.isColorScheme
  have hp' : ∀ field ∈ template.orderedFields.filter Field.isColorScheme, HasPalette card field :=
    fun field hm => hp field (List.mem_filter.mp hm).1 (List.mem_filter.mp hm).2
  obtain ⟨palettes, hb⟩ := palettes_build_isOk.mpr hp'
  obtain ⟨palettes', hb'⟩ :=
    palettes_build_isOk.mpr fun field hm => hp' field (hschemes.mem_iff.mpr hm)
  -- every palette has an id of its own, so a lookup does not see the order they were built in
  refine ⟨_, _, openSession_eq_ok.mpr ⟨hb, rfl⟩, openSession_eq_ok.mpr ⟨hb', rfl⟩, ?_, h.drawn⟩
  exact resolveFieldColor_congr
    (palettes_build_perm (hw.filter_ids_nodup Field.isColorScheme) hschemes hb hb')

/-- All builds of a card come to the same on two templates: the outcome, and the log of loads. -/
structure SameBuilds (c : Collaborators) (card : Card) (template template' : Template) : Prop where
  build : build c template card = build c template' card
  concurrent : ∀ answer bound outcome history,
    ConcurrentBuild c answer bound template card outcome history ↔
      ConcurrentBuild c answer bound template' card outcome history
  clocked : ∀ (τ : Type) [Add τ] [LT τ] [DecidableLT τ] (start : τ) (delay : Fetch → τ) bound,
    buildConcurrently start delay c bound template card =
      buildConcurrently start delay c bound template' card

lemma sameBuilds_alike {session session' : Palettes × List Field} (h : Alike session session')
    (ho : openSession template card = .ok session)
    (ho' : openSession template' card = .ok session') : SameBuilds c card template template' where
  build := build_alike h ho ho'
  concurrent _ _ _ _ := ⟨concurrentBuild_congr (prepare_alike h ho ho'),
    concurrentBuild_congr (prepare_alike h ho ho').symm⟩
  clocked τ _ _ _ start delay bound := by
    rw [buildConcurrently, buildConcurrently, prepare_alike h ho ho']

/-- Every build of a card fails with one error, and nothing is loaded. -/
structure FailsUnloaded (c : Collaborators) (card : Card) (template : Template) (why : Error) :
    Prop where
  build : build c template card = (.error why, [])
  concurrent : ∀ answer bound outcome history,
    ConcurrentBuild c answer bound template card outcome history ↔
      outcome = .error why ∧ history = []
  clocked : ∀ (τ : Type) [Add τ] [LT τ] [DecidableLT τ] (start : τ) (delay : Fetch → τ) bound,
    buildConcurrently start delay c bound template card = (.error why, [])

lemma failsUnloaded {why : Error} (h : openSession template card = .error why) :
    FailsUnloaded c card template why := by
  have hw : Refusal c template card why := .palettes (openSession_eq_error.mp h)
  have hp := prepare_eq_error.mpr hw
  refine ⟨run_build_error h, fun answer bound outcome history => ⟨?_, ?_⟩, ?_⟩
  · exact fun hb => concurrentBuild_refused hb hw
  · rintro ⟨rfl, rfl⟩
    exact .refused hp
  · intro τ _ _ _ start delay bound
    rw [buildConcurrently, hp]

lemma failsUnloaded_of_scheme {field : Field} (hm : field ∈ template.orderedFields)
    (hs : field.isColorScheme = true) (hp : ¬ HasPalette card field) :
    ∃ why, FailsUnloaded c card template why := by
  cases ho : openSession template card with
  | error why => exact ⟨why, failsUnloaded ho⟩
  | ok session =>
    obtain ⟨hb, -⟩ := openSession_eq_ok.mp ho
    exact absurd (palettes_build_isOk.mp ⟨_, hb⟩ field (List.mem_filter.mpr ⟨hm, hs⟩)) hp

/-- It does not matter where a template declares its color schemes. If all of them resolve to
palettes, every build comes to the same, with the same loads; if not, every build fails before the
first load, wherever they are declared. -/
theorem scheme_placement_irrelevant (hw : WellFormed template) (h : Rearranged template template')
    (c : Collaborators) (card : Card) :
    ((∀ field ∈ template.orderedFields, field.isColorScheme = true → HasPalette card field) →
      SameBuilds c card template template') ∧
    ∀ field ∈ template.orderedFields, field.isColorScheme = true → ¬ HasPalette card field →
      (∃ why, FailsUnloaded c card template why) ∧
        ∃ why, FailsUnloaded c card template' why := by
  refine ⟨fun hp => ?_, fun field hm hs hp => ?_⟩
  · obtain ⟨session, session', ho, ho', halike⟩ := h.alike hw hp
    exact sameBuilds_alike halike ho ho'
  · exact ⟨failsUnloaded_of_scheme hm hs hp,
      failsUnloaded_of_scheme (h.ordered.mem_iff.mp hm) hs hp⟩

/-- A map that declares its two palettes before what it draws. -/
def chart : Template where
  name := "chart"
  width := 16
  height := 8
  fields := [
    ("ink", .colorScheme { id := "ink" }),
    ("paper", .colorScheme { id := "paper" }),
    ("sheet", .color { id := "sheet", x := 0, y := 0, width := 16, height := 8 }),
    ("title", .text { id := "title", x := 0, y := 4, style := { color := some "$ink.dark" } })]

def chartMixed : Template where
  name := "chart"
  width := 16
  height := 8
  fields := [
    ("sheet", .color { id := "sheet", x := 0, y := 0, width := 16, height := 8 }),
    ("paper", .colorScheme { id := "paper" }),
    ("title", .text { id := "title", x := 0, y := 4, style := { color := some "$ink.dark" } }),
    ("ink", .colorScheme { id := "ink" })]

def chartCard (ink : Value) : Card where
  templateName := "chart"
  data := [("ink", { value := ink }), ("sheet", { value := .text "$paper.plain" }),
    ("title", { value := .text "Woods" })]

lemma chart_wellFormed : WellFormed chart where
  distinct := by decide
  keyed := by simp [chart, Field.id, Field.identity]

lemma chart_rearranged : Rearranged chart chartMixed where
  fields := by
    have hfront : chart.fields.Perm (chart.fields.head (by decide) :: chartMixed.fields.take 3) :=
      .cons _ (.swap _ _ _)
    exact hfront.trans (List.perm_append_singleton _ _).symm
  drawn := rfl

lemma chart_palettes : ∀ field ∈ chart.orderedFields, field.isColorScheme = true →
    HasPalette (chartCard (.object [("dark", .text "#203020")])) field := by
  simp [chart, Template.orderedFields, Field.isColorScheme]
  exact ⟨.inr ⟨_, rfl⟩, .inl rfl⟩

lemma chart_without_palette :
    ¬ HasPalette (chartCard (.text "dark")) (.colorScheme { id := "ink" }) := by
  rintro (h | ⟨palette, h⟩) <;> cases h

theorem chart_placement :
    SameBuilds {} (chartCard (.object [("dark", .text "#203020")])) chart chartMixed ∧
      (∃ why, FailsUnloaded {} (chartCard (.text "dark")) chart why) ∧
      ∃ why, FailsUnloaded {} (chartCard (.text "dark")) chartMixed why :=
  ⟨(scheme_placement_irrelevant chart_wellFormed chart_rearranged _ _).1 chart_palettes,
    (scheme_placement_irrelevant chart_wellFormed chart_rearranged _ _).2
      (.colorScheme { id := "ink" }) List.mem_cons_self rfl chart_without_palette⟩

end CardDrawing.Proofs
