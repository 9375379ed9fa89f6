import CardDrawing.Editor
import CardDrawing.Proofs.BuildFailures
import CardDrawing.Proofs.BuildLoads
import CardDrawing.Proofs.BuildRefusal
import CardDrawing.Proofs.PaintFailures

/-!
# The internal checks of a build

No build, in whatever order its loads end, fails for an internal check, unless a loader says so;
nor does painting its drawing or placing a picture.
-/

namespace CardDrawing.Proofs
open Schedule

variable {c : Collaborators} {template : Template} {card : Card} {palettes : Palettes}

/-! ## Builds -/

lemma resolveAndExpand_regular {fields : List Field}
    (hopen : openSession template card = .ok (palettes, fields)) {field : Field}
    (hm : field ∈ fields) : FailsOnly Regular (resolveAndExpand palettes card field) := by
  obtain ⟨-, rfl⟩ := openSession_eq_ok.mp hopen
  have hdraws : field.isColorScheme = false := by simpa using (List.mem_filter.mp hm).2
  exact (resolveAndExpand_fails hdraws).imp fun _ => DrawingFailure.regular

lemma checkFetchable_regular (p : Primitive) (r : ResourceRequest) :
    FailsOnly Regular (checkFetchable c p r) :=
  (checkFetchable_fails p r).imp fun _ => Reported.regular

lemma partition_regular {why : Error}
    (h : Palettes.build (partitionFields template.orderedFields).1 card = .error why) :
    Regular why :=
  (palettes_build_fails _ card why h).regular

/-- What a build is refused for before its first load is no internal error. -/
lemma refusal_regular {why : Error} (h : Refusal c template card why) : Regular why := by
  cases h with
  | palettes h => exact partition_regular h
  | expansion hopen _ hf =>
    exact resolveAndExpand_regular hopen (List.mem_append_right _ List.mem_cons_self) why hf
  | request _ _ _ _ _ hw => exact checkFetchable_regular _ _ why hw

lemma stoppedAfter_regular {why : Error} {calls : List Fetch}
    (h : StoppedAfter c template card why calls) (hwhy : ¬ Regular why) :
    ∃ call ∈ calls, c.answer call = .error why := by
  cases h with
  | palettes h => exact (hwhy (partition_regular h)).elim
  | expansion hopen _ hf =>
    have hf' := resolveAndExpand_regular hopen (List.mem_append_right _ List.mem_cons_self) why hf
    exact (hwhy hf').elim
  | resource _ _ _ _ hfails =>
    cases hfails with
    | request _ hw => exact (hwhy (checkFetchable_regular _ _ why hw)).elim
    | @load call _ hload =>
      exact ⟨call, List.mem_append_right _ List.mem_cons_self, hload⟩

/-- The internal checks of all builds of a card hold. -/
structure ChecksHold (c : Collaborators) (template : Template) (card : Card) : Prop where
  /-- An internal error is one that a loader came to. -/
  built : ∀ why, (build c template card).1 = .error why → ¬ Regular why →
    ∃ call ∈ (build c template card).2, c.answer call = .error why
  scheduled : ∀ answer bound outcome history,
    ConcurrentBuild c answer bound template card outcome history → ∀ why, outcome = .error why →
      ¬ Regular why → ∃ item, .fail item ∈ history ∧ answer item = .error why
  clocked : ∀ (τ : Type) [Add τ] [LT τ] [DecidableLT τ] (start : τ) (delay : Fetch → τ) bound,
    1 ≤ bound → ∀ why, (buildConcurrently start delay c bound template card).1 = .error why →
      ¬ Regular why → ∃ item,
        .fail item ∈ (buildConcurrently start delay c bound template card).2.map Timed.event ∧
          c.answer item.fetch = .error why
  /-- Whatever is to be loaded was asked for by the primitive in its place. -/
  requested : ∀ prepared, prepare c template card = .ok prepared →
    ∀ item ∈ prepared.lanes.flatten, ∃ p r, prepared.expanded[item.index]? = some p ∧
      Waits p r ∧ checkFetchable c p r = .ok item.fetch

lemma concurrentBuild_regular {answer : Pending → Except Error Resource} {bound : Nat}
    {outcome : Except Error (List Primitive)} {history : List (Event Pending)}
    (h : ConcurrentBuild c answer bound template card outcome history) {why : Error}
    (ho : outcome = .error why) (hwhy : ¬ Regular why) :
    ∃ item, .fail item ∈ history ∧ answer item = .error why := by
  have hfast := concurrentBuild_failsFast h
  have hnone (why' : Error) (hr : Refusal c template card why') : False := by
    obtain ⟨he, -⟩ := hfast.refused why' hr
    obtain rfl := Except.error.inj (he.symm.trans ho)
    exact hwhy (refusal_regular hr)
  rcases hfast.loaded hnone with ⟨ps, hps⟩ | ⟨item, why', -, hfail, ha, he⟩
  · cases ho.symm.trans hps
  · obtain rfl := Except.error.inj (he.symm.trans ho)
    exact ⟨item, hfail, ha⟩

lemma checksHold (c : Collaborators) (template : Template) (card : Card) :
    ChecksHold c template card where
  built _ h hwhy := stoppedAfter_regular (stoppedAfter_build h) hwhy
  scheduled _ _ _ _ h _ ho hwhy := concurrentBuild_regular h ho hwhy
  clocked _ _ _ _ start delay _ hb _ ho hwhy :=
    concurrentBuild_regular (buildConcurrently_schedule start delay hb) ho hwhy
  requested _ h _ hm := (mem_prepared_lanes h).mp hm

/-! ## Pictures that are edited -/

lemma image_of_tag {field : Field} (h : field.type.tag = "image") : ∃ f, field = .image f := by
  have hother (type : FieldType) (ht : type.tag = "image") : type = .image := by
    cases type with
    | image => rfl
    | _ => exact absurd ht (by decide)
  have htype := hother _ h
  cases field with
  | image f => exact ⟨f, rfl⟩
  | _ => cases htype

/-- A field that passes for a picture is one. -/
lemma imageLocation_of_checked {e : Editor} {name : String} {field : Field}
    (h : e.checkFieldName name "image" = .ok field) :
    ∃ f, field = .image f ∧ e.imageLocation name = .ok f.toBox := by
  have htag : field.type.tag = "image" := by
    unfold Editor.checkFieldName at h
    split at h
    · split at h
      · rename_i field' _ ht
        obtain rfl := Except.ok.inj h
        exact ht
      · cases h
    · cases h
  obtain ⟨f, rfl⟩ := image_of_tag htag
  refine ⟨f, rfl, ?_⟩
  rw [Editor.imageLocation, h]
  rfl

lemma imageLocation_regular (e : Editor) (name : String) :
    FailsOnly Regular (e.imageLocation name) := by
  refine .bind ?_ fun field h => ?_
  · unfold Editor.checkFieldName
    split
    · exact .ite (fun _ => .ok) fun _ => .error rfl
    · exact .error rfl
  · obtain ⟨f, rfl, -⟩ := imageLocation_of_checked h
    exact .ok

/-- No document makes an internal check fail. Templates are read without a field under another's
id, and with a row for every key-value list; no build comes to an internal error unless a loader
does, in whatever order loads end, and each load has its request; whatever is painted can be
painted for its type; and a field that passes for a picture has a place. -/
theorem internal_checks_hold :
    (∀ payload name?, FailsOnly Regular (Template.read payload name?)) ∧
    (∀ id data field, Field.read id (.object data) = .ok field → ReadFrom id data field) ∧
    (∀ c template card, ChecksHold c template card) ∧
    (∀ typeface surface ps, FailsOnly Regular (Primitive.paintAll typeface surface ps).1) ∧
    ∀ (e : Editor) name, FailsOnly Regular (e.imageLocation name) ∧
      ∀ field, e.checkFieldName name "image" = .ok field →
        ∃ f, field = .image f ∧ e.imageLocation name = .ok f.toBox :=
  ⟨template_read_regular, fun _ _ _ => readFrom_of_read, checksHold,
    fun typeface surface ps =>
      (painting_fails typeface surface ps).imp fun _ => Unpaintable.regular,
    fun e name => ⟨imageLocation_regular e name, fun _ => imageLocation_of_checked⟩⟩

/-- A gallery shows one picture. -/
def gallery : Template where
  name := "gallery"
  width := 16
  height := 8
  fields := [("photo", .image { id := "photo" })]

def galleryCard : Card where
  templateName := "gallery"
  data := [("photo", { value := .object [("url", .text "p.png")] })]

/-- A loader that fails as only an internal check does. -/
def confusedLoader : Collaborators where
  images := some fun _ => .error (.unsupportedPrimitive "dict")

lemma gallery_confused :
    (build confusedLoader gallery galleryCard).1 = .error (.unsupportedPrimitive "dict") := by
  cbv

def galleryEditor : Editor where
  card := galleryCard
  template := gallery
  compiler := { collaborators := confusedLoader, bound := 4 }

/-- The document of a price list without entries of its own. -/
def priceList : Keyed Value :=
  [("type", .text "key-val-list"), ("keyValSpec", .object [("valX", .float 40)])]

def priceRow : RowField := { id := "prices.keyValSpec", valX := .real 40 }

lemma priceList_read : Field.read "prices" (.object priceList) =
    .ok (.keyValList { id := "prices" } (.real 0) (.real 0) priceRow []) := by
  rw [Field.read]
  rfl

theorem gallery_checked :
    (¬ Regular (.unsupportedPrimitive "dict") ∧
      ∃ call ∈ (build confusedLoader gallery galleryCard).2,
        confusedLoader.answer call = .error (.unsupportedPrimitive "dict")) ∧
    Field.readRowSpec "prices" priceList = .ok priceRow ∧
    ∃ f, Field.image { id := "photo" } = .image f ∧
      galleryEditor.imageLocation "photo" = .ok f.toBox := by
  obtain ⟨-, hread, hbuilds, -, hplaces⟩ := internal_checks_hold
  have hinternal : ¬ Regular (.unsupportedPrimitive "dict") := nofun
  refine ⟨⟨hinternal, ?_⟩, ?_, ?_⟩
  · exact (hbuilds confusedLoader gallery galleryCard).built _ gallery_confused hinternal
  · exact (hread "prices" priceList _ priceList_read).row _ _ _ _ _ rfl
  · exact (hplaces galleryEditor "photo").2 _ rfl

end CardDrawing.Proofs
