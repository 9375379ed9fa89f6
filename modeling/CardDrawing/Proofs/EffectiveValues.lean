import CardDrawing.Proofs.FieldIdentity
import CardDrawing.Proofs.LaidOver

/-!
# What the effective value of a field is

Which source of a field counts, which choices a selection asks for, and what a value makes of the
choices that it is laid over, each said without the functions that compute it. A field resolves
to just what is so described.
-/

namespace CardDrawing.Proofs
open Keyed

variable {field field' : Field} {card card' : Card} {source : DataEntry}

/-! ## Sources -/

/-- What a card has in place of data of its own for a field. -/
def fallback? (card : Card) (id : String) : Option DataEntry :=
  card.defaultData.bind fun defaults => get? defaults id

/-- The source that counts for a field, the first of three that is there: the entry of the card,
even an empty one, its default entry, the value or the selection that the field declares. -/
inductive Counts (field : Field) (card : Card) : DataEntry → Prop where
  | own {entry : DataEntry} : get? card.data field.id = some entry → Counts field card entry
  | default {entry : DataEntry} : get? card.data field.id = none →
      fallback? card field.id = some entry → Counts field card entry
  | declared : get? card.data field.id = none → fallback? card field.id = none →
      field.identity.value ≠ .null ∨ field.identity.choiceIndex ≠ none →
      Counts field card ⟨field.identity.value, field.identity.choiceIndex⟩

/-- Both cards have the same source for a field in the place of the one that counts, whatever they
have in the places after it. -/
inductive SameSource (id : String) (card card' : Card) : Prop where
  | own {entry : DataEntry} : get? card.data id = some entry →
      get? card'.data id = some entry → SameSource id card card'
  | default {entry : DataEntry} : get? card.data id = none → get? card'.data id = none →
      fallback? card id = some entry → fallback? card' id = some entry →
      SameSource id card card'

lemma selectSource_eq_some : selectSource field card = some source ↔ Counts field card source := by
  constructor
  · intro h
    rw [selectSource] at h
    split at h
    · rename_i entry hown
      cases h
      exact .own hown
    · rename_i hown
      split at h
      · rename_i entry hdefault
        cases h
        exact .default hown hdefault
      · rename_i hdefault
        dsimp only at h
        split at h
        · cases h
        · rename_i hdeclared
          cases h
          refine .declared hown hdefault ?_
          rw [Bool.and_eq_true, not_and_or, isNull_eq_true] at hdeclared
          simpa using hdeclared
  · intro h
    rw [selectSource]
    cases h with
    | own hown => rw [hown]
    | default hown hdefault =>
      rw [fallback?] at hdefault
      rw [hown, hdefault]
    | declared hown hdefault hdeclared =>
      rw [fallback?] at hdefault
      rw [hown, hdefault]
      refine if_neg ?_
      rw [Bool.and_eq_true, not_and_or, isNull_eq_true]
      simpa using hdeclared

lemma selectSource_eq_none :
    selectSource field card = none ↔ ∀ source, ¬ Counts field card source := by
  simp only [Option.eq_none_iff_forall_ne_some, ← selectSource_eq_some, ne_eq]

/-! ## Selections -/

/-- The choice at an index, which is not counted from the end. -/
def IsChoice (choices : List Value) (index : Int) (choice : Value) : Prop :=
  ∃ n : Nat, index = n ∧ choices[n]? = some choice

/-- What a selection picks: one choice, or a list of as many choices as it has indices. -/
inductive Selects (choices : List Value) : ChoiceIndex → Value → Prop where
  | one {index : Int} {choice : Value} : IsChoice choices index choice →
      Selects choices (.one index) choice
  | many {indices : List Int} {items : List Value} :
      List.Forall₂ (IsChoice choices) indices items →
      Selects choices (.many indices) (.list items)

def indicesOf : ChoiceIndex → List Int
  | .one index => [index]
  | .many indices => indices

lemma choiceAt_eq_ok {choices : List Value} {n : Int} {choice : Value} :
    choiceAt choices (.int n) = .ok choice ↔ IsChoice choices n choice := by
  by_cases hn : n < 0
  · have hout : choiceAt choices (.int n) = .error (.choiceOutOfRange (.int n) choices.length) :=
      if_pos hn
    rw [hout]
    constructor
    · intro h
      cases h
    · rintro ⟨m, rfl, -⟩
      omega
  · obtain ⟨m, rfl⟩ := Int.eq_ofNat_of_zero_le (not_lt.mp hn)
    have hone : IsChoice choices m choice ↔ choices[m]? = some choice := by
      constructor
      · rintro ⟨k, hk, h⟩
        rwa [Int.ofNat_inj.mp hk]
      · intro h
        exact ⟨m, rfl, h⟩
    rw [hone]
    simp only [choiceAt, if_neg hn, Int.toNat_natCast]
    cases choices[m]? <;> simp

/-- There is a choice at an index that is neither negative nor past the last choice. -/
lemma exists_isChoice {choices : List Value} {n : Int} :
    (∃ choice, IsChoice choices n choice) ↔ ¬ (n < 0 ∨ (choices.length : Int) ≤ n) := by
  constructor
  · rintro ⟨choice, m, rfl, h⟩
    have hm := (List.getElem?_eq_some_iff.mp h).1
    omega
  · intro hn
    obtain ⟨m, rfl⟩ := Int.eq_ofNat_of_zero_le (not_lt.mp fun h => hn (.inl h))
    have hm : m < choices.length := by omega
    exact ⟨choices[m], m, rfl, List.getElem?_eq_getElem hm⟩

lemma resolveChoice_eq_ok {choices : List Value} {index : ChoiceIndex} {chosen : Value} :
    resolveChoice index.toValue (some choices) = .ok chosen ↔ Selects choices index chosen := by
  cases index with
  | one n =>
    have hone : resolveChoice (ChoiceIndex.one n).toValue (some choices) =
        choiceAt choices (.int n) := rfl
    rw [hone, choiceAt_eq_ok]
    constructor
    · exact .one
    · rintro ⟨h⟩
      exact h
  | many indices =>
    have hmany : resolveChoice (ChoiceIndex.many indices).toValue (some choices) =
        Value.list <$> (indices.map Value.int).mapM (choiceAt choices) := rfl
    rw [hmany, map_eq_ok]
    simp only [mapM_eq_ok, List.forall₂_map_left_iff, choiceAt_eq_ok]
    constructor
    · rintro ⟨items, h, rfl⟩
      exact .many h
    · rintro (_ | h)
      exact ⟨_, h, rfl⟩

lemma exists_selects {choices : List Value} {index : ChoiceIndex} :
    (∃ chosen, Selects choices index chosen) ↔
      ¬ ∃ n ∈ indicesOf index, n < 0 ∨ (choices.length : Int) ≤ n := by
  have hall : (∃ chosen, Selects choices index chosen) ↔
      ∀ n ∈ indicesOf index, ∃ choice, IsChoice choices n choice := by
    cases index with
    | one n =>
      rw [indicesOf, List.forall_mem_singleton]
      constructor
      · rintro ⟨chosen, ⟨h⟩⟩
        exact ⟨chosen, h⟩
      · rintro ⟨choice, h⟩
        exact ⟨choice, .one h⟩
    | many indices =>
      simp only [indicesOf, ← choiceAt_eq_ok]
      rw [← mapM_isOk_iff (f := fun n => choiceAt choices (.int n))]
      simp only [mapM_eq_ok, choiceAt_eq_ok]
      constructor
      · rintro ⟨_, _ | h⟩
        exact ⟨_, h⟩
      · rintro ⟨items, h⟩
        exact ⟨_, .many h⟩
  rw [hall]
  simp only [exists_isChoice, not_exists, not_and]

/-! ## Effective values -/

/-- The source has a selection, and the card has choices for the field of which it picks one or
several. -/
def Picks (field : Field) (card : Card) (source : DataEntry) (chosen : Value) : Prop :=
  ∃ index choices, source.choiceIndex = some index ∧ get? card.choices field.id = some choices ∧
    Selects choices index chosen

/-- The effective value of a field on a card: null if no source counts, the value of the source
that counts if it selects nothing, otherwise what it picks with its value laid over that. -/
inductive HasValue (field : Field) (card : Card) : Value → Prop where
  | vacant : (∀ source, ¬ Counts field card source) → HasValue field card .null
  | plain {source : DataEntry} : Counts field card source → source.choiceIndex = none →
      HasValue field card source.value
  | picked {source : DataEntry} {chosen : Value} : Counts field card source →
      Picks field card source chosen → source.value = .null → HasValue field card chosen
  | overridden {source : DataEntry} {chosen value : Value} : Counts field card source →
      Picks field card source chosen → source.value ≠ .null → LaidOver source.value chosen value →
      HasValue field card value

/-- The source that counts has a selection, but the card has no choices for the field, or an index
is negative or past the last of them. -/
def Unselectable (field : Field) (card : Card) : Prop :=
  ∃ source index, Counts field card source ∧ source.choiceIndex = some index ∧
    (get? card.choices field.id = none ∨
      ∃ choices, get? card.choices field.id = some choices ∧
        ∃ n ∈ indicesOf index, n < 0 ∨ (choices.length : Int) ≤ n)

/-- No object that counts for the field has a key twice: neither the value of the source, nor any
object among the choices. -/
structure PlainSources (field : Field) (card : Card) : Prop where
  source : ∀ source, Counts field card source → Unrepeated source.value
  choices : ∀ choices, get? card.choices field.id = some choices →
    ∀ choice ∈ choices, PlainDocument choice

lemma plain_list {items : List Value} (h : ∀ item ∈ items, PlainDocument item) :
    PlainDocument (.list items) := by
  intro entries hin
  cases hin with
  | item hm hin => exact h _ hm entries hin

lemma plain_object {entries : Keyed Value} (hd : Distinct entries)
    (h : ∀ entry ∈ entries, PlainDocument entry.2) : PlainDocument (.object entries) := by
  intro inner hin
  cases hin with
  | refl => exact hd
  | entry hm hin => exact h _ hm inner hin

lemma IsChoice.mem {choices : List Value} {n : Int} {choice : Value}
    (h : IsChoice choices n choice) : choice ∈ choices := by
  obtain ⟨m, -, hm⟩ := h
  exact List.mem_of_getElem? hm

lemma PlainSources.picked (h : PlainSources field card) {chosen : Value}
    (hp : Picks field card source chosen) : PlainDocument chosen := by
  obtain ⟨index, choices, -, hc, hs⟩ := hp
  have hplain := h.choices choices hc
  cases hs with
  | one hone => exact hplain _ hone.mem
  | many hmany =>
    refine plain_list fun item hm => ?_
    obtain ⟨n, -, hn⟩ := exists_of_forall₂ hmany.flip hm
    exact hplain item (IsChoice.mem hn)

/-! ## Sources that are read -/

lemma plain_getD {entries : Keyed Value} (h : PlainDocument (.object entries)) (key : String) :
    PlainDocument (Value.getD entries key) := by
  rcases getD_cases entries key with hnull | hget
  · rw [hnull]
    intro inner hin
    cases hin
  · exact h.inside (.of_get? hget)

lemma plain_readChoices {raw : Keyed Value} {choices : Keyed (List Value)}
    (hd : PlainDocument (.object raw)) (h : Card.readChoices raw = .ok choices) :
    ∀ entry ∈ choices, PlainDocument (.list entry.2) := by
  induction raw generalizing choices with
  | nil =>
    cases h
    simp
  | cons entry rest ih =>
    obtain ⟨id, v⟩ := entry
    cases v with
    | list items =>
      obtain ⟨others, hothers, h⟩ := bind_eq_ok.mp h
      obtain rfl := pure_eq_ok.mp h
      have hitems : PlainDocument (.list items) := hd.inside (.entry List.mem_cons_self .refl)
      exact List.forall_mem_cons.mpr ⟨hitems, ih hd.tail hothers⟩
    | _ => cases h

lemma unrepeated_readDefaults {raw : Value} {defaults : Option (Keyed DataEntry)}
    (hd : PlainDocument raw) (h : Card.readDefaults raw = .ok defaults) :
    ∀ entries, defaults = some entries → ∀ entry ∈ entries, Unrepeated entry.2.value := by
  rintro entries rfl
  cases raw with
  | object raw =>
    obtain ⟨raw', hraw, h⟩ := bind_eq_ok.mp h
    obtain ⟨entries', hentries, h⟩ := bind_eq_ok.mp h
    obtain rfl := Option.some.inj (pure_eq_ok.mp h)
    obtain rfl := Value.object.inj (expectObject_eq_ok.mp hraw)
    exact unrepeated_readEntries hd hentries
  | _ => cases h

/-- What is read from documents without repeated keys has sources without repeated keys. -/
theorem plainSources_of_read {id : String} {raw payload : Value} (hr : PlainDocument raw)
    (hp : PlainDocument payload) (hfield : Field.read id raw = .ok field)
    (hcard : Card.read payload = .ok card) : PlainSources field card := by
  cases payload with
  | object entries =>
    obtain ⟨dataPart, hdataPart, h⟩ := bind_eq_ok.mp hcard
    obtain ⟨choicesPart, hchoicesPart, h⟩ := bind_eq_ok.mp h
    obtain ⟨choices, hchoices, h⟩ := bind_eq_ok.mp h
    obtain ⟨defaults, hdefaults, h⟩ := bind_eq_ok.mp h
    obtain ⟨data, hdata, h⟩ := bind_eq_ok.mp h
    obtain rfl := pure_eq_ok.mp h
    constructor
    · intro source hc
      cases hc with
      | own hown =>
        exact unrepeated_readEntries (plain_partOf hp hdataPart) hdata _ (mem_of_get? hown)
      | default _ hdefault =>
        obtain ⟨entries', hentries, hget⟩ := Option.bind_eq_some_iff.mp hdefault
        exact unrepeated_readDefaults (plain_getD hp _) hdefaults _ hentries _ (mem_of_get? hget)
      | declared _ _ _ =>
        cases raw with
        | object attributes =>
          obtain ⟨index, -, h⟩ := bind_eq_ok.mp (readFrom_of_read hfield).identity
          rw [← pure_eq_ok.mp h]
          exact (plain_getD hr "value").unrepeated
        | _ =>
          rw [Field.read.eq_def] at hfield
          cases hfield
    · intro own hown choice hm
      have hlist := plain_readChoices (plain_partOf hp hchoicesPart) hchoices _ (mem_of_get? hown)
      exact hlist.inside (.item hm .refl)
  | _ => cases hcard

/-! ## Resolution -/

lemma resolveValue_of_vacant (h : ∀ source, ¬ Counts field card source) :
    resolveValue field card = .ok .null := by
  rw [resolveValue, selectSource_eq_none.mpr h]

lemma resolveValue_of_counts (h : Counts field card source) :
    resolveValue field card = source.resolve field.id (get? card.choices field.id) := by
  rw [resolveValue, selectSource_eq_some.mpr h]

lemma resolve_of_plain {id : String} {choices? : Option (List Value)}
    (h : source.choiceIndex = none) : source.resolve id choices? = .ok source.value := by
  rw [DataEntry.resolve, h]

lemma resolve_eq_ok_of_selection {id : String} {choices? : Option (List Value)}
    {index : ChoiceIndex} {value : Value} (h : source.choiceIndex = some index) :
    source.resolve id choices? = .ok value ↔ ∃ choices chosen, choices? = some choices ∧
      Selects choices index chosen ∧ (source.value = .null ∧ chosen = value ∨
        source.value ≠ .null ∧ mergeOverride chosen source.value = value) := by
  cases choices? with
  | none =>
    rw [DataEntry.resolve, h]
    simp [resolveChoice]
  | some choices =>
    have hsome (P : List Value → Value → Prop) : (∃ choices' chosen,
        some choices = some choices' ∧ P choices' chosen) ↔ ∃ chosen, P choices chosen := by
      simp
    simp only [hsome, ← resolveChoice_eq_ok]
    rw [DataEntry.resolve, h]
    cases hr : resolveChoice index.toValue (some choices) with
    | error why => simp [hr]
    | ok chosen => cases source.value <;> simp [hr]

lemma exists_resolve_error {id : String} {choices? : Option (List Value)} {index : ChoiceIndex}
    (h : source.choiceIndex = some index) :
    (∃ why, source.resolve id choices? = .error why) ↔ choices? = none ∨
      ∃ choices, choices? = some choices ∧
        ∃ n ∈ indicesOf index, n < 0 ∨ (choices.length : Int) ≤ n := by
  rw [exists_error_iff]
  cases choices? with
  | none => simp [resolve_eq_ok_of_selection h]
  | some choices =>
    -- whatever the value of the source is, it can be laid over what is picked
    have hpicks : (∃ value, source.resolve id (some choices) = .ok value) ↔
        ∃ chosen, Selects choices index chosen := by
      constructor
      · rintro ⟨value, hv⟩
        obtain ⟨choices', chosen, hc, hs, -⟩ := (resolve_eq_ok_of_selection h).mp hv
        cases hc
        exact ⟨chosen, hs⟩
      · rintro ⟨chosen, hs⟩
        by_cases hv : source.value = .null
        · exact ⟨_, (resolve_eq_ok_of_selection h).mpr ⟨_, _, rfl, hs, .inl ⟨hv, rfl⟩⟩⟩
        · exact ⟨_, (resolve_eq_ok_of_selection h).mpr ⟨_, _, rfl, hs, .inr ⟨hv, rfl⟩⟩⟩
    rw [hpicks, exists_selects, not_not]
    simp

lemma counts_unique {source' : DataEntry} (h : Counts field card source)
    (h' : Counts field card source') : source = source' :=
  Option.some.inj ((selectSource_eq_some.mpr h).symm.trans (selectSource_eq_some.mpr h'))

section

variable {value : Value}

lemma hasValue_iff_of_vacant (h : ∀ source, ¬ Counts field card source) :
    HasValue field card value ↔ .null = value := by
  constructor
  · intro hv
    cases hv with
    | vacant _ => rfl
    | plain hc _ | picked hc _ _ | overridden hc _ _ _ => exact (h _ hc).elim
  · rintro rfl
    exact .vacant h

lemma hasValue_iff_of_plain (hc : Counts field card source) (hi : source.choiceIndex = none) :
    HasValue field card value ↔ source.value = value := by
  have hpicks {chosen : Value} : ¬ Picks field card source chosen := by
    rintro ⟨index, choices, hi', -⟩
    cases hi.symm.trans hi'
  constructor
  · intro hv
    cases hv with
    | vacant h => exact (h source hc).elim
    | plain hc' _ => rw [counts_unique hc hc']
    | picked hc' hp _ | overridden hc' hp _ _ =>
      exact (hpicks (counts_unique hc hc' ▸ hp)).elim
  · rintro rfl
    exact .plain hc hi

lemma hasValue_iff_of_selection {index : ChoiceIndex} (hc : Counts field card source)
    (hi : source.choiceIndex = some index) :
    HasValue field card value ↔ ∃ chosen, Picks field card source chosen ∧
      (source.value = .null ∧ chosen = value ∨
        source.value ≠ .null ∧ LaidOver source.value chosen value) := by
  constructor
  · intro hv
    cases hv with
    | vacant h => exact (h source hc).elim
    | plain hc' hi' =>
      rw [← counts_unique hc hc', hi] at hi'
      cases hi'
    | picked hc' hp hv =>
      obtain rfl := counts_unique hc hc'
      exact ⟨value, hp, .inl ⟨hv, rfl⟩⟩
    | overridden hc' hp hv hlaid =>
      obtain rfl := counts_unique hc hc'
      exact ⟨_, hp, .inr ⟨hv, hlaid⟩⟩
  · rintro ⟨chosen, hp, ⟨hv, rfl⟩ | ⟨hv, hlaid⟩⟩
    · exact .picked hc hp hv
    · exact .overridden hc hp hv hlaid

lemma resolveValue_eq_ok (hp : PlainSources field card) :
    resolveValue field card = .ok value ↔ HasValue field card value := by
  by_cases hc : ∃ source, Counts field card source
  · obtain ⟨source, hc⟩ := hc
    rw [resolveValue_of_counts hc]
    cases hi : source.choiceIndex with
    | none => rw [resolve_of_plain hi, hasValue_iff_of_plain hc hi, Except.ok.injEq]
    | some index =>
      rw [resolve_eq_ok_of_selection hi, hasValue_iff_of_selection hc hi]
      constructor
      · rintro ⟨choices, chosen, hchoices, hs, hv⟩
        have hpicks : Picks field card source chosen := ⟨index, choices, hi, hchoices, hs⟩
        rw [← laidOver_iff (hp.source source hc) (hp.picked hpicks)] at hv
        exact ⟨chosen, hpicks, hv⟩
      · rintro ⟨chosen, hpicks, hv⟩
        rw [laidOver_iff (hp.source source hc) (hp.picked hpicks)] at hv
        obtain ⟨index', choices, hi', hchoices, hs⟩ := hpicks
        obtain rfl := Option.some.inj (hi.symm.trans hi')
        exact ⟨choices, chosen, hchoices, hs, hv⟩
  · have hnone : ∀ source, ¬ Counts field card source := not_exists.mp hc
    rw [resolveValue_of_vacant hnone, hasValue_iff_of_vacant hnone, Except.ok.injEq]

end

lemma exists_resolveValue_error :
    (∃ why, resolveValue field card = .error why) ↔ Unselectable field card := by
  constructor
  · rintro ⟨why, h⟩
    by_cases hc : ∃ source, Counts field card source
    · obtain ⟨source, hc⟩ := hc
      rw [resolveValue_of_counts hc] at h
      cases hi : source.choiceIndex with
      | none =>
        rw [resolve_of_plain hi] at h
        cases h
      | some index => exact ⟨source, index, hc, hi, (exists_resolve_error hi).mp ⟨why, h⟩⟩
    · rw [resolveValue_of_vacant (not_exists.mp hc)] at h
      cases h
  · rintro ⟨source, index, hc, hi, h⟩
    rw [resolveValue_of_counts hc]
    exact (exists_resolve_error hi).mpr h

lemma selectSource_congr (hid : field'.id = field.id) (h : SameSource field.id card card') :
    selectSource field' card' = selectSource field card := by
  cases h with
  | own h h' =>
    rw [selectSource_eq_some.mpr (.own h), selectSource_eq_some.mpr (.own (hid ▸ h'))]
  | default h h' hd hd' =>
    rw [selectSource_eq_some.mpr (.default h hd),
      selectSource_eq_some.mpr (.default (hid ▸ h') (hid ▸ hd'))]

/-- The first source that is there decides alone what a field comes to. A field fails to resolve
just when that source selects what the card does not have, which is reported as a failed lookup;
otherwise it comes to the value that is described, and to no other. -/
theorem effective_values (field : Field) (card : Card) :
    (PlainSources field card →
      ∀ value, resolveValue field card = .ok value ↔ HasValue field card value) ∧
    ((∃ why, resolveValue field card = .error why) ↔ Unselectable field card) ∧
    (∀ why, resolveValue field card = .error why → why.kind = .choiceLookup) ∧
    ∀ field' card', field'.id = field.id →
      get? card'.choices field.id = get? card.choices field.id →
      SameSource field.id card card' → resolveValue field' card' = resolveValue field card := by
  refine ⟨fun hp value => resolveValue_eq_ok hp, exists_resolveValue_error,
    fun why hwhy => (resolveValue_fails field card why hwhy).kind, ?_⟩
  intro field' card' hid hchoices hsame
  rw [resolveValue, resolveValue, selectSource_congr hid hsame, hid, hchoices]

/-- A field with a motto of its own, on a card that picks from its choices. -/
def motto : Field := .text { id := "motto", value := .text "Slowly." }

def mottoCard (entry : DataEntry) (defaults : Option (Keyed DataEntry)) : Card where
  templateName := "abbey"
  data := [("motto", entry)]
  choices := [("motto", [
    .object [("text", .text "Fen"), ("size", .int 6)],
    .list [.null, .object [("text", .text "Moor")]]])]
  defaultData := defaults

def mottoEntry (indices : List Int) : DataEntry where
  value := .object [("size", .int 8)]
  choiceIndex := some (.many indices)

/-- Two picks of a list, one of an object, with a size laid over all of them. -/
def mottoValue : Value :=
  .list [
    .list [.object [("size", .int 8)], .object [("text", .text "Moor"), ("size", .int 8)]],
    .object [("text", .text "Fen"), ("size", .int 8)],
    .list [.object [("size", .int 8)], .object [("text", .text "Moor"), ("size", .int 8)]]]

lemma motto_plain : PlainSources motto (mottoCard (mottoEntry [1, 0, 1]) none) where
  source := by
    intro source h
    cases selectSource_eq_some.mpr h
    exact unrepeated_object (by decide)
  choices := by
    rintro choices ⟨⟩ choice hm
    have hnull : PlainDocument .null := fun _ hin => by cases hin
    have htext (s : String) : PlainDocument (.text s) := fun _ hin => by cases hin
    have hint (n : Int) : PlainDocument (.int n) := fun _ hin => by cases hin
    have hfen : PlainDocument (.object [("text", .text "Fen"), ("size", .int 6)]) :=
      plain_object (by decide)
        (List.forall_mem_cons.mpr ⟨htext _, List.forall_mem_singleton.mpr (hint _)⟩)
    have hmoor : PlainDocument (.object [("text", .text "Moor")]) :=
      plain_object (by decide) (List.forall_mem_singleton.mpr (htext _))
    have hlist := plain_list (List.forall_mem_cons.mpr ⟨hnull, List.forall_mem_singleton.mpr hmoor⟩)
    rcases List.mem_cons.mp hm with rfl | hm
    · exact hfen
    · obtain rfl := List.mem_singleton.mp hm
      exact hlist

theorem motto_resolved :
    HasValue motto (mottoCard (mottoEntry [1, 0, 1]) none) mottoValue ∧
    Unselectable motto (mottoCard (mottoEntry [1, -1]) none) ∧
    resolveValue (.text { id := "motto" })
        (mottoCard (mottoEntry [1, 0, 1]) (some [("motto", { value := .text "Fast." })])) =
      .ok mottoValue := by
  have hvalue : resolveValue motto (mottoCard (mottoEntry [1, 0, 1]) none) = .ok mottoValue := rfl
  obtain ⟨hdescribed, -, -, hsame⟩ :=
    effective_values motto (mottoCard (mottoEntry [1, 0, 1]) none)
  refine ⟨(hdescribed motto_plain _).mp hvalue, ?_, ?_⟩
  · exact (effective_values motto (mottoCard (mottoEntry [1, -1]) none)).2.1.mp ⟨_, rfl⟩
  · exact (hsame _ _ rfl rfl (.own rfl rfl)).trans hvalue

end CardDrawing.Proofs
