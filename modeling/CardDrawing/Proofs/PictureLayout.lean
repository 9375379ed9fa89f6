import CardDrawing.Proofs.BuildFailures

/-!
# The layout of picture groups

A group of pictures has a row of places for every number of pictures. The row for as many pictures
as there are is taken, and each picture goes to its place.
-/

namespace CardDrawing.Proofs

variable {palettes : Palettes} {identity : Identity} {id : String} {spec : ImageField}
  {specs specs' : List (List ImageField)} {places : List ImageField} {item : Value}
  {items : List Value} {data : Keyed Value} {p : Primitive} {ps : List Primitive}

/-! ## Single pictures -/

/-- The data of a picture, which has none if it is null. -/
def itemData : Value → Keyed Value
  | .object data => data
  | _ => []

/-- The value is none, or converts to a number. -/
def Converts (v : Value) : Prop :=
  v = .null ∨ ∃ x, v.toFloat = .ok x

/-- The optional number that a value converts to, with null as none. -/
def ConvertsTo (v : Value) (n? : Option Number) : Prop :=
  v = .null ∧ n? = none ∨ v ≠ .null ∧ ∃ x, v.toFloat = .ok x ∧ n? = some (.real x)

/-- Data that a picture can be built from: an object, if there is any, with a text for its url and
numbers for its transformation, as far as these are given. -/
inductive Fits : Value → Prop where
  | nothing : Fits .null
  | object {data : Keyed Value} :
      (Value.getD data "url" = .null ∨ ∃ url, Value.getD data "url" = .text url) →
      (∀ key ∈ transformKeys, Converts (Value.getD data key)) → Fits (.object data)

/-- The picture of some data in a place: the id and the box are those of the place, everything else
is as the data has it, and what is requested is the picture given inline or the url. -/
structure Pictured (spec : ImageField) (data : Keyed Value) (p : ImagePrimitive) : Prop where
  id : p.id = spec.id
  toBox : p.toBox = spec.toBox
  url : textOrNull p.url = Value.getD data "url"
  request : p.request = some { kind := .image, url := p.url, inline := Value.getD data "image" }
  panX : ConvertsTo (Value.getD data "panX") p.panX
  panY : ConvertsTo (Value.getD data "panY") p.panY
  zoomLevel : ConvertsTo (Value.getD data "zoomLevel") p.zoomLevel
  rotate : ConvertsTo (Value.getD data "rotate") p.rotate
  flipVert : p.flipVert = (Value.getD data "flipVert").toOption.map Value.holds
  flipHoriz : p.flipHoriz = (Value.getD data "flipHoriz").toOption.map Value.holds
  resource : p.resource = .value .null

lemma optionalFlag_eq (v : Value) : optionalFlag v = v.toOption.map Value.holds := by
  cases v <;> rfl

lemma imageUrl_eq_ok {v : Value} {url : Option String} :
    imageUrl id v = .ok url ↔ textOrNull url = v := by
  cases v <;> cases url <;> simp [imageUrl, textOrNull, eq_comm]

lemma number?_eq_ok {key : String} {n? : Option Number} :
    Field.number? data key = .ok n? ↔ ConvertsTo (Value.getD data key) n? := by
  rw [Field.number?]
  generalize Value.getD data key = v
  by_cases hv : v = .null
  · subst hv
    simp [ConvertsTo, Value.toFloat?, Except.map, eq_comm]
  · have hmap : v.toFloat? = v.toFloat.map some := by
      cases v with
      | null => exact (hv rfl).elim
      | _ => rfl
    rw [hmap, ConvertsTo]
    cases v.toFloat <;> simp [hv, Except.map, eq_comm]

lemma number?_isOk {key : String} :
    (∃ n?, Field.number? data key = .ok n?) ↔ Converts (Value.getD data key) := by
  simp only [number?_eq_ok]
  constructor
  · rintro ⟨n?, ⟨hv, -⟩ | ⟨-, x, hx, -⟩⟩
    · exact .inl hv
    · exact .inr ⟨x, hx⟩
  · intro h
    by_cases hv : Value.getD data key = .null
    · exact ⟨none, .inl ⟨hv, rfl⟩⟩
    · obtain ⟨x, hx⟩ := h.resolve_left hv
      exact ⟨some (.real x), .inr ⟨hv, x, hx, rfl⟩⟩

lemma pictured_of_built (h : buildImage spec data = .ok p) :
    ∃ picture, p = .image picture ∧ Pictured spec data picture := by
  obtain ⟨url, hurl, panX, hpanX, panY, hpanY, zoomLevel, hzoom, rotate, hrotate, rfl⟩ :=
    buildImage_eq_ok.mp h
  refine ⟨_, rfl, ?_⟩
  exact {
    id := rfl
    toBox := rfl
    url := imageUrl_eq_ok.mp hurl
    request := rfl
    panX := number?_eq_ok.mp hpanX
    panY := number?_eq_ok.mp hpanY
    zoomLevel := number?_eq_ok.mp hzoom
    rotate := number?_eq_ok.mp hrotate
    flipVert := optionalFlag_eq _
    flipHoriz := optionalFlag_eq _
    resource := rfl }

lemma buildImage_isOk : (∃ p, buildImage spec data = .ok p) ↔ Fits (.object data) := by
  constructor
  · rintro ⟨p, h⟩
    obtain ⟨url, hurl, panX, hpanX, panY, hpanY, zoomLevel, hzoom, rotate, hrotate, -⟩ :=
      buildImage_eq_ok.mp h
    refine .object ?_ ?_
    · rw [← imageUrl_eq_ok.mp hurl]
      cases url with
      | none => exact .inl rfl
      | some url => exact .inr ⟨url, rfl⟩
    · simp only [transformKeys, List.forall_mem_cons, ← number?_isOk]
      exact ⟨⟨_, hpanX⟩, ⟨_, hpanY⟩, ⟨_, hzoom⟩, ⟨_, hrotate⟩, by simp⟩
  · rintro (_ | ⟨hurl, hkeys⟩)
    simp only [transformKeys, List.forall_mem_cons, ← number?_isOk] at hkeys
    obtain ⟨⟨panX, hpanX⟩, ⟨panY, hpanY⟩, ⟨zoomLevel, hzoom⟩, ⟨rotate, hrotate⟩, -⟩ := hkeys
    obtain ⟨url, hurl⟩ : ∃ url, textOrNull url = Value.getD data "url" := by
      rcases hurl with hurl | ⟨url, hurl⟩
      · exact ⟨none, hurl.symm⟩
      · exact ⟨some url, hurl.symm⟩
    exact ⟨_, buildImage_eq_ok.mpr ⟨url, imageUrl_eq_ok.mpr hurl, panX, hpanX, panY, hpanY,
      zoomLevel, hzoom, rotate, hrotate, rfl⟩⟩

/-! ## Groups -/

lemma optionalObject_eq_ok {type : FieldType} :
    optionalObject type id item = .ok data ↔
      (item = .null ∨ ∃ data, item = .object data) ∧ itemData item = data := by
  cases item <;> simp [optionalObject, itemData]

/-- The picture of an item in its place. -/
def pictureOf (id : String) (spec : ImageField) (item : Value) : Except Error Primitive := do
  buildImage spec (← optionalObject .multiImage id item)

lemma pictured_of_pictureOf (h : pictureOf id spec item = .ok p) :
    ∃ picture, p = .image picture ∧ Pictured spec (itemData item) picture := by
  obtain ⟨data, hdata, h⟩ := bind_eq_ok.mp h
  obtain ⟨-, rfl⟩ := optionalObject_eq_ok.mp hdata
  exact pictured_of_built h

lemma pictureOf_isOk : (∃ p, pictureOf id spec item = .ok p) ↔ Fits item := by
  cases item with
  | null =>
    have hempty : Fits (.object []) := .object (.inl rfl) fun key _ => .inl rfl
    exact ⟨fun _ => .nothing, fun _ => buildImage_isOk.mpr hempty⟩
  | object data => exact buildImage_isOk
  | _ =>
    constructor
    · rintro ⟨p, h⟩
      cases h
    · rintro ⟨⟩

lemma specRow_eq_ok {n : Nat} :
    specRow id specs n = .ok places ↔ specs[n - 1]? = some places ∧ places.length = n := by
  rw [specRow]
  cases specs[n - 1]? with
  | none => simp
  | some row =>
    dsimp only
    split
    · rename_i hlen
      constructor
      · rintro ⟨⟩
        exact ⟨rfl, hlen⟩
      · rintro ⟨⟨⟩, -⟩
        rfl
    · rename_i hlen
      constructor
      · rintro ⟨⟩
      · rintro ⟨⟨⟩, hlen'⟩
        exact (hlen hlen').elim

lemma expandItems_of_ne_nil (hne : items ≠ []) :
    expandItems id specs items = .ok ps ↔ ∃ places, specs[items.length - 1]? = some places ∧
      places.length = items.length ∧
      (places.zip items).mapM (fun (spec, item) => pictureOf id spec item) = .ok ps := by
  rw [expandItems_eq_ok]
  simp only [specRow_eq_ok, and_assoc]
  constructor
  · rintro (⟨rfl, -⟩ | ⟨-, h⟩)
    · exact (hne rfl).elim
    · exact h
  · intro h
    exact .inr ⟨hne, h⟩

lemma expandItems_isOk (hne : items ≠ []) :
    (∃ ps, expandItems id specs items = .ok ps) ↔ ∃ places,
      specs[items.length - 1]? = some places ∧ places.length = items.length ∧
      ∀ item ∈ items, Fits item := by
  simp only [expandItems_of_ne_nil hne]
  rw [exists_comm]
  refine exists_congr fun places => ?_
  simp only [exists_and_left]
  refine and_congr_right fun _ => and_congr_right fun hlen => ?_
  rw [mapM_isOk_iff]
  have hsnd : (places.zip items).map Prod.snd = items := List.map_snd_zip hlen.ge
  simp only [pictureOf_isOk]
  rw [← List.forall_mem_map (f := Prod.snd) (P := Fits), hsnd]

lemma pictured_of_expanded (hne : items ≠ []) (h : expandItems id specs items = .ok ps) :
    ∃ places, specs[items.length - 1]? = some places ∧ places.length = items.length ∧
      ps.length = items.length ∧
      ∀ (i : Nat) (spec : ImageField) (item : Value), places[i]? = some spec →
        items[i]? = some item →
          ∃ picture, ps[i]? = some (.image picture) ∧ Pictured spec (itemData item) picture := by
  obtain ⟨places, hplaces, hlen, hps⟩ := (expandItems_of_ne_nil hne).mp h
  have hpslen : ps.length = items.length := by
    rw [← (mapM_eq_ok.mp hps).length_eq, List.length_zip, hlen, min_self]
  refine ⟨places, hplaces, hlen, hpslen, fun i spec item hspec hitem => ?_⟩
  have hi : i < ps.length := by
    rw [hpslen]
    exact (List.getElem?_eq_some_iff.mp hitem).1
  have hp := List.getElem?_eq_getElem hi
  obtain ⟨⟨spec', item'⟩, hzip, hbuilt⟩ := (mapM_getElem? hps).mp hp
  obtain ⟨hspec', hitem'⟩ := List.getElem?_zip_eq_some.mp hzip
  obtain rfl := Option.some.inj (hspec.symm.trans hspec')
  obtain rfl := Option.some.inj (hitem.symm.trans hitem')
  obtain ⟨picture, hpicture, hpictured⟩ := pictured_of_pictureOf hbuilt
  exact ⟨picture, by rw [hp, hpicture], hpictured⟩

/-- A group of pictures draws nothing without items. It can be drawn just if the row of places for
as many items as there are has a place for each of them, and every item fits; then each item is
drawn once, in its own place. No other row of places matters. -/
theorem pictures_layout (palettes : Palettes) (identity : Identity)
    (specs : List (List ImageField)) :
    let expand := fun specs => expandField palettes (.multiImage identity specs)
    expand specs .null = .ok [] ∧ expand specs (.list []) = .ok [] ∧
    ∀ items, items ≠ [] →
      ((∃ ps, expand specs (.list items) = .ok ps) ↔ ∃ places,
        specs[items.length - 1]? = some places ∧ places.length = items.length ∧
        ∀ item ∈ items, Fits item) ∧
      (∀ ps, expand specs (.list items) = .ok ps → ∃ places,
        specs[items.length - 1]? = some places ∧ places.length = items.length ∧
        ps.length = items.length ∧
        ∀ (i : Nat) (spec : ImageField) (item : Value), places[i]? = some spec →
          items[i]? = some item →
            ∃ picture, ps[i]? = some (.image picture) ∧
              Pictured spec (itemData item) picture) ∧
      ∀ specs' places, specs[items.length - 1]? = some places →
        specs'[items.length - 1]? = some places →
          expand specs' (.list items) = expand specs (.list items) := by
  refine ⟨rfl, rfl, fun items hne => ⟨expandItems_isOk hne, ?_, ?_⟩⟩
  · intro ps h
    exact pictured_of_expanded hne h
  · intro specs' places hplaces hplaces'
    change expandItems identity.id specs' items = expandItems identity.id specs items
    rw [expandItems, expandItems, specRow, specRow, hplaces, hplaces']

def panel (id : String) (x : Number) : ImageField where
  id := id
  x := x
  width := 8
  height := 8

/-- Places for one picture or for two. -/
def frieze : List (List ImageField) :=
  [[panel "whole" 0], [panel "left" 0, panel "right" 8]]

def friezeData : Keyed Value := [("url", .text "p.png"), ("flipVert", .int 0)]

def friezeDrawing : List Primitive := [
  .image {
    x := 0, width := 8, height := 8, id := "left"
    request := some { kind := .image, url := none, inline := .null } },
  .image {
    x := 8, width := 8, height := 8, id := "right", flipVert := some false, url := some "p.png"
    request := some { kind := .image, url := some "p.png", inline := .null } }]

theorem frieze_layout :
    expandField [] (.multiImage { id := "frieze" } frieze) (.list [.null, .object friezeData]) =
      .ok friezeDrawing ∧
    (∃ picture, friezeDrawing[1]? = some (.image picture) ∧
      Pictured (panel "right" 8) friezeData picture) ∧
    (¬ ∃ ps, expandField [] (.multiImage { id := "frieze" } frieze)
      (.list [.null, .object friezeData, .null]) = .ok ps) ∧
    expandField [] (.multiImage { id := "frieze" } ([] :: frieze.drop 1))
      (.list [.null, .object friezeData]) = .ok friezeDrawing := by
  have hdrawn : expandField [] (.multiImage { id := "frieze" } frieze)
    (.list [.null, .object friezeData]) = .ok friezeDrawing := rfl
  obtain ⟨-, -, hitems⟩ := pictures_layout [] { id := "frieze" } frieze
  obtain ⟨-, hplaced, hother⟩ := hitems [.null, .object friezeData] (List.cons_ne_nil _ _)
  obtain ⟨hfits, -, -⟩ := hitems [.null, .object friezeData, .null] (List.cons_ne_nil _ _)
  obtain ⟨places, ⟨⟩, -, -, hpictured⟩ := hplaced friezeDrawing hdrawn
  refine ⟨hdrawn, hpictured 1 _ _ rfl rfl, ?_, (hother _ _ rfl rfl).trans hdrawn⟩
  rintro hps
  obtain ⟨places, hplaces, -⟩ := hfits.mp hps
  cases hplaces

end CardDrawing.Proofs
