import CardDrawing.Proofs.FieldExpansion

/-!
# The colors of fields

Which colors a field declares, and that its primitives show just these, one after another, each
as it comes out of the palettes.
-/

namespace CardDrawing.Proofs

variable {palettes : Palettes} {p : Primitive} {ps : List Primitive}

/-- The color of a block, a line or a text. -/
def color? : Primitive → Option Value
  | .color p => some p.color
  | .line p => some p.color
  | .text p => some p.color
  | _ => none

/-- The colors of a list of primitives, in the order in which they are drawn. -/
def colorsOf (ps : List Primitive) : List Value := ps.filterMap color?

/-- The color that comes with the data of a color block. -/
def blockColor : Value → Option String
  | .object entries => (Value.getD entries "color").shown?
  | _ => none

/-- The colors of an additional element of a key-value list. -/
def extraColors : Field → List (Option String)
  | .line f => [f.color]
  | _ => []

/-- The colors that a field with an effective value declares, in the order in which they are
drawn: those of rows are declared once and drawn for every entry. -/
def declaredColors (value : Value) : Field → List (Option String)
  | .color _ => [blockColor value]
  | .line f => [f.color]
  | .text f => [f.style.color]
  | .keyValText f => [f.style.color, f.style.color]
  | .keyValList _ _ _ row extras =>
    (entriesOf value).flatMap fun _ =>
      row.style.color :: row.style.color :: extras.flatMap extraColors
  | .image f => f.credit.toList.map (·.style.color)
  | .multiImage .. | .svg _ | .colorScheme _ => []

/-- The primitives show what the declared colors come to, one after another. -/
def Colored (palettes : Palettes) (declared : List (Option String)) (ps : List Primitive) : Prop :=
  List.Forall₂ (fun raw color => resolveFieldColor palettes raw = .ok color) declared (colorsOf ps)

lemma colored_nil : Colored palettes [] [] := .nil

lemma colored_single {raw : Option String} {color : Value}
    (h : resolveFieldColor palettes raw = .ok color) (hp : color? p = some color) :
    Colored palettes [raw] [p] := by
  rw [Colored, colorsOf, List.filterMap_cons_some hp]
  exact .cons h .nil

lemma colored_none (hp : color? p = none) : Colored palettes [] [p] := by
  rw [Colored, colorsOf, List.filterMap_cons_none hp]
  exact .nil

lemma Colored.append {declared declared' : List (Option String)} {ps' : List Primitive}
    (h : Colored palettes declared ps) (h' : Colored palettes declared' ps') :
    Colored palettes (declared ++ declared') (ps ++ ps') := by
  rw [Colored, colorsOf, List.filterMap_append]
  exact List.rel_append h h'

lemma colored_mapM {α : Type} {f : α → Except Error Primitive} {declared : α → List (Option String)}
    {l : List α} (hf : ∀ a p, f a = .ok p → Colored palettes (declared a) [p])
    (h : l.mapM f = .ok ps) : Colored palettes (l.flatMap declared) ps := by
  have hall := mapM_eq_ok.mp h
  clear h
  induction hall with
  | nil => exact colored_nil
  | cons hp _ ih =>
    rw [List.flatMap_cons]
    exact (hf _ _ hp).append ih

/-! ## Single primitives -/

lemma colored_buildText {x y : Number} {style : TextStyle} {entry : Value}
    (h : buildText palettes x y style entry = .ok p) : Colored palettes [style.color] [p] := by
  obtain ⟨text, -, color, hcolor, rfl⟩ := buildText_eq_ok.mp h
  exact colored_single hcolor rfl

lemma colored_buildLine {field : LineField} (h : buildLine palettes field = .ok p) :
    Colored palettes [field.color] [p] := by
  obtain ⟨color, hcolor, rfl⟩ := buildLine_eq_ok.mp h
  exact colored_single hcolor rfl

lemma colored_buildImage {spec : ImageField} {data : Keyed Value}
    (h : buildImage spec data = .ok p) : Colored palettes [] [p] := by
  obtain ⟨url, -, panX, -, panY, -, zoomLevel, -, rotate, -, rfl⟩ := buildImage_eq_ok.mp h
  exact colored_none rfl

lemma colored_expandExtra {dy : Number} {field : Field}
    (h : expandExtra palettes dy field = .ok p) : Colored palettes (extraColors field) [p] := by
  obtain ⟨line, moved, rfl, hmoved, hline⟩ := expandExtra_eq_ok.mp h
  obtain ⟨startY, -, endY, -, rfl⟩ := line_offsetY_eq_ok.mp hmoved
  have hcolor := colored_buildLine hline
  exact hcolor

/-! ## Composite fields -/

lemma colored_expandRow {row : RowField} {entry : Value}
    (h : expandRow palettes row entry = .ok ps) :
    Colored palettes [row.style.color, row.style.color] ps := by
  obtain ⟨data, -, key, hkey, val, hval, rfl⟩ := expandRow_eq_ok.mp h
  exact (colored_buildText hkey).append (colored_buildText hval)

lemma colored_expandListRow {y yIncr : Number} {row : RowField} {extras : List Field} {i : Nat}
    {entry : Value} (h : expandListRow palettes y yIncr row extras i entry = .ok ps) :
    Colored palettes (row.style.color :: row.style.color :: extras.flatMap extraColors) ps := by
  obtain ⟨dy, -, moved, hmoved, texts, htexts, lines, hlines, rfl⟩ := expandListRow_eq_ok.mp h
  obtain ⟨y', -, rfl⟩ := row_offsetY_eq_ok.mp hmoved
  exact (colored_expandRow htexts).append (colored_mapM (fun _ _ => colored_expandExtra) hlines)

lemma colored_expandRows {y yIncr : Number} {row : RowField} {extras : List Field} {i : Nat}
    {entries : List Value} (h : expandRows palettes y yIncr row extras i entries = .ok ps) :
    Colored palettes (entries.flatMap fun _ =>
      row.style.color :: row.style.color :: extras.flatMap extraColors) ps := by
  induction entries generalizing i ps with
  | nil =>
    cases h
    exact colored_nil
  | cons entry rest ih =>
    obtain ⟨first, hfirst, h⟩ := bind_eq_ok.mp h
    obtain ⟨others, hothers, h⟩ := bind_eq_ok.mp h
    obtain rfl := pure_eq_ok.mp h
    rw [List.flatMap_cons]
    exact (colored_expandListRow hfirst).append (ih hothers)

lemma colored_expandItems {id : String} {specs : List (List ImageField)} {items : List Value}
    (h : expandItems id specs items = .ok ps) : Colored palettes [] ps := by
  rcases expandItems_eq_ok.mp h with ⟨-, rfl⟩ | ⟨-, row, -, h⟩
  · exact colored_nil
  · have hall : Colored palettes ((row.zip items).flatMap fun _ => []) ps := by
      refine colored_mapM (fun item p hp => ?_) h
      obtain ⟨data, -, hp⟩ := bind_eq_ok.mp hp
      exact colored_buildImage hp
    rwa [List.flatMap_eq_nil_iff.mpr fun _ _ => rfl] at hall

lemma colored_expandImage {field : ImageField} {value : Value}
    (h : expandImage palettes field value = .ok ps) :
    Colored palettes (field.credit.toList.map (·.style.color)) ps := by
  obtain ⟨data, -, credits, hcredits, image, himage, rfl⟩ := expandImage_eq_ok.mp h
  have hcolors := colored_mapM (fun _ _ => colored_buildText) hcredits
  rw [← List.map_eq_flatMap] at hcolors
  simpa using hcolors.append (colored_buildImage himage)

lemma colored_expandSvg {field : BoxField} {value : Value} (h : expandSvg field value = .ok ps) :
    Colored palettes [] ps := by
  obtain ⟨data, -, rfl⟩ := expandSvg_eq_ok.mp h
  exact colored_none rfl

/-- A field shows the colors that it declares, whichever type it has. -/
theorem colored_expandField {field : Field} {value : Value}
    (h : expandField palettes field value = .ok ps) :
    Colored palettes (declaredColors value field) ps := by
  cases field with
  | color f =>
    obtain ⟨data, hdata, h⟩ := bind_eq_ok.mp h
    obtain ⟨color, hcolor, h⟩ := bind_eq_ok.mp h
    obtain rfl := pure_eq_ok.mp h
    obtain rfl := requireObject_eq_ok.mp hdata
    exact colored_single hcolor rfl
  | line f =>
    obtain ⟨line, hline, h⟩ := bind_eq_ok.mp h
    obtain rfl := pure_eq_ok.mp h
    exact colored_buildLine hline
  | text f =>
    obtain ⟨text, htext, h⟩ := bind_eq_ok.mp h
    obtain rfl := pure_eq_ok.mp h
    exact colored_buildText htext
  | keyValText f => exact colored_expandRow h
  | keyValList identity y yIncr row extras =>
    obtain ⟨entries, hentries, h⟩ := bind_eq_ok.mp h
    obtain rfl := optionalList_eq_ok hentries
    exact colored_expandRows h
  | image f => exact colored_expandImage h
  | multiImage identity specs =>
    obtain ⟨items, -, h⟩ := bind_eq_ok.mp h
    exact colored_expandItems h
  | svg f => exact colored_expandSvg h
  | colorScheme identity => cases h

end CardDrawing.Proofs
