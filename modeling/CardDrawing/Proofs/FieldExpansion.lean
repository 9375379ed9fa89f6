import CardDrawing.Expansion
import CardDrawing.Proofs.Outcomes

/-!
# What fields expand to

When the expansion of a field comes to primitives, and to which: one equivalence for each of its
steps, so that what follows about primitives need not open them again.
-/

namespace CardDrawing.Proofs

variable {palettes : Palettes} {p : Primitive} {ps : List Primitive}

/-! ## Data -/

lemma requireObject_eq_ok {field : Field} {value : Value} {data : Keyed Value} :
    requireObject field value = .ok data ↔ value = .object data := by
  cases value <;> simp [requireObject]

/-- The entries of a key-value list. -/
def entriesOf : Value → List Value
  | .list items => items
  | _ => []

lemma optionalList_eq_ok {type : FieldType} {id : String} {value : Value} {items : List Value}
    (h : optionalList type id value = .ok items) : items = entriesOf value := by
  cases value with
  | null | list items' =>
    cases h
    rfl
  | _ => cases h

/-! ## Single primitives -/

lemma buildText_eq_ok {x y : Number} {style : TextStyle} {entry : Value} :
    buildText palettes x y style entry = .ok p ↔ ∃ text, textOf entry = .ok text ∧
      ∃ color, resolveFieldColor palettes style.color = .ok color ∧ .text {
        x, y, text, color
        font := style.font
        fontFamily := style.fontFamily
        fontSize := style.fontSize
        leading := style.leading
        wrapAt := style.wrapAt
        align := style.align } = p := by
  simp only [buildText, bind_eq_ok, pure_eq_ok]

lemma buildLine_eq_ok {field : LineField} :
    buildLine palettes field = .ok p ↔
      ∃ color, resolveFieldColor palettes field.color = .ok color ∧ .line {
        startX := field.startX
        startY := field.startY
        endX := field.endX
        endY := field.endY
        width := field.width
        color } = p := by
  simp only [buildLine, bind_eq_ok, pure_eq_ok]

lemma buildImage_eq_ok {spec : ImageField} {data : Keyed Value} :
    buildImage spec data = .ok p ↔ ∃ url, imageUrl spec.id (Value.getD data "url") = .ok url ∧
      ∃ panX, Field.number? data "panX" = .ok panX ∧
      ∃ panY, Field.number? data "panY" = .ok panY ∧
      ∃ zoomLevel, Field.number? data "zoomLevel" = .ok zoomLevel ∧
      ∃ rotate, Field.number? data "rotate" = .ok rotate ∧ .image {
        toBox := spec.toBox
        id := spec.id
        panX, panY, zoomLevel, rotate
        flipVert := optionalFlag (Value.getD data "flipVert")
        flipHoriz := optionalFlag (Value.getD data "flipHoriz")
        url
        request := some { kind := .image, url, inline := Value.getD data "image" } } = p := by
  simp only [buildImage, bind_eq_ok, pure_eq_ok]

/-! ## Rows -/

lemma line_offsetY_eq_ok {field moved : LineField} {dy : Number} :
    field.offsetY dy = .ok moved ↔ ∃ startY, field.startY.add dy = .ok startY ∧
      ∃ endY, field.endY.add dy = .ok endY ∧ { field with startY, endY } = moved := by
  simp only [LineField.offsetY, bind_eq_ok, pure_eq_ok]

lemma row_offsetY_eq_ok {row moved : RowField} {dy : Number} :
    row.offsetY dy = .ok moved ↔ ∃ y, row.y.add dy = .ok y ∧ { row with y } = moved := by
  simp only [RowField.offsetY, bind_eq_ok, pure_eq_ok]

/-- Of the additional elements only lines expand. -/
lemma expandExtra_eq_ok {dy : Number} {field : Field} :
    expandExtra palettes dy field = .ok p ↔ ∃ line moved, field = .line line ∧
      line.offsetY dy = .ok moved ∧ buildLine palettes moved = .ok p := by
  cases field <;> simp [expandExtra, bind_eq_ok]

lemma expandRow_eq_ok {row : RowField} {entry : Value} :
    expandRow palettes row entry = .ok ps ↔ ∃ data, entry = .object data ∧
      ∃ key, buildText palettes row.keyX row.y row.style (Value.getD data "key") = .ok key ∧
      ∃ val, buildText palettes row.valX row.y row.style (Value.getD data "val") = .ok val ∧
        [key, val] = ps := by
  simp only [expandRow, bind_eq_ok, pure_eq_ok, requireObject_eq_ok]

lemma expandListRow_eq_ok {y yIncr : Number} {row : RowField} {extras : List Field} {i : Nat}
    {entry : Value} : expandListRow palettes y yIncr row extras i entry = .ok ps ↔
      ∃ dy, rowOffset y yIncr i = .ok dy ∧ ∃ moved, row.offsetY dy = .ok moved ∧
      ∃ texts, expandRow palettes moved entry = .ok texts ∧
      ∃ lines, extras.mapM (expandExtra palettes dy) = .ok lines ∧ texts ++ lines = ps := by
  simp only [expandListRow, bind_eq_ok, pure_eq_ok]

/-- The rows of a list are expanded one after another, each under its own number. -/
lemma expandRows_eq (y yIncr : Number) (row : RowField) (extras : List Field) (i : Nat)
    (entries : List Value) : expandRows palettes y yIncr row extras i entries =
      List.flatten <$> (entries.zipIdx i).mapM fun (entry, j) =>
        expandListRow palettes y yIncr row extras j entry := by
  induction entries generalizing i with
  | nil => rfl
  | cons entry rest ih => simp [expandRows, ih]

/-! ## Pictures and documents -/

lemma expandItems_eq_ok {id : String} {specs : List (List ImageField)} {items : List Value} :
    expandItems id specs items = .ok ps ↔ items = [] ∧ [] = ps ∨ items ≠ [] ∧
      ∃ row, specRow id specs items.length = .ok row ∧ (row.zip items).mapM (fun (spec, item) => do
        buildImage spec (← optionalObject .multiImage id item)) = .ok ps := by
  cases items <;> simp [expandItems, bind_eq_ok, pure_eq_ok]

lemma expandImage_eq_ok {field : ImageField} {value : Value} :
    expandImage palettes field value = .ok ps ↔
      ∃ data, optionalObject .image field.id value = .ok data ∧
      ∃ credits, field.credit.toList.mapM (fun credit =>
        buildText palettes credit.x credit.y credit.style (Value.getD data "credit")) =
          .ok credits ∧
      ∃ image, buildImage field data = .ok image ∧ credits ++ [image] = ps := by
  cases hc : field.credit <;> simp [expandImage, hc, bind_eq_ok, map_eq_ok, pure_eq_ok]

lemma expandSvg_eq_ok {field : BoxField} {value : Value} :
    expandSvg field value = .ok ps ↔ ∃ data, optionalObject .svg field.id value = .ok data ∧
      [.svg {
        toBox := field.toBox
        url := (Value.getD data "url").shown?
        request := some { kind := .svg, url := (Value.getD data "url").shown? } }] = ps := by
  simp only [expandSvg, bind_eq_ok, pure_eq_ok]

end CardDrawing.Proofs
