import CardDrawing.Proofs.FieldExpansion

/-!
# The layout of key-value lists

A key-value list is drawn row by row, two texts and the additional lines for every entry. Each row
stands at its own distance from the place of the row that is repeated, whatever the rows before it
hold.
-/

namespace CardDrawing.Proofs

variable {palettes : Palettes} {y yIncr dy : Number} {row : RowField} {extras : List Field}
  {entry : Value} {entries : List Value} {p : Primitive} {ps : List Primitive} {i j : Nat}

/-! ## Steps in row order -/

/-- The texts of row `i`. -/
def textStep (palettes : Palettes) (y yIncr : Number) (row : RowField) (i : Nat) (entry : Value) :
    Except Error (List Primitive) := do
  let dy ← rowOffset y yIncr i
  expandRow palettes (← row.offsetY dy) entry

/-- An additional element of row `i`. -/
def extraStep (palettes : Palettes) (y yIncr : Number) (i : Nat) (extra : Field) :
    Except Error (List Primitive) := do
  let dy ← rowOffset y yIncr i
  return [← expandExtra palettes dy extra]

def rowSteps (palettes : Palettes) (y yIncr : Number) (row : RowField) (extras : List Field)
    (i : Nat) (entry : Value) : List (Except Error (List Primitive)) :=
  textStep palettes y yIncr row i entry :: extras.map (extraStep palettes y yIncr i)

/-- The steps of a list: for every entry its texts, and then its additional elements. -/
def listSteps (palettes : Palettes) (y yIncr : Number) (row : RowField) (extras : List Field)
    (entries : List Value) : List (Except Error (List Primitive)) :=
  entries.zipIdx.flatMap fun (entry, i) => rowSteps palettes y yIncr row extras i entry

/-- What comes of steps that are taken one after another. -/
def taken (steps : List (Except Error (List Primitive))) : Except Error (List Primitive) :=
  List.flatten <$> steps.mapM id

/-- The error is that of the first step that fails. -/
def FirstFailure (steps : List (Except Error (List Primitive))) (why : Error) : Prop :=
  ∃ before after, steps = before ++ .error why :: after ∧ ∀ step ∈ before, ∃ ps, step = .ok ps

lemma taken_eq_error {steps : List (Except Error (List Primitive))} {why : Error} :
    taken steps = .error why ↔ FirstFailure steps why := by
  rw [taken, map_eq_error, mapM_eq_error]
  constructor
  · rintro ⟨before, step, after, hsteps, hbefore, rfl⟩
    exact ⟨before, after, hsteps, hbefore⟩
  · rintro ⟨before, after, hsteps, hbefore⟩
    exact ⟨before, _, after, hsteps, hbefore, rfl⟩

lemma taken_cons (step : Except Error (List Primitive))
    (steps : List (Except Error (List Primitive))) :
    taken (step :: steps) = do return (← step) ++ (← taken steps) := by
  simp [taken]

lemma taken_append (steps steps' : List (Except Error (List Primitive))) :
    taken (steps ++ steps') = do return (← taken steps) ++ (← taken steps') := by
  simp [taken]

lemma taken_extraStep (hdy : rowOffset y yIncr i = .ok dy) (extras : List Field) :
    taken (extras.map (extraStep palettes y yIncr i)) = extras.mapM (expandExtra palettes dy) := by
  induction extras with
  | nil => rfl
  | cons extra rest ih =>
    have hstep : extraStep palettes y yIncr i extra = ([·]) <$> expandExtra palettes dy extra := by
      rw [extraStep, hdy]
      rfl
    rw [List.map_cons, taken_cons, ih, hstep, List.mapM_cons]
    simp

lemma taken_rowSteps (palettes : Palettes) (y yIncr : Number) (row : RowField)
    (extras : List Field) (i : Nat) (entry : Value) :
    taken (rowSteps palettes y yIncr row extras i entry) =
      expandListRow palettes y yIncr row extras i entry := by
  rw [rowSteps, taken_cons, textStep, expandListRow]
  cases hdy : rowOffset y yIncr i with
  | error why => rfl
  | ok dy =>
    rw [taken_extraStep hdy, bind_assoc]
    exact bind_assoc (row.offsetY dy) _ _

lemma taken_listSteps (palettes : Palettes) (y yIncr : Number) (row : RowField)
    (extras : List Field) (entries : List Value) :
    taken (listSteps palettes y yIncr row extras entries) =
      expandRows palettes y yIncr row extras 0 entries := by
  rw [expandRows_eq, listSteps]
  generalize entries.zipIdx = numbered
  induction numbered with
  | nil => rfl
  | cons first rest ih =>
    rw [List.flatMap_cons, taken_append, taken_rowSteps, ih, List.mapM_cons]
    simp

/-! ## Places -/

lemma length_flatten_of_length {α : Type} {parts : List (List α)} {m : Nat}
    (h : ∀ part ∈ parts, part.length = m) : parts.flatten.length = parts.length * m := by
  have hlengths : parts.map List.length = List.replicate parts.length m :=
    List.map_eq_replicate_iff.mpr h
  rw [List.length_flatten, hlengths, List.sum_replicate_nat]

/-- Parts of one length stand at multiples of it. -/
lemma getElem?_flatten_of_length {α : Type} {parts : List (List α)} {part : List α} {m i j : Nat}
    (h : ∀ part ∈ parts, part.length = m) (hi : parts[i]? = some part) (hj : j < m) :
    parts.flatten[i * m + j]? = part[j]? := by
  induction parts generalizing i with
  | nil => cases hi
  | cons first rest ih =>
    obtain ⟨hfirst, hrest⟩ := List.forall_mem_cons.mp h
    rw [List.flatten_cons]
    cases i with
    | zero =>
      obtain rfl := Option.some.inj hi
      rw [Nat.zero_mul, Nat.zero_add, List.getElem?_append_left (by omega)]
    | succ i =>
      have hplace : (i + 1) * m + j = first.length + (i * m + j) := by
        rw [hfirst, Nat.succ_mul]
        omega
      rw [hplace, List.getElem?_append_right (Nat.le_add_right _ _), Nat.add_sub_cancel_left]
      exact ih hrest hi

/-- The distance of row `i` from the place of the row that is repeated. -/
def IsOffset (y yIncr : Number) (i : Nat) (dy : Number) : Prop :=
  ∃ distance, Number.mul (.int i) yIncr = .ok distance ∧ distance.add y = .ok dy

/-- The text of an entry at a place, in a style and the color that the style comes to. -/
def IsText (palettes : Palettes) (style : TextStyle) (x y : Number) (entry : Value)
    (p : Primitive) : Prop :=
  ∃ text color, textOf entry = .ok text ∧ resolveFieldColor palettes style.color = .ok color ∧
    p = .text {
      x, y, text, color
      font := style.font
      fontFamily := style.fontFamily
      fontSize := style.fontSize
      leading := style.leading
      wrapAt := style.wrapAt
      align := style.align }

lemma rowOffset_eq_ok : rowOffset y yIncr i = .ok dy ↔ IsOffset y yIncr i dy :=
  bind_eq_ok

lemma isText_iff {x : Number} {style : TextStyle} :
    buildText palettes x y style entry = .ok p ↔ IsText palettes style x y entry p := by
  rw [buildText_eq_ok]
  constructor
  · rintro ⟨text, htext, color, hcolor, rfl⟩
    exact ⟨text, color, htext, hcolor, rfl⟩
  · rintro ⟨text, color, htext, hcolor, rfl⟩
    exact ⟨text, htext, color, hcolor, rfl⟩

/-- The primitives of a list with at least one entry, by their places: only lines are added to the
rows, and every row has its two texts and then its lines, each line in one color in all rows. -/
structure ListLayout (palettes : Palettes) (y yIncr : Number) (row : RowField)
    (extras : List Field) (entries : List Value) (ps : List Primitive) : Prop where
  lines : ∀ extra ∈ extras, ∃ line, extra = .line line
  length : ps.length = entries.length * (2 + extras.length)
  texts : ∀ (i : Nat) (entry : Value), entries[i]? = some entry →
    ∃ dy rowY data key val, IsOffset y yIncr i dy ∧ row.y.add dy = .ok rowY ∧
      entry = .object data ∧
      ps[i * (2 + extras.length)]? = some key ∧
      IsText palettes row.style row.keyX rowY (Value.getD data "key") key ∧
      ps[i * (2 + extras.length) + 1]? = some val ∧
      IsText palettes row.style row.valX rowY (Value.getD data "val") val
  extras : ∀ (j : Nat) (line : LineField), extras[j]? = some (.line line) →
    ∃ color, resolveFieldColor palettes line.color = .ok color ∧
      ∀ i < entries.length, ∃ dy startY endY, IsOffset y yIncr i dy ∧
        line.startY.add dy = .ok startY ∧ line.endY.add dy = .ok endY ∧
        ps[i * (2 + extras.length) + 2 + j]? = some (.line {
          startX := line.startX
          startY
          endX := line.endX
          endY
          width := line.width
          color })

/-- One row by its places. -/
structure RowLayout (palettes : Palettes) (dy : Number) (row : RowField) (extras : List Field)
    (entry : Value) (part : List Primitive) : Prop where
  lines : ∀ extra ∈ extras, ∃ line, extra = .line line
  length : part.length = 2 + extras.length
  texts : ∃ rowY data key val, row.y.add dy = .ok rowY ∧ entry = .object data ∧
    part[0]? = some key ∧ IsText palettes row.style row.keyX rowY (Value.getD data "key") key ∧
    part[1]? = some val ∧ IsText palettes row.style row.valX rowY (Value.getD data "val") val
  extras : ∀ (j : Nat) (line : LineField), extras[j]? = some (.line line) →
    ∃ color startY endY, resolveFieldColor palettes line.color = .ok color ∧
      line.startY.add dy = .ok startY ∧ line.endY.add dy = .ok endY ∧
      part[2 + j]? = some (.line {
        startX := line.startX
        startY
        endX := line.endX
        endY
        width := line.width
        color })

lemma rowLayout_of_expanded (h : expandListRow palettes y yIncr row extras i entry = .ok ps) :
    ∃ dy, IsOffset y yIncr i dy ∧ RowLayout palettes dy row extras entry ps := by
  obtain ⟨dy, hdy, moved, hmoved, texts, htexts, lines, hlines, rfl⟩ := expandListRow_eq_ok.mp h
  obtain ⟨rowY, hrowY, rfl⟩ := row_offsetY_eq_ok.mp hmoved
  obtain ⟨data, rfl, key, hkey, val, hval, rfl⟩ := expandRow_eq_ok.mp htexts
  have hlen : lines.length = extras.length := (mapM_eq_ok.mp hlines).length_eq.symm
  refine ⟨dy, rowOffset_eq_ok.mp hdy, ?_, ?_, ?_, ?_⟩
  · intro extra hm
    obtain ⟨p, hp⟩ := ok_of_mapM hlines hm
    obtain ⟨line, moved, rfl, -, -⟩ := expandExtra_eq_ok.mp hp
    exact ⟨line, rfl⟩
  · rw [List.length_append, hlen]
    rfl
  · exact ⟨rowY, data, key, val, hrowY, rfl, rfl, isText_iff.mp hkey, rfl, isText_iff.mp hval⟩
  · intro j line hj
    have hjlen : j < lines.length := by
      rw [hlen]
      exact (List.getElem?_eq_some_iff.mp hj).1
    obtain ⟨extra, hextra, hp⟩ := (mapM_getElem? hlines).mp (List.getElem?_eq_getElem hjlen)
    obtain rfl := Option.some.inj (hj.symm.trans hextra)
    obtain ⟨line', moved, ⟨⟩, hmoved, hline⟩ := expandExtra_eq_ok.mp hp
    obtain ⟨startY, hstart, endY, hend, rfl⟩ := line_offsetY_eq_ok.mp hmoved
    obtain ⟨color, hcolor, hp⟩ := buildLine_eq_ok.mp hline
    refine ⟨color, startY, endY, hcolor, hstart, hend, ?_⟩
    have hplace : ([key, val] ++ lines)[2 + j]? = lines[j]? := by
      rw [List.getElem?_append_right (by simp)]
      simp
    rw [hplace, List.getElem?_eq_getElem hjlen, hp]

/-- The rows of an expanded list. -/
lemma rows_of_expanded (h : expandRows palettes y yIncr row extras 0 entries = .ok ps) :
    ∃ parts : List (List Primitive), ps = parts.flatten ∧ parts.length = entries.length ∧
      ∀ (i : Nat) (entry : Value), entries[i]? = some entry → ∃ part dy, parts[i]? = some part ∧
        IsOffset y yIncr i dy ∧ RowLayout palettes dy row extras entry part := by
  rw [expandRows_eq, map_eq_ok] at h
  obtain ⟨parts, hparts, rfl⟩ := h
  have hlen : parts.length = entries.length := by
    rw [← (mapM_eq_ok.mp hparts).length_eq, List.length_zipIdx]
  refine ⟨parts, rfl, hlen, fun i entry hi => ?_⟩
  have hilen : i < parts.length := by
    rw [hlen]
    exact (List.getElem?_eq_some_iff.mp hi).1
  have hpart := List.getElem?_eq_getElem hilen
  obtain ⟨⟨entry', j⟩, hnumbered, hexpanded⟩ := (mapM_getElem? hparts).mp hpart
  rw [List.getElem?_zipIdx, hi, Option.map_some] at hnumbered
  cases hnumbered
  obtain ⟨dy, hdy, hrow⟩ := rowLayout_of_expanded hexpanded
  rw [Nat.zero_add] at hdy
  exact ⟨parts[i], dy, hpart, hdy, hrow⟩

lemma listLayout_of_expanded (hne : entries ≠ [])
    (h : expandRows palettes y yIncr row extras 0 entries = .ok ps) :
    ListLayout palettes y yIncr row extras entries ps := by
  obtain ⟨parts, rfl, hlen, hrows⟩ := rows_of_expanded h
  have hfirst : entries[0]? = some (entries.head hne) := by
    rw [← List.head?_eq_getElem?, List.head?_eq_some_head]
  obtain ⟨first, dy₀, -, -, hrow₀⟩ := hrows 0 _ hfirst
  have hm : ∀ part ∈ parts, part.length = 2 + extras.length := by
    intro part hpart
    obtain ⟨i, hi⟩ := List.mem_iff_getElem?.mp hpart
    have hilen : i < entries.length := hlen ▸ (List.getElem?_eq_some_iff.mp hi).1
    obtain ⟨part', dy, hi', -, hrow⟩ := hrows i _ (List.getElem?_eq_getElem hilen)
    obtain rfl := Option.some.inj (hi.symm.trans hi')
    exact hrow.length
  refine ⟨hrow₀.lines, ?_, ?_, ?_⟩
  · rw [length_flatten_of_length hm, hlen]
  · intro i entry hi
    obtain ⟨part, dy, hpart, hdy, hrow⟩ := hrows i entry hi
    obtain ⟨rowY, data, key, val, hrowY, hdata, hkey, hkeyText, hval, hvalText⟩ := hrow.texts
    refine ⟨dy, rowY, data, key, val, hdy, hrowY, hdata, ?_, hkeyText, ?_, hvalText⟩
    · exact (getElem?_flatten_of_length hm hpart (j := 0) (by omega)).trans hkey
    · exact (getElem?_flatten_of_length hm hpart (by omega)).trans hval
  · intro j line hj
    have hjlen := (List.getElem?_eq_some_iff.mp hj).1
    obtain ⟨color, -, -, hcolor, -⟩ := hrow₀.extras j line hj
    refine ⟨color, hcolor, fun i hi => ?_⟩
    obtain ⟨part, dy, hpart, hdy, hrow⟩ := hrows i _ (List.getElem?_eq_getElem hi)
    obtain ⟨color', startY, endY, hcolor', hstart, hend, hp⟩ := hrow.extras j line hj
    obtain rfl := Except.ok.inj (hcolor.symm.trans hcolor')
    refine ⟨dy, startY, endY, hdy, hstart, hend, ?_⟩
    rw [Nat.add_assoc]
    exact (getElem?_flatten_of_length hm hpart (by omega)).trans hp

/-! ## One more entry -/

lemma expandRows_concat (palettes : Palettes) (y yIncr : Number) (row : RowField)
    (extras : List Field) (entries : List Value) (entry : Value) :
    expandRows palettes y yIncr row extras 0 (entries ++ [entry]) = do
      let ps ← expandRows palettes y yIncr row extras 0 entries
      let last ← expandListRow palettes y yIncr row extras entries.length entry
      return ps ++ last := by
  rw [expandRows_eq, expandRows_eq, List.zipIdx_append, List.mapM_append]
  simp

/-- A key-value list is laid out in rows, the last of which depends on its own entry and its number
alone; it draws nothing without entries, and otherwise fails where the first step fails. -/
theorem list_layout (palettes : Palettes) (identity : Identity) (y yIncr : Number)
    (row : RowField) (extras : List Field) :
    let expand := expandField palettes (.keyValList identity y yIncr row extras)
    (∀ entries ps, entries ≠ [] → expand (.list entries) = .ok ps →
      ListLayout palettes y yIncr row extras entries ps) ∧
    (∀ entries entry, expand (.list (entries ++ [entry])) = do
      let ps ← expand (.list entries)
      let last ← expandListRow palettes y yIncr row extras entries.length entry
      return ps ++ last) ∧
    expand .null = .ok [] ∧ expand (.list []) = .ok [] ∧
    ∀ entries why, expand (.list entries) = .error why ↔
      FirstFailure (listSteps palettes y yIncr row extras entries) why := by
  refine ⟨fun entries ps => listLayout_of_expanded, ?_, rfl, rfl, fun entries why => ?_⟩
  · exact expandRows_concat palettes y yIncr row extras
  · rw [← taken_eq_error, taken_listSteps]
    rfl

/-- A row and a rule below it, ten apart. -/
def tariffRow : RowField where
  id := "tariff.keyValSpec"
  keyX := 0
  valX := 40
  y := 3

def tariffRule : Field := .line {
  id := "tariff.additionalElements[0]"
  startX := 0, startY := 8, endX := 60, endY := 8, width := 1, color := some "black" }

def tariff : Field := .keyValList { id := "tariff" } 2 10 tariffRow [tariffRule]

def tariffEntries : List Value := [
  .object [("key", .text "Tea"), ("val", .text "2")],
  .object [("key", .text "Rye"), ("val", .object [("text", .int 3)])]]

def tariffLine (y : Number) : Primitive :=
  .line { startX := 0, startY := y, endX := 60, endY := y, width := 1, color := .text "black" }

def tariffDrawing : List Primitive := [
  .text { x := 0, y := 5, text := "Tea" }, .text { x := 40, y := 5, text := "2" }, tariffLine 10,
  .text { x := 0, y := 15, text := "Rye" }, .text { x := 40, y := 15, text := "3" }, tariffLine 20]

theorem tariff_layout :
    expandField [] tariff (.list tariffEntries) = .ok tariffDrawing ∧
    ListLayout [] 2 10 tariffRow [tariffRule] tariffEntries tariffDrawing ∧
    FirstFailure (listSteps [] 2 10 tariffRow [tariffRule] (tariffEntries ++ [.null]))
      (.noData "key-val-text" "tariff.keyValSpec") := by
  have hdrawn : expandField [] tariff (.list tariffEntries) = .ok tariffDrawing := by cbv
  have hfails : expandField [] tariff (.list (tariffEntries ++ [.null])) =
      .error (.noData "key-val-text" "tariff.keyValSpec") := by cbv
  obtain ⟨hlayout, -, -, -, hfirst⟩ := list_layout [] { id := "tariff" } 2 10 tariffRow [tariffRule]
  exact ⟨hdrawn, hlayout tariffEntries _ (by simp [tariffEntries]) hdrawn,
    (hfirst _ _).mp hfails⟩

end CardDrawing.Proofs
