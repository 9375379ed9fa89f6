import CardDrawing.Proofs.FieldExpansion

/-!
# What fields ask for

Whatever a field expands to, its pictures and documents ask for their resource under their own
url, each with a request of its own kind, and nothing else asks for anything.
-/

namespace CardDrawing.Proofs

variable {palettes : Palettes} {p : Primitive} {ps : List Primitive}

/-- A picture asks for its url or for what is given inline, a document for its url. -/
def Asks : Primitive → Prop
  | .image p => ∃ inline, p.request = some { kind := .image, url := p.url, inline }
  | .svg p => p.request = some { kind := .svg, url := p.url }
  | _ => True

lemma asks_mapM {α : Type} {f : α → Except Error Primitive} {l : List α}
    (hf : ∀ a p, f a = .ok p → Asks p) (h : l.mapM f = .ok ps) : ∀ p ∈ ps, Asks p := by
  intro p hp
  obtain ⟨i, hi⟩ := List.mem_iff_getElem?.mp hp
  obtain ⟨a, -, ha⟩ := (mapM_getElem? h).mp hi
  exact hf a p ha

lemma asks_append {ps' : List Primitive} (h : ∀ p ∈ ps, Asks p) (h' : ∀ p ∈ ps', Asks p) :
    ∀ p ∈ ps ++ ps', Asks p :=
  List.forall_mem_append.mpr ⟨h, h'⟩

/-! ## Single primitives -/

lemma asks_buildText {x y : Number} {style : TextStyle} {entry : Value}
    (h : buildText palettes x y style entry = .ok p) : Asks p := by
  obtain ⟨text, -, color, -, rfl⟩ := buildText_eq_ok.mp h
  trivial

lemma asks_buildLine {field : LineField} (h : buildLine palettes field = .ok p) : Asks p := by
  obtain ⟨color, -, rfl⟩ := buildLine_eq_ok.mp h
  trivial

lemma asks_buildImage {spec : ImageField} {data : Keyed Value}
    (h : buildImage spec data = .ok p) : Asks p := by
  obtain ⟨url, -, panX, -, panY, -, zoomLevel, -, rotate, -, rfl⟩ := buildImage_eq_ok.mp h
  exact ⟨_, rfl⟩

lemma asks_expandExtra {dy : Number} {field : Field}
    (h : expandExtra palettes dy field = .ok p) : Asks p := by
  obtain ⟨line, moved, -, -, hline⟩ := expandExtra_eq_ok.mp h
  exact asks_buildLine hline

/-! ## Composite fields -/

lemma asks_expandRow {row : RowField} {entry : Value}
    (h : expandRow palettes row entry = .ok ps) : ∀ p ∈ ps, Asks p := by
  obtain ⟨data, -, key, hkey, val, hval, rfl⟩ := expandRow_eq_ok.mp h
  simp [asks_buildText hkey, asks_buildText hval]

lemma asks_expandListRow {y yIncr : Number} {row : RowField} {extras : List Field} {i : Nat}
    {entry : Value} (h : expandListRow palettes y yIncr row extras i entry = .ok ps) :
    ∀ p ∈ ps, Asks p := by
  obtain ⟨dy, -, moved, -, texts, htexts, lines, hlines, rfl⟩ := expandListRow_eq_ok.mp h
  exact asks_append (asks_expandRow htexts) (asks_mapM (fun _ _ => asks_expandExtra) hlines)

lemma asks_expandRows {y yIncr : Number} {row : RowField} {extras : List Field} {i : Nat}
    {entries : List Value} (h : expandRows palettes y yIncr row extras i entries = .ok ps) :
    ∀ p ∈ ps, Asks p := by
  rw [expandRows_eq] at h
  obtain ⟨parts, hparts, rfl⟩ := map_eq_ok.mp h
  intro p hp
  obtain ⟨part, hpart, hp⟩ := List.mem_flatten.mp hp
  obtain ⟨entry, -, hrow⟩ := mem_of_mapM hparts hpart
  exact asks_expandListRow hrow p hp

lemma asks_expandItems {id : String} {specs : List (List ImageField)} {items : List Value}
    (h : expandItems id specs items = .ok ps) : ∀ p ∈ ps, Asks p := by
  rcases expandItems_eq_ok.mp h with ⟨-, rfl⟩ | ⟨-, row, -, h⟩
  · simp
  · refine asks_mapM (fun item p hp => ?_) h
    obtain ⟨data, -, hp⟩ := bind_eq_ok.mp hp
    exact asks_buildImage hp

lemma asks_expandImage {field : ImageField} {value : Value}
    (h : expandImage palettes field value = .ok ps) : ∀ p ∈ ps, Asks p := by
  obtain ⟨data, -, credits, hcredits, image, himage, rfl⟩ := expandImage_eq_ok.mp h
  refine asks_append (asks_mapM (fun _ _ => asks_buildText) hcredits) ?_
  simpa using asks_buildImage himage

lemma asks_expandSvg {field : BoxField} {value : Value} (h : expandSvg field value = .ok ps) :
    ∀ p ∈ ps, Asks p := by
  obtain ⟨data, -, rfl⟩ := expandSvg_eq_ok.mp h
  simp [Asks]

/-- Pictures and documents ask for their own resource, whichever field they come from. -/
theorem asks_expandField {field : Field} {value : Value}
    (h : expandField palettes field value = .ok ps) : ∀ p ∈ ps, Asks p := by
  cases field with
  | color f =>
    obtain ⟨data, -, h⟩ := bind_eq_ok.mp h
    obtain ⟨color, -, h⟩ := bind_eq_ok.mp h
    obtain rfl := pure_eq_ok.mp h
    simp [Asks]
  | line f =>
    obtain ⟨line, hline, h⟩ := bind_eq_ok.mp h
    obtain rfl := pure_eq_ok.mp h
    simpa using asks_buildLine hline
  | text f =>
    obtain ⟨text, htext, h⟩ := bind_eq_ok.mp h
    obtain rfl := pure_eq_ok.mp h
    simpa using asks_buildText htext
  | keyValText f => exact asks_expandRow h
  | keyValList identity y yIncr row extras =>
    obtain ⟨entries, -, h⟩ := bind_eq_ok.mp h
    exact asks_expandRows h
  | image f => exact asks_expandImage h
  | multiImage identity specs =>
    obtain ⟨items, -, h⟩ := bind_eq_ok.mp h
    exact asks_expandItems h
  | svg f => exact asks_expandSvg h
  | colorScheme identity => cases h

end CardDrawing.Proofs
