import CardDrawing.Proofs.BuildShape
import CardDrawing.Proofs.ColorReferences
import CardDrawing.Proofs.PaletteTable
import CardDrawing.Proofs.ReadFailures

/-!
# How a build fails

A build fails with an error of its own, unless a number that a picture is to be transformed by, or
the place of a row of a list, does not convert. Unless a loader comes to it, no error is internal.
-/

namespace CardDrawing.Proofs

variable {c : Collaborators} {template : Template} {card : Card} {palettes : Palettes}

/-! ## Values -/

lemma choiceAt_fails (choices : List Value) (n : Int) :
    FailsOnly (Told .choiceLookup) (choiceAt choices (.int n)) := by
  refine .ite (fun _ => .error ⟨rfl, rfl⟩) fun _ => ?_
  split
  · exact .ok
  · exact .error ⟨rfl, rfl⟩

lemma resolveChoice_fails (index : ChoiceIndex) (choices? : Option (List Value)) :
    FailsOnly (Told .choiceLookup) (resolveChoice index.toValue choices?) := by
  cases choices? with
  | none => exact .error ⟨rfl, rfl⟩
  | some choices =>
    cases index with
    | one n => exact choiceAt_fails choices n
    | many indices =>
      -- a selection was read as whole numbers, so nothing else is compared with a count
      refine .map _ (.mapM fun v hm => ?_)
      obtain ⟨n, -, rfl⟩ := List.mem_map.mp hm
      exact choiceAt_fails choices n

lemma resolve_fails (source : DataEntry) (id : String) (choices? : Option (List Value)) :
    FailsOnly (Told .choiceLookup) (source.resolve id choices?) := by
  unfold DataEntry.resolve
  split
  · exact .ok
  · split
    · rename_i why h
      have hwhy := resolveChoice_fails _ _ why h
      rw [if_pos hwhy.kind]
      exact .error ⟨rfl, hwhy.regular⟩
    · exact .ok

lemma resolveValue_fails (field : Field) (card : Card) :
    FailsOnly (Told .choiceLookup) (resolveValue field card) := by
  unfold resolveValue
  split
  · exact .ok
  · exact resolve_fails _ _ _

/-! ## Colors -/

lemma ofField_fails (field : Field) (card : Card) :
    FailsOnly Reported (Palettes.ofField field card) := by
  refine .bind ((resolveValue_fails field card).imp (Told.reported rfl)) fun value _ => ?_
  split
  · exact .ok
  · exact .ok
  · exact .error ⟨rfl, rfl⟩

lemma palettes_build_fails (fields : List Field) (card : Card) :
    FailsOnly Reported (Palettes.build fields card) := by
  rw [palettes_build_eq]
  exact .map _ (.mapM fun field _ => .map _ (ofField_fails field card))

lemma resolveFieldColor_fails (raw : Option String) :
    FailsOnly Reported (resolveFieldColor palettes raw) := by
  cases raw with
  | none => exact .ok
  | some reference => exact (resolveColor_fails palettes (.text reference)).imp (Told.reported rfl)

/-! ## Expansion -/

lemma textOf_fails (entry : Value) : FailsOnly Reported (textOf entry) := by
  unfold textOf
  split
  · exact .ok
  · exact .ok
  · split
    · exact .ok
    · exact .ok
  · exact .error ⟨rfl, rfl⟩

lemma buildText_fails (x y : Number) (style : TextStyle) (entry : Value) :
    FailsOnly Reported (buildText palettes x y style entry) :=
  .bind (textOf_fails entry) fun _ _ => .bind (resolveFieldColor_fails _) fun _ _ => .ok

lemma buildLine_fails (field : LineField) : FailsOnly Reported (buildLine palettes field) :=
  .bind (resolveFieldColor_fails _) fun _ _ => .ok

lemma requireObject_fails (field : Field) (value : Value) :
    FailsOnly Reported (requireObject field value) := by
  cases value with
  | object entries => exact .ok
  | _ => exact .error ⟨rfl, rfl⟩

lemma optionalObject_fails (type : FieldType) (id : String) (value : Value) :
    FailsOnly Reported (optionalObject type id value) := by
  cases value with
  | null => exact .ok
  | object entries => exact .ok
  | _ => exact .error ⟨rfl, rfl⟩

lemma optionalList_fails (type : FieldType) (id : String) (value : Value) :
    FailsOnly Reported (optionalList type id value) := by
  cases value with
  | null => exact .ok
  | list items => exact .ok
  | _ => exact .error ⟨rfl, rfl⟩

lemma imageUrl_fails (id : String) (value : Value) : FailsOnly Reported (imageUrl id value) := by
  cases value with
  | null => exact .ok
  | text url => exact .ok
  | _ => exact .error ⟨rfl, rfl⟩

lemma expandRow_fails (row : RowField) (entry : Value) :
    FailsOnly Reported (expandRow palettes row entry) :=
  .bind (requireObject_fails _ entry) fun _ _ => .bind (buildText_fails _ _ _ _) fun _ _ =>
    .bind (buildText_fails _ _ _ _) fun _ _ => .ok

/-! ## Rows of lists -/

/-- How a row of a list fails: with an error of its own, or for its place. -/
inductive RowFailure (why : Error) : Prop where
  | own : Reported why → RowFailure why
  | place : TooLarge why → RowFailure why

lemma rowOffset_fails (y yIncr : Number) (i : Nat) :
    FailsOnly RowFailure (rowOffset y yIncr i) :=
  .bind ((mul_tooLarge _ _).imp fun _ => .place) fun _ _ =>
    (add_tooLarge _ _).imp fun _ => .place

lemma row_offsetY_fails (row : RowField) (dy : Number) :
    FailsOnly RowFailure (row.offsetY dy) :=
  .bind ((add_tooLarge _ _).imp fun _ => .place) fun _ _ => .ok

lemma line_offsetY_fails (field : LineField) (dy : Number) :
    FailsOnly RowFailure (field.offsetY dy) :=
  .bind ((add_tooLarge _ _).imp fun _ => .place) fun _ _ =>
    .bind ((add_tooLarge _ _).imp fun _ => .place) fun _ _ => .ok

lemma expandExtra_fails (dy : Number) (field : Field) :
    FailsOnly RowFailure (expandExtra palettes dy field) := by
  cases field with
  | line field =>
    exact .bind (line_offsetY_fails field dy) fun _ _ => (buildLine_fails _).imp fun _ => .own
  | _ => exact .error (.own ⟨rfl, rfl⟩)

lemma expandListRow_fails (y yIncr : Number) (row : RowField) (extras : List Field) (i : Nat)
    (entry : Value) :
    FailsOnly RowFailure (expandListRow palettes y yIncr row extras i entry) := by
  unfold expandListRow
  refine .bind (rowOffset_fails y yIncr i) fun dy _ => ?_
  refine .bind (row_offsetY_fails row dy) fun row' _ => ?_
  refine .bind ((expandRow_fails row' entry).imp fun _ => .own) fun texts _ => ?_
  exact .bind (.mapM fun field _ => expandExtra_fails dy field) fun _ _ => .ok

lemma expandRows_fails (y yIncr : Number) (row : RowField) (extras : List Field) (i : Nat)
    (entries : List Value) :
    FailsOnly RowFailure (expandRows palettes y yIncr row extras i entries) := by
  induction entries generalizing i with
  | nil => exact .ok
  | cons entry rest ih =>
    exact .bind (expandListRow_fails y yIncr row extras i entry) fun _ _ =>
      .bind (ih (i + 1)) fun _ _ => .ok

/-! ## Pictures -/

/-- The attributes of a picture's data that are numbers. -/
def transformKeys : List String := ["panX", "panY", "zoomLevel", "rotate"]

/-- How a picture fails: with an error of its own, or for a transformation somewhere in its data
that does not convert. -/
inductive PictureFailure (value : Value) (why : Error) : Prop where
  | own : Reported why → PictureFailure value why
  | transform : Unconverted transformKeys value why → PictureFailure value why

section

variable {value : Value}

lemma PictureFailure.within {whole : Value} {why : Error} (h : PictureFailure value why)
    (hi : Inside value whole) : PictureFailure whole why := by
  cases h with
  | own h => exact .own h
  | transform h => exact .transform (h.within hi)

lemma transform_fails {data : Keyed Value} {key : String} (hkey : key ∈ transformKeys) :
    FailsOnly (PictureFailure (.object data)) (Field.number? data key) :=
  (number?_unconverted hkey).imp fun _ => .transform

lemma buildImage_fails (spec : ImageField) (data : Keyed Value) :
    FailsOnly (PictureFailure (.object data)) (buildImage spec data) := by
  unfold buildImage
  refine .bind ((imageUrl_fails _ _).imp fun _ => .own) fun url _ => ?_
  refine .bind (transform_fails (by decide)) fun panX _ => ?_
  refine .bind (transform_fails (by decide)) fun panY _ => ?_
  refine .bind (transform_fails (by decide)) fun zoomLevel _ => ?_
  exact .bind (transform_fails (by decide)) fun rotate _ => .ok

lemma buildImage_without (spec : ImageField) :
    FailsOnly (PictureFailure value) (buildImage spec []) := by
  refine (buildImage_fails spec []).imp fun why h => ?_
  cases h with
  | own h => exact .own h
  | transform h =>
    -- nothing stands in an empty object
    obtain ⟨data, key, v, hin, -, hv, -⟩ := h
    cases hin with
    | refl => cases hv
    | entry hm => cases hm

lemma buildImage_of_optional {type : FieldType} {id : String} {data : Keyed Value}
    (spec : ImageField) (h : optionalObject type id value = .ok data) :
    FailsOnly (PictureFailure value) (buildImage spec data) := by
  cases value with
  | null =>
    cases h
    exact buildImage_without spec
  | object entries =>
    cases h
    exact buildImage_fails spec data
  | _ => cases h

lemma expandImage_fails (field : ImageField) (value : Value) :
    FailsOnly (PictureFailure value) (expandImage palettes field value) := by
  unfold expandImage
  refine .bind ((optionalObject_fails _ _ value).imp fun _ => .own) fun data hdata => ?_
  have himage (credit : List Primitive) := FailsOnly.bind (buildImage_of_optional field hdata)
    fun image _ => .ok (a := credit ++ [image])
  dsimp only
  split
  · exact .bind ((buildText_fails _ _ _ _).imp fun _ => .own) fun _ _ =>
      .bind .ok fun credit _ => himage credit
  · exact .bind .ok fun credit _ => himage credit

lemma specRow_fails (id : String) (specs : List (List ImageField)) (count : Nat) :
    FailsOnly Reported (specRow id specs count) := by
  unfold specRow
  split
  · exact .error ⟨rfl, rfl⟩
  · exact .ite (fun _ => .ok) fun _ => .error ⟨rfl, rfl⟩

lemma expandItems_fails (id : String) (specs : List (List ImageField)) (items : List Value) :
    FailsOnly (PictureFailure (.list items)) (expandItems id specs items) := by
  refine .ite (fun _ => .ok) fun _ => ?_
  refine .bind ((specRow_fails id specs items.length).imp fun _ => .own) fun row _ => ?_
  refine .mapM fun (spec, item) hm => ?_
  have hin : Inside item (.list items) := .item (List.of_mem_zip hm).2 .refl
  refine .bind ((optionalObject_fails _ _ item).imp fun _ => .own) fun data hdata => ?_
  exact (buildImage_of_optional spec hdata).imp fun _ h => h.within hin

end

/-! ## Fields -/

/-- How the expansion of a field fails: with an error of its own, for a transformation in its
value, or for the place of a row. -/
inductive ExpansionFailure (field : Field) (value : Value) (why : Error) : Prop where
  | own : Reported why → ExpansionFailure field value why
  | transform : Unconverted transformKeys value why → ExpansionFailure field value why
  | place : field.type = .keyValList → TooLarge why → ExpansionFailure field value why

lemma PictureFailure.expansion {field : Field} {value : Value} {why : Error}
    (h : PictureFailure value why) : ExpansionFailure field value why := by
  cases h with
  | own h => exact .own h
  | transform h => exact .transform h

lemma RowFailure.expansion {field : Field} {value : Value} {why : Error}
    (ht : field.type = .keyValList) (h : RowFailure why) : ExpansionFailure field value why := by
  cases h with
  | own h => exact .own h
  | place h => exact .place ht h

lemma ExpansionFailure.regular {field : Field} {value : Value} {why : Error}
    (h : ExpansionFailure field value why) : Regular why := by
  cases h with
  | own h => exact h.regular
  | transform h => exact h.foreign.regular
  | place _ h => exact h.foreign.regular

/-- Every field that is not a palette is expanded in a way of its own. -/
lemma expandField_fails {field : Field} (h : field.isColorScheme = false) (value : Value) :
    FailsOnly (ExpansionFailure field value) (expandField palettes field value) := by
  cases field with
  | color f =>
    exact .bind ((requireObject_fails _ value).imp fun _ => .own) fun _ _ =>
      .bind ((resolveFieldColor_fails _).imp fun _ => .own) fun _ _ => .ok
  | line f => exact .bind ((buildLine_fails f).imp fun _ => .own) fun _ _ => .ok
  | text f => exact .bind ((buildText_fails _ _ _ value).imp fun _ => .own) fun _ _ => .ok
  | keyValText f => exact (expandRow_fails f value).imp fun _ => .own
  | keyValList identity y yIncr row extras =>
    exact .bind ((optionalList_fails _ _ value).imp fun _ => .own) fun entries _ =>
      (expandRows_fails y yIncr row extras 0 entries).imp fun _ h => h.expansion rfl
  | image f => exact (expandImage_fails f value).imp fun _ h => h.expansion
  | multiImage identity specs =>
    refine .bind ((optionalList_fails _ _ value).imp fun _ => .own) fun items hitems => ?_
    cases value with
    | null =>
      cases hitems
      exact .ok
    | list items =>
      cases hitems
      exact (expandItems_fails identity.id specs _).imp fun _ h => h.expansion
    | _ => cases hitems
  | svg f => exact .bind ((optionalObject_fails _ _ value).imp fun _ => .own) fun _ _ => .ok
  | colorScheme identity => cases h

/-! ## Builds -/

/-- The loaders fail with errors of their own only. -/
def OwnLoaders (c : Collaborators) : Prop :=
  ∀ kind load url, c.loader? kind = some load → FailsOnly Own (load url)

lemma answer_fails (h : OwnLoaders c) (call : Fetch) : FailsOnly Own (c.answer call) := by
  unfold Collaborators.answer
  split
  · exact h _ _ _ ‹_›
  · split <;> exact .error rfl

lemma checkFetchable_fails (p : Primitive) (r : ResourceRequest) :
    FailsOnly Reported (checkFetchable c p r) := by
  unfold checkFetchable
  split
  · exact .error ⟨rfl, rfl⟩
  · split
    · exact .ok
    · exact .error ⟨rfl, rfl⟩
    · exact .error ⟨rfl, rfl⟩

lemma resolved_fails (h : OwnLoaders c) (p : Primitive) : FailsOnly Own (resolved c p) := by
  unfold resolved
  split
  · exact .ok
  · split
    · refine .bind ((checkFetchable_fails p _).imp fun _ => Reported.own) fun call _ => ?_
      exact .bind (answer_fails h call) fun _ _ => .ok
    · exact .ok

/-- How the drawing of a field fails: at its value, or at its expansion. -/
inductive DrawingFailure (card : Card) (field : Field) (why : Error) : Prop where
  | own : Reported why → DrawingFailure card field why
  | expansion {value : Value} : resolveValue field card = .ok value →
      ExpansionFailure field value why → DrawingFailure card field why

lemma DrawingFailure.regular {field : Field} {why : Error} (h : DrawingFailure card field why) :
    Regular why := by
  cases h with
  | own h => exact h.regular
  | expansion _ h => exact h.regular

lemma resolveAndExpand_fails {field : Field} (h : field.isColorScheme = false) :
    FailsOnly (DrawingFailure card field) (resolveAndExpand palettes card field) := by
  rw [resolveAndExpand_eq]
  by_cases hdata : field.requiresData = true
  · rw [effective, if_pos hdata]
    have hvalue := (resolveValue_fails field card).imp (Told.reported rfl)
    refine .bind (hvalue.imp fun _ => .own) fun value hv => ?_
    exact (expandField_fails h value).imp fun _ => .expansion hv
  · -- only a line is drawn without data
    obtain ⟨f, rfl⟩ : ∃ f, field = .line f := by
      cases field <;> simp [Field.requiresData, Field.type] at hdata ⊢
    exact .bind .ok fun _ _ => .bind ((buildLine_fails f).imp fun _ => .own) fun _ _ => .ok

/-- How a build fails: with an error of its own, or at the drawing of a field. -/
inductive BuildFailure (template : Template) (card : Card) (why : Error) : Prop where
  | own : Own why → BuildFailure template card why
  | drawing {field : Field} : field ∈ template.orderedFields → DrawingFailure card field why →
      BuildFailure template card why

lemma build_fails (h : OwnLoaders c) (template : Template) (card : Card) :
    FailsOnly (BuildFailure template card) (build c template card).1 := by
  rw [outcome_build]
  refine .bind (fun why h => ?_) fun session hopen => ?_
  · rw [openSession_eq_error] at h
    exact .own (palettes_build_fails _ card why h).own
  · obtain ⟨-, hfields⟩ := openSession_eq_ok.mp hopen
    rw [(outcome_buildFields session.1 session.2).2]
    refine .map _ (.mapM fun field hm => ?_)
    rw [hfields] at hm
    obtain ⟨hfield, hdraws⟩ := List.mem_filter.mp hm
    have hdrawn : FailsOnly (DrawingFailure card field) (resolveAndExpand session.1 card field) :=
      resolveAndExpand_fails (by simpa using hdraws)
    refine .bind (hdrawn.imp fun _ => .drawing hfield) fun primitives _ => ?_
    exact .mapM fun p _ => (resolved_fails h p).imp fun _ => .own

/-! ## Errors of other kinds -/

/-- A number of a template document does not convert: a side of the extent, or an attribute. -/
def TemplateNumber (entries : Keyed Value) (why : Error) : Prop :=
  Unconverted numberKeys (.object entries) why ∨
    ∃ key ∈ ["width", "height"], ∃ v, Keyed.get? entries key = some v ∧ v.toInt = .error why

/-- A number does not convert while a card is built: a transformation in the value of a field, or
a whole number in the place of a row of a list. -/
def BuildNumber (template : Template) (card : Card) (why : Error) : Prop :=
  ∃ field ∈ template.orderedFields, ∃ value, resolveValue field card = .ok value ∧
    (Unconverted transformKeys value why ∨
      field.type = .keyValList ∧ TooLarge why)

lemma TemplateFailure.split {entries : Keyed Value} {why : Error}
    (h : TemplateFailure entries why) :
    (why.kind = .fieldData ∨ why.kind = .unsupportedFieldType) ∨
      ¬ Own why ∧ TemplateNumber entries why := by
  cases h with
  | extent hkey hv hwhy =>
    exact .inr ⟨(toInt_foreign _ why hwhy).notOwn, .inr ⟨_, hkey, _, hv, hwhy⟩⟩
  | field h =>
    cases h with
    | shape h => exact .inl (.inl h.kind)
    | tag h => exact .inl (.inr h.kind)
    | number h => exact .inr ⟨h.foreign.notOwn, .inl h⟩

lemma BuildFailure.split {why : Error} (h : BuildFailure template card why) :
    Own why ∨ ¬ Own why ∧ BuildNumber template card why := by
  cases h with
  | own h => exact .inl h
  | @drawing field hm h =>
    cases h with
    | own h => exact .inl h.own
    | @expansion value hv h =>
      cases h with
      | own h => exact .inl h.own
      | transform h => exact .inr ⟨h.foreign.notOwn, field, hm, value, hv, .inl h⟩
      | place ht h => exact .inr ⟨h.foreign.notOwn, field, hm, value, hv, .inr ⟨ht, h⟩⟩

/-- Every error is one of the compiler's own, but for numbers that do not convert: nothing guards
the conversions, and their errors are passed on as they are. A card is read without conversions;
a template fails besides only for its shape or for a type tag. -/
theorem foreign_errors_are_conversions (hc : OwnLoaders c) :
    (∀ entries name? why, Template.read (.object entries) name? = .error why →
      (why.kind = .fieldData ∨ why.kind = .unsupportedFieldType) ∨
        ¬ Own why ∧ TemplateNumber entries why) ∧
    (∀ entries why, Card.read (.object entries) = .error why → why.kind = .fieldData) ∧
    ∀ template card why, (build c template card).1 = .error why →
      Own why ∨ ¬ Own why ∧ BuildNumber template card why :=
  ⟨fun entries name? why h => (template_read_fails entries name? why h).split,
    fun entries why h => (card_read_fails entries why h).kind,
    fun template card why h => (build_fails hc template card why h).split⟩

/-- A template with a title in no place. -/
def crooked : Keyed Value :=
  [("width", .int 100), ("height", .int 50),
    ("fields", .object [("title", .object [("type", .text "text"), ("x", .text "left")])])]

lemma crooked_read : Template.read (.object crooked) = .error (.floatText "left") := by
  cbv

theorem errors_escape :
    ¬ ((∀ entries name?, FailsOnly Own (Template.read (.object entries) name?)) ∧
      (∀ entries, FailsOnly Own (Card.read (.object entries))) ∧
      ∀ c, OwnLoaders c → ∀ template card, FailsOnly Own (build c template card).1) := by
  rintro ⟨htemplate, -, -⟩
  have hown : Own (.floatText "left") := htemplate crooked none _ crooked_read
  cases hown

/-- A picture that is to be moved by what is no number. -/
def askew : Template where
  name := "askew"
  width := 16
  height := 8
  fields := [("photo", .image { id := "photo" })]

def askewCard : Card where
  templateName := "askew"
  data := [("photo", { value := .object [("url", .text "p.png"), ("panX", .list [])] })]

lemma askew_built : (build {} askew askewCard).1 = .error (.floatOfType "list") := by
  cbv

theorem crooked_and_askew :
    (¬ Own (.floatText "left") ∧ TemplateNumber crooked (.floatText "left")) ∧
      ¬ Own (.floatOfType "list") ∧ BuildNumber askew askewCard (.floatOfType "list") := by
  have hc : OwnLoaders {} := by
    intro kind load url hload
    cases kind <;> cases hload
  have hall := foreign_errors_are_conversions hc
  refine ⟨?_, ?_⟩
  · exact (hall.1 crooked none _ crooked_read).resolve_left (by rintro (h | h) <;> cases h)
  · exact (hall.2.2 askew askewCard _ askew_built).resolve_left (by intro h; cases h)

end CardDrawing.Proofs
