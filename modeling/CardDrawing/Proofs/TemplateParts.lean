import CardDrawing.Proofs.FieldReading
import CardDrawing.Proofs.ReadFailures
import CardDrawing.Proofs.TemplateFields

/-!
# The parts of a template

A field may hold others: the row that a key-value list repeats, its additional elements, the
pictures of a group, credits. Whatever is held at whatever depth stands for one item of the
document, and its id is its path from the field that is declared, unless a picture brings one.
-/

namespace CardDrawing.Proofs
open Keyed

/-! ## Parts -/

/-- Whatever has an id in a template. -/
inductive Part where
  | field (field : Field)
  | row (row : RowField)
  | picture (image : ImageField)
  | credit (credit : TextField)

namespace Part

def id : Part → String
  | field f => f.id
  | row f => f.id
  | picture f => f.id
  | credit f => f.id

end Part

/-- The part belongs to the field, directly or at any depth, or is the field itself. -/
inductive Reaches : Field → Part → Prop where
  | self {field : Field} : Reaches field (.field field)
  | row {identity : Identity} {y yIncr : Number} {row : RowField} {extras : List Field} :
      Reaches (.keyValList identity y yIncr row extras) (.row row)
  | extra {identity : Identity} {y yIncr : Number} {row : RowField} {extras : List Field}
      {extra : Field} {part : Part} : extra ∈ extras → Reaches extra part →
      Reaches (.keyValList identity y yIncr row extras) part
  | credit {image : ImageField} {credit : TextField} : image.credit = some credit →
      Reaches (.image image) (.credit credit)
  | picture {identity : Identity} {specs : List (List ImageField)} {images : List ImageField}
      {image : ImageField} : images ∈ specs → image ∈ images →
      Reaches (.multiImage identity specs) (.picture image)
  | pictureCredit {identity : Identity} {specs : List (List ImageField)}
      {images : List ImageField} {image : ImageField} {credit : TextField} :
      images ∈ specs → image ∈ images → image.credit = some credit →
      Reaches (.multiImage identity specs) (.credit credit)

/-- The identity has the given id, which is not blank. -/
def Named (id : String) (identity : Identity) : Prop :=
  identity.id = id ∧ Text.isBlankText id = false

lemma Named.nonblank {id : String} {identity : Identity} (h : Named id identity) :
    Text.isBlankText identity.id = false := by
  rw [h.1]
  exact h.2

/-- A text that is read from an object and named after the picture it belongs to. -/
def IsCredit (id : String) (raw : Value) (credit : TextField) : Prop :=
  Named s!"{id}.credit" credit.toIdentity ∧
    ∃ entries, raw = .object entries ∧ Field.readText { id := s!"{id}.credit" } entries = .ok credit

/-- A picture is named, and has a credit just if its object has one. -/
structure IsPicture (id : String) (data : Keyed Value) (image : ImageField) : Prop where
  named : Named id image.toIdentity
  isSome : image.credit.isSome = (Value.getD data "credit").holds
  isCredit : ∀ credit, image.credit = some credit → IsCredit id (Value.getD data "credit") credit

/-- The id of a picture of a group: the one that its object brings, else its place in the row. -/
def pictureId (id : String) (i : Nat) (data : Keyed Value) : String :=
  if (Value.getD data "id").holds then (Value.getD data "id").shown else s!"{id}.{i}"

/-- The pictures of a row stand for the items of a list, one for one and in their order. -/
def IsPictureRow (id : String) (raw : Value) (images : List ImageField) : Prop :=
  ∃ items, raw = .list items ∧ images.length = items.length ∧
    ∀ (i : Nat) (item : Value) (image : ImageField), items[i]? = some item →
      images[i]? = some image →
      ∃ data name, item = .object data ∧ name = pictureId id i data ∧
        Field.readImage name { id := name } data = .ok image ∧ IsPicture name data image

/-- The types of fields that hold other parts. -/
def holders : List FieldType := [.keyValList, .image, .multiImage]

/-- The field is made of the parts that its document declares: each is named by its place, a
key-value list has a row, and elements and pictures are what is read from the items of the
document's lists, one for one and in their order. -/
inductive Describes : String → Value → Field → Prop where
  | single {id : String} {data : Keyed Value} {field : Field} :
      field.type ∉ holders → Named id field.identity →
      Describes id (.object data) field
  | keyValList {id : String} {data spec : Keyed Value} {items : List Value} {identity : Identity}
      {y yIncr : Number} {row : RowField} {extras : List Field} : Named id identity →
      get? data "keyValSpec" = some (.object spec) → Named s!"{id}.keyValSpec" row.toIdentity →
      Field.readRow { id := s!"{id}.keyValSpec" } spec = .ok row →
      (get? data "additionalElements").getD (.list []) = .list items →
      extras.length = items.length →
      (∀ (i : Nat) (item : Value) (extra : Field), items[i]? = some item →
        extras[i]? = some extra →
        Field.read s!"{id}.additionalElements[{i}]" item = .ok extra) →
      (∀ (i : Nat) (item : Value) (extra : Field), items[i]? = some item →
        extras[i]? = some extra → Describes s!"{id}.additionalElements[{i}]" item extra) →
      Describes id (.object data) (.keyValList identity y yIncr row extras)
  | image {id : String} {data : Keyed Value} {image : ImageField} : IsPicture id data image →
      Describes id (.object data) (.image image)
  | multiImage {id : String} {data : Keyed Value} {rows : List Value} {identity : Identity}
      {specs : List (List ImageField)} : Named id identity →
      (get? data "specs").getD (.list []) = .list rows →
      List.Forall₂ (IsPictureRow id) rows specs →
      Describes id (.object data) (.multiImage identity specs)

lemma Describes.named {id : String} {raw : Value} {field : Field} (h : Describes id raw field) :
    Named id field.identity := by
  cases h with
  | single _ h => exact h
  | keyValList h => exact h
  | image h => exact h.named
  | multiImage h => exact h

/-! ## Ids are checked -/

lemma checkId_eq_ok {id : String} : Field.checkId id = .ok () ↔ Text.isBlankText id = false := by
  rw [Field.checkId]
  split <;> simp_all

/-- The steps come to a result only if the id is not blank. -/
def ChecksId {α : Type} (id : String) (x : Except Error α) : Prop :=
  ∀ a, x = .ok a → Text.isBlankText id = false

namespace ChecksId

variable {α β : Type} {id : String}

lemma bind {x : Except Error α} {f : α → Except Error β} (h : ∀ a, ChecksId id (f a)) :
    ChecksId id (x >>= f) := by
  intro b hb
  obtain ⟨a, -, hb⟩ := bind_eq_ok.mp hb
  exact h a b hb

lemma check {f : Unit → Except Error β} : ChecksId id (Field.checkId id >>= f) := by
  intro b hb
  obtain ⟨⟨⟩, hid, -⟩ := bind_eq_ok.mp hb
  exact checkId_eq_ok.mp hid

end ChecksId

section

variable {data : Keyed Value} {identity : Identity} {id : String}

lemma named_readBoxField {field : BoxField} (h : Field.readBoxField identity data = .ok field) :
    Named identity.id field.toIdentity := by
  have hcheck : ChecksId identity.id (Field.readBoxField identity data) := .bind fun _ => .check
  exact ⟨congrArg _ (readBoxField_identity h), hcheck field h⟩

lemma named_readLine {field : LineField} (h : Field.readLine identity data = .ok field) :
    Named identity.id field.toIdentity := by
  have hcheck : ChecksId identity.id (Field.readLine identity data) :=
    .bind fun _ => .bind fun _ => .bind fun _ => .bind fun _ => .bind fun _ => .check
  exact ⟨congrArg _ (readLine_identity h), hcheck field h⟩

lemma named_readText {field : TextField} (h : Field.readText identity data = .ok field) :
    Named identity.id field.toIdentity := by
  have hcheck : ChecksId identity.id (Field.readText identity data) :=
    .bind fun _ => .bind fun _ => .bind fun _ => .check
  exact ⟨congrArg _ (readText_identity h), hcheck field h⟩

lemma named_readRow {row : RowField} (h : Field.readRow identity data = .ok row) :
    Named identity.id row.toIdentity := by
  have hcheck : ChecksId identity.id (Field.readRow identity data) :=
    .bind fun _ => .bind fun _ => .bind fun _ => .bind fun _ => .check
  exact ⟨congrArg _ (readRow_identity h), hcheck row h⟩

/-! ## Pictures -/

lemma readCredit_eq_ok {credit? : Option TextField} (h : Field.readCredit id data = .ok credit?) :
    credit?.isSome = (Value.getD data "credit").holds ∧
      ∀ credit, credit? = some credit → IsCredit id (Value.getD data "credit") credit := by
  rw [Field.readCredit] at h
  split at h
  · rename_i hholds
    obtain ⟨entries, hentries, h⟩ := bind_eq_ok.mp h
    obtain ⟨credit, hcredit, h⟩ := bind_eq_ok.mp h
    obtain rfl := pure_eq_ok.mp h
    refine ⟨hholds.symm, ?_⟩
    rintro _ ⟨⟩
    exact ⟨named_readText hcredit, entries, expectObject_eq_ok.mp hentries, hcredit⟩
  · rename_i hholds
    cases h
    refine ⟨(Bool.eq_false_of_not_eq_true hholds).symm, ?_⟩
    rintro _ ⟨⟩

lemma isPicture_readImage {image : ImageField} (hid : identity.id = id)
    (h : Field.readImage id identity data = .ok image) : IsPicture id data image := by
  have hcheck : ChecksId identity.id (Field.readImage id identity data) :=
    .bind fun _ => .bind fun _ => .check
  have hnamed : Named id image.toIdentity :=
    hid ▸ ⟨congrArg _ (readImage_identity h), hcheck image h⟩
  obtain ⟨credit, hcredit, h⟩ := bind_eq_ok.mp h
  obtain ⟨box, -, h⟩ := bind_eq_ok.mp h
  obtain ⟨-, -, h⟩ := bind_eq_ok.mp h
  obtain rfl := pure_eq_ok.mp h
  obtain ⟨hsome, hall⟩ := readCredit_eq_ok hcredit
  exact ⟨hnamed, hsome, hall⟩

lemma isPicture_readSpec {row i : Nat} {raw : Value} {image : ImageField}
    (h : Field.readSpec id row i raw = .ok image) :
    ∃ data name, raw = .object data ∧ name = pictureId id i data ∧
      Field.readImage name { id := name } data = .ok image ∧ IsPicture name data image := by
  obtain ⟨data, hdata, h⟩ := bind_eq_ok.mp h
  exact ⟨data, _, expectObject_eq_ok.mp hdata, rfl, h, isPicture_readImage rfl h⟩

lemma isPictureRow_readSpecRow {row : Nat} {raw : Value} {images : List ImageField}
    (h : Field.readSpecRow id row raw = .ok images) : IsPictureRow id raw images := by
  cases raw with
  | list items =>
    obtain ⟨hlen, hread⟩ := mapM_zipIdx h
    exact ⟨items, rfl, hlen, fun i item image hitem himage =>
      isPicture_readSpec (hread i item image hitem himage)⟩
  | _ => cases h

lemma rows_readSpecs {specs : List (List ImageField)} (h : Field.readSpecs id data = .ok specs) :
    ∃ rows, (get? data "specs").getD (.list []) = .list rows ∧
      List.Forall₂ (IsPictureRow id) rows specs := by
  rw [Field.readSpecs] at h
  split at h
  · rename_i rows hrows
    obtain ⟨hlen, hread⟩ := mapM_zipIdx h
    refine ⟨rows, hrows, List.forall₂_iff_get.mpr ⟨hlen.symm, fun i hi hi' => ?_⟩⟩
    exact isPictureRow_readSpecRow
      (hread i _ _ (List.getElem?_eq_getElem hi) (List.getElem?_eq_getElem hi'))
  · cases h

/-! ## Key-value lists -/

lemma readRowSpec_eq_ok {row : RowField} (h : Field.readRowSpec id data = .ok row) :
    ∃ spec, get? data "keyValSpec" = some (.object spec) ∧
      Field.readRow { id := s!"{id}.keyValSpec" } spec = .ok row := by
  rw [Field.readRowSpec] at h
  split at h
  · cases h
  · rename_i hne
    obtain ⟨spec, hspec, h⟩ := bind_eq_ok.mp h
    have hget := (getD_cases data "keyValSpec").resolve_left hne
    exact ⟨spec, hget.trans (congrArg some (expectObject_eq_ok.mp hspec)), h⟩

lemma named_rowList {y yIncr : Number} {row? : Option RowField} {extras : List Field}
    {field : Field} (h : Field.rowList identity y yIncr row? extras = .ok field) :
    Named identity.id identity := by
  have hcheck : ChecksId identity.id (Field.rowList identity y yIncr row? extras) := .check
  exact ⟨rfl, hcheck field h⟩

end

/-! ## Fields -/

lemma describes_of_map {α : Type} {id : String} {data : Keyed Value} {field : Field}
    {read : Except Error α} {f : α → Field} {t : FieldType} (h : (do return f (← read)) = .ok field)
    (ht : ∀ a, (f a).type = t) (hne : t ∉ holders)
    (hread : ∀ a, read = .ok a → Named id (f a).identity) : Describes id (.object data) field := by
  obtain ⟨a, ha, h⟩ := bind_eq_ok.mp h
  obtain rfl := pure_eq_ok.mp h
  exact .single (ht a ▸ hne) (hread a ha)

/-- A field that is read is made of the parts that its document declares. -/
theorem describes_of_read (id : String) (raw : Value) :
    ∀ field, Field.read id raw = .ok field → Describes id raw field := by
  cases raw with
  | object data =>
    intro field h
    rw [read_object] at h
    obtain ⟨type, -, h⟩ := bind_eq_ok.mp h
    obtain ⟨identity, hid, h⟩ := bind_eq_ok.mp h
    obtain rfl : identity.id = id := readIdentity_id hid
    cases type with
    | color => exact describes_of_map h (fun _ => rfl) (by decide) fun _ => named_readBoxField
    | line => exact describes_of_map h (fun _ => rfl) (by decide) fun _ => named_readLine
    | text => exact describes_of_map h (fun _ => rfl) (by decide) fun _ => named_readText
    | keyValText => exact describes_of_map h (fun _ => rfl) (by decide) fun _ => named_readRow
    | keyValList =>
      obtain ⟨row, hrow, h⟩ := bind_eq_ok.mp h
      obtain ⟨spec, hspec, hrow⟩ := readRowSpec_eq_ok hrow
      split at h
      · cases h
      · rename_i hlist
        obtain ⟨extras, hextras, h⟩ := bind_eq_ok.mp h
        obtain ⟨y, -, h⟩ := bind_eq_ok.mp h
        obtain ⟨yIncr, -, h⟩ := bind_eq_ok.mp h
        have hnamed := named_rowList h
        obtain rfl := rowList_eq_ok h
        obtain ⟨hlen, hread⟩ := mapM_zipIdx hextras
        refine .keyValList hnamed hspec (named_readRow hrow) hrow
          (extras_getD (by simpa using hlist)) hlen hread fun i item extra hitem hextra => ?_
        have hm := List.mem_of_getElem? hitem
        exact describes_of_read _ item extra (hread i item extra hitem hextra)
    | image =>
      obtain ⟨image, himage, h⟩ := bind_eq_ok.mp h
      obtain rfl := pure_eq_ok.mp h
      exact .image (isPicture_readImage rfl himage)
    | multiImage =>
      obtain ⟨specs, hspecs, h⟩ := bind_eq_ok.mp h
      obtain ⟨rows, hrows, hall⟩ := rows_readSpecs hspecs
      obtain ⟨⟨⟩, hid, h⟩ := bind_eq_ok.mp h
      obtain rfl := pure_eq_ok.mp h
      exact .multiImage ⟨rfl, checkId_eq_ok.mp hid⟩ hrows hall
    | svg => exact describes_of_map h (fun _ => rfl) (by decide) fun _ => named_readBoxField
    | colorScheme =>
      exact describes_of_map (t := .colorScheme) h (fun _ => rfl) (by decide) fun ⟨⟩ hid =>
        ⟨rfl, checkId_eq_ok.mp hid⟩
  | _ =>
    intro field h
    rw [Field.read.eq_def] at h
    cases h
termination_by sizeOf raw
decreasing_by exact Field.sizeOf_lt_of_mem_extras hm

section

variable {id : String} {raw : Value} {identity : Identity}

lemma Describes.list_parts {y yIncr : Number} {row : RowField} {extras : List Field}
    (h : Describes id raw (.keyValList identity y yIncr row extras)) :
    Text.isBlankText row.id = false ∧ ∀ extra ∈ extras, ∃ id raw, Describes id raw extra := by
  cases h with
  | single hne => exact (hne (show FieldType.keyValList ∈ holders by decide)).elim
  | keyValList _ _ hrow _ _ hlen _ hextras =>
    refine ⟨hrow.nonblank, fun extra hm => ?_⟩
    obtain ⟨i, hi⟩ := List.mem_iff_getElem?.mp hm
    have hilen := hlen ▸ (List.getElem?_eq_some_iff.mp hi).1
    exact ⟨_, _, hextras i _ extra (List.getElem?_eq_getElem hilen) hi⟩

lemma Describes.isPicture {image : ImageField} (h : Describes id raw (.image image)) :
    ∃ data, IsPicture id data image := by
  cases h with
  | single hne => exact (hne (show FieldType.image ∈ holders by decide)).elim
  | image h => exact ⟨_, h⟩

lemma Describes.isPicture_of_mem {specs : List (List ImageField)} {images : List ImageField}
    {image : ImageField} (h : Describes id raw (.multiImage identity specs))
    (hrow : images ∈ specs) (himage : image ∈ images) : ∃ id data, IsPicture id data image := by
  cases h with
  | single hne => exact (hne (show FieldType.multiImage ∈ holders by decide)).elim
  | multiImage _ _ hall =>
    obtain ⟨raw, -, items, -, hlen, hread⟩ := exists_of_forall₂ hall.flip hrow
    obtain ⟨i, hi⟩ := List.mem_iff_getElem?.mp himage
    have hilen : i < items.length := hlen ▸ (List.getElem?_eq_some_iff.mp hi).1
    obtain ⟨data, name, -, -, -, hpicture⟩ := hread i _ image (List.getElem?_eq_getElem hilen) hi
    exact ⟨_, data, hpicture⟩

end

/-- Whatever belongs to a field as its document declares it has an id that is not blank. -/
lemma Describes.reached {id : String} {raw : Value} {field : Field} {part : Part}
    (h : Describes id raw field) (hr : Reaches field part) : Text.isBlankText part.id = false := by
  induction hr generalizing id raw with
  | self => exact h.named.nonblank
  | row => exact h.list_parts.1
  | extra hm _ ih =>
    obtain ⟨id, raw, hextra⟩ := h.list_parts.2 _ hm
    exact ih hextra
  | credit hc =>
    obtain ⟨data, himage⟩ := h.isPicture
    exact (himage.isCredit _ hc).1.nonblank
  | picture hrow hm =>
    obtain ⟨id, data, himage⟩ := h.isPicture_of_mem hrow hm
    exact himage.named.nonblank
  | pictureCredit hrow hm hc =>
    obtain ⟨id, data, himage⟩ := h.isPicture_of_mem hrow hm
    exact (himage.isCredit _ hc).1.nonblank

/-! ## Templates -/

/-- What holds of a template that is read from the entries of a document: it has an area, its
fields are read from the entries under `fields`, each under its own key and in their order, and
every part of it has an id that is not blank. -/
structure DescribedBy (entries : Keyed Value) (template : Template) : Prop where
  extent : ∃ width height : Int, template.width = .int width ∧ template.height = .int height ∧
    0 < width ∧ 0 < height
  fields : ∃ raw, (get? entries "fields").getD (.object []) = .object raw ∧
    keys template.fields = keys raw ∧
    List.Forall₂ (fun entry field => Field.read entry.1 entry.2 = .ok field ∧
      field.id = entry.1 ∧ Describes entry.1 entry.2 field) raw template.orderedFields
  reached : ∀ field ∈ template.orderedFields, ∀ part, Reaches field part →
    Text.isBlankText part.id = false

lemma extent_of_ofParts {name : String} {width height : Int} {fields : Keyed Field}
    {template : Template}
    (h : Template.ofParts name (.int width) (.int height) fields = .ok template) :
    0 < width ∧ 0 < height ∧ template.width = .int width ∧ template.height = .int height := by
  rw [Template.ofParts] at h
  split at h
  · cases h
  · rename_i harea
    obtain ⟨⟨⟩, -, h⟩ := bind_eq_ok.mp h
    obtain rfl := pure_eq_ok.mp h
    have hle (n : Int) : Number.le (.int n) 0 = decide (n ≤ 0) := rfl
    rw [hle, hle, Bool.or_eq_true, decide_eq_true_iff, decide_eq_true_iff] at harea
    exact ⟨by omega, by omega, rfl, rfl⟩

lemma forall₂_readFields {raw : Keyed Value} {fields : Keyed Field}
    (h : Template.readFields raw = .ok fields) :
    List.Forall₂ (fun entry field => Field.read entry.1 entry.2 = .ok field ∧
      field.id = entry.1 ∧ Describes entry.1 entry.2 field) raw (fields.map Prod.snd) := by
  rw [List.forall₂_map_right_iff]
  refine (mapM_eq_ok.mp h).imp fun entry read hread => ?_
  obtain ⟨field, hfield, hread⟩ := bind_eq_ok.mp hread
  obtain rfl := pure_eq_ok.mp hread
  exact ⟨hfield, read_id hfield, describes_of_read _ _ _ hfield⟩

/-- Every template that is read is made of what its document declares, with ids that are not blank
at any depth. -/
theorem template_parts {payload : Value} {name? : Option String} {template : Template}
    (h : Template.read payload name? = .ok template) :
    ∃ entries, payload = .object entries ∧ DescribedBy entries template := by
  cases payload with
  | object entries =>
    obtain ⟨raw, hraw, h⟩ := bind_eq_ok.mp h
    obtain ⟨width, -, h⟩ := bind_eq_ok.mp h
    obtain ⟨height, -, h⟩ := bind_eq_ok.mp h
    obtain ⟨fields, hfields, h⟩ := bind_eq_ok.mp h
    obtain ⟨hwidth, hheight, hw, hh⟩ := extent_of_ofParts h
    obtain ⟨-, rfl⟩ := ofParts_eq_ok h
    have hall := forall₂_readFields hfields
    refine ⟨entries, rfl, ⟨width, height, hw, hh, hwidth, hheight⟩,
      ⟨raw, expectObject_eq_ok.mp hraw, readFields_keys hfields, hall⟩, fun field hm part hr => ?_⟩
    obtain ⟨entry, -, -, -, hdescribes⟩ := exists_of_forall₂ hall.flip hm
    exact hdescribes.reached hr
  | _ => cases h

/-- A list in a list, at whose end stands a picture with a credit, and pictures in groups. -/
def harbour : Keyed Value := [
  ("width", .int 40), ("height", .int 30), ("fields", .object [
    ("prices", .object [
      ("type", .text "key-val-list"), ("keyValSpec", .object []),
      ("additionalElements", .list [
        .object [("type", .text "line")],
        .object [
          ("type", .text "key-val-list"), ("keyValSpec", .object []),
          ("additionalElements", .list [
            .object [("type", .text "image"),
              ("credit", .object [("color", .text "red")])]])]])]),
    ("views", .object [
      ("type", .text "multi-image"),
      ("specs", .list [
        .list [.object [("id", .text "quay")]],
        .list [.object [], .object [("credit", .object [("color", .text "red")])]]])])])]

def harbourPicture : ImageField where
  id := "prices.additionalElements[1].additionalElements[0]"
  credit := some {
    id := "prices.additionalElements[1].additionalElements[0].credit"
    style := { color := some "red" } }

def harbourPrices : Field :=
  .keyValList { id := "prices" } (.real 0) (.real 0) { id := "prices.keyValSpec" } [
    .line { id := "prices.additionalElements[0]" },
    .keyValList { id := "prices.additionalElements[1]" } (.real 0) (.real 0)
      { id := "prices.additionalElements[1].keyValSpec" } [.image harbourPicture]]

def harbourViews : Field := .multiImage { id := "views" } [
  [{ id := "quay" }],
  [{ id := "views.0" },
    { id := "views.1"
      credit := some { id := "views.1.credit", style := { color := some "red" } } }]]

def harbourTemplate : Template where
  name := ""
  width := 40
  height := 30
  fields := [("prices", harbourPrices), ("views", harbourViews)]

lemma harbour_read : Template.read (.object harbour) = .ok harbourTemplate := by
  with_unfolding_all rfl

theorem harbour_parts : Template.read (.object harbour) = .ok harbourTemplate ∧
    DescribedBy harbour harbourTemplate ∧
    Text.isBlankText "prices.additionalElements[1].additionalElements[0].credit" = false := by
  obtain ⟨entries, hentries, hparts⟩ := template_parts harbour_read
  obtain rfl := Value.object.inj hentries
  have hlist : Reaches (.image harbourPicture) (.credit _) := .credit rfl
  have hprices : Reaches harbourPrices (.credit _) :=
    .extra (List.mem_cons_of_mem _ List.mem_cons_self) (.extra List.mem_cons_self hlist)
  exact ⟨harbour_read, hparts, hparts.reached harbourPrices List.mem_cons_self _ hprices⟩

end CardDrawing.Proofs
