import CardDrawing.Proofs.Outcomes
import CardDrawing.Svg.Reader

/-!
# Groups in vector documents

A document shows the shapes of all its elements in the order of the document, however deep they
stand. What elements are grouped in, and the name spaces of their names, do not count.
-/

namespace CardDrawing

namespace Xml.Element

/-- The element that is reached by going on to the child of each number in turn. -/
def at? : Element → List Nat → Option Element
  | e, [] => some e
  | e, i :: path => e.children[i]?.bind fun child => child.at? path

@[simp] lemma at?_nil (e : Element) : e.at? [] = some e := by cases e; rfl

lemma at?_cons (e : Element) (i : Nat) (path : List Nat) :
    e.at? (i :: path) = e.children[i]?.bind (·.at? path) := rfl

lemma allIn_append (es es' : List Element) : allIn (es ++ es') = allIn es ++ allIn es' := by
  induction es with
  | nil => rfl
  | cons e es ih => rw [List.cons_append, allIn, allIn, ih, List.append_assoc]

end Xml.Element

namespace Svg
open Xml (Element Attributes)

/-- The names of the elements that draw shapes. -/
def shapeNames : List String := ["rect", "circle", "ellipse", "line", "polygon", "polyline"]

/-- An element of any other name only holds elements together. -/
def IsGroup (name : Xml.Name) : Prop := name.label ∉ shapeNames

/-- Siblings of which some are put into a group, or one of which has its name in another name space;
or the same among the children of one. -/
inductive Regroups : List Element → List Element → Prop where
  | grouped {name : Xml.Name} (h : IsGroup name) (attributes : Attributes)
      (before run after : List Element) :
      Regroups (before ++ run ++ after) (before ++ .node name attributes run :: after)
  | respaced {name name' : Xml.Name} (h : name'.label = name.label) (attributes : Attributes)
      (before children after : List Element) :
      Regroups (before ++ .node name attributes children :: after)
        (before ++ .node name' attributes children :: after)
  | within {children children' : List Element} (h : Regroups children children') (name : Xml.Name)
      (attributes : Attributes) (before after : List Element) :
      Regroups (before ++ .node name attributes children :: after)
        (before ++ .node name attributes children' :: after)

/-- A document with the elements below its root regrouped any number of times, and its root perhaps
in another name space. -/
structure Regrouped (root root' : Element) : Prop where
  label : root'.name.label = root.name.label
  attributes : root'.attributes = root.attributes
  children : Relation.EqvGen Regroups root.children root'.children

/-- The shapes that elements draw, each with the path to its element: the elements come before those
within them, and these before those that follow. -/
structure DrawnInOrder (root : Element) (drawn : List (List Nat × Shape Float)) : Prop where
  ordered : drawn.Pairwise fun a b => a.1 < b.1
  complete : ∀ path shape, (path, shape) ∈ drawn ↔
    ∃ e, root.at? path = some e ∧ readShape? e = .ok (some shape)

end Svg

namespace Proofs
open Svg
open Xml (Element Attributes)

/-! ## The order of elements -/

/-- Elements with the paths that lead to them, in order. -/
structure Places (reached : List Nat → Option Element) (places : List (List Nat × Element)) :
    Prop where
  ordered : places.Pairwise fun a b => a.1 < b.1
  complete : ∀ path e, (path, e) ∈ places ↔ reached path = some e

/-- What is reached by going on from siblings of which the first has the number `first`. -/
def reachedFrom (siblings : List Element) (first : Nat) : List Nat → Option Element
  | [] => none
  | i :: path => if first ≤ i then siblings[i - first]?.bind (·.at? path) else none

lemma reachedFrom_cons (e : Element) (rest : List Element) (first i : Nat) (path : List Nat) :
    reachedFrom (e :: rest) first (i :: path) =
      if i = first then e.at? path else reachedFrom rest (first + 1) (i :: path) := by
  dsimp only [reachedFrom]
  rcases Nat.lt_trichotomy i first with hi | rfl | hi
  · rw [if_neg (by omega), if_neg (by omega), if_neg (by omega)]
  · rw [if_pos le_rfl, if_pos rfl, Nat.sub_self]
    rfl
  · have hnext : i - first = (i - (first + 1)) + 1 := by omega
    rw [if_pos hi.le, if_neg hi.ne', if_pos (Nat.succ_le_of_lt hi), hnext, List.getElem?_cons_succ]

/-- The places within an element come before those within the siblings after it. -/
lemma places_cons {e : Element} {rest : List Element} {first : Nat}
    {own others : List (List Nat × Element)} (hown : Places e.at? own)
    (hothers : Places (reachedFrom rest (first + 1)) others) :
    Places (reachedFrom (e :: rest) first)
      (own.map (fun place => (first :: place.1, place.2)) ++ others) := by
  constructor
  · refine List.pairwise_append.mpr ⟨?_, hothers.ordered, ?_⟩
    · rw [List.pairwise_map]
      exact hown.ordered.imp fun hlt => List.cons_lt_cons_self.mpr hlt
    · rintro _ ha ⟨path, e'⟩ hb
      obtain ⟨place, -, rfl⟩ := List.mem_map.mp ha
      have hpath := (hothers.complete path e').mp hb
      cases path with
      | nil => cases hpath
      | cons i path =>
        by_cases hi : first + 1 ≤ i
        · exact List.cons_lt_cons_iff.mpr (.inl hi)
        · rw [reachedFrom, if_neg hi] at hpath
          cases hpath
  · intro path e'
    rw [List.mem_append, hothers.complete, List.mem_map]
    cases path with
    | nil => simp [reachedFrom]
    | cons i path =>
      rw [reachedFrom_cons]
      by_cases hi : i = first
      · subst hi
        have hbelow : reachedFrom rest (i + 1) (i :: path) = none := if_neg (by omega)
        simp [hbelow, hown.complete]
      · simp [hi, Ne.symm hi]

mutual

lemma exists_places : (e : Element) → ∃ places, Places e.at? places ∧ places.map Prod.snd = e.all
  | .node name attributes children => by
    obtain ⟨below, hbelow, hall⟩ := exists_placesIn children 0
    refine ⟨([], .node name attributes children) :: below, ⟨?_, ?_⟩, ?_⟩
    · refine List.pairwise_cons.mpr ⟨?_, hbelow.ordered⟩
      rintro ⟨path, e⟩ he
      have hpath := (hbelow.complete path e).mp he
      cases path with
      | nil => cases hpath
      | cons i path => exact List.nil_lt_cons i path
    · intro path e
      rw [List.mem_cons, hbelow.complete]
      cases path with
      | nil => simp [reachedFrom, eq_comm]
      | cons i path => simp [reachedFrom, Element.at?_cons, Element.children]
    · rw [List.map_cons, hall, Element.all]

lemma exists_placesIn : (siblings : List Element) → (first : Nat) →
    ∃ places, Places (reachedFrom siblings first) places ∧
      places.map Prod.snd = Element.allIn siblings
  | [], first => by
    refine ⟨[], ⟨.nil, fun path e => ?_⟩, rfl⟩
    cases path with
    | nil => simp [reachedFrom]
    | cons i path => simp [reachedFrom]
  | e :: rest, first => by
    -- the siblings that are left are numbered from the next number on
    obtain ⟨own, hown, hall⟩ := exists_places e
    obtain ⟨others, hothers, hrest⟩ := exists_placesIn rest (first + 1)
    refine ⟨_, places_cons hown hothers, ?_⟩
    rw [List.map_append, List.map_map, hrest, Element.allIn, ← hall]
    rfl

end

lemma mem_all {root e : Element} : e ∈ root.all ↔ ∃ path, root.at? path = some e := by
  obtain ⟨places, hplaces, hall⟩ := exists_places root
  rw [← hall, List.mem_map]
  constructor
  · rintro ⟨⟨path, e⟩, hmem, rfl⟩
    exact ⟨path, (hplaces.complete path e).mp hmem⟩
  · rintro ⟨path, hpath⟩
    exact ⟨(path, e), (hplaces.complete path e).mpr hpath, rfl⟩

/-! ## The shapes of elements -/

/-- The shapes that elements draw, one after another. -/
def shapesOf (es : List Element) : Except Error (List (Shape Float)) :=
  (·.filterMap id) <$> es.mapM readShape?

lemma ofElement_eq (root : Element) : Document.ofElement root =
    if root.name.label = "svg" then do
      let width := (root.attributes.get? "width").bind length?
      let height := (root.attributes.get? "height").bind length?
      let viewBox := ((root.attributes.get? "viewBox").bind viewBox?).getD
        { x := 0, y := 0, width := defaultSide width, height := defaultSide height }
      let shapes ← shapesOf root.all
      return { width := width.getD viewBox.width, height := height.getD viewBox.height, viewBox,
               shapes }
    else .error (.svgRoot root.name.label) := by
  unfold Document.ofElement shapesOf
  by_cases h : root.name.label = "svg"
  · rw [if_pos h, if_neg (not_not_intro h)]
    simp only [bind_map_left]
  · rw [if_neg h, if_pos h]
    rfl

lemma ofElement_eq_ok {root : Element} {d : Document Float} (h : Document.ofElement root = .ok d) :
    shapesOf root.all = .ok d.shapes := by
  rw [ofElement_eq] at h
  split_ifs at h with hlabel
  obtain ⟨shapes, hshapes, h⟩ := bind_eq_ok.mp h
  obtain rfl := pure_eq_ok.mp h
  exact hshapes

lemma ofElement_isOk_iff {root : Element} : (∃ d, Document.ofElement root = .ok d) ↔
    root.name.label = "svg" ∧ ∃ shapes, shapesOf root.all = .ok shapes := by
  constructor
  · rintro ⟨d, h⟩
    refine ⟨?_, d.shapes, ofElement_eq_ok h⟩
    by_contra hlabel
    rw [ofElement_eq, if_neg hlabel] at h
    cases h
  · rintro ⟨hlabel, shapes, hshapes⟩
    rw [ofElement_eq, if_pos hlabel, hshapes]
    exact ⟨_, rfl⟩

/-- The shape that an element draws, as far as it can be read. -/
def shapeOf? (e : Element) : Option (Shape Float) := (readShape? e).toOption.join

lemma shapeOf?_eq_some {e : Element} {shape : Shape Float} :
    shapeOf? e = some shape ↔ readShape? e = .ok (some shape) := by
  unfold shapeOf?
  cases h : readShape? e with
  | ok shape? => simp [Except.toOption]
  | error why => simp [Except.toOption]

lemma shapesOf_eq_ok {es : List Element} {shapes : List (Shape Float)}
    (h : shapesOf es = .ok shapes) : shapes = es.filterMap shapeOf? := by
  obtain ⟨read, hread, rfl⟩ := map_eq_ok.mp h
  have hmap : read.map id = es.map shapeOf? := mapM_map_eq hread fun e shape? he => by
    rw [shapeOf?, he]
    rfl
  rw [List.map_id] at hmap
  rw [hmap, List.filterMap_map]
  rfl

lemma drawnInOrder (root : Element) :
    ∃ drawn, DrawnInOrder root drawn ∧ drawn.map Prod.snd = root.all.filterMap shapeOf? := by
  obtain ⟨places, hplaces, hall⟩ := exists_places root
  refine ⟨places.filterMap fun place => (shapeOf? place.2).map fun shape => (place.1, shape),
    ⟨?_, ?_⟩, ?_⟩
  · rw [List.pairwise_filterMap]
    refine hplaces.ordered.imp fun hlt a ha b hb => ?_
    obtain ⟨shape, -, rfl⟩ := Option.map_eq_some_iff.mp ha
    obtain ⟨shape', -, rfl⟩ := Option.map_eq_some_iff.mp hb
    exact hlt
  · intro path shape
    rw [List.mem_filterMap]
    constructor
    · rintro ⟨⟨path', e⟩, hmem, h⟩
      obtain ⟨shape', hshape, h⟩ := Option.map_eq_some_iff.mp h
      obtain ⟨rfl, rfl⟩ := Prod.mk.inj h
      exact ⟨e, (hplaces.complete _ _).mp hmem, shapeOf?_eq_some.mp hshape⟩
    · rintro ⟨e, he, hshape⟩
      exact ⟨(path, e), (hplaces.complete _ _).mpr he, by rw [shapeOf?_eq_some.mpr hshape]; rfl⟩
  · rw [List.map_filterMap, ← hall, List.filterMap_map]
    refine List.filterMap_congr fun place _ => ?_
    change ((shapeOf? place.2).map _).map Prod.snd = shapeOf? place.2
    cases shapeOf? place.2 <;> rfl

/-! ## Groups -/

lemma readShape?_congr {e e' : Element} (hlabel : e'.name.label = e.name.label)
    (hattributes : e'.attributes = e.attributes) : readShape? e' = readShape? e := by
  unfold readShape?
  rw [hlabel, hattributes]

lemma outline?_eq_none {label : String} (h : label ∉ shapeNames) (attributes : Attributes) :
    outline? label attributes = none := by
  unfold outline?
  split
  case h_7 => rfl
  all_goals exact absurd (by decide) h

lemma readShape?_group {name : Xml.Name} (h : IsGroup name) (attributes : Attributes)
    (children : List Element) : readShape? (.node name attributes children) = .ok none := by
  have hnone : outline? (Element.node name attributes children).name.label
      (Element.node name attributes children).attributes = none := outline?_eq_none h attributes
  rw [readShape?, hnone]

lemma shapesOf_append (es es' : List Element) :
    shapesOf (es ++ es') = do return (← shapesOf es) ++ (← shapesOf es') := by
  unfold shapesOf
  rw [List.mapM_append]
  simp only [map_bind, map_pure, List.filterMap_append, bind_map_left]

lemma shapesOf_cons (e : Element) (es : List Element) :
    shapesOf (e :: es) = do return (← shapesOf [e]) ++ (← shapesOf es) :=
  shapesOf_append [e] es

/-- A group adds no shape to those within it. -/
lemma shapesOf_group {name : Xml.Name} (h : IsGroup name) (attributes : Attributes)
    (children : List Element) :
    shapesOf (Element.all (.node name attributes children)) =
      shapesOf (Element.allIn children) := by
  have hown : shapesOf [.node name attributes children] = .ok [] := by
    rw [shapesOf, List.mapM_cons, readShape?_group h]
    rfl
  rw [Element.all, shapesOf_cons, hown]
  cases shapesOf (Element.allIn children) <;> rfl

/-- The name space of an element does not count for its shapes. -/
lemma shapesOf_respaced {name name' : Xml.Name} (h : name'.label = name.label)
    (attributes : Attributes) (children : List Element) :
    shapesOf (Element.all (.node name' attributes children)) =
      shapesOf (Element.all (.node name attributes children)) := by
  have hread : readShape? (.node name' attributes children) =
      readShape? (.node name attributes children) := readShape?_congr h rfl
  have hown : shapesOf [.node name' attributes children] =
      shapesOf [.node name attributes children] := by
    rw [shapesOf, shapesOf, List.mapM_cons, List.mapM_cons, hread]
  rw [Element.all, Element.all, shapesOf_cons, shapesOf_cons (.node name attributes children), hown]

/-- What is within an element counts by its shapes alone. -/
lemma shapesOf_within (name : Xml.Name) (attributes : Attributes)
    {children children' : List Element}
    (h : shapesOf (Element.allIn children') = shapesOf (Element.allIn children)) :
    shapesOf (Element.all (.node name attributes children')) =
      shapesOf (Element.all (.node name attributes children)) := by
  have hread : readShape? (.node name attributes children') =
      readShape? (.node name attributes children) := readShape?_congr rfl rfl
  have hown : shapesOf [.node name attributes children'] =
      shapesOf [.node name attributes children] := by
    rw [shapesOf, shapesOf, List.mapM_cons, List.mapM_cons, hread]
  rw [Element.all, Element.all, shapesOf_cons, shapesOf_cons (.node name attributes children), hown,
    h]

lemma shapesOf_regroups {es es' : List Element} (h : Regroups es es') :
    shapesOf (Element.allIn es') = shapesOf (Element.allIn es) := by
  induction h with
  | grouped h attributes before run after =>
    rw [List.append_assoc]
    simp only [Element.allIn_append, Element.allIn, shapesOf_append, shapesOf_group h]
  | respaced h attributes before children after =>
    simp only [Element.allIn_append, Element.allIn, shapesOf_append, shapesOf_respaced h]
  | within _ name attributes before after ih =>
    simp only [Element.allIn_append, Element.allIn, shapesOf_append,
      shapesOf_within name attributes ih]

lemma shapesOf_regrouped {es es' : List Element} (h : Relation.EqvGen Regroups es es') :
    shapesOf (Element.allIn es') = shapesOf (Element.allIn es) := by
  induction h with
  | rel es es' h => exact shapesOf_regroups h
  | refl es => rfl
  | symm es es' _ ih => exact ih.symm
  | trans es es' es'' _ _ ih ih' => exact ih'.trans ih

lemma ofElement_regrouped {root root' : Element} (h : Regrouped root root') :
    Document.ofElement root' = Document.ofElement root := by
  obtain ⟨name, attributes, children⟩ := root
  obtain ⟨name', attributes', children'⟩ := root'
  obtain ⟨hlabel, hattributes, hchildren⟩ := h
  obtain rfl : attributes' = attributes := hattributes
  have hshapes : shapesOf (Element.all (.node name' attributes' children')) =
      shapesOf (Element.all (.node name attributes' children)) :=
    (shapesOf_respaced hlabel attributes' children').trans
      (shapesOf_within name attributes' (shapesOf_regrouped hchildren))
  rw [ofElement_eq, ofElement_eq, hshapes, hlabel]
  rfl

/-- A document shows exactly the shapes that its elements draw, in the order of the document, and is
one whenever all its elements can be read; other groups and other name spaces make no difference to
it. -/
theorem grouping_transparent (root : Element) :
    ((∃ d, Document.ofElement root = .ok d) ↔ root.name.label = "svg" ∧
      ∀ path e, root.at? path = some e → ∃ shape?, readShape? e = .ok shape?) ∧
    (∀ d, Document.ofElement root = .ok d →
      ∃ drawn, DrawnInOrder root drawn ∧ d.shapes = drawn.map Prod.snd) ∧
    ∀ root', Regrouped root root' → Document.ofElement root' = Document.ofElement root := by
  refine ⟨?_, fun d hd => ?_, fun root' => ofElement_regrouped⟩
  · rw [ofElement_isOk_iff]
    refine and_congr_right fun _ => ?_
    have hshapes : (∃ shapes, shapesOf root.all = .ok shapes) ↔
        ∃ read, root.all.mapM readShape? = .ok read := by
      unfold shapesOf
      simp only [map_eq_ok, exists_comm (α := List (Shape Float)), exists_and_left, exists_eq',
        and_true]
    rw [hshapes, mapM_isOk_iff]
    simp only [mem_all, forall_exists_index]
    exact forall_comm
  · obtain ⟨drawn, hdrawn, hshapes⟩ := drawnInOrder root
    exact ⟨drawn, hdrawn, (shapesOf_eq_ok (ofElement_eq_ok hd)).trans hshapes.symm⟩

/-! ## A coat of arms -/

def escutcheon : Element := .node ⟨"", "rect"⟩ [(⟨"", "width"⟩, "6"), (⟨"", "height"⟩, "8")] []

/-- A disc, with its name in a name space. -/
def roundel (space : String) : Element :=
  .node ⟨space, "circle"⟩ [(⟨"", "r"⟩, "2"), (⟨"", "opacity"⟩, "0.5")] []

/-- A shield with a disc in a group. -/
def blazon : Element :=
  .node ⟨"", "svg"⟩ [] [escutcheon, .node ⟨"", "g"⟩ [(⟨"", "id"⟩, "charge")] [roundel ""]]

/-- The same shield without the group, with other name spaces. -/
def blazonPlain (space : String) : Element :=
  .node ⟨space, "svg"⟩ [] [escutcheon, roundel space]

lemma blazon_regrouped (space : String) : Regrouped blazon (blazonPlain space) where
  label := rfl
  attributes := rfl
  children := by
    have hgroup : IsGroup ⟨"", "g"⟩ := show "g" ∉ shapeNames by decide
    have hlabel : (⟨space, "circle"⟩ : Xml.Name).label = (⟨"", "circle"⟩ : Xml.Name).label := rfl
    have hungrouped : Regroups [escutcheon, roundel ""] blazon.children :=
      .grouped hgroup _ [escutcheon] [roundel ""] []
    have hrespaced : Regroups [escutcheon, roundel ""] [escutcheon, roundel space] :=
      .respaced hlabel _ [escutcheon] [] []
    exact .trans _ _ _ (.symm _ _ (.rel _ _ hungrouped)) (.rel _ _ hrespaced)

theorem blazon_transparent : ∃ d, Document.ofElement blazon = .ok d ∧ d.shapes.length = 2 ∧
    (∃ drawn, DrawnInOrder blazon drawn ∧ d.shapes = drawn.map Prod.snd) ∧
    Document.ofElement (blazonPlain "http://www.w3.org/2000/svg") = .ok d := by
  obtain ⟨-, hdrawn, hregrouped⟩ := grouping_transparent blazon
  have hcount : (Document.ofElement blazon).toOption.map (·.shapes.length) = some 2 := by
    decide +kernel
  cases hd : Document.ofElement blazon with
  | error why =>
    rw [hd] at hcount
    cases hcount
  | ok d =>
    rw [hd] at hcount
    exact ⟨d, rfl, Option.some.inj hcount, hdrawn d hd,
      (hregrouped _ (blazon_regrouped _)).trans hd⟩

end Proofs

end CardDrawing
