import CardDrawing.Paint.Bench
import CardDrawing.Proofs.NumberFailures

/-!
# How painting fails

Whatever is painted, painting fails for its numbers, its colors or its places alone.
-/

namespace CardDrawing.Proofs

/-- The kinds of errors that painting comes to. -/
def isPaintKind : ErrorKind → Bool
  | .value | .overflow | .zeroDivision | .missingAttribute => true
  | _ => false

/-- A number does not convert or is divided by zero, a color cannot be read, or a place does not
fit. -/
def Unpaintable (why : Error) : Prop := isPaintKind why.kind = true

/-- Painting with these steps fails in no other way. -/
abbrev Paints {α : Type} (x : Except Error α) : Prop := FailsOnly Unpaintable x

/-- No check that is internal comes to an error of such a kind. -/
lemma Unpaintable.regular {why : Error} (h : Unpaintable why) : Regular why := by
  cases why with
  | keyMismatch => cases h
  | invalidTag => cases h
  | unsupportedChoiceIndex => cases h
  | unsupportedPrimitive => cases h
  | choiceOfField => cases h
  | _ => rfl

/-! ## Numbers and colors -/

section

variable (a b n : Number)

lemma TooLarge.unpaintable {why : Error} (h : TooLarge why) : Unpaintable why := by
  obtain rfl := h.eq
  rfl

lemma Endless.unpaintable {why : Error} (h : Endless why) : Unpaintable why := by
  cases h with
  | nan => rfl
  | infinity => rfl

lemma paints_wholeWith (f : Int → Int → Int) (x : Float) : Paints (Number.wholeWith f x) :=
  (wholeWith_endless f x).imp fun _ => Endless.unpaintable

lemma paints_round : Paints n.round := (round_endless n).imp fun _ => Endless.unpaintable

lemma paints_truncate : Paints n.truncate := (truncate_endless n).imp fun _ => Endless.unpaintable

lemma paints_toFloat : Paints n.toFloat := (toFloat_tooLarge n).imp fun _ => TooLarge.unpaintable

lemma paints_add : Paints (a.add b) := (add_tooLarge a b).imp fun _ => TooLarge.unpaintable

lemma paints_sub : Paints (a.sub b) := (sub_tooLarge a b).imp fun _ => TooLarge.unpaintable

lemma paints_mul : Paints (a.mul b) := (mul_tooLarge a b).imp fun _ => TooLarge.unpaintable

lemma paints_div : Paints (a.div b) := by
  unfold Number.div
  split
  · refine .ite (fun _ => .error rfl) fun _ => ?_
    exact .ite (fun _ => .error rfl) fun _ => .ok
  · refine .bind (paints_toFloat _) fun x _ => .bind (paints_toFloat _) fun y _ => ?_
    exact .ite (fun _ => .error rfl) fun _ => .ok

end

lemma paints_color (color : Value) (default : Rgba) : Paints (Color.read color default) := by
  cases color with
  | null => exact .ok
  | text s =>
    refine .ite (fun _ => .ok) fun _ => ?_
    split
    · exact .ok
    · exact .error rfl
  | _ => exact .error rfl

/-! ## Geometry -/

lemma paints_cover (x1 y1 x2 y2 width : Number) : Paints (Stroke.cover x1 y1 x2 y2 width) := by
  refine .bind (paints_round width) fun _ _ => .bind (paints_truncate _) fun left _ => ?_
  refine .bind (paints_truncate _) fun top _ => .bind (paints_truncate _) fun right _ => ?_
  exact .bind (paints_truncate _) fun bottom _ => .ok

lemma paints_inside (s : Stroke) (x y : Number) : Paints (s.inside x y) :=
  .bind (paints_sub _ _) fun _ _ => .bind (paints_sub _ _) fun _ _ => .ok

lemma paints_centered (imageW imageH ratio : Number) :
    Paints (Crop.centered imageW imageH ratio) := by
  refine .bind (paints_div _ _) fun imageRatio _ => .ite (fun _ => ?_) fun _ => ?_
  · refine .bind (paints_div _ _) fun height _ => .bind (paints_sub _ _) fun rest _ => ?_
    exact .bind (paints_div _ _) fun y _ => .ok
  · refine .bind (paints_mul _ _) fun width _ => .bind (paints_sub _ _) fun rest _ => ?_
    exact .bind (paints_div _ _) fun x _ => .ok

lemma paints_zoomed (ratio : Number) (zoom : Option Number) (w : Crop.Window Number) :
    Paints (Crop.zoomed ratio zoom w) := by
  unfold Crop.zoomed
  split
  · exact .ok
  · refine .bind (paints_mul _ _) fun share _ => .bind (paints_div _ _) fun less _ => ?_
    exact .bind (paints_sub _ _) fun height _ => .bind (paints_mul _ _) fun width _ => .ok

lemma paints_panned (start extent : Number) (pan : Option Number) :
    Paints (Crop.panned start extent pan) := by
  unfold Crop.panned
  split
  · exact .ok
  · refine .bind (paints_mul _ _) fun share _ => .bind (paints_div _ _) fun moved _ => ?_
    exact paints_add _ _

lemma paints_crop (imageW imageH targetW targetH : Number) (zoom panX panY : Option Number) :
    Paints (Crop.cover imageW imageH targetW targetH zoom panX panY) := by
  refine .bind (paints_div _ _) fun ratio _ => .bind (paints_centered _ _ _) fun w _ => ?_
  refine .bind (paints_zoomed _ _ _) fun w _ => .bind (paints_panned _ _ _) fun x _ => ?_
  refine .bind (paints_panned _ _ _) fun y _ => .bind (paints_add _ _) fun right _ => ?_
  exact .bind (paints_add _ _) fun bottom _ => .ok

lemma paints_extent (first : Float) (rest : List Float) : Paints (Turn.extent first rest) :=
  .bind (.map _ (paints_wholeWith _ _)) fun _ _ => .bind (paints_wholeWith _ _) fun _ _ => .ok

lemma paints_size (degrees : Float) (w h : Nat) : Paints (Turn.size degrees w h) := by
  refine .ite (fun _ => .ok) fun _ => .ite (fun _ => .ok) fun _ => ?_
  exact .bind (paints_extent _ _) fun width _ => .bind (paints_extent _ _) fun height _ => .ok

/-! ## Plans -/

/-- Planning with these steps fails in no other way, whatever has been planned before. -/
def Plans {κ α : Type} (steps : Trace κ α) : Prop :=
  ∀ log, Paints (StateT.run (ExceptT.run steps) log).1

namespace Plans

variable {κ α β : Type}

lemma pure (a : α) : Plans (pure a : Trace κ α) := fun _ => .ok

lemma lift {x : Except Error α} (h : Paints x) : Plans (Trace.lift x : Trace κ α) := fun _ => h

lemma record (event : κ) : Plans (Trace.record event) := fun _ => .ok

lemma bind {steps : Trace κ α} {f : α → Trace κ β} (hs : Plans steps) (hf : ∀ a, Plans (f a)) :
    Plans (steps >>= f) := by
  intro log
  have hlog := hs log
  rw [ExceptT.run_bind, StateT.run_bind]
  generalize StateT.run (ExceptT.run steps) log = r at hlog ⊢
  obtain ⟨_ | a, log'⟩ := r
  · exact .error (hlog _ rfl)
  · exact hf a log'

lemma ite {p : Prop} [Decidable p] {steps steps' : Trace κ α} (h : p → Plans steps)
    (h' : ¬ p → Plans steps') : Plans (if p then steps else steps') := by
  split
  · exact h ‹p›
  · exact h' ‹¬ p›

/-- A record that is only made under a condition. -/
lemma recordIf {p : Prop} [Decidable p] {event : κ} {f : Unit → Trace κ β} (hf : ∀ u, Plans (f u)) :
    Plans (if p then Trace.record event >>= f else f ()) :=
  .ite (fun _ => .bind (.record event) hf) fun _ => hf ()

lemma forM {f : α → Trace κ Unit} (l : List α) (h : ∀ a, Plans (f a)) : Plans (l.forM f) := by
  induction l with
  | nil => exact Plans.pure ()
  | cons a l ih => exact (h a).bind fun _ => ih

lemma embed {κ' : Type} {f : κ → κ'} {steps : Trace κ α} (h : Plans steps) :
    Plans (Trace.embed f steps) :=
  fun _ => h []

end Plans

lemma plans_color (p : ColorPrimitive) : Plans (Plan.color p) := by
  refine .bind (.lift (paints_round _)) fun x => .bind (.lift (paints_round _)) fun y => ?_
  refine .bind (.lift (paints_round _)) fun width => .bind (.lift (paints_round _)) fun height => ?_
  exact .bind (.lift (paints_color _ _)) fun color => .record _

lemma plans_line (p : LinePrimitive) : Plans (Plan.line p) := by
  refine .bind (.lift (paints_cover _ _ _ _ _)) fun s => .bind (.record _) fun _ => ?_
  refine .bind (.lift (paints_inside _ _ _)) fun start => ?_
  refine .bind (.lift (paints_inside _ _ _)) fun stop => .bind (.record _) fun _ => ?_
  exact .bind (.lift (paints_color _ _)) fun color => .record _

lemma plans_piece (metrics : Metrics) (color : Rgba) (p : Wrap.Piece Float) :
    Plans (Plan.piece metrics color p) := by
  refine .ite (fun _ => .pure ()) fun _ => ?_
  refine .bind (.lift (paints_truncate _)) fun columns => ?_
  refine .bind (.lift (paints_truncate _)) fun rows => ?_
  refine .bind (.record _) fun _ => .bind (.record _) fun _ => ?_
  refine .bind (.lift (paints_round _)) fun x => .bind (.lift (paints_round _)) fun y => ?_
  exact .record _

lemma plans_text (metrics : Font → Metrics) (p : TextPrimitive) : Plans (Plan.text metrics p) := by
  have hsize : Paints (p.fontSize.mapM Number.toFloat) := by
    cases p.fontSize with
    | none => exact .ok
    | some size => exact .map _ (paints_toFloat size)
  refine .ite (fun _ => .pure ()) fun _ => ?_
  refine .bind (.lift hsize) fun size => .bind (.record _) fun _ => ?_
  refine .bind (.lift (paints_color _ _)) fun color => ?_
  refine .bind (.lift (paints_toFloat _)) fun x => .bind (.lift (paints_toFloat _)) fun y => ?_
  exact .forM _ fun piece => plans_piece _ _ piece

lemma plans_target? (b : Box) : Plans (Plan.target? b) :=
  .bind (.lift (paints_round _)) fun _ => .bind (.lift (paints_round _)) fun _ => .pure _

lemma plans_place (b : Box) (width height : Nat) : Plans (Plan.place b width height) :=
  .bind (.lift (paints_round _)) fun _ => .bind (.lift (paints_round _)) fun _ => .record _

lemma plans_rotate (rotation : Option Number) (width height : Nat) :
    Plans (Plan.rotate rotation width height) := by
  unfold Plan.rotate
  split
  · exact .pure _
  · refine .bind (.lift (paints_toFloat _)) fun degrees => ?_
    exact .bind (.lift (paints_size _ _ _)) fun size => .bind (.record _) fun _ => .pure _

lemma plans_picture (p : ImagePrimitive) (width height : Nat) :
    Plans (Plan.picture p width height) := by
  refine .bind (plans_target? _) fun target => ?_
  split
  · exact .pure ()
  · refine .bind (.record _) fun _ => .bind (plans_rotate _ _ _) fun size => ?_
    dsimp only
    refine .recordIf fun _ => .recordIf fun _ => ?_
    refine .bind (.lift (paints_toFloat _)) fun targetW => ?_
    refine .bind (.lift (paints_toFloat _)) fun targetH => ?_
    refine .bind (.lift (paints_crop _ _ _ _ _ _ _)) fun box => .bind (.record _) fun _ => ?_
    exact plans_place _ _ _

lemma plans_stretched (b : Box) : Plans (Plan.stretched b) := by
  refine .bind (plans_target? _) fun target => ?_
  split
  · exact .pure ()
  · refine .bind (.record _) fun _ => .bind (.record _) fun _ => .bind (.record _) fun _ => ?_
    exact plans_place _ _ _

lemma plans_shape (projection : Svg.Projection Float) (shape : Svg.Shape Float) :
    Plans (shape.draw projection) := by
  refine .bind (.lift ?_) fun width => ?_
  · unfold Svg.Projection.strokeWidth
    split
    · exact .ok
    · exact .map _ (paints_round _)
  · split
    · exact .record _
    · exact .pure ()

lemma plans_document (b : Box) (d : Svg.Document Float) : Plans (Plan.document b d) := by
  refine .bind (plans_target? _) fun target => ?_
  split
  · exact .pure ()
  · refine .bind (.record _) fun _ => .bind (.embed ?_) fun _ => plans_place _ _ _
    exact .forM _ fun shape => plans_shape _ shape

lemma plans_primitive (metrics : Font → Metrics) (resource : Drawable) (p : Primitive) :
    Plans (p.plan metrics resource) := by
  cases p with
  | color p => exact plans_color p
  | line p => exact plans_line p
  | text p => exact plans_text metrics p
  | image p =>
    cases resource with
    | picture width height => exact plans_picture p width height
    | _ => exact .pure ()
  | svg p =>
    cases resource with
    | picture width height => exact plans_stretched p.toBox
    | document d => exact plans_document p.toBox d
    | nothing => exact .bind (plans_target? p.toBox) fun _ => .pure ()

/-! ## Calls -/

lemma paints_loaded (font : Font) : Paints (Bench.loaded font) :=
  .bind (.map _ (paints_round _)) fun _ _ => .ok

lemma paints_coordinates (p : Number × Number) : Paints (Bench.coordinates p) :=
  .bind (paints_toFloat _) fun _ _ => .bind (paints_toFloat _) fun _ _ => .ok

lemma paints_floats (c : Crop Number) : Paints (Bench.floats c) := by
  refine .bind (paints_toFloat _) fun left _ => .bind (paints_toFloat _) fun top _ => ?_
  exact .bind (paints_toFloat _) fun right _ => .bind (paints_toFloat _) fun bottom _ => .ok

lemma paints_cutPoint (p : Float × Float) : Paints (Canvas.cutPoint p) :=
  .bind (paints_truncate _) fun _ _ => .bind (paints_truncate _) fun _ _ => .ok

lemma paints_path {α : Type} (ink : α) (points : List (Float × Float)) (width : Int)
    (r : Raster α) : Paints (Canvas.line ink points width r) :=
  .ite (fun _ => .bind (.mapM fun p _ => paints_cutPoint p) fun _ _ => .ok) fun _ => .ok

lemma unpaintable_of_bounds {b : Svg.Bounds Float} {why : Error} (h : b.fault? = some why) :
    Unpaintable why := by
  unfold Svg.Bounds.fault? at h
  split_ifs at h <;> cases h <;> rfl

lemma paints_corners (b : Svg.Bounds Float) : Paints (Canvas.corners b) := by
  unfold Canvas.corners
  split
  · exact .error (unpaintable_of_bounds ‹_›)
  · exact .bind (paints_cutPoint _) fun _ _ => .bind (paints_cutPoint _) fun _ _ => .ok

lemma paints_rectangle (b : Svg.Bounds Float) (fill outline : Option Rgba) (width : Int)
    (p : Picture) : Paints (Canvas.rectangle b fill outline width p) := by
  unfold Canvas.rectangle
  -- the outline is drawn after the fill, whatever the fill has come to
  cases Canvas.outlineInk? fill outline width with
  | none =>
    cases fill with
    | none => exact .bind .ok fun _ _ => .ok
    | some c => exact .bind (paints_corners b) fun _ _ => .bind .ok fun _ _ => .ok
  | some ink =>
    cases fill with
    | none => exact .bind .ok fun _ _ => .bind (paints_corners b) fun _ _ => .ok
    | some c =>
      refine .bind (paints_corners b) fun _ _ => .bind .ok fun _ _ => ?_
      exact .bind (paints_corners b) fun _ _ => .ok

lemma paints_ellipse (b : Svg.Bounds Float) (fill outline : Option Rgba) (width : Int)
    (p : Picture) : Paints (Canvas.ellipse b fill outline width p) := by
  unfold Canvas.ellipse
  split
  · exact .error (unpaintable_of_bounds ‹_›)
  · exact .ok

lemma paints_polygon (points : List (Float × Float)) (fill outline : Option Rgba) (width : Int)
    (p : Picture) : Paints (Canvas.polygon points fill outline width p) := by
  unfold Canvas.polygon
  dsimp only
  split
  · exact .ok
  · exact paints_path _ _ _ _

lemma paints_mark (p : Picture) (m : Svg.Mark Float) : Paints (Canvas.draw p m) := by
  cases m with
  | rectangle b fill outline width => exact paints_rectangle b fill outline width p
  | ellipse b fill outline width => exact paints_ellipse b fill outline width p
  | polygon points fill outline width => exact paints_polygon points fill outline width p
  | line points fill width => exact paints_path _ _ _ _

lemma paints_turn (degrees : Float) (p : Picture) : Paints (p.turn degrees) := by
  refine .ite (fun _ => .ok) fun _ => .ite (fun _ => .ok) fun _ => ?_
  refine .ite (fun _ => .ok) fun _ => .ite (fun _ => .ok) fun _ => ?_
  exact .bind (paints_size _ _ _) fun _ _ => .ok

lemma unpaintable_of_fault {box : Crop Float32} {width height : Float32} {why : Error}
    (h : box.fault? width height = some why) : Unpaintable why := by
  unfold Crop.fault? at h
  split_ifs at h <;> cases h <;> rfl

lemma paints_scale (width height : Nat) (box : Crop Float) (p : Picture) :
    Paints (p.scale width height box) := by
  refine .ite (fun _ => .ok) fun _ => ?_
  split
  · exact .error (unpaintable_of_fault ‹_›)
  · exact .ok

lemma paints_byteChannel (value : Int) : Paints (Surface.byteChannel value) :=
  .ite (fun _ => .ok) fun _ => .error rfl

lemma paints_blendMask (s : Surface) (mask : Raster UInt8) (x y : Int) (color : Rgba) :
    Paints (s.blendMask mask x y color) := by
  refine .map _ (.bind (paints_byteChannel _) fun r _ => ?_)
  exact .bind (paints_byteChannel _) fun g _ => .bind (paints_byteChannel _) fun b _ => .ok

section

variable (typeface : Typeface)

lemma paints_perform (b : Bench) (call : Call) : Paints (b.perform typeface call) := by
  cases call with
  | maskLine start stop width =>
    refine .bind (paints_coordinates _) fun _ _ => .bind (paints_coordinates _) fun _ _ => ?_
    exact .bind (paints_path _ _ _ _) fun _ _ => .ok
  | blendMask columns rows x y color => exact .bind (paints_blendMask _ _ _ _ _) fun _ _ => .ok
  | loadFont font => exact .bind (paints_loaded font) fun _ _ => .ok
  | mark m => exact .bind (paints_mark _ m) fun _ _ => .ok
  | turn degrees width height => exact .bind (paints_turn degrees _) fun _ _ => .ok
  | scale width height box =>
    cases box with
    | none => exact .bind .ok fun _ _ => .bind (paints_scale _ _ _ _) fun _ _ => .ok
    | some box =>
      exact .bind (paints_floats box) fun _ _ => .bind (paints_scale _ _ _ _) fun _ _ => .ok
  | _ => exact .ok

lemma paints_performAll (b : Bench) (calls : List Call) :
    Paints (b.performAll typeface calls).1 := by
  induction calls generalizing b with
  | nil => exact .ok
  | cons call rest ih =>
    have hcall := paints_perform typeface b call
    unfold Bench.performAll
    split
    · exact ih _
    · exact .error (hcall _ ‹_›)

lemma paints_primitive (s : Surface) (p : Primitive) :
    Paints (Subject.paint typeface s (.primitive p)).1 :=
  .bind (paints_performAll typeface _ _) fun _ _ => plans_primitive _ _ p []

/-! ## Subjects -/

/-- How painting fails: for a number, a color or a place, or at a subject that is no primitive. -/
inductive PaintFailure (subjects : List Subject) (why : Error) : Prop where
  | unpaintable : Unpaintable why → PaintFailure subjects why
  | unsupported {typeName : String} : .other typeName ∈ subjects →
      why = .unsupportedPrimitive typeName → PaintFailure subjects why

lemma PaintFailure.cons {subject : Subject} {rest : List Subject} {why : Error}
    (h : PaintFailure rest why) : PaintFailure (subject :: rest) why := by
  cases h with
  | unpaintable h => exact .unpaintable h
  | unsupported hm h => exact .unsupported (List.mem_cons_of_mem _ hm) h

lemma subject_fails (s : Surface) (subject : Subject) (rest : List Subject) :
    FailsOnly (PaintFailure (subject :: rest)) (subject.paint typeface s).1 := by
  cases subject with
  | primitive p => exact (paints_primitive typeface s p).imp fun _ => .unpaintable
  | other typeName => exact .error (.unsupported List.mem_cons_self rfl)

lemma subjects_fail (s : Surface) (subjects : List Subject) :
    FailsOnly (PaintFailure subjects) (Subject.paintAll typeface s subjects).1 := by
  induction subjects generalizing s with
  | nil => exact .ok
  | cons subject rest ih =>
    have hsubject := subject_fails typeface s subject rest
    unfold Subject.paintAll
    split
    · exact (ih _).imp fun _ => PaintFailure.cons
    · rename_i why next h
      exact .error (hsubject why (congrArg Prod.fst h))

/-- Whatever primitives are painted on whatever surface: a number, a color or a place is at
fault. -/
theorem painting_fails (s : Surface) (ps : List Primitive) :
    FailsOnly Unpaintable (Primitive.paintAll typeface s ps).1 := by
  refine (subjects_fail typeface s _).imp fun why h => ?_
  cases h with
  | unpaintable h => exact h
  | unsupported hm =>
    obtain ⟨p, -, hp⟩ := List.mem_map.mp hm
    cases hp

end

end CardDrawing.Proofs
