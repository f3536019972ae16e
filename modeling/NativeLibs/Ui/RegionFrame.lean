import NativeLibs.Ui.RegionBoolean
import NativeLibs.Ui.RegionFlatten

/-! # Regions in a frame

In a frame whose sizes are 32-bit values, nothing wraps and no coordinate is taken for the mark.
There a boolean operation computes exactly the points that its operator asks for, in the frame
again, and `isEmpty` tells whether the result has points. -/

namespace NativeLibs.Ui

open RegionRaster RegionCanonical RegionSweep RegionRows Region Operator

/-- A rectangle around the origin whose width and height fit, below the mark. -/
structure Frame where
  box : Rect
  left : box.left ≤ 0
  top : box.top ≤ 0
  right : 0 ≤ box.right
  bottom : 0 ≤ box.bottom
  width : box.right - box.left ≤ int32Max
  height : box.bottom - box.top ≤ int32Max
  below : box.right < maxValue

structure Rect.Within (frame : Frame) (rect : Rect) : Prop where
  left : frame.box.left ≤ rect.left
  top : frame.box.top ≤ rect.top
  right : rect.right ≤ frame.box.right
  bottom : rect.bottom ≤ frame.box.bottom
  nonNegative : rect.NonNegative

def Rect.points (rect : Rect) : Set (Int × Int) := {point | rect.Covers point.1 point.2}

namespace Rect

variable {rect : Rect}

section

variable (within : rect.Within frame)
include within

lemma Within.fits : rect.Fits := by
  obtain ⟨left, top, right, bot, ⟨wide, tall⟩⟩ := within
  have := frame.left
  have := frame.top
  have := frame.right
  have := frame.bottom
  have := frame.width
  have := frame.height
  simp only [Fits, FitsInt32, int32Min, int32Max] at *
  omega

lemma Within.getWidth : rect.getWidth = rect.right - rect.left := by
  obtain ⟨left, _, right, _, ⟨wide, _⟩⟩ := within
  have := frame.width
  apply wrapInt32_of_fits
  simp only [FitsInt32, int32Min, int32Max] at *
  omega

lemma Within.getHeight : rect.getHeight = rect.bottom - rect.top := by
  obtain ⟨_, top, _, bot, ⟨_, tall⟩⟩ := within
  have := frame.height
  apply wrapInt32_of_fits
  simp only [FitsInt32, int32Min, int32Max] at *
  omega

lemma Within.isEmpty_iff : rect.isEmpty = true ↔ rect.points = ∅ := by
  rw [isEmpty, within.getWidth, within.getHeight, Bool.or_eq_true, decide_eq_true_eq,
    decide_eq_true_eq, Set.eq_empty_iff_forall_notMem]
  constructor
  · rintro empty point ⟨_, _, _, _⟩
    omega
  · intro none
    by_contra solid
    exact none (rect.left, rect.top) ⟨by omega, by omega, by omega, by omega⟩

lemma Within.isValid : rect.isValid = true := by
  have := within.nonNegative
  rw [Rect.isValid, within.getWidth, within.getHeight, Bool.and_eq_true, decide_eq_true_eq,
    decide_eq_true_eq]
  simp only [NonNegative] at this
  omega

lemma Within.rectIsValid : Region.rectIsValid rect = true := by
  obtain ⟨_, _, right, bot⟩ := within.fits
  have inR : ¬ rect.right > maxValue := not_lt.mpr right.2
  have inBottom : ¬ rect.bottom > maxValue := not_lt.mpr bot.2
  simp [Region.rectIsValid, within.isValid, inR, inBottom]

end

end Rect

structure Region.InFrame (frame : Frame) (region : Region) : Prop where
  validated : region.validate = true
  within : ∀ rect ∈ region.getArray, rect.Within frame

def Region.points (region : Region) : Set (Int × Int) :=
  {point | region.contains point.1 point.2 = true}

/-- The rectangles lie in the frame when they are shifted. -/
def Region.ShiftsInto (region : Region) (frame : Frame) (dx dy : Int) : Prop :=
  ∀ rect ∈ region.getArray, (rect.offsetBy dx dy).Within frame

/-- `isEmpty` tells whether the region has points. -/
def Region.Solid (region : Region) : Prop := region.isEmpty = true ↔ region.points = ∅

namespace Region

variable {frame : Frame} {region : Region} {rect : Rect}

def InFrame.valid (inFrame : region.InFrame frame) : ValidRegion where
  region := region
  validated := inFrame.validated
  nonNegative rect member := (inFrame.within rect member).nonNegative
  fits rect member := (inFrame.within rect member).fits

lemma InFrame.ofRect (within : rect.Within frame) : (Region.ofRect rect).InFrame frame where
  validated := validate_ofRect within.rectIsValid
  within other mem := by
    cases List.mem_singleton.mp mem
    exact within

@[simp]
lemma points_ofRect (rect : Rect) : (ofRect rect).points = rect.points := by
  ext point
  simp [points, Rect.points, contains_ofRect]

lemma solid_ofRect (within : rect.Within frame) : (ofRect rect).Solid := by
  unfold Solid
  rw [points_ofRect, ← within.isEmpty_iff]
  rfl

/-! ## Points -/

section

variable (inF : region.InFrame frame)
include inF

lemma InFrame.shiftsInto_zero : region.ShiftsInto frame 0 0 := by
  simpa [ShiftsInto, Rect.offsetBy] using inF.within

lemma InFrame.bounds_within : region.getBounds.Within frame := by
  obtain ⟨_, hull⟩ := validate_disjoint_hull inF.validated
  obtain ⟨leftmost, leftMember, leftEq⟩ := hull.left.1
  obtain ⟨highest, topMember, topEq⟩ := hull.top.1
  obtain ⟨rightmost, rightMember, rightEq⟩ := hull.right.1
  obtain ⟨lowest, bottomMember, bottomEq⟩ := hull.bottom.1
  constructor
  · exact leftEq ▸ (inF.within leftmost leftMember).left
  · exact topEq ▸ (inF.within highest topMember).top
  · exact rightEq ▸ (inF.within rightmost rightMember).right
  · exact bottomEq ▸ (inF.within lowest bottomMember).bottom
  · have wide := (inF.within leftmost leftMember).nonNegative.1
    have tall := (inF.within highest topMember).nonNegative.2
    have toRight := hull.right.2 ⟨leftmost, leftMember, rfl⟩
    have toBottom := hull.bottom.2 ⟨highest, topMember, rfl⟩
    exact ⟨(leftEq ▸ wide).trans toRight, (topEq ▸ tall).trans toBottom⟩

lemma InFrame.points_of_isEmpty (empty : region.isEmpty = true) : region.points = ∅ := by
  rw [Set.eq_empty_iff_forall_notMem]
  intro point ins
  obtain ⟨rect, mem, top, bot, left, right⟩ := (contains_iff region _ _).mp ins
  obtain ⟨_, hull⟩ := validate_disjoint_hull inF.validated
  have pointless := inF.bounds_within.isEmpty_iff.mp empty
  refine Set.eq_empty_iff_forall_notMem.mp pointless point ⟨?_, ?_, ?_, ?_⟩
  · exact (hull.top.2 ⟨rect, mem, rfl⟩).trans top
  · exact bot.trans_le (hull.bottom.2 ⟨rect, mem, rfl⟩)
  · exact (hull.left.2 ⟨rect, mem, rfl⟩).trans left
  · exact right.trans_le (hull.right.2 ⟨rect, mem, rfl⟩)

/-! ## Boolean operations -/

end

section

variable (shifts : region.ShiftsInto frame dx dy)
include shifts

lemma ShiftsInto.shiftable : region.Shiftable dx dy := fun rect mem => (shifts rect mem).fits

lemma ShiftsInto.of_contains (inside : region.contains (x - dx) (y - dy) = true) :
    frame.box.left ≤ x ∧ x < frame.box.right ∧ frame.box.top ≤ y ∧ y < frame.box.bottom := by
  obtain ⟨rect, mem, covers⟩ := (contains_iff region _ _).mp inside
  obtain ⟨left, top, right, bottom, _⟩ := shifts rect mem
  obtain ⟨_, _, _, _⟩ := covers
  simp only [Rect.offsetBy] at left top right bottom
  omega

lemma ShiftsInto.not_blindAt (y : Int) : ¬ RegionView.BlindAt ⟨region.getArray, dx, dy⟩ y := by
  rintro ⟨⟨rect, mem, atHeight⟩, marked⟩
  have left := marked rect mem atHeight
  have within := shifts rect mem
  have right := within.right
  have wide := within.nonNegative.1
  have below := frame.below
  simp only [Rect.offsetBy] at left right wide
  omega

end

lemma InFrame.swept_iff (lhsIn : lhs.InFrame frame) (shifts : rhs.ShiftsInto frame dx dy)
    (op : Operator) (x y : Int) : Swept op lhs rhs dx dy x y ↔
      op.apply (lhs.contains x y) (rhs.contains (x - dx) (y - dy)) = true := by
  have clean : ¬ op.Spurious ⟨lhs.getArray, 0, 0⟩ ⟨rhs.getArray, dx, dy⟩ x y := by
    rintro (⟨_, blind, _⟩ | ⟨_, blind, _⟩)
    · exact lhsIn.shiftsInto_zero.not_blindAt y blind
    · exact shifts.not_blindAt y blind
  simp [Swept, clean]

lemma within_of_corners (wide : rect.left < rect.right) (tall : rect.top < rect.bottom)
    (mem : ∀ x y, rect.Covers x y → frame.box.left ≤ x ∧ x < frame.box.right ∧
      frame.box.top ≤ y ∧ y < frame.box.bottom) : rect.Within frame := by
  have first := mem rect.left rect.top ⟨by omega, by omega, by omega, by omega⟩
  have last := mem (rect.right - 1) (rect.bottom - 1) ⟨by omega, by omega, by omega, by omega⟩
  exact ⟨first.1, first.2.2.1, by omega, by omega, wide.le, tall.le⟩

lemma inFrame_empty : empty.InFrame frame :=
  .ofRect ⟨frame.left, frame.top, frame.right, frame.bottom, by decide⟩

@[simp]
lemma points_empty : empty.points = ∅ := by
  rw [empty, ← ofRect, points_ofRect, Set.eq_empty_iff_forall_notMem]
  rintro point ⟨top, bot, _⟩
  exact absurd (top.trans_lt bot) (by decide)

lemma InFrame.operation (lhsIn : lhs.InFrame frame) (rhsIn : rhs.InFrame frame)
    (shifts : rhs.ShiftsInto frame dx dy) (op : Operator) :
    ∃ res, booleanOperation op lhs rhs dx dy = some res ∧ res.InFrame frame ∧ res.Solid ∧
      ∀ x y, res.contains x y = op.apply (lhs.contains x y) (rhs.contains (x - dx) (y - dy)) := by
  obtain ⟨rows, res, runs, wrote, tidy, covers⟩ :=
    booleanOperation_spec op lhsIn.valid rhsIn.valid shifts.shiftable
  have sweptIff := lhsIn.swept_iff shifts op
  have points : ∀ x y,
      res.contains x y = op.apply (lhs.contains x y) (rhs.contains (x - dx) (y - dy)) := by
    intro x y
    rw [Bool.eq_iff_iff, contains_of_written tidy wrote, covers]
    exact sweptIff x y
  have ins : ∀ x y, RowsCover rows x y → frame.box.left ≤ x ∧ x < frame.box.right ∧
      frame.box.top ≤ y ∧ y < frame.box.bottom := by
    intro x y cov
    have kept := (sweptIff x y).mp ((covers x y).mp cov)
    -- a point of the result is a point of one of the operands
    cases inLhs : lhs.contains x y with
    | true => exact lhsIn.shiftsInto_zero.of_contains (by simpa using inLhs)
    | false =>
      cases inRhs : rhs.contains (x - dx) (y - dy) with
      | true => exact shifts.of_contains inRhs
      | false =>
        rw [inLhs, inRhs, apply_false_false] at kept
        cases kept
  have within : ∀ rect ∈ rects rows, rect.Within frame := by
    intro rect mem
    obtain ⟨wide, tall, _⟩ := tidy.of_mem_rects mem
    exact within_of_corners wide tall fun x y cov =>
      ins x y ((tidy.covers_iff x y).mp ⟨rect, mem, cov⟩)
  have validated : res.validate = true := by
    refine (validate_of_written_iff tidy wrote).mpr fun rect mem => ?_
    obtain ⟨left, top, right, bot, _⟩ := within rect mem
    have := frame.width
    have := frame.height
    omega
  refine ⟨res, runs, ?_⟩
  by_cases none : rows = []
  · rcases wrote with ⟨_, rfl⟩ | ⟨box, front, back, isFront, _⟩
    · exact ⟨inFrame_empty, ⟨fun _ => points_empty, fun _ => rfl⟩, points⟩
    · rw [none] at isFront
      cases isFront
  · have array := getArray_of_written wrote none
    have inF : res.InFrame frame := ⟨validated, array ▸ within⟩
    refine ⟨inF, ⟨inF.points_of_isEmpty, fun pointless => ?_⟩, points⟩
    obtain ⟨x, y, ins⟩ := exists_contains_of_written tidy wrote none
    have ins : (x, y) ∈ res.points := ins
    rw [pointless] at ins
    cases ins

variable {lhs rhs : Region}

lemma InFrame.booleanOperation (lhsIn : lhs.InFrame frame) (rhsIn : rhs.InFrame frame)
    (op : Operator) :
    ∃ res, booleanOperation op lhs rhs 0 0 = some res ∧ res.InFrame frame ∧ res.Solid ∧
      ∀ x y, res.contains x y = op.apply (lhs.contains x y) (rhs.contains x y) := by
  simpa using lhsIn.operation rhsIn rhsIn.shiftsInto_zero op

/-! ## The named operations -/

section

variable (lhsIn : lhs.InFrame frame)
include lhsIn

section

variable (rhsIn : rhs.InFrame frame)
include rhsIn

lemma InFrame.merge : ∃ res, lhs.merge rhs = some res ∧ res.InFrame frame ∧
      res.points = lhs.points ∪ rhs.points := by
  obtain ⟨res, runs, inF, _, contains⟩ := lhsIn.booleanOperation rhsIn .or
  refine ⟨res, runs, inF, ?_⟩
  ext point
  simp [points, contains, apply]

lemma InFrame.intersect : ∃ res, lhs.intersect rhs = some res ∧ res.InFrame frame ∧ res.Solid ∧
      res.points = lhs.points ∩ rhs.points := by
  obtain ⟨res, runs, inF, solid, contains⟩ := lhsIn.booleanOperation rhsIn .and
  refine ⟨res, runs, inF, solid, ?_⟩
  ext point
  simp [points, contains, apply]

lemma InFrame.subtract : ∃ res, lhs.subtract rhs = some res ∧ res.InFrame frame ∧ res.Solid ∧
      res.points = lhs.points \ rhs.points := by
  obtain ⟨res, runs, inF, solid, contains⟩ := lhsIn.booleanOperation rhsIn .nand
  refine ⟨res, runs, inF, solid, ?_⟩
  ext point
  simp [points, contains, apply]

lemma InFrame.subtractSelf :
    ∃ res, lhs.subtractSelf rhs = some res ∧ res.InFrame frame ∧ res.Solid ∧
      res.points = lhs.points \ rhs.points :=
  lhsIn.subtract rhsIn

lemma InFrame.orSelf : ∃ res, lhs.orSelf rhs = some res ∧ res.InFrame frame ∧
      res.points = lhs.points ∪ rhs.points := by
  unfold Region.orSelf
  split
  next empty =>
    refine ⟨rhs, rfl, rhsIn, ?_⟩
    rw [lhsIn.points_of_isEmpty empty, Set.empty_union]
  next => exact lhsIn.merge rhsIn

end

end

lemma booleanOperationRect_eq (within : rect.Within frame) (op : Operator) (dst lhs : Region) :
    booleanOperationRect op dst lhs rect 0 0 = booleanOperation op lhs (ofRect rect) 0 0 := by
  simp [booleanOperationRect, within.isValid, booleanOperation, ofRect, getArray_singleton]

/-! ## The two forms of an operation -/

lemma booleanOperation_or_pointless (lhsIn : lhs.InFrame frame) (pointless : lhs.points = ∅)
    (within : rect.Within frame) (solid : rect.isEmpty = false) :
    booleanOperation .or lhs (ofRect rect) 0 0 = some (ofRect rect) := by
  have rectIn := InFrame.ofRect within
  rcases booleanOperation_spec .or lhsIn.valid rectIn.valid rectIn.valid.shiftable_zero with
    ⟨rows, res, runs, wrote, tidy, cov⟩
  simp only [Rect.isEmpty, within.getWidth, within.getHeight, Bool.or_eq_false_iff,
    decide_eq_false_iff_not, not_le] at solid
  rcases within.fits with ⟨left, top, right, bot⟩
  have wide : rect.left < rect.right := by omega
  have tall : rect.top < rect.bottom := by omega
  have one : TidyRows [⟨rect.top, rect.bottom, [⟨rect.left, rect.right, ()⟩]⟩] := by
    refine ⟨tall, ⟨top.1, tall.le, trivial⟩, ?_, ?_, ?_⟩ <;>
      simp
    · exact bot.2
    · exact wide
    · exact ⟨by simp, ⟨left.1, wide.le, trivial⟩, by simpa using right.2⟩
  have same : rows = [⟨rect.top, rect.bottom, [⟨rect.left, rect.right, ()⟩]⟩] := by
    apply tidy.eq_of_covers_iff one
    intro x y
    have none : lhs.contains x y = false := by
      rw [← Bool.not_eq_true]
      exact Set.eq_empty_iff_forall_notMem.1 pointless (x, y)
    refine (cov x y).trans ((lhsIn.swept_iff rectIn.shiftsInto_zero .or x y).trans ?_)
    rw [none, contains_ofRect, ← one.covers_iff]
    simp [apply, rects, rowRects]
  rw [same] at wrote
  refine runs.trans (congrArg some ?_)
  rcases wrote with ⟨none, _⟩ | ⟨box, front, back, isFront, isBack, topEq, bottomEq, encl, rfl⟩
  · cases none
  · cases isFront
    cases isBack
    rw [bounds_eq_of_singleton (rfl : rects _ = [rect]) topEq bottomEq encl]
    rfl

/-! ## Regions that are moved -/

lemma hull_offsetBy (bounds cur : Rect) : hull (bounds.offsetBy dx dy) (cur.offsetBy dx dy) =
    (hull bounds cur).offsetBy dx dy := by
  simp only [hull, Rect.offsetBy]
  split_ifs <;> simp <;> omega

lemma pairIsValid_offsetBy (prev cur : Rect) :
    pairIsValid (prev.offsetBy dx dy) (cur.offsetBy dx dy) = pairIsValid prev cur := by
  simp [pairIsValid, Rect.lessThan, Rect.offsetBy]

lemma validateLoop_offsetBy {rest : List Rect}
    (valid : ∀ cur ∈ rest, rectIsValid (cur.offsetBy dx dy) = rectIsValid cur)
    (prev bounds : Rect) (result : Bool) :
    validateLoop (prev.offsetBy dx dy) (bounds.offsetBy dx dy) result (rest.map (·.offsetBy dx dy)) =
      ((validateLoop prev bounds result rest).1.offsetBy dx dy,
        (validateLoop prev bounds result rest).2) := by
  induction rest generalizing prev bounds result with
  | nil => rfl
  | cons cur rest ih =>
    rcases List.forall_mem_cons.1 valid with ⟨same, valid⟩
    simp only [List.map_cons, validateLoop, hull_offsetBy, pairIsValid_offsetBy, same]
    exact ih valid cur (hull bounds cur) _

lemma InFrame.translate (inFrame : region.InFrame frame)
    (within : ∀ rect ∈ (region.translate dx dy).getArray, rect.Within frame) :
    (region.translate dx dy).InFrame frame := by
  refine ⟨?_, within⟩
  by_cases moved : (dx ≠ 0 ∨ dy ≠ 0) ∧ region.isEmpty = false
  · have array : (region.translate dx dy).getArray = _ := getArray_translate moved.2
    have storage : (region.translate dx dy).mStorage = region.mStorage.map (·.offsetBy dx dy) := by
      rw [Region.translate, if_pos moved]
    have same : ∀ cur ∈ region.getArray, rectIsValid (cur.offsetBy dx dy) = rectIsValid cur := by
      intro cur mem
      have shifted := within (cur.offsetBy dx dy) (array ▸ List.mem_map_of_mem mem)
      rw [shifted.rectIsValid, (inFrame.within cur mem).rectIsValid]
    have validated := inFrame.validated
    unfold validate at validated ⊢
    rw [array, storage]
    cases shape : region.getArray with
    | nil => simp [shape] at validated
    | cons first rest =>
      rw [shape] at validated same
      rcases List.forall_mem_cons.1 same with ⟨head, tail⟩
      have last : region.mStorage.getLast? = some region.getBounds := by
        cases isLast : region.mStorage.getLast? with
        | none => simp [getArray, List.getLast?_eq_none_iff.1 isLast] at shape
        | some last => simp [getBounds, isLast]
      simp only [List.map_cons, validateLoop_offsetBy tail, head, getBounds, storage] at validated ⊢
      simp_all [List.getLast?_map]
  · rw [Region.translate, if_neg moved]
    exact inFrame.validated

/-- What `scaleSelf` makes of the coordinates of a column and of a row is given by `scaleX` and
`scaleY`. -/
def scaleSelf (region : Region) (scaleX scaleY : Int → Int) : Region :=
  ⟨region.mStorage.map fun rect =>
    ⟨scaleX rect.left, scaleY rect.top, scaleX rect.right, scaleY rect.bottom⟩⟩

/-- The regions that operations on rectangles with points in the frame lead to. A region is moved
only inside the frame, and scaled only to a valid region inside it. -/
inductive Reached (frame : Frame) : Region → Prop where
  | empty : Reached frame empty
  | set {rect : Rect} (within : rect.Within frame) (solid : rect.isEmpty = false) :
      Reached frame (ofRect rect)
  | operation {lhs rhs result : Region} (op : Operator) (left : Reached frame lhs)
      (right : Reached frame rhs) {dx dy : Int} (shifts : rhs.ShiftsInto frame dx dy)
      (runs : booleanOperation op lhs rhs dx dy = some result) : Reached frame result
  | translate {region : Region} (reached : Reached frame region) {dx dy : Int}
      (within : ∀ rect ∈ (region.translate dx dy).getArray, rect.Within frame) :
      Reached frame (region.translate dx dy)
  | scale {region : Region} (reached : Reached frame region) {scaleX scaleY : Int → Int}
      (inFrame : (region.scaleSelf scaleX scaleY).InFrame frame) :
      Reached frame (region.scaleSelf scaleX scaleY)

lemma Reached.inFrame (met : Reached frame region) : region.InFrame frame := by
  induction met with
  | empty => exact inFrame_empty
  | set within => exact .ofRect within
  | operation op _ _ shifts runs leftIn rightIn =>
    rcases leftIn.operation rightIn shifts op with ⟨res, same, inF, _⟩
    cases runs.symm.trans same
    exact inF
  | translate _ within ih => exact ih.translate within
  | scale _ inFrame _ => exact inFrame

/-- As long as every rectangle has points in the frame, both forms give the same valid region. -/
theorem selfRect_eq_operationRect (op : Operator) (reached : Reached frame region)
    (within : rect.Within frame) (solid : rect.isEmpty = false) :
    ∃ result, selfRect op region rect = some result ∧ operationRect op region rect = some result ∧
      result.validate = true ∧ Reached frame result := by
  have inFrame := reached.inFrame
  rcases inFrame.booleanOperation (.ofRect within) op with ⟨result, runs, resultIn, _⟩
  have rectIn := InFrame.ofRect within
  refine ⟨result, ?_, ?_, resultIn.validated,
    .operation op reached (.set within solid) rectIn.shiftsInto_zero runs⟩
  · unfold selfRect
    split_ifs with shortcut
    · rw [Bool.and_eq_true, decide_eq_true_eq] at shortcut
      rcases shortcut with ⟨rfl, empty⟩
      rw [← runs, booleanOperation_or_pointless inFrame (inFrame.points_of_isEmpty empty) within
        solid]
    · rw [booleanOperationRect_eq within, runs]
  · rw [operationRect, booleanOperationRect_eq within, runs]

theorem selfRect_eq_operationRect_moved :
    let region := (ofRect ⟨0, 0, 1, 1⟩).translate 2 2
    ∃ result, selfRect .xor region ⟨0, 0, 4, 4⟩ = some result ∧
      operationRect .xor region ⟨0, 0, 4, 4⟩ = some result ∧ result.validate = true := by
  intro region
  let frame : Frame := ⟨⟨0, 0, 4, 4⟩, by decide, by decide, by decide, by decide, by decide,
    by decide, by decide⟩
  have corner : Rect.Within frame ⟨0, 0, 1, 1⟩ := ⟨by decide, by decide, by decide, by decide, by decide⟩
  have array : region.getArray = [⟨2, 2, 3, 3⟩] := by decide
  have reached : Reached frame region := by
    refine .translate (.set corner (by decide)) (array ▸ List.forall_mem_singleton.2 ?_)
    exact ⟨by decide, by decide, by decide, by decide, by decide⟩
  have whole : frame.box.Within frame := ⟨le_rfl, le_rfl, le_rfl, le_rfl, by decide⟩
  rcases selfRect_eq_operationRect .xor reached whole (by decide) with ⟨result, self, const, valid, _⟩
  exact ⟨result, self, const, valid⟩

/-- The rectangle is refused by one form, and becomes the region in the other. -/
theorem selfRect_or_invalid_rect : selfRect .or empty ⟨0, 0, -2, -2⟩ = some (ofRect ⟨0, 0, -2, -2⟩) ∧
    (ofRect ⟨0, 0, -2, -2⟩).validate = false ∧
    operationRect .or empty ⟨0, 0, -2, -2⟩ = some empty := by
  decide

variable (lhsIn : lhs.InFrame frame) (within : rect.Within frame)
include lhsIn within

lemma InFrame.intersectRect :
    ∃ res, lhs.intersectRect rect = some res ∧ res.InFrame frame ∧ res.Solid ∧
      res.points = lhs.points ∩ rect.points := by
  rw [Region.intersectRect, booleanOperationRect_eq within, ← points_ofRect rect]
  exact lhsIn.intersect (.ofRect within)

lemma InFrame.andSelfRect :
    ∃ res, lhs.andSelfRect rect = some res ∧ res.InFrame frame ∧ res.Solid ∧
      res.points = lhs.points ∩ rect.points := by
  rw [Region.andSelfRect, booleanOperationRect_eq within, ← points_ofRect rect]
  exact lhsIn.intersect (.ofRect within)

lemma InFrame.subtractRect :
    ∃ res, lhs.subtractRect rect = some res ∧ res.InFrame frame ∧ res.Solid ∧
      res.points = lhs.points \ rect.points := by
  rw [Region.subtractRect, booleanOperationRect_eq within, ← points_ofRect rect]
  exact lhsIn.subtract (.ofRect within)

end Region

end NativeLibs.Ui
