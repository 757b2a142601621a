import Mathlib.Algebra.Group.Nat.Defs
import Mathlib.Order.Bounds.Defs
import Placard.Placement

/-! A placed block on its preview, and the point of the target that stands for it, one axis at a time. -/

namespace Placard

/-- The smaller of two lengths is the smaller of the two numbers. -/
theorem toNat_min (first second : UInt32) :
    (min first second).toNat = min first.toNat second.toNat := by
  -- Lengths are ordered as the numbers they stand for.
  simp only [Min.min, UInt32.le_iff_toNat_le]
  split <;> rfl

/-- The last offset is the difference of the lengths, cut off at zero. -/
theorem toNat_lastOffset (surface length : UInt32) :
    (lastOffset surface length).toNat = surface.toNat - length.toNat := by
  unfold lastOffset
  split
  next fits => exact UInt32.toNat_sub_of_le _ _ fits
  next large =>
    rw [UInt32.le_iff_toNat_le] at large
    simp only [UInt32.toNat_zero]
    omega

/-- The left edge after a move, as a number. -/
theorem Block.toNat_clamped_left (block : Block) (width height : UInt32) :
    (block.clamped width height).left.toNat =
      min block.left.toNat (width.toNat - block.width.toNat) := by
  simp only [Block.clamped, toNat_min, toNat_lastOffset]

/-- The upper edge after a move, as a number. -/
theorem Block.toNat_clamped_top (block : Block) (width height : UInt32) :
    (block.clamped width height).top.toNat =
      min block.top.toNat (height.toNat - block.height.toNat) := by
  simp only [Block.clamped, toNat_min, toNat_lastOffset]

/-- A block that was moved onto a surface stays where it is. -/
theorem Block.clamped_clamped (block : Block) (width height : UInt32) :
    (block.clamped width height).clamped width height = block.clamped width height := by
  -- The sizes are kept, so both moves are bounded by the same last offsets.
  have stays (offset bound : UInt32) : min (min offset bound) bound = min offset bound := by
    apply UInt32.toNat.inj
    simp only [toNat_min]
    omega
  simp only [Block.clamped, stays]

/-- A scaled offset never exceeds the target when the offset lies on the preview. -/
theorem scaled_le_target {offset target preview : Nat} (inside : offset ≤ preview) :
    offset * target / preview ≤ target := by
  apply Nat.div_le_of_le_mul
  exact Nat.mul_le_mul_right target inside

/-- Two lengths multiply exactly in the wide range. -/
theorem toNat_product (offset target : UInt32) :
    (offset.toUInt64 * target.toUInt64).toNat = offset.toNat * target.toNat := by
  have bound : offset.toNat * target.toNat < 2 ^ 64 :=
    calc offset.toNat * target.toNat
      _ < 2 ^ 32 * 2 ^ 32 := Nat.mul_lt_mul_of_lt_of_lt offset.toNat_lt target.toNat_lt
      _ = 2 ^ 64 := by decide
  rw [UInt64.toNat_mul, UInt32.toNat_toUInt64, UInt32.toNat_toUInt64, Nat.mod_eq_of_lt bound]

/-- Every offset maps to the exact quotient, cut off at the largest length. -/
theorem toNat_mapAxis_min (offset target preview : UInt32) :
    (mapAxis offset target preview).toNat =
      min (offset.toNat * target.toNat / preview.toNat) (2 ^ 32 - 1) := by
  have scaled : (offset.toUInt64 * target.toUInt64 / preview.toUInt64).toNat =
      offset.toNat * target.toNat / preview.toNat := by
    rw [UInt64.toNat_div, toNat_product, UInt32.toNat_toUInt64]
  simp only [mapAxis]
  -- The comparison is made on the wide quotient, so it compares the exact numbers.
  split
  next kept =>
    rw [UInt64.le_iff_toNat_le, scaled, show UInt64.toNat 0xFFFFFFFF = 2 ^ 32 - 1 from rfl] at kept
    rw [UInt64.toNat_toUInt32, scaled, Nat.mod_eq_of_lt (by omega), Nat.min_eq_left kept]
  next beyond =>
    rw [UInt64.le_iff_toNat_le, scaled, show UInt64.toNat 0xFFFFFFFF = 2 ^ 32 - 1 from rfl] at beyond
    rw [Nat.min_eq_right (by omega)]
    rfl

/-- An offset on the preview maps to the exact quotient, since it stays on the target. -/
theorem toNat_mapAxis {offset preview : UInt32} (target : UInt32)
    (inside : offset.toNat ≤ preview.toNat) :
    (mapAxis offset target preview).toNat = offset.toNat * target.toNat / preview.toNat := by
  have bound : offset.toNat * target.toNat / preview.toNat ≤ 2 ^ 32 - 1 :=
    calc offset.toNat * target.toNat / preview.toNat
      _ ≤ target.toNat := scaled_le_target inside
      _ ≤ 2 ^ 32 - 1 := Nat.le_sub_one_of_lt target.toNat_lt
  rw [toNat_mapAxis_min, Nat.min_eq_left bound]

/-- What a placement makes of one axis: where the block starts on the preview, and the coordinate
on the target. -/
structure AxisPlaced (offset size preview target start coordinate : Nat) : Prop where
  /-- A block that fits starts at the last place, not beyond its offset, from which it fits. -/
  fitting : size ≤ preview →
    IsGreatest {place | place ≤ offset ∧ place + size ≤ preview} start
  /-- A block that is too large starts at the edge. -/
  oversized : preview < size → start = 0
  /-- The coordinate is the scaled start, cut to a whole number. -/
  scaled : coordinate = start * target / preview
  /-- The coordinate does not leave the target. -/
  inside : coordinate ≤ target
  /-- A block that fits on the preview fits on the target once both are scaled. -/
  whole : size ≤ preview → coordinate + size * target / preview ≤ target

/-- A start bounded by the last offset, scaled exactly, places its axis. -/
theorem AxisPlaced.of_start {offset size preview target start coordinate : Nat}
    (bounded : start = min offset (preview - size))
    (scaled : coordinate = start * target / preview) :
    AxisPlaced offset size preview target start coordinate where
  fitting fits := by
    constructor
    · constructor <;> omega
    · intro place ⟨before, room⟩
      omega
  oversized large := by omega
  scaled := scaled
  inside := by
    rw [scaled]
    exact scaled_le_target (by omega)
  whole fits := by
    -- Two quotients cut apart never exceed the quotient of the sum, and the sum is on the preview.
    calc coordinate + size * target / preview
        = start * target / preview + size * target / preview := by rw [scaled]
      _ ≤ (start * target + size * target) / preview := Nat.div_add_div_le_add_div
      _ = (start + size) * target / preview := by rw [Nat.add_mul]
      _ ≤ target := scaled_le_target (by omega)

/-- A placement fails exactly on a preview without width or height and then names both lengths.
Every other placement keeps the surfaces and the size of the block, moves the block no further than
it has to on each axis, and maps it to a point from which the scaled block stays on the target. -/
theorem Placement.compute_placed (block : Block) (surfaces : Surfaces) :
    match Placement.compute block surfaces with
    | .error failure =>
      (surfaces.previewWidth = 0 ∨ surfaces.previewHeight = 0) ∧
        failure = .invalidScale surfaces.previewWidth surfaces.previewHeight
    | .ok placement =>
      (surfaces.previewWidth ≠ 0 ∧ surfaces.previewHeight ≠ 0) ∧
      placement.surfaces = surfaces ∧
      placement.block.width = block.width ∧ placement.block.height = block.height ∧
      placement.block.clamped surfaces.previewWidth surfaces.previewHeight = placement.block ∧
      AxisPlaced block.left.toNat block.width.toNat surfaces.previewWidth.toNat
        surfaces.targetWidth.toNat placement.block.left.toNat placement.target.x.toNat ∧
      AxisPlaced block.top.toNat block.height.toNat surfaces.previewHeight.toNat
        surfaces.targetHeight.toNat placement.block.top.toNat placement.target.y.toNat := by
  unfold Placement.compute Block.toTarget
  by_cases empty : surfaces.previewWidth = 0 ∨ surfaces.previewHeight = 0
  -- Without a preview the block is moved all the same, but there is no target.
  · simp [empty, Functor.map, Except.map]
  · have full := not_or.mp empty
    simp only [beq_iff_eq, Bool.or_eq_true, if_neg empty]
    have left := block.toNat_clamped_left surfaces.previewWidth surfaces.previewHeight
    have top := block.toNat_clamped_top surfaces.previewWidth surfaces.previewHeight
    refine ⟨full, rfl, rfl, rfl, Block.clamped_clamped .., ?_, ?_⟩
    · exact .of_start left (toNat_mapAxis _ (by omega))
    · exact .of_start top (toNat_mapAxis _ (by omega))

/-- At the largest lengths the coordinate is the whole target, and no product overflows. -/
example : (Placement.compute ⟨0xFFFFFFFF, 9, 0, 20⟩ ⟨0xFFFFFFFF, 10, 0xFFFFFFFF, 7⟩).map
    (·.target) = .ok ⟨0xFFFFFFFF, 0⟩ := rfl

/-! ### One axis at a time -/

/-- What one axis of a mapping is made from. -/
structure Axis where
  offset : UInt32
  target : UInt32
  preview : UInt32
deriving DecidableEq, Repr

/-- The axis from left to right. -/
def Block.across (block : Block) (surfaces : Surfaces) : Axis :=
  ⟨block.left, surfaces.targetWidth, surfaces.previewWidth⟩

/-- The axis from top to bottom. -/
def Block.down (block : Block) (surfaces : Surfaces) : Axis :=
  ⟨block.top, surfaces.targetHeight, surfaces.previewHeight⟩

/-- The exact coordinate of an axis: the scaled offset, cut to a whole number and then cut off at
the largest length. -/
def Axis.coordinate (axis : Axis) : Nat :=
  min (axis.offset.toNat * axis.target.toNat / axis.preview.toNat) (2 ^ 32 - 1)

/-- One axis reaches no further than another: its offset and its target are no larger, and its
preview is no smaller. -/
structure Axis.Within (lesser greater : Axis) : Prop where
  offset : lesser.offset ≤ greater.offset
  target : lesser.target ≤ greater.target
  preview : greater.preview ≤ lesser.preview

/-- One axis enlarges another: the offset is kept, and both lengths are multiplied by one
factor. -/
structure Axis.Enlarged (factor : Nat) (small large : Axis) : Prop where
  offset : large.offset = small.offset
  target : large.target.toNat = factor * small.target.toNat
  preview : large.preview.toNat = factor * small.preview.toNat

/-- The coordinate of an axis that reaches further is no smaller. -/
theorem Axis.Within.coordinate_le {lesser greater : Axis} (within : lesser.Within greater)
    (positive : 0 < greater.preview) : lesser.coordinate ≤ greater.coordinate := by
  have offset := UInt32.le_iff_toNat_le.mp within.offset
  have target := UInt32.le_iff_toNat_le.mp within.target
  have preview := UInt32.le_iff_toNat_le.mp within.preview
  have divisor := UInt32.lt_iff_toNat_lt.mp positive
  -- Cutting to whole numbers and cutting off at the bound both keep the order.
  have quotient : lesser.offset.toNat * lesser.target.toNat / lesser.preview.toNat ≤
      greater.offset.toNat * greater.target.toNat / greater.preview.toNat :=
    Nat.div_le_div (Nat.mul_le_mul offset target) preview (Nat.ne_of_gt divisor)
  unfold Axis.coordinate
  omega

/-- A common factor of both lengths cancels before anything is cut. -/
theorem Axis.Enlarged.coordinate_eq {factor : Nat} {small large : Axis}
    (enlarged : Axis.Enlarged factor small large) (positive : 0 < factor) :
    large.coordinate = small.coordinate := by
  unfold Axis.coordinate
  rw [enlarged.offset, enlarged.target, enlarged.preview, Nat.mul_left_comm,
    Nat.mul_div_mul_left _ _ positive]

/-- A mapping that succeeds had a preview with both lengths, and maps each axis on its own. -/
theorem Block.coordinates_of_toTarget {block : Block} {surfaces : Surfaces} {point : TargetPoint}
    (mapped : block.toTarget surfaces = .ok point) :
    (0 < surfaces.previewWidth ∧ 0 < surfaces.previewHeight) ∧
      point.x.toNat = (block.across surfaces).coordinate ∧
      point.y.toNat = (block.down surfaces).coordinate := by
  unfold Block.toTarget at mapped
  split at mapped
  -- Without a preview the mapping fails.
  next => cases mapped
  next full =>
    simp only [Bool.or_eq_true, beq_iff_eq, not_or] at full
    cases mapped
    refine ⟨?_, toNat_mapAxis_min .., toNat_mapAxis_min ..⟩
    exact ⟨UInt32.pos_iff_ne_zero.mpr full.left, UInt32.pos_iff_ne_zero.mpr full.right⟩

/-- What the coordinates of two mapped axes have to do with each other. -/
structure Axis.Compared (first : Axis) (one : UInt32) (second : Axis) (other : UInt32) : Prop where
  /-- The same axis leads to the same coordinate. -/
  determined : second = first → other = one
  /-- An axis that reaches further leads at least as far. -/
  ordered : first.Within second → one ≤ other
  /-- A common factor of target and preview changes nothing. -/
  enlarged (factor : Nat) : 0 < factor → Axis.Enlarged factor first second → other = one

/-- Exact coordinates compare as their axes do. -/
theorem Axis.Compared.of_exact {first second : Axis} {one other : UInt32}
    (exact : one.toNat = first.coordinate) (exactly : other.toNat = second.coordinate)
    (positive : 0 < second.preview) : Axis.Compared first one second other where
  determined same := by
    apply UInt32.toNat_inj.mp
    rw [exact, exactly, same]
  ordered within := by
    rw [UInt32.le_iff_toNat_le, exact, exactly]
    exact within.coordinate_le positive
  enlarged factor nonzero larger := by
    apply UInt32.toNat_inj.mp
    rw [exact, exactly]
    exact larger.coordinate_eq nonzero

/-- Every block is mapped wherever the preview has both lengths, also a block that is not on the
preview. Neither product leaves the wide range, each coordinate is the exact quotient cut off at
the largest length, and each follows the offset and the lengths of its own axis only: it grows with
the offset and the target, shrinks with the preview, and keeps under a common factor of target and
preview. -/
theorem Block.toTarget_exact (block : Block) (surfaces : Surfaces)
    (wide : 0 < surfaces.previewWidth) (high : 0 < surfaces.previewHeight) :
    ∃ point, block.toTarget surfaces = .ok point ∧
      ((block.left.toUInt64 * surfaces.targetWidth.toUInt64).toNat =
          block.left.toNat * surfaces.targetWidth.toNat ∧
        (block.top.toUInt64 * surfaces.targetHeight.toUInt64).toNat =
          block.top.toNat * surfaces.targetHeight.toNat) ∧
      (point.x.toNat = min (block.left.toNat * surfaces.targetWidth.toNat /
          surfaces.previewWidth.toNat) (2 ^ 32 - 1) ∧
        point.y.toNat = min (block.top.toNat * surfaces.targetHeight.toNat /
          surfaces.previewHeight.toNat) (2 ^ 32 - 1)) ∧
      ∀ (other : Block) (others : Surfaces) (another : TargetPoint),
        other.toTarget others = .ok another →
          (block.across surfaces).Compared point.x (other.across others) another.x ∧
          (block.down surfaces).Compared point.y (other.down others) another.y := by
  have mapped : ∃ point, block.toTarget surfaces = .ok point := by
    have wide := UInt32.pos_iff_ne_zero.mp wide
    have high := UInt32.pos_iff_ne_zero.mp high
    simp [Block.toTarget, wide, high]
  obtain ⟨point, mapped⟩ := mapped
  obtain ⟨-, x, y⟩ := Block.coordinates_of_toTarget mapped
  refine ⟨point, mapped, ⟨toNat_product _ _, toNat_product _ _⟩, ⟨x, y⟩, ?_⟩
  intro other others another mapped
  obtain ⟨⟨wide, high⟩, x', y'⟩ := Block.coordinates_of_toTarget mapped
  exact ⟨.of_exact x x' wide, .of_exact y y' high⟩

/-- A block far beyond a small preview leads beyond the range of lengths on one axis only. -/
theorem Block.toTarget_exact_beyond :
    (0 : UInt32) < 2 ∧ (0 : UInt32) < 10 ∧
      ∃ point, (Block.mk 0xFFFFFFFF 7 0 0xFFFFFFFF).toTarget ⟨2, 10, 0xFFFFFFFF, 5⟩ = .ok point ∧
        point.x.toNat = 2 ^ 32 - 1 ∧ point.y.toNat = 3 := by
  have wide : (0 : UInt32) < 2 := by decide
  have high : (0 : UInt32) < 10 := by decide
  obtain ⟨point, mapped, -, ⟨x, y⟩, -⟩ := Block.toTarget_exact
    ⟨0xFFFFFFFF, 7, 0, 0xFFFFFFFF⟩ ⟨2, 10, 0xFFFFFFFF, 5⟩ wide high
  exact ⟨wide, high, point, mapped, x.trans (by decide), y.trans (by decide)⟩

end Placard
