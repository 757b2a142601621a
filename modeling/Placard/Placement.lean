import Placard.Json.Writer

/-! The place of a text block on a preview surface, and the same place on the full-size target. -/

namespace Placard

/-- A block on the preview surface: its upper left corner and its size. -/
structure Block where
  left : UInt32
  top : UInt32
  width : UInt32
  height : UInt32
deriving DecidableEq, Repr

/-- The block that is placed when nothing else is asked for. -/
def Block.usual : Block := ⟨50, 50, 300, 150⟩

instance : Inhabited Block := ⟨.usual⟩

/-- The sizes of a preview surface and of the target surface that it stands for. -/
structure Surfaces where
  previewWidth : UInt32
  previewHeight : UInt32
  targetWidth : UInt32
  targetHeight : UInt32
deriving DecidableEq, Repr, Inhabited

/-- A point of the target surface. -/
structure TargetPoint where
  x : UInt32
  y : UInt32
deriving DecidableEq, Repr, Inhabited

/-- A preview without width or without height maps to no target. -/
inductive PlacementError
  | invalidScale (previewWidth previewHeight : UInt32)
deriving DecidableEq, Repr, Inhabited

/-- The wording of a failed placement. -/
def PlacementError.message : PlacementError → String
  | .invalidScale width height =>
    "Invalid scale: preview surface is " ++ toString width ++ "x" ++ toString height

/-- The usual preview has half the length of its target. -/
def usualScale : Float := 0.5

/-- A length times a factor, cut to a whole number within the range of lengths. -/
def scaledLength (length : UInt32) (factor : Float) : UInt32 :=
  -- The conversion stops at both ends of the range, and an undefined product counts as zero.
  (length.toNat.toFloat * factor).toUInt32

/-- The surfaces of a target and of its preview at a factor. -/
def Surfaces.ofTarget (width height : UInt32) (factor : Float) : Surfaces :=
  ⟨scaledLength width factor, scaledLength height factor, width, height⟩

/-- The largest offset at which a length still ends within a surface, or zero where it never does. -/
def lastOffset (surface length : UInt32) : UInt32 :=
  if length ≤ surface then surface - length else 0

/-- A block moved so that it stays on a surface; one that is too large starts at the edge. -/
def Block.clamped (block : Block) (width height : UInt32) : Block :=
  { block with
    left := min block.left (lastOffset width block.width)
    top := min block.top (lastOffset height block.height) }

/-- An offset on one axis of the preview, carried over to the target and cut to a whole number. -/
def mapAxis (offset target preview : UInt32) : UInt32 :=
  let scaled := offset.toUInt64 * target.toUInt64 / preview.toUInt64
  -- An offset outside the preview may lead beyond the range of lengths.
  if scaled ≤ 0xFFFFFFFF then scaled.toUInt32 else 0xFFFFFFFF

/-- The point of the target that stands for the upper left corner of a block. -/
def Block.toTarget (block : Block) (surfaces : Surfaces) : Except PlacementError TargetPoint :=
  if surfaces.previewWidth == 0 || surfaces.previewHeight == 0 then
    .error (.invalidScale surfaces.previewWidth surfaces.previewHeight)
  else .ok {
    x := mapAxis block.left surfaces.targetWidth surfaces.previewWidth
    y := mapAxis block.top surfaces.targetHeight surfaces.previewHeight }

/-- A block that was moved onto its preview, with the point of the target that it maps to. -/
structure Placement where
  block : Block
  surfaces : Surfaces
  target : TargetPoint
deriving DecidableEq, Repr, Inhabited

/-- Moves a block onto the preview and maps it to the target. -/
def Placement.compute (block : Block) (surfaces : Surfaces) : Except PlacementError Placement := do
  let moved := block.clamped surfaces.previewWidth surfaces.previewHeight
  return ⟨moved, surfaces, ← moved.toTarget surfaces⟩

/-- A placement for the eye. -/
def Placement.text (placement : Placement) : String :=
  "Preview: " ++ toString placement.block.left ++ ", " ++ toString placement.block.top ++
    "\nScaled: " ++ toString placement.target.x ++ ", " ++ toString placement.target.y

/-- A length as a JSON value. -/
private def lengthJson (length : UInt32) : Json := .nat length.toNat

/-- A block as a JSON value. -/
def Block.toJson (block : Block) : Json :=
  .object [("left", lengthJson block.left), ("top", lengthJson block.top),
    ("width", lengthJson block.width), ("height", lengthJson block.height)]

/-- A placement as a JSON value. -/
def Placement.toJson (placement : Placement) : Json :=
  .object [
    ("rect", placement.block.toJson),
    ("scale", .object [
      ("preview_width", lengthJson placement.surfaces.previewWidth),
      ("preview_height", lengthJson placement.surfaces.previewHeight),
      ("target_width", lengthJson placement.surfaces.targetWidth),
      ("target_height", lengthJson placement.surfaces.targetHeight)]),
    ("target", .object [
      ("x", lengthJson placement.target.x), ("y", lengthJson placement.target.y)])]

end Placard
