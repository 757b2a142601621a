import Placard.Command.Context
import Placard.Command.View

/-! Putting out the place of the text block on the preview and on the target. -/

namespace Placard

/-- A placement as a result. -/
def Placement.view (placement : Placement) : View where
  json := placement.toJson
  table := placement.text
  plain := toString placement.target.x ++ " " ++ toString placement.target.y

namespace PlaceChoice

/-- The block of the settings with the parts that are chosen. -/
def block (choice : PlaceChoice) (settings : Settings) : Block where
  left := choice.left.getD settings.placement.left
  top := choice.top.getD settings.placement.top
  width := choice.width.getD settings.placement.width
  height := choice.height.getD settings.placement.height

/-- The surfaces of the settings with the parts that are chosen. -/
def surfaces (choice : PlaceChoice) (settings : Settings) : Surfaces :=
  .ofTarget (choice.targetWidth.getD settings.target.width)
    (choice.targetHeight.getD settings.target.height)
    (choice.scale.getD settings.target.previewScale)

end PlaceChoice

namespace Command

variable {m : Type → Type} [Monad m] [Machine m]

/-- Places the text block and puts out where it is. -/
def runPlace (context : Context) (presentation : Presentation) (choice : PlaceChoice) :
    ExceptT Failure m Unit := do
  let block := choice.block context.settings
  match Placement.compute block (choice.surfaces context.settings) with
  | .ok placement => presentation.putView placement.view
  | .error error => throw (.ofPlacement error)

end Command

end Placard
