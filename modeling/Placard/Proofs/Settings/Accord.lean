import Placard.Proofs.Machine.Accord
import Placard.Settings.Store

/-! Machines in accord read and write the files of the program alike. -/

namespace Placard.Accord

variable {m m' : Type → Type} [Monad m] [Monad m'] [Machine m] [Machine m'] {shown shown' : Presentation}
  (accord : Accord m m' shown shown')

/-- A path leads to a file on both machines, or on neither. -/
theorem isFile (path : String) : accord.agree Eq (Machine.isFile path) (Machine.isFile path) :=
  accord.next (accord.kind? path) fun _ => accord.give _

/-- A path leads to something on both machines, or on neither. -/
theorem isThere (path : String) : accord.agree Eq (Machine.isThere path) (Machine.isThere path) :=
  accord.next (accord.kind? path) fun _ => accord.give _

/-- The text of a file is the same on both machines. -/
theorem readText (path : String) : accord.agree Eq (Machine.readText path) (Machine.readText path) := by
  refine accord.next (accord.read path) fun found => ?_
  cases found with
  | error fault => exact accord.give _
  | ok content =>
    dsimp only
    split <;> exact accord.give _

/-- A text is written to a file on both machines, or on neither. -/
theorem writeText (path text : String) :
    accord.agree Eq (Machine.writeText path text) (Machine.writeText path text) :=
  accord.write path _

/-- The directory of a file is made on both machines, or on neither. -/
theorem makeParent (path : String) :
    accord.agree Eq (Placard.makeParent path) (Placard.makeParent path) := by
  unfold Placard.makeParent
  cases Path.parent? path with
  | none => exact accord.give _
  | some directory => exact accord.makeDirectories directory

/-- The first path that leads to a file is the same on both machines. -/
theorem firstFile? (paths : List String) :
    accord.agree Eq (Settings.firstFile? paths) (Settings.firstFile? paths) := by
  induction paths with
  | nil => exact accord.give _
  | cons path others ih =>
    refine accord.next (accord.isFile path) fun found => ?_
    cases found with
    | true => exact accord.give _
    | false => exact ih

/-- The values of a settings file are the same on both machines. -/
theorem readFile (path : String) : accord.agree Eq (Settings.readFile path) (Settings.readFile path) := by
  refine accord.next accord.working fun working => ?_
  refine accord.next (accord.firstFile? _) fun found => ?_
  cases found with
  | none => exact accord.give _
  | some name =>
    refine accord.next (accord.readText name) fun read => ?_
    cases read with
    | error fault => exact accord.give _
    | ok text =>
      dsimp only
      split <;> exact accord.give _

/-- The settings are the same on both machines. -/
theorem loadSettings (path : String) : accord.agree Eq (Settings.load path) (Settings.load path) := by
  refine accord.next (accord.readFile path) fun found => ?_
  cases found with
  | error error => exact accord.give _
  | ok given => exact accord.next accord.environment fun _ => accord.give _

/-- Settings are written to a file on both machines, or on neither. -/
theorem saveSettings (settings : Settings) (path : String) :
    accord.agree Eq (settings.save path) (settings.save path) := by
  refine accord.next (accord.makeParent path) fun made => ?_
  cases made with
  | error fault => exact accord.give _
  | ok _ =>
    dsimp only
    cases settings.write? with
    | none => exact accord.give _
    | some text => exact accord.next (accord.writeText path text) fun _ => accord.give _

/-- The registry in a file is the same on both machines. -/
theorem loadRegistry (path : String) : accord.agree Eq (Registry.load path) (Registry.load path) := by
  refine accord.next (accord.readText path) fun found => ?_
  split
  · exact accord.give _
  · exact accord.give _
  · split <;> exact accord.give _

/-- A registry is written to a file on both machines, or on neither. -/
theorem saveRegistry (registry : Registry) (path : String) :
    accord.agree Eq (registry.save path) (registry.save path) := by
  refine accord.next (accord.makeParent path) fun made => ?_
  cases made with
  | error fault => exact accord.give _
  | ok _ => exact accord.next (accord.writeText path _) fun _ => accord.give _

end Placard.Accord
