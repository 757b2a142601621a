import Placard.Command.Run
import Placard.Source.Fetch

/-! The program: it runs the words of its command line on the machine that it was started on. -/

namespace Placard

/-- What the failure of a file operation means. -/
def faultOf : IO.Error → FileFault
  | .noFileOrDirectory .. => .notFound
  | .alreadyExists .. => .alreadyExists
  | .inappropriateType _ 20 _ => .notDirectory
  | .inappropriateType .. => .isDirectory
  | error => .other (toString error)

/-- Tries a file operation. -/
def attempt {α : Type} (action : IO α) : IO (Except FileFault α) := do
  try return .ok (← action)
  catch error => return .error (faultOf error)

/-- The variables of the process, as the system lists them. -/
def processVariables : IO (List (String × String)) := do
  let listing ← IO.FS.readBinFile "/proc/self/environ"
  let text := Text.decodeLossy listing.toList
  return (Text.pieces (· == '\x00') text).filterMap fun entry =>
    let name := entry.takeWhile (· != '=')
    if name.isEmpty then none else some (.ofList name, .ofList (entry.drop (name.length + 1)))

/-- The first whole number after a word of a listing. -/
def numberAfter (word listing : String) : Nat :=
  let words := ((listing.splitOn "\n").flatMap (·.splitOn " "))
  ((words.dropWhile (· != word)).drop 1).head?.bind String.toNat? |>.getD 0

/-- The time since the epoch: when the system was started, and how long it has been running. -/
def systemTime : IO Duration := do
  let started := numberAfter "btime" (← IO.FS.readFile "/proc/stat")
  return ⟨started * 1_000_000_000 + (← IO.monoNanosNow)⟩

/-- Sleeps for a span of time at least, in pieces that the system can count. -/
def sleepFor (span : Duration) : IO Unit := do
  let piece := 4_000_000_000
  let milliseconds := (span.nanoseconds + 999_999) / 1_000_000
  for _ in [0 : milliseconds / piece] do
    IO.sleep (.ofNat piece)
  IO.sleep (.ofNat (milliseconds % piece))

instance : Machine IO where
  working := do return (← IO.currentDir).toString
  kind? path := do
    try
      let found ← ((← IO.currentDir) / path).metadata
      return some (if found.type == .dir then .directory else .file)
    catch _ => return none
  read path := attempt do return (← IO.FS.readBinFile path).toList
  write path content := attempt (IO.FS.writeBinFile path ⟨content.toArray⟩)
  makeDirectories path := attempt (IO.FS.createDirAll path)
  environment := processVariables
  now := systemTime
  pause := sleepFor
  say text := do
    let output ← IO.getStdout
    output.putStr text
    output.flush
  tell text := do (← IO.getStderr).putStr text

end Placard

/-- Runs the program. -/
def main (words : List String) : IO UInt32 := do
  return .ofNat (← Placard.runProgram (Placard.Transport.connect Placard.Source.fetch) words)
