import Placard.Command.Config
import Placard.Command.Connections
import Placard.Command.Place
import Placard.Command.Render
import Placard.Command.Watch

/-! Running a command line: what it puts out, how it ends, and the exit code of the program. -/

namespace Placard

/-! ### Completion -/

/-- The names of the commands, without the short ones. -/
def commandNames : List String :=
  ["render", "connections", "place", "watch", "config", "completions", "help"]

/-- The script that makes a shell complete the names of commands. -/
def ShellKind.script (shell : ShellKind) : String :=
  let names := Text.joinWith " " commandNames
  match shell with
  | .bash => "complete -W \"" ++ names ++ "\" wallinfo\n"
  | .elvish => "set edit:completion:arg-completer[wallinfo] = \x7b|@words| put " ++ names ++ " \x7d\n"
  | .fish => "complete -c wallinfo -f -a \"" ++ names ++ "\"\n"
  | .powershell =>
    "Register-ArgumentCompleter -Native -CommandName wallinfo -ScriptBlock \x7b -split \"" ++ names ++
      "\" \x7d\n"
  | .zsh => "#compdef wallinfo\n_arguments \"1:command:(" ++ names ++ ")\"\n"

/-! ### Commands -/

variable {m : Type → Type} [Monad m] [Machine m]

namespace Invocation

/-- Runs the command of a command line; only some commands need settings that can be loaded. -/
def run (connect : Connect m) (invocation : Invocation) : ExceptT Failure m Unit :=
  let presentation := invocation.presentation
  match invocation.command with
  | .config command => Command.runConfig invocation.sources presentation command
  | .completions shell => Machine.say shell.script
  | .render template explain => do
    let context ← Context.load invocation.sources
    Command.runRender connect context presentation template explain
  | .connections command => do
    let context ← Context.load invocation.sources
    Command.runConnections connect context presentation command
  | .place choice => do
    let context ← Context.load invocation.sources
    Command.runPlace context presentation choice
  | .watch choice => do
    let context ← Context.load invocation.sources
    Command.runWatch connect context presentation choice

end Invocation

/-- What the program can do, in short. -/
def helpText : String :=
  "Render system facts and live data into wallpaper text\n\n" ++
  "Usage: wallinfo [OPTIONS] <COMMAND>\n\n" ++
  "Commands: " ++ Text.joinWith ", " commandNames ++ "\n"

/-- How a command line ends. -/
inductive Ending
  | refused (usage : Usage)
  | failed (failure : Failure)
  | done
deriving DecidableEq, Repr, Inhabited

namespace Ending

/-- The exit code of the program. -/
def exitCode : Ending → Nat
  | refused usage => usage.exitCode
  | failed failure => failure.exitCode
  | done => 0

/-- What is put on the output in the end. -/
def answer : Ending → String
  | refused .help => helpText
  | refused .version => "wallinfo 0.1.0\n"
  | _ => ""

/-- What is put beside the output in the end. -/
def complaint : Ending → String
  | refused .help | refused .version | done => ""
  | refused .nothingSaid => helpText
  | refused usage => "error: " ++ usage.message ++ "\n\nFor more information, try '--help'.\n"
  | failed failure =>
    let code := match failure.code? with
      | some code => code ++ "\n\n"
      | none => ""
    let help := match failure.help? with
      | some help => "  help: " ++ help ++ "\n"
      | none => ""
    code ++ "  × " ++ failure.message ++ "\n" ++ help

end Ending

/-- Reads and runs a command line. -/
def runWords (connect : Connect m) (words : List String) : m Ending := do
  match Invocation.read (← Machine.environment) words with
  | .error usage => return .refused usage
  | .ok invocation =>
    match ← (invocation.run connect).run with
    | .error failure => return .failed failure
    | .ok _ => return .done

/-- Reads and runs a command line, tells how it ended, and gives the exit code. -/
def runProgram (connect : Connect m) (words : List String) : m Nat := do
  let ending ← runWords connect words
  if ending.answer != "" then Machine.say ending.answer
  if ending.complaint != "" then Machine.tell ending.complaint
  return ending.exitCode

end Placard
