import Placard.Machine.Basic
import Placard.Shell.Arithmetic
import Placard.Shell.Syntax
import Placard.Shell.Tools

/-! Running a command line: what it writes, within the time that it has. -/

namespace Placard.Shell

/-- Why a run stops before the end of its commands. -/
inductive Stop
  | leave
  | late
deriving DecidableEq, Repr, Inhabited

/-- Bytes written to the stream of a number. -/
abbrev Chunk := Nat × List UInt8

/-- Where a run stands. -/
structure Session where
  environment : List (String × String)
  status : Nat
  left : Duration
  input : List UInt8
  output : List Chunk
deriving Repr, Inhabited

/-- An action of a run on a machine. -/
abbrev Act (m : Type → Type) := ExceptT Stop (StateT Session m)

/-- Where a stream leads. -/
inductive Target
  | stream (number : Nat)
  | file (path : String)
  | nowhere
deriving DecidableEq, Repr, Inhabited

section

variable {m : Type → Type} [Monad m] [Machine m]

/-- An action of the machine within a run. -/
def onMachine {α : Type} (action : m α) : Act m α := ExceptT.lift (StateT.lift action)

/-- Writes bytes to a stream. -/
def emit (stream : Nat) (bytes : List UInt8) : Act m Unit :=
  modify fun session => { session with output := session.output ++ [(stream, bytes)] }

/-- Sets how the last command ended. -/
def setStatus (status : Nat) : Act m Unit := modify ({ · with status })

/-- Runs an action with its own input, and gives what it wrote. -/
def capture (input : List UInt8) (action : Act m Unit) : Act m (List Chunk) := do
  let before ← get
  set { before with input, output := [] }
  action
  let after ← get
  set { after with input := before.input, output := before.output }
  return after.output

/-- Runs an action whose changes of variables, and whose leaving, stay inside. -/
def apart (action : Act m Unit) : Act m Unit := do
  let environment := (← get).environment
  tryCatch action fun
    | .leave => return
    | .late => throw .late
  modify ({ · with environment })

/-- The bytes written to one stream. -/
def writtenTo (stream : Nat) (chunks : List Chunk) : List UInt8 :=
  (chunks.filter (·.1 == stream)).flatMap (·.2)

/-- The number of seconds that a text gives. -/
private def seconds? (text : String) : Option Duration :=
  (Decimal.float? text.toList).bind fun number =>
    if number < 0 || number.isNaN then none
    else some ⟨(min (number * 1e9) 1e30).toUInt64.toNat⟩

/-- Spends time; a run that has less left is late. -/
def spend (span : Duration) : Act m Unit := do
  let left := (← get).left
  if left.nanoseconds ≤ span.nanoseconds then
    onMachine (Machine.pause left)
    throw .late
  onMachine (Machine.pause span)
  modify ({ · with left := ⟨left.nanoseconds - span.nanoseconds⟩ })

/-- The bytes of named files one after another; a lone dash, or no name, is the input. -/
def gather (program : String) (names : List String) : Act m (List UInt8) := do
  let sources := if names.isEmpty then ["-"] else names
  setStatus 0
  sources.foldlM (fun gathered name => do
    if name == "-" then
      let input := (← get).input
      modify ({ · with input := [] })
      return gathered ++ input
    match ← onMachine (Machine.read name) with
    | .ok content => return gathered ++ content
    | .error _ =>
      emit 2 (bytesOf s!"{program}: {name}: No such file or directory\n")
      setStatus 1
      return gathered) []

/-- Decides a condition on texts, numbers or files. -/
def holds (arguments : List String) : Act m Bool := do
  let number (text : String) : Int := (Decimal.signedWord? text.toList).getD 0
  match arguments with
  | [] => return false
  | [text] => return text != ""
  | ["-n", text] => return text != ""
  | ["-z", text] => return text == ""
  | ["-f", path] => onMachine (Machine.isFile path)
  | ["-e", path] => onMachine (Machine.isThere path)
  | ["-r", path] => onMachine (Machine.isThere path)
  | ["-d", path] => return (← onMachine (Machine.kind? path)) == some .directory
  | ["-s", path] => return ((← onMachine (Machine.read path)).toOption.getD []) != []
  | [left, "=", right] => return left == right
  | [left, "!=", right] => return left != right
  | [left, "-eq", right] => return number left == number right
  | [left, "-ne", right] => return number left != number right
  | [left, "-lt", right] => return number left < number right
  | [left, "-le", right] => return number left ≤ number right
  | [left, "-gt", right] => return number left > number right
  | [left, "-ge", right] => return number left ≥ number right
  | "!" :: first :: others => return !(← holds (first :: others))
  | _ => return false

/-- The numbers between two, each on a line of its own. -/
private def countUp (first last : Nat) : List UInt8 :=
  ((List.range (last + 1)).filter (first ≤ ·)).flatMap fun number => bytesOf s!"{number}\n"

/-- Ends a program well when a condition holds. -/
private def judge (answer : Bool) : Act m Unit := setStatus (if answer then 0 else 1)

/-- Runs the program of a name. -/
def runProgram (name : String) (arguments : List String) : Act m Unit := do
  match name with
  | "true" => setStatus 0
  | ":" => setStatus 0
  | "false" => setStatus 1
  | "echo" =>
    emit 1 (echo arguments)
    setStatus 0
  | "printf" =>
    match arguments with
    | format :: values =>
      emit 1 (printFormat (values.length + 1) format.toList values)
      setStatus 0
    | [] => setStatus 2
  | "exit" =>
    match arguments with
    | code :: _ => setStatus ((Decimal.digits? code.toList).getD 2 % 256)
    | [] => pure ()
    throw .leave
  -- The shell knows no other process than itself.
  | "kill" => throw .leave
  | "cat" => emit 1 (← gather name arguments)
  | "head" =>
    let (count, bytewise, names) := readCountOption arguments
    emit 1 (partOf false count bytewise (← gather name names))
  | "tail" =>
    let (count, bytewise, names) := readCountOption arguments
    emit 1 (partOf true count bytewise (← gather name names))
  | "wc" =>
    let (option, names) := match arguments with
      | "-l" :: rest => ("-l", rest)
      | "-w" :: rest => ("-w", rest)
      | "-c" :: rest => ("-c", rest)
      | rest => ("", rest)
    let (lines, words, bytes) := counts (← gather name names)
    let shown := match option with
      | "-l" => toString lines
      | "-w" => toString words
      | "-c" => toString bytes
      | _ => s!"{lines} {words} {bytes}"
    emit 1 (bytesOf (Text.joinWith " " (shown :: names) ++ "\n"))
  | "tr" =>
    match translate? arguments (← get).input with
    | some output =>
      modify ({ · with input := [] })
      emit 1 output
      setStatus 0
    | none => setStatus 1
  | "sleep" =>
    match arguments.mapM seconds? with
    | some spans =>
      spend ⟨spans.foldl (fun total span => total + span.nanoseconds) 0⟩
      setStatus 0
    | none => setStatus 1
  | "seq" =>
    setStatus 0
    match arguments.mapM fun text => Decimal.digits? text.toList with
    | some [last] => emit 1 (countUp 1 last)
    | some [first, last] => emit 1 (countUp first last)
    | _ => setStatus 1
  | "test" => judge (← holds arguments)
  | "[" => judge (← holds arguments.dropLast)
  | _ =>
    emit 2 (bytesOf s!"sh: 1: {name}: not found\n")
    setStatus 127

/-- Sends what was written where its streams lead. -/
def deliver (targets : List (Nat × Target)) (chunks : List Chunk) : Act m Unit :=
  chunks.forM fun (stream, bytes) => do
    match (targets.lookup stream).getD (.stream stream) with
    | .stream number => emit number bytes
    | .nowhere => return
    | .file path =>
      let held := (← onMachine (Machine.read path)).toOption.getD []
      let _ ← onMachine (Machine.write path (held ++ bytes))

end

/-- Texts in the making: the finished fields, and the one that is open. -/
structure Fields where
  done : List String
  current : Option String

/-- Adds text to the open field. -/
def Fields.add (fields : Fields) (text : String) : Fields :=
  { fields with current := some (fields.current.getD "" ++ text) }

/-- Ends the open field. -/
def Fields.close (fields : Fields) : Fields :=
  match fields.current with
  | some text => ⟨fields.done ++ [text], none⟩
  | none => fields

/-- Adds a text that blanks divide into fields. -/
def Fields.addSplit (fields : Fields) (text : String) : Fields :=
  text.toList.foldl (fun held c =>
    if c == ' ' || c == '\t' || c == '\n' then held.close else held.add (.singleton c)) fields

/-- The output of a command as a text: the line ends at its end do not count. -/
def outputText (bytes : List UInt8) : String :=
  .ofList ((Text.decodeLossy bytes).reverse.dropWhile (· == '\n')).reverse

section

variable {m : Type → Type} [Monad m] [Machine m]

mutual

/-- The text of a part; the fuel bounds the steps of a whole run. -/
def valueOf (fuel : Nat) (part : Part) : Act m String :=
  match fuel with
  | 0 => throw .late
  | fuel + 1 => do
    match part with
    | .text value => return value
    | .variable name fallback _ =>
      let session ← get
      let value := if name == "?" then toString session.status
        else (session.environment.lookup name).getD ""
      match fallback with
      | some parts => if value == "" then joined fuel parts else return value
      | none => return value
    | .output command _ =>
      let chunks ← capture (← get).input (apart (run fuel command))
      (writtenTo 2 chunks |> emit 2)
      return outputText (writtenTo 1 chunks)
    | .sum text =>
      let environment := (← get).environment
      let number (name : String) : Int :=
        ((environment.lookup name).bind fun held =>
          Decimal.signedWord? held.toList).getD 0
      match Arithmetic.evaluate number text with
      | some total => return toString total
      | none =>
        setStatus 2
        throw .leave

/-- The text of a word that is not divided. -/
def joined (fuel : Nat) (word : Word) : Act m String :=
  match fuel with
  | 0 => throw .late
  | fuel + 1 => do return String.join (← word.mapM (valueOf fuel))

/-- The fields of a word: values that are not quoted are divided at blanks. -/
def fieldsOf (fuel : Nat) (word : Word) : Act m (List String) :=
  match fuel with
  | 0 => throw .late
  | fuel + 1 => do
    let fields ← word.foldlM (fun (fields : Fields) part => do
      let value ← valueOf fuel part
      match part with
      | .variable _ _ false => return fields.addSplit value
      | .output _ false => return fields.addSplit value
      | _ => return fields.add value) ⟨[], none⟩
    return fields.close.done

/-- Opens the targets of redirections in order; nothing is answered when one cannot be opened. -/
def openTargets (fuel : Nat) (redirects : List Redirect) (targets : List (Nat × Target)) :
    Act m (Option (List (Nat × Target))) :=
  match fuel with
  | 0 => throw .late
  | fuel + 1 => do
    match redirects with
    | [] => return some targets
    | (stream, direction, word) :: others =>
      let name ← joined fuel word
      let refuse : Act m (Option (List (Nat × Target))) := do
        emit 2 (bytesOf s!"sh: 1: cannot open {name}\n")
        setStatus 2
        return none
      match direction with
      | .copy =>
        match Decimal.digits? name.toList with
        | some number =>
          let target := (targets.lookup number).getD (.stream number)
          openTargets fuel others ((stream, target) :: targets)
        | none => refuse
      | .read =>
        if name == "/dev/null" then
          modify ({ · with input := [] })
          openTargets fuel others targets
        else
          match ← onMachine (Machine.read name) with
          | .ok content =>
            modify ({ · with input := content })
            openTargets fuel others targets
          | .error _ => refuse
      | _ =>
        if name == "/dev/null" then openTargets fuel others ((stream, .nowhere) :: targets)
        else
          let held ← if direction == .append then
            pure ((← onMachine (Machine.read name)).toOption.getD []) else pure []
          match ← onMachine (Machine.write name held) with
          | .ok _ => openTargets fuel others ((stream, .file name) :: targets)
          | .error _ => refuse

/-- Runs an action with its streams redirected. -/
def redirected (fuel : Nat) (redirects : List Redirect) (action : Act m Unit) : Act m Unit :=
  match fuel with
  | 0 => throw .late
  | fuel + 1 => do
    let input := (← get).input
    match ← openTargets fuel redirects [] with
    | none => return
    | some targets =>
      let before := (← get).output
      modify ({ · with output := [] })
      let finish : Act m Unit := do
        let written := (← get).output
        modify ({ · with output := before })
        deliver targets written
        if redirects.any (·.2.1 == .read) then modify ({ · with input })
      tryCatch action fun stop => do
        finish
        throw stop
      finish

/-- Runs the stages of a pipeline: each reads what the one before it wrote. -/
def runStages (fuel : Nat) (stages : List Command) : Act m Unit :=
  match fuel with
  | 0 => throw .late
  | fuel + 1 => do
    match stages with
    | [] => return
    | [only] => run fuel only
    | first :: others =>
      let chunks ← capture (← get).input (apart (run fuel first))
      emit 2 (writtenTo 2 chunks)
      let written ← capture (writtenTo 1 chunks) (apart (runStages fuel others))
      modify fun session => { session with output := session.output ++ written }

/-- Runs a loop as long as its condition ends as wanted. -/
def runLoop (fuel : Nat) (wanted : Bool) (condition body : Command) (last : Nat) : Act m Unit :=
  match fuel with
  | 0 => throw .late
  | fuel + 1 => do
    run fuel condition
    if ((← get).status == 0) == wanted then
      run fuel body
      runLoop fuel wanted condition body (← get).status
    else setStatus last

/-- Runs a command. -/
def run (fuel : Nat) (command : Command) : Act m Unit :=
  match fuel with
  | 0 => throw .late
  | fuel + 1 => do
    match command with
    | .simple assigned words redirects =>
      let fields ← words.mapM (fieldsOf fuel)
      let values ← assigned.mapM fun (name, word) => do return (name, ← joined fuel word)
      match fields.flatten with
      | [] => redirected fuel redirects do
          modify fun session => { session with environment := values.reverse ++ session.environment }
          setStatus 0
      | "exec" :: name :: arguments => do
        redirected fuel redirects (runProgram name arguments)
        throw .leave
      | "sh" :: "-c" :: text :: _ =>
        let command := (parse text).getD (.sequence [])
        redirected fuel redirects (apart (run fuel command))
      | name :: arguments => redirected fuel redirects (runProgram name arguments)
    | .pipeline negated stages =>
      runStages fuel stages
      if negated then setStatus (if (← get).status == 0 then 1 else 0)
    | .both left right =>
      run fuel left
      if (← get).status == 0 then run fuel right
    | .either left right =>
      run fuel left
      if (← get).status != 0 then run fuel right
    | .sequence commands => commands.forM (run fuel)
    | .group isApart body redirects =>
      redirected fuel redirects (if isApart then apart (run fuel body) else run fuel body)
    | .branch condition body otherwise =>
      run fuel condition
      if (← get).status == 0 then run fuel body
      else match otherwise with
        | some command => run fuel command
        | none => setStatus 0
    | .loop until_ condition body => runLoop fuel (!until_) condition body 0
    | .each name words body =>
      let fields ← words.mapM (fieldsOf fuel)
      setStatus 0
      fields.flatten.forM fun value => do
        modify fun session => { session with environment := (name, value) :: session.environment }
        run fuel body

end

/-- The number of steps that a command line may nest; one that needs more is late. -/
def depthLimit : Nat := 10000

/-- What a command line writes to its output, unless it takes longer than a budget.

A line that breaks the grammar writes nothing. -/
def outputOf (text : String) (budget : Duration) : m (Option (List UInt8)) := do
  match parse text with
  | none => return some []
  | some command =>
    let start : Session := ⟨← Machine.environment, 0, budget, [], []⟩
    let (result, session) ← ((run depthLimit command : Act m Unit).run).run start
    match result with
    | .error .late => return none
    | _ => return some (writtenTo 1 session.output)

end

end Placard.Shell
