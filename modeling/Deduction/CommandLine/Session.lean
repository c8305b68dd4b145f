import Deduction.CommandLine.Arguments
import Deduction.Pipeline

/-!
A session of the command-line program: its exit status, what it writes to standard output and what
it writes to standard error. Events are written to standard output, one to a line, as far as a
filter lets them through, which a variable chooses. Clock readings are not known here; they are put
in when the output is rendered.
-/

namespace Deduction.CommandLine

open Generation (Exchange Generator)

structure Surroundings where
  files : Files
  lookup : String → Option String
  exchange : Exchange

inductive Output where
  | event (report : Event)
  /-- The pipeline is through, with so many facts. -/
  | finished (facts : Nat)
  | text (written : String)
deriving DecidableEq

structure Session where
  status : Nat
  output : List Output
  complaint : String

namespace Output

def level? : Output → Option Level
  | event report => some report.level
  | finished _ => some .debug
  | text _ => none

def isShown (passes : Output → Bool) (output : Output) : Bool :=
  output.level?.isNone || passes output

/-- A character of a message as a log line shows it: those that could steer a terminal are written
as their code. -/
def tame (c : Char) : List Char :=
  if c = '\x1b' then "\\x1b".toList
  else if c = '\x07' then "\\x07".toList
  else if c = '\x08' then "\\x08".toList
  else if c = '\x0c' then "\\x0c".toList
  else if c = '\x7f' then "\\x7f".toList
  else if 0x80 ≤ c.toNat && c.toNat ≤ 0x9f then
    "\\u\x7b".toList ++ Nat.toDigits 16 c.toNat ++ ['\x7d']
  else [c]

def line (stamp : String) (level : Level) (message fields : String) : String :=
  stamp ++ " " ++ String.ofList (List.replicate (5 - level.name.length) ' ') ++ level.name ++ " " ++
    String.ofList (message.toList.flatMap tame) ++ fields ++ "\n"

def render (stamp elapsed : String) : Output → String
  | event report => line stamp report.level report.message (Event.fieldText report.fields)
  | finished facts =>
      line stamp .debug
        ("pipeline took " ++ elapsed ++ ", " ++ toString facts ++ " atom(s) known") ""
  | text written => written

end Output

def logVariable : String := "RUST_LOG"

/-- Which log lines pass when the log variable has a value or none. How a choice is read is left to
the filter, which may ask for more than levels. -/
abbrev Filter := Option String → Output → Bool

/-- A filter that knows levels only: the choice names one by a word or a number; info if it names
none. -/
def Filter.byLevel : Filter := fun choice output =>
  output.level?.any fun level => level.detail ≤
    match choice.map String.toLower with
    | some "off" | some "0" => 0
    | some "" | some "error" | some "1" => Level.error.detail
    | some "warn" | some "2" => Level.warn.detail
    | some "debug" | some "4" => Level.debug.detail
    | some "trace" | some "5" => Level.trace.detail
    | _ => Level.info.detail

def helpText : String :=
  "Forward-chaining deduction with a generative fallback\n\n" ++
  "Usage: chainlog [OPTIONS] [PROBLEM]...\n\n" ++
  "Arguments:\n" ++
  "  [PROBLEM]...  Problem statement (words are joined by spaces)\n\n" ++
  "Options:\n" ++
  "      --list                       Print the reference problem list and exit\n" ++
  "      --rules <RULES>              Rule file, one `premise => conclusion` rule per line " ++
  "[default: data/physics_rules.txt]\n" ++
  "      --problems <PROBLEMS>        Reference problem list shown by --list " ++
  "[default: data/physics_problems.txt]\n" ++
  "      --instruction <INSTRUCTION>  System instruction sent to the generative service " ++
  "[default: data/system_instruction.txt]\n" ++
  "      --max-depth <MAX_DEPTH>      Round cap for forward chaining [default: 10]\n" ++
  "      --model <MODEL>              Generative model id [default: gemini-3-pro-preview]\n" ++
  "      --offline                    Skip the generative stage\n" ++
  "  -h, --help                       Print help\n" ++
  "  -V, --version                    Print version\n"

def versionText : String := "chainlog 0.1.0\n"

/-- The first line of the report and its last. What stands between them is left out: hints at
similar options and a summary of the usage. -/
def usageText (error : UsageError) : String :=
  "error: " ++ error.message ++ "\n\nFor more information, try '--help'.\n"

def fatalText (failure : Failure) : String :=
  "Error: " ++ failure.message ++ "\n" ++
    match failure.cause with
    | none => ""
    | some words => "\nCaused by:\n    " ++ words ++ "\n"

def listProblems (files : Files) (path : String) : List Output :=
  match Files.load files path with
  | .error failure => [.event (.problemsUnreadable failure)]
  | .ok text =>
      [ .text "\n=== Pre-defined Physics Problems ===\n\n",
        .text (text ++ "\n"),
        .text "===================================\n\n" ]

def showResponse : Option String → List Output
  | none => []
  | some text =>
      [ .text "\n=== ALPHA-PHYSICS OUTPUT ===\n\n",
        .text (text ++ "\n"),
        .text "\n============================\n\n" ]

def Invocation.paths (invocation : Invocation) : List String :=
  if invocation.list then [invocation.settings.problemsPath]
  else if invocation.offline then [invocation.settings.rulesPath]
  else [invocation.settings.rulesPath, invocation.settings.instructionPath]

def pathsOf (arguments : List String) : List String :=
  match parse arguments with
  | .error _ => []
  | .ok invocation => invocation.paths

def watchedVariables : List String :=
  logVariable :: Credential.sources

def generatorOf (around : Surroundings) (invocation : Invocation) : Option (Generator Id) :=
  if invocation.offline then none
  else some (Generation.fromSurroundings around.exchange around.files around.lookup
    invocation.settings)

def preflight (around : Surroundings) (invocation : Invocation) : List Event :=
  if invocation.offline then [] else (Credential.check around.lookup).events

def solveProblem (around : Surroundings) (invocation : Invocation) : Session :=
  let ran : Logged (Except Failure Pipeline.Outcome) :=
    Id.run (Pipeline.run around.files invocation.problem invocation.settings
      (generatorOf around invocation))
  let events := (preflight around invocation ++ ran.events).map Output.event
  match ran.value with
  | .error failure => ⟨1, events, fatalText failure⟩
  | .ok outcome =>
      ⟨0, events ++ .finished outcome.store.size :: showResponse outcome.response, ""⟩

/-- The session as it would be if every log line were shown. -/
def perform (around : Surroundings) (arguments : List String) : Session :=
  match parse arguments with
  | .error .help => ⟨0, [.text helpText], ""⟩
  | .error .version => ⟨0, [.text versionText], ""⟩
  | .error (.usage error) => ⟨2, [], usageText error⟩
  | .ok invocation =>
      if invocation.list then
        ⟨0, listProblems around.files invocation.settings.problemsPath, ""⟩
      else solveProblem around invocation

def session (around : Surroundings) (arguments : List String)
    (filter : Filter := Filter.byLevel) : Session :=
  let performed := perform around arguments
  let passes := filter (around.lookup logVariable)
  { performed with output := performed.output.filter (Output.isShown passes) }

def Session.standardOutput (stamp elapsed : String) (session : Session) : String :=
  String.join (session.output.map (Output.render stamp elapsed))

/-! Lengths of time as text: in the largest unit of which there is at least one, with as many
decimals as it takes and no more. -/

/-- The decimals of a fraction with so many digits, without the zeros at its end. -/
def decimals (digits fraction : Nat) : List Char :=
  let written := Nat.toDigits 10 fraction
  let padded := List.replicate (digits - written.length) '0' ++ written
  (padded.reverse.dropWhile fun c => c == '0').reverse

/-- An amount of a unit of `10 ^ digits` nanoseconds. -/
def inUnit (nanoseconds digits : Nat) (unit : String) : String :=
  let whole := toString (nanoseconds / Nat.pow 10 digits)
  match decimals digits (nanoseconds % Nat.pow 10 digits) with
  | [] => whole ++ unit
  | fraction => whole ++ "." ++ String.ofList fraction ++ unit

def elapsedText (nanoseconds : Nat) : String :=
  if nanoseconds < Nat.pow 10 3 then inUnit nanoseconds 0 "ns"
  else if nanoseconds < Nat.pow 10 6 then inUnit nanoseconds 3 "µs"
  else if nanoseconds < Nat.pow 10 9 then inUnit nanoseconds 6 "ms"
  else inUnit nanoseconds 9 "s"

end Deduction.CommandLine
