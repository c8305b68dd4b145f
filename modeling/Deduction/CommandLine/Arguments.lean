import Deduction.Settings
import Deduction.Text.Plain

/-!
Command-line arguments: switches, options with a value, and the words of the problem. Arguments are
taken from left to right. A value may be attached to its option by an equals sign or be the next
argument; in the second case it is checked when the next switch, option or word is met, or at the
end. After two dashes alone, every argument is a word.
-/

namespace Deduction.CommandLine

inductive Switch where
  | list
  | offline
  | help
  | version
deriving DecidableEq

inductive Parameter where
  | rules
  | problems
  | instruction
  | maxDepth
  | model
deriving DecidableEq

inductive NumberFault where
  | empty
  | invalidDigit
  | tooLarge
deriving DecidableEq

def NumberFault.words : NumberFault → String
  | empty => "cannot parse integer from empty string"
  | invalidDigit => "invalid digit found in string"
  | tooLarge => "number too large to fit in target type"

inductive UsageError where
  | unexpectedArgument (shown : String)
  /-- A switch takes no value. -/
  | unexpectedValue (value shown : String)
  | repeated (shown : String)
  | valueRequired (shown : String)
  | invalidNumber (value shown : String) (fault : NumberFault)
deriving DecidableEq

/-- What the user wrote is quoted as plain text. -/
def UsageError.message : UsageError → String
  | unexpectedArgument shown => "unexpected argument '" ++ Text.plain shown ++ "' found"
  | unexpectedValue value shown =>
      "unexpected value '" ++ Text.plain value ++ "' for '" ++ shown ++
        "' found; no more were expected"
  | repeated shown => "the argument '" ++ shown ++ "' cannot be used multiple times"
  | valueRequired shown => "a value is required for '" ++ shown ++ "' but none was supplied"
  | invalidNumber value shown fault =>
      "invalid value '" ++ Text.plain value ++ "' for '" ++ shown ++ "': " ++ fault.words

inductive Stop where
  | help
  | version
  | usage (error : UsageError)
deriving DecidableEq

structure Invocation where
  list : Bool
  offline : Bool
  settings : Settings
  words : List String
deriving DecidableEq

def Invocation.problem (invocation : Invocation) : String :=
  match invocation.words with
  | [] => Settings.defaultProblem
  | words => String.intercalate " " words

namespace Switch

def shown : Switch → String
  | list => "--list"
  | offline => "--offline"
  | help => "--help"
  | version => "--version"

def ofName? (name : String) : Option Switch :=
  [list, offline, help, version].find? fun switch => switch.shown == "--" ++ name

end Switch

namespace Parameter

def long : Parameter → String
  | rules => "--rules"
  | problems => "--problems"
  | instruction => "--instruction"
  | maxDepth => "--max-depth"
  | model => "--model"

def shown : Parameter → String
  | rules => "--rules <RULES>"
  | problems => "--problems <PROBLEMS>"
  | instruction => "--instruction <INSTRUCTION>"
  | maxDepth => "--max-depth <MAX_DEPTH>"
  | model => "--model <MODEL>"

def ofName? (name : String) : Option Parameter :=
  [rules, problems, instruction, maxDepth, model].find? fun parameter =>
    parameter.long == "--" ++ name

end Parameter

def numberLimit : Nat := Nat.pow 2 64

/-- Reads decimal digits on top of those read so far. The first fault from the left counts. -/
def readDigits (value : Nat) : List Char → Except NumberFault Nat
  | [] => .ok value
  | c :: rest =>
      if c.isDigit then
        let value := value * 10 + (c.toNat - '0'.toNat)
        if value < numberLimit then readDigits value rest else .error .tooLarge
      else .error .invalidDigit

def readNumber (text : String) : Except NumberFault Nat :=
  match text.toList with
  | [] => .error .empty
  | ['+'] => .error .invalidDigit
  | '+' :: digits => readDigits 0 digits
  | digits => readDigits 0 digits

structure Draft where
  list : Bool := false
  offline : Bool := false
  rules : Option String := none
  problems : Option String := none
  instruction : Option String := none
  maxDepth : Option Nat := none
  model : Option String := none
  words : List String := []
  /-- An option whose value is not checked yet, with the value if it has been met. -/
  pending : Option (Parameter × Option String) := none

namespace Draft

def has (draft : Draft) : Parameter → Bool
  | .rules => draft.rules.isSome
  | .problems => draft.problems.isSome
  | .instruction => draft.instruction.isSome
  | .maxDepth => draft.maxDepth.isSome
  | .model => draft.model.isSome

def givePath (parameter : Parameter) (value : String) (give : Option String → Draft) :
    Except UsageError Draft :=
  if value.isEmpty then .error (.valueRequired parameter.shown) else .ok (give (some value))

def assign (draft : Draft) (parameter : Parameter) (value : String) : Except UsageError Draft :=
  if draft.has parameter then .error (.repeated parameter.shown)
  else
    match parameter with
    | .rules => givePath parameter value fun path => { draft with rules := path }
    | .problems => givePath parameter value fun path => { draft with problems := path }
    | .instruction => givePath parameter value fun path => { draft with instruction := path }
    | .maxDepth =>
        match readNumber value with
        | .error fault => .error (.invalidNumber value parameter.shown fault)
        | .ok number => .ok { draft with maxDepth := some number }
    | .model => .ok { draft with model := some value }

def settle (draft : Draft) : Except UsageError Draft :=
  match draft.pending with
  | none => .ok draft
  | some (parameter, none) => .error (.valueRequired parameter.shown)
  | some (parameter, some value) => { draft with pending := none }.assign parameter value

def once (switch : Switch) (isThrown : Bool) (thrown : Draft) : Except Stop Draft :=
  if isThrown then .error (.usage (.repeated switch.shown)) else .ok thrown

def throwSwitch (draft : Draft) : Switch → Except Stop Draft
  | .list => once .list draft.list { draft with list := true }
  | .offline => once .offline draft.offline { draft with offline := true }
  | .help => .error .help
  | .version => .error .version

def settled (draft : Draft) : Except Stop Draft :=
  draft.settle.mapError Stop.usage

def long (draft : Draft) (name : String) (value : Option String) : Except Stop Draft :=
  match Switch.ofName? name, Parameter.ofName? name, value with
  | some switch, _, some value => .error (.usage (.unexpectedValue value switch.shown))
  | some switch, _, none => draft.settled >>= fun draft => draft.throwSwitch switch
  | none, some parameter, some value =>
      draft.settled >>= fun draft => (draft.assign parameter value).mapError Stop.usage
  | none, some parameter, none =>
      draft.settled.map fun draft => { draft with pending := some (parameter, none) }
  | none, none, _ => .error (.usage (.unexpectedArgument ("--" ++ name)))

def short (draft : Draft) (letter : Char) : Except Stop Draft :=
  if letter = 'h' then draft.settled >>= fun draft => draft.throwSwitch .help
  else if letter = 'V' then draft.settled >>= fun draft => draft.throwSwitch .version
  else .error (.usage (.unexpectedArgument (String.ofList ['-', letter])))

def word (draft : Draft) (text : String) : Except Stop Draft :=
  draft.settled.map fun draft => { draft with words := text :: draft.words }

def plain (draft : Draft) (text : String) : Except Stop Draft :=
  match draft.pending with
  | some (parameter, none) => .ok { draft with pending := some (parameter, some text) }
  | _ => draft.word text

def splitLong (text : List Char) : String × Option String :=
  match text.dropWhile fun c => c != '=' with
  | [] => (String.ofList text, none)
  | _ :: value => (String.ofList (text.takeWhile fun c => c != '='), some (String.ofList value))

def take (draft : Draft) (argument : String) : Except Stop Draft :=
  match argument.toList with
  | '-' :: '-' :: rest => let (name, value) := splitLong rest; draft.long name value
  | '-' :: letter :: _ => draft.short letter
  | _ => draft.plain argument

/-- Takes the arguments; `onlyWords` holds after two dashes alone. -/
def takeAll (draft : Draft) (onlyWords : Bool) : List String → Except Stop Draft
  | [] => .ok draft
  | argument :: rest =>
      if onlyWords then draft.word argument >>= fun draft => draft.takeAll true rest
      else if argument = "--" then draft.takeAll true rest
      else draft.take argument >>= fun draft => draft.takeAll false rest

def invocation (draft : Draft) : Invocation :=
  let defaults : Settings := {}
  { list := draft.list
    offline := draft.offline
    settings :=
      { rulesPath := draft.rules.getD defaults.rulesPath
        problemsPath := draft.problems.getD defaults.problemsPath
        instructionPath := draft.instruction.getD defaults.instructionPath
        model := draft.model.getD defaults.model
        cap := draft.maxDepth.getD defaults.cap }
    words := draft.words.reverse }

end Draft

def parse (arguments : List String) : Except Stop Invocation := do
  let draft ← Draft.takeAll {} false arguments
  let draft ← draft.settled
  pure draft.invocation

end Deduction.CommandLine
