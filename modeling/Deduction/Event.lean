import Deduction.Failure
import Deduction.Outline

/-!
Events: everything the library reports while it works, each with its level, its message and its
named fields. Results come with the events reported on the way to them, first event first.
-/

namespace Deduction

inductive Level where
  | error
  | warn
  | info
  | debug
  | trace
deriving DecidableEq

namespace Level

def name : Level → String
  | error => "ERROR"
  | warn => "WARN"
  | info => "INFO"
  | debug => "DEBUG"
  | trace => "TRACE"

/-- The coarser the level, the smaller the number. -/
def detail : Level → Nat
  | error => 1
  | warn => 2
  | info => 3
  | debug => 4
  | trace => 5

end Level

inductive Event where
  /-- The store takes ground atoms only. -/
  | refused (atom : Atom)
  /-- A rule's batch holds an atom that is not stored yet. -/
  | derived (label : String) (atom : Atom)
  | roundFinished (round fresh total : Nat)
  /-- Conclusion atoms of a line past the first are not used. -/
  | extraConclusions (count : Nat) (line : String)
  | lineSkipped (number : Nat) (line : String)
  | rulesLoaded (count : Nat) (path : String)
  | credentialMissing (sources : List String)
  | generationWillBeSkipped
  | solving (problem : String)
  | deducing
  | depthReached (rounds : Nat)
  | capHit (cap : Nat)
  | unexplained
  | explained (atoms : List Atom)
  | generationSkipped (failure : Failure)
  | generationFailed (failure : Failure)
  | sendingPrompt (model : String) (size : Nat)
  | problemsUnreadable (failure : Failure)
deriving DecidableEq

namespace Event

def level : Event → Level
  | refused _ => .debug
  | derived _ _ => .trace
  | roundFinished _ _ _ => .debug
  | extraConclusions _ _ => .debug
  | lineSkipped _ _ => .debug
  | rulesLoaded _ _ => .info
  | credentialMissing _ => .warn
  | generationWillBeSkipped => .warn
  | solving _ => .info
  | deducing => .info
  | depthReached _ => .info
  | capHit _ => .warn
  | unexplained => .info
  | explained _ => .info
  | generationSkipped _ => .warn
  | generationFailed _ => .error
  | sendingPrompt _ _ => .debug
  | problemsUnreadable _ => .error

def message : Event → String
  | refused atom => "refusing non-ground atom " ++ atom.outline.compact
  | derived label atom => "`" ++ label ++ "` derives " ++ atom.written
  | roundFinished _ _ _ => "round finished"
  | extraConclusions count line =>
      "dropping " ++ toString count ++ " extra conclusion atom(s) in `" ++ line ++ "`"
  | lineSkipped number line => "skipping line " ++ toString number ++ ": `" ++ line ++ "`"
  | rulesLoaded count path => "loaded " ++ toString count ++ " rule(s) from " ++ path
  | credentialMissing sources =>
      "no API key found in environment (" ++ String.intercalate " or " sources ++ ")"
  | generationWillBeSkipped =>
      "symbolic deduction will still run, but the generative stage will be skipped"
  | solving problem => "solving problem: " ++ problem
  | deducing => "attempting symbolic deduction"
  | depthReached rounds => "symbolic deduction reached depth " ++ toString rounds
  | capHit cap => "round cap " ++ toString cap ++ " hit before saturation"
  | unexplained => "symbolic engine saturated without a full explanation"
  | explained atoms =>
      "symbolic engine explained: " ++ String.intercalate ", " (atoms.map Atom.written)
  | generationSkipped failure =>
      "skipping generative stage due to configuration error: " ++ failure.message
  | generationFailed failure => "generative stage failed: " ++ failure.message
  | sendingPrompt _ _ => "sending prompt"
  | problemsUnreadable failure => failure.message

def fields : Event → List (String × String)
  | roundFinished round fresh total =>
      [("round", toString round), ("derived", toString fresh), ("total", toString total)]
  | sendingPrompt model size => [("model", model), ("chars", toString size)]
  | _ => []

def fieldText (fields : List (String × String)) : String :=
  String.join (fields.map fun (name, value) => " " ++ name ++ "=" ++ value)

def text (event : Event) : String :=
  event.level.name ++ " " ++ event.message ++ fieldText event.fields

end Event

structure Logged (α : Type) where
  value : α
  events : List Event

namespace Logged

variable {α β : Type}

def silent (value : α) : Logged α :=
  ⟨value, []⟩

def andThen (first : Logged α) (next : α → Logged β) : Logged β :=
  ⟨(next first.value).value, first.events ++ (next first.value).events⟩

instance : Monad Logged where
  pure := silent
  bind := andThen

def report (event : Event) : Logged Unit :=
  ⟨(), [event]⟩

@[simp] theorem pure_value (value : α) : (pure value : Logged α).value = value := rfl

@[simp] theorem pure_events (value : α) : (pure value : Logged α).events = [] := rfl

@[simp] theorem bind_value (first : Logged α) (next : α → Logged β) :
    (first >>= next).value = (next first.value).value := rfl

@[simp] theorem bind_events (first : Logged α) (next : α → Logged β) :
    (first >>= next).events = first.events ++ (next first.value).events := rfl

@[simp] theorem report_events (event : Event) : (report event).events = [event] := rfl

protected theorem bind_assoc {γ : Type} (first : Logged α) (next : α → Logged β)
    (last : β → Logged γ) :
    first >>= next >>= last = first >>= fun value => next value >>= last :=
  congrArg (Logged.mk _) (List.append_assoc first.events _ _)

end Logged

end Deduction
