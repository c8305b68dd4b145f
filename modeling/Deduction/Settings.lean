import Deduction.Event
import Deduction.Text.Cut

/-!
The settings of a run with their defaults, and the credential for the generative service. The
credential is the value of the first of two variables that is set to more than blanks, taken as it
stands.
-/

namespace Deduction

structure Settings where
  rulesPath : String := "data/physics_rules.txt"
  problemsPath : String := "data/physics_problems.txt"
  instructionPath : String := "data/system_instruction.txt"
  model : String := "gemini-3-pro-preview"
  /-- The most rounds that saturation may take. -/
  cap : Nat := 10
deriving DecidableEq

def Settings.defaultProblem : String :=
  "Explain the mechanical origin of the Fine Structure Constant (approx. 1/137) using HLRE."

namespace Credential

def sources : List String :=
  ["GEMINI_API_KEY", "JULES_API_KEY"]

def isUsable (value : String) : Bool :=
  !(Text.trim value.toList).isEmpty

/-- The variables asked, in order, and the first usable value; no variable is asked after that. -/
def search (lookup : String → Option String) : List String → List String × Option String
  | [] => ([], none)
  | source :: rest =>
      match (lookup source).filter isUsable with
      | some value => ([source], some value)
      | none =>
          let (asked, found) := search lookup rest
          (source :: asked, found)

def find? (lookup : String → Option String) : Option String :=
  (search lookup sources).2

def check (lookup : String → Option String) : Logged Bool :=
  if (find? lookup).isSome then pure true
  else do
    Logged.report (.credentialMissing sources)
    Logged.report .generationWillBeSkipped
    pure false

end Credential

end Deduction
