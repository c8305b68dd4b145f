import Deduction.Generation.Client
import Deduction.RuleText
import Deduction.Saturation

/-!
The pipeline: rules are read from a file, facts are seeded by a keyword of the problem, the rules
are applied, the facts of the target predicate are singled out, and the generator, if there is one,
is asked once with a prompt made of the facts and the problem. Only an unreadable rule file stops
the pipeline; what goes wrong with the generator is reported and leaves the outcome without a text.
-/

namespace Deduction.Pipeline

open Generation (Generator)

def target : String := "explained_constant"

def keyword : String := "Fine Structure Constant"

def seeds (problem : String) : List Atom :=
  if Text.occurs keyword.toList problem.toList then
    [Atom.ground "lattice_structure" ["L1", "D4"], Atom.ground "degree_of_freedom" ["L1", "137"]]
  else []

def seed (problem : String) (store : FactStore) : Logged FactStore :=
  store.extend (seeds problem)

def prompt (store : FactStore) (problem : String) : String :=
  "\nCurrent Symbolic State: " ++ store.written ++ "\nProblem Statement: " ++ problem ++
    "\n\nBased on the Hyper-Literal Reverse Engineering (HLRE) methodology, provide a " ++
    "mechanical reconstruction and perform a Meta-Theoretical Validation.\n"

structure Findings where
  report : Report
  explained : List Atom
  store : FactStore

structure Outcome extends Findings where
  /-- What the generator answered. -/
  response : Option String

def rulesOf (files : Files) (path : String) : Logged (Except Failure (List Rule)) :=
  match Files.load files path with
  | .error failure => pure (.error failure)
  | .ok text => do
      let rules ← RuleText.parseRules text.toList
      Logged.report (.rulesLoaded rules.length path)
      pure (.ok rules)

def findings (rules : List Rule) (problem : String) (cap : Nat) : Logged Findings := do
  let seeded ← seed problem FactStore.empty
  Logged.report .deducing
  let (store, report) ← seeded.solve rules cap
  Logged.report (.depthReached report.rounds)
  if !report.saturated then
    Logged.report (.capHit cap)
  let explained := store.query (some target)
  if explained.isEmpty then
    Logged.report .unexplained
  else
    Logged.report (.explained explained)
  pure ⟨report, explained, store⟩

def deduce (files : Files) (problem : String) (settings : Settings) :
    Logged (Except Failure Findings) := do
  Logged.report (.solving problem)
  match ← rulesOf files settings.rulesPath with
  | .error failure => pure (.error failure)
  | .ok rules => do
      let found ← findings rules problem settings.cap
      pure (.ok found)

def answer (reply : Except Failure String) : Logged (Option String) :=
  match reply with
  | .ok text => pure (some text)
  | .error failure => do
      Logged.report
        (if failure.isConfiguration then .generationSkipped failure else .generationFailed failure)
      pure none

def consult {m : Type → Type} [Monad m] (generator : Option (Generator m)) (problem : String)
    (found : Findings) : m (Logged Outcome) :=
  match generator with
  | none => pure (pure ⟨found, none⟩)
  | some ask => do
      let reply ← ask (prompt found.store problem)
      pure do
        let response ← answer (← reply)
        pure ⟨found, response⟩

def run {m : Type → Type} [Monad m] (files : Files) (problem : String) (settings : Settings)
    (generator : Option (Generator m)) : m (Logged (Except Failure Outcome)) :=
  let deduced := deduce files problem settings
  match deduced.value with
  | .error failure => pure ⟨.error failure, deduced.events⟩
  | .ok found => do
      let consulted ← consult generator problem found
      pure ⟨.ok consulted.value, deduced.events ++ consulted.events⟩

end Deduction.Pipeline
