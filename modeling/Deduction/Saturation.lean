import Deduction.Join

/-!
Saturation: rules are applied round by round until a round brings nothing new or the cap on rounds
is reached. Within a round the rules take their turns in order. A rule's whole batch of conclusions
is computed from the store as it stands when the rule's turn begins; the rules after it see what it
added.
-/

namespace Deduction

structure Report where
  /-- Rounds executed, a last fruitless one included. -/
  rounds : Nat := 0
  /-- The number of facts added in each round. -/
  derived : List Nat := []
  /-- Whether the last round added nothing. -/
  saturated : Bool := false
deriving DecidableEq

namespace FactStore

def absorb (label : String) : List Atom → FactStore → Logged (FactStore × Nat)
  | [], store => pure (store, 0)
  | atom :: rest, store =>
      if store.contains atom then absorb label rest store
      else do
        Logged.report (.derived label atom)
        let (grown, isNew) ← store.add atom
        let (final, count) ← absorb label rest grown
        pure (final, isNew.toNat + count)

def apply (store : FactStore) (rule : Rule) : Logged (FactStore × Nat) :=
  absorb rule.label (rule.conclusions store) store

def round : List Rule → FactStore → Logged (FactStore × Nat)
  | [], store => pure (store, 0)
  | rule :: rest, store => do
      let (grown, first) ← store.apply rule
      let (final, others) ← round rest grown
      pure (final, first + others)

/-- Rounds with the numbers from `number` on, `cap` of them at most. -/
def solveFrom (rules : List Rule) : Nat → Nat → FactStore → Logged (FactStore × Report)
  | 0, _, store => pure (store, {})
  | cap + 1, number, store => do
      let (grown, count) ← round rules store
      Logged.report (.roundFinished number count grown.size)
      if count = 0 then
        pure (grown, { rounds := 1, derived := [0], saturated := true })
      else
        let (final, report) ← solveFrom rules cap (number + 1) grown
        pure (final, { report with
          rounds := report.rounds + 1, derived := count :: report.derived })

def solve (rules : List Rule) (cap : Nat) (store : FactStore) : Logged (FactStore × Report) :=
  solveFrom rules cap 1 store

end FactStore

end Deduction
