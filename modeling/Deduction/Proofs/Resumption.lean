import Deduction.Proofs.Rounds

/-!
Interrupted runs. A run can be stopped after any number of rounds and taken up again under a further
cap: facts, their order and the report come out as if it had gone on. The solver begins every run as
if a fruitful round had come before, and this is all that an interruption could spoil: a run that is
taken up after its fruitless round makes that round once more and adds nothing.
-/

namespace Deduction

def Report.append (first second : Report) : Report where
  rounds := first.rounds + second.rounds
  derived := first.derived ++ second.derived
  saturated := second.saturated

namespace FactList

variable {rules : List Rule} {cap : Nat} {facts final : FactList} {report : Report}

/-- A saturated run has no use for a higher cap. -/
theorem Course.solve_add_of_saturated (course : Course rules cap facts final report)
    (saturated : report.saturated = true) (more : Nat) :
    solve rules (cap + more) facts = (final, report) := by
  induction course with
  | capped => contradiction
  | fruitless cap fixed => rw [Nat.add_right_comm, solve_of_fixed fixed]
  | fruitful grown _ ih => rw [Nat.add_right_comm, solve_of_grown grown, ih saturated]

/-- A run that the cap cut off goes on under the rest of a higher cap. -/
theorem Course.solve_add_of_unsaturated (course : Course rules cap facts final report)
    (unsaturated : report.saturated = false) (more : Nat) :
    solve rules (cap + more) facts =
      ((solve rules more final).1, report.append (solve rules more final).2) := by
  induction course with
  | capped facts => simp [Report.append]
  | fruitless => contradiction
  | fruitful grown _ ih =>
      rw [Nat.add_right_comm, solve_of_grown grown, ih unsaturated]
      simp [Report.append, Nat.add_right_comm]

theorem Course.solve_final (course : Course rules cap facts final report)
    (saturated : report.saturated = true) (more : Nat) :
    (solve rules more final).1 = final ∧
      (1 ≤ more → (solve rules more final).2 =
        { rounds := 1, derived := [0], saturated := true }) := by
  have fixed := course.round_final saturated
  cases more with
  | zero => exact ⟨rfl, fun spare => absurd spare (Nat.not_succ_le_zero 0)⟩
  | succ more =>
      rw [solve_of_fixed fixed]
      exact ⟨rfl, fun _ => rfl⟩

end FactList

/-- A run under a sum of caps is a run under the first cap, taken up again under the second. Where
the first run is saturated the second makes one fruitless round, if it may, and is not missed. -/
theorem solve_resumed (store : FactStore) (rules : List Rule) (cap more : Nat) :
    (store.solve rules (cap + more)).value.1.toList =
        ((store.solve rules cap).value.1.solve rules more).value.1.toList ∧
    ((store.solve rules cap).value.2.saturated = false →
      (store.solve rules (cap + more)).value.2 =
        (store.solve rules cap).value.2.append
          ((store.solve rules cap).value.1.solve rules more).value.2) ∧
    ((store.solve rules cap).value.2.saturated = true →
      (store.solve rules (cap + more)).value.2 = (store.solve rules cap).value.2 ∧
      ((store.solve rules cap).value.1.solve rules more).value.1.toList =
        (store.solve rules cap).value.1.toList ∧
      (1 ≤ more → ((store.solve rules cap).value.1.solve rules more).value.2 =
        { rounds := 1, derived := [0], saturated := true })) := by
  have course := FactList.course_solve rules cap store.toList
  simp only [FactStore.report_solve, FactStore.toList_solve]
  refine ⟨?_, ?_, ?_⟩
  · cases saturated : (FactList.solve rules cap store.toList).2.saturated with
    | false => rw [course.solve_add_of_unsaturated saturated]
    | true =>
        rw [course.solve_add_of_saturated saturated]
        exact (course.solve_final saturated more).1.symm
  · intro unsaturated
    rw [course.solve_add_of_unsaturated unsaturated]
  · intro saturated
    obtain ⟨facts, report⟩ := course.solve_final saturated more
    exact ⟨by rw [course.solve_add_of_saturated saturated], facts, report⟩

-- The road takes two rounds, so a first run of one is cut off and a first run of two is not.
theorem road_resumed :
    (Road.store.solve Road.rules 1).value.2.saturated = false ∧
      (Road.store.solve Road.rules 2).value.2.saturated = true ∧ 1 ≤ 3 ∧
      (Road.store.solve Road.rules (1 + 3)).value.2 =
        (Road.store.solve Road.rules 1).value.2.append
          ((Road.store.solve Road.rules 1).value.1.solve Road.rules 3).value.2 ∧
      ((Road.store.solve Road.rules 2).value.1.solve Road.rules 3).value.2 =
        { rounds := 1, derived := [0], saturated := true } := by
  have cutOff : (Road.store.solve Road.rules 1).value.2.saturated = false := by
    rw [FactStore.report_solve, Road.toList_store]
    decide
  have saturated : (Road.store.solve Road.rules 2).value.2.saturated = true := by
    rw [FactStore.report_solve, Road.toList_store]
    decide
  exact ⟨cutOff, saturated, by decide, (solve_resumed Road.store Road.rules 1 3).2.1 cutOff,
    ((solve_resumed Road.store Road.rules 2 3).2.2 saturated).2.2 (by decide)⟩

end Deduction
