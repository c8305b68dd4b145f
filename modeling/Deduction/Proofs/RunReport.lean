import Deduction.Proofs.Rounds
import Mathlib.Algebra.GroupWithZero.Nat

/-!
The report of a run. Every round of a run adds facts, but for the last one of a saturated run. The
counts of a report are therefore positive and end with a zero exactly if the run is saturated, and a
run that is not has used up its cap. What a count says is what the store has grown by, though a
batch may hold one conclusion many times.
-/

namespace Deduction

namespace FactList.Course

variable {rules : List Rule} {cap : Nat} {facts final : FactList} {report : Report}

theorem length_derived (course : Course rules cap facts final report) :
    report.derived.length = report.rounds := by
  induction course with
  | capped => rfl
  | fruitless => rfl
  | fruitful _ _ ih => exact congrArg Nat.succ ih

/-- The counts of all rounds add up to what the run added. -/
theorem length_add_sum (course : Course rules cap facts final report) :
    facts.length + report.derived.sum = final.length := by
  induction course with
  | capped => rfl
  | fruitless => rfl
  | fruitful grown _ ih =>
      have longer := length_lt_round grown
      rw [List.sum_cons, ← ih]
      omega

theorem rounds_eq_cap (course : Course rules cap facts final report)
    (unsaturated : report.saturated = false) : report.rounds = cap := by
  induction course with
  | capped => rfl
  | fruitless => contradiction
  | fruitful _ _ ih => exact congrArg Nat.succ (ih unsaturated)

/-- Fruitful rounds come first, and a fruitless one ends the run. -/
theorem derived_eq (course : Course rules cap facts final report) :
    ∃ gains : List Nat, (∀ gain ∈ gains, 0 < gain) ∧
      report.derived = gains ++ if report.saturated then [0] else [] := by
  induction course with
  | capped => exact ⟨[], by simp, rfl⟩
  | fruitless => exact ⟨[], by simp, rfl⟩
  | @fruitful facts _ _ _ grown _ ih =>
      obtain ⟨gains, positive, derived⟩ := ih
      have gain : 0 < (facts.round rules).length - facts.length :=
        Nat.sub_pos_of_lt (length_lt_round grown)
      exact ⟨_ :: gains, List.forall_mem_cons.mpr ⟨gain, positive⟩, congrArg (List.cons _) derived⟩

theorem pos_of_mem_dropLast (course : Course rules cap facts final report) :
    ∀ count ∈ report.derived.dropLast, 0 < count := by
  obtain ⟨gains, positive, derived⟩ := course.derived_eq
  intro count member
  apply positive count
  cases saturated : report.saturated with
  | true => simpa [derived, saturated] using member
  | false => exact gains.dropLast_subset (by simpa [derived, saturated] using member)

theorem saturated_iff (course : Course rules cap facts final report) :
    report.saturated = true ↔ 1 ≤ report.rounds ∧ report.derived.getLast? = some 0 := by
  obtain ⟨gains, positive, derived⟩ := course.derived_eq
  rw [← course.length_derived]
  cases saturated : report.saturated with
  | true => simp [derived, saturated]
  | false =>
      constructor
      · exact nofun
      · rintro ⟨_, last⟩
        have member : 0 ∈ gains := List.mem_of_getLast? (by simpa [derived, saturated] using last)
        exact absurd (positive 0 member) (Nat.lt_irrefl 0)

end FactList.Course

/-- What the report of a run under any cap says about the rounds, about their counts and about the
final store. -/
theorem solve_report_coherent (store : FactStore) (rules : List Rule) (cap : Nat) :
    let final := (store.solve rules cap).value.1
    let report := (store.solve rules cap).value.2
    report.rounds = report.derived.length ∧ report.rounds ≤ cap ∧
    store.size + report.derived.sum = final.size ∧
    (∀ count ∈ report.derived.dropLast, 0 < count) ∧
    (report.saturated = true ↔ 1 ≤ report.rounds ∧ report.derived.getLast? = some 0) ∧
    (report.saturated = false → report.rounds = cap) ∧
    (report.saturated = true →
      ∀ rule ∈ rules, ∀ atom ∈ rule.conclusions final, final.contains atom = true) := by
  intro final report
  have course := store.course rules cap
  refine ⟨course.length_derived.symm, course.rounds_le_cap, course.length_add_sum,
    course.pos_of_mem_dropLast, course.saturated_iff, course.rounds_eq_cap, ?_⟩
  intro saturated rule member atom concluded
  rw [rule.conclusions_eq] at concluded
  rw [final.contains_iff]
  exact FactList.round_eq_self.mp (course.round_final saturated) rule member atom concluded

-- One round adds three facts and is cut off; the second of two finds nothing more.
theorem road_report_coherent :
    let final := (Road.store.solve Road.rules 2).value.1
    3 ∈ (Road.store.solve Road.rules 2).value.2.derived.dropLast ∧ 0 < 3 ∧
      (Road.store.solve Road.rules 1).value.2.saturated = false ∧
      (Road.store.solve Road.rules 1).value.2.rounds = 1 ∧
      (Road.store.solve Road.rules 2).value.2.saturated = true ∧ Road.mark ∈ Road.rules ∧
      Atom.ground "seen" ["b", "Z"] ∈ Road.mark.conclusions final ∧
      final.contains (Atom.ground "seen" ["b", "Z"]) = true := by
  intro final
  have counted : 3 ∈ (Road.store.solve Road.rules 2).value.2.derived.dropLast := by
    rw [FactStore.report_solve, Road.toList_store]
    decide
  have cutOff : (Road.store.solve Road.rules 1).value.2.saturated = false := by
    rw [FactStore.report_solve, Road.toList_store]
    decide
  have saturated : (Road.store.solve Road.rules 2).value.2.saturated = true := by
    rw [FactStore.report_solve, Road.toList_store]
    decide
  have member : Road.mark ∈ Road.rules := by decide
  have concluded : Atom.ground "seen" ["b", "Z"] ∈ Road.mark.conclusions final := by
    rw [Rule.conclusions_eq, FactStore.toList_solve, Road.toList_store]
    decide
  obtain ⟨_, _, _, positive, _, _, closed⟩ := solve_report_coherent Road.store Road.rules 2
  exact ⟨counted, positive 3 counted, cutOff,
    (solve_report_coherent Road.store Road.rules 1).2.2.2.2.2.1 cutOff, saturated, member,
    concluded, closed saturated Road.mark member _ concluded⟩

end Deduction
