import Deduction.Proofs.Join
import Deduction.Saturation
import Mathlib.Logic.Function.Iterate

/-!
Saturation over a plain list of facts. A turn adds what a rule concludes, a round gives every rule
its turn, and a run repeats rounds until one leaves the list as it is or the cap is reached. The
solver of a store does the same to the list of the store, and its report is the report of that run,
so statements about facts, rounds and counts can be proved on lists. What holds of every run is
proved along its course: it is cut off by the cap, ends with a fruitless round, or goes on from a
fruitful one.
-/

namespace Deduction

namespace FactList

def turn (facts : FactList) (rule : Rule) : FactList :=
  facts.addAll (facts.conclusions rule)

def round (facts : FactList) (rules : List Rule) : FactList :=
  rules.foldl turn facts

def solve (rules : List Rule) : Nat → FactList → FactList × Report
  | 0, facts => (facts, {})
  | cap + 1, facts =>
      let grown := facts.round rules
      if grown.length = facts.length then
        (grown, { rounds := 1, derived := [0], saturated := true })
      else
        let rest := solve rules cap grown
        (rest.1, { rest.2 with
          rounds := rest.2.rounds + 1
          derived := (grown.length - facts.length) :: rest.2.derived })

@[simp] theorem round_nil (facts : FactList) : facts.round [] = facts := rfl

@[simp] theorem round_cons (facts : FactList) (rule : Rule) (rules : List Rule) :
    facts.round (rule :: rules) = (facts.turn rule).round rules := rfl

theorem prefix_turn (facts : FactList) (rule : Rule) : facts <+: facts.turn rule :=
  prefix_addAll facts _

theorem prefix_round (facts : FactList) (rules : List Rule) : facts <+: facts.round rules := by
  induction rules generalizing facts with
  | nil => exact List.prefix_refl facts
  | cons rule rules ih => exact (prefix_turn facts rule).trans (ih _)

theorem length_lt_round {rules : List Rule} {facts : FactList} (grown : facts.round rules ≠ facts) :
    facts.length < (facts.round rules).length := by
  have below := prefix_round facts rules
  apply Nat.lt_of_le_of_ne below.length_le
  exact fun same => grown (below.eq_of_length same).symm

-- A run with rounds left stops where a round changes nothing and else goes on from what it gave.
theorem solve_of_fixed {rules : List Rule} {facts : FactList} (fixed : facts.round rules = facts)
    (cap : Nat) : solve rules (cap + 1) facts =
      (facts, { rounds := 1, derived := [0], saturated := true }) := by
  simp [solve, fixed]

theorem solve_of_grown {rules : List Rule} {facts : FactList} (grown : facts.round rules ≠ facts)
    (cap : Nat) : solve rules (cap + 1) facts =
      ((solve rules cap (facts.round rules)).1,
        { (solve rules cap (facts.round rules)).2 with
          rounds := (solve rules cap (facts.round rules)).2.rounds + 1
          derived := ((facts.round rules).length - facts.length) ::
            (solve rules cap (facts.round rules)).2.derived }) := by
  have longer := (length_lt_round grown).ne'
  simp [solve, longer]

inductive Course (rules : List Rule) : Nat → FactList → FactList → Report → Prop where
  | capped (facts : FactList) : Course rules 0 facts facts {}
  | fruitless {facts : FactList} (cap : Nat) : facts.round rules = facts →
      Course rules (cap + 1) facts facts { rounds := 1, derived := [0], saturated := true }
  | fruitful {facts final : FactList} {cap : Nat} {report : Report} : facts.round rules ≠ facts →
      Course rules cap (facts.round rules) final report →
      Course rules (cap + 1) facts final { report with
        rounds := report.rounds + 1
        derived := ((facts.round rules).length - facts.length) :: report.derived }

theorem course_solve (rules : List Rule) (cap : Nat) (facts : FactList) :
    Course rules cap facts (solve rules cap facts).1 (solve rules cap facts).2 := by
  induction cap generalizing facts with
  | zero => exact .capped facts
  | succ cap ih =>
      by_cases fixed : facts.round rules = facts
      · rw [solve_of_fixed fixed]
        exact .fruitless cap fixed
      · rw [solve_of_grown fixed]
        exact .fruitful fixed (ih _)

namespace Course

variable {rules : List Rule} {cap : Nat} {facts final : FactList} {report : Report}

theorem rounds_le_cap (course : Course rules cap facts final report) : report.rounds ≤ cap := by
  induction course with
  | capped => exact Nat.le_refl 0
  | fruitless cap _ => exact Nat.le_add_left 1 cap
  | fruitful _ _ ih => exact Nat.succ_le_succ ih

/-- Every round but a last fruitless one adds a fact at least. -/
theorem rounds_le_growth (course : Course rules cap facts final report) :
    report.rounds + facts.length ≤ final.length + 1 := by
  induction course with
  | capped facts =>
      change 0 + facts.length ≤ facts.length + 1
      omega
  | fruitless => exact Nat.le_of_eq (Nat.add_comm _ _)
  | fruitful grown _ ih =>
      have longer := length_lt_round grown
      simp only
      omega

/-- Where the cap ends a run before it is saturated, every round was fruitful. -/
theorem cap_le_growth (course : Course rules cap facts final report)
    (unsaturated : report.saturated = false) : cap + facts.length ≤ final.length := by
  induction course with
  | capped => exact Nat.le_of_eq (Nat.zero_add _)
  | fruitless => contradiction
  | fruitful grown _ ih =>
      have longer := length_lt_round grown
      have later := ih unsaturated
      omega

/-- A saturated run ends with facts that a round leaves as they are. -/
theorem round_final (course : Course rules cap facts final report)
    (saturated : report.saturated = true) : final.round rules = final := by
  induction course with
  | capped => contradiction
  | fruitless _ fixed => exact fixed
  | fruitful _ _ ih => exact ih saturated

/-- The rounds that a run leaves out after a fruitless one would not change its facts either. -/
theorem final_eq_iterate (course : Course rules cap facts final report) :
    final = (fun known : FactList => known.round rules)^[cap] facts := by
  induction course with
  | capped => rfl
  | fruitless cap fixed => exact (Function.iterate_fixed fixed (cap + 1)).symm
  | fruitful _ _ ih =>
      rw [Function.iterate_succ_apply]
      exact ih

-- After as many rounds as it reports a run has ended.
theorem iterate_rounds_eq_final (course : Course rules cap facts final report) :
    (fun known : FactList => known.round rules)^[report.rounds] facts = final := by
  induction course with
  | capped => rfl
  | fruitless _ fixed => exact fixed
  | fruitful _ _ ih => exact ih

/-- A run with a round to spare after facts that a round leaves as they are ends saturated. -/
theorem saturated_of_fixed {count : Nat} (course : Course rules cap facts final report)
    (fixed : ((fun known : FactList => known.round rules)^[count] facts).round rules =
      (fun known : FactList => known.round rules)^[count] facts) (spare : count < cap) :
    report.saturated = true ∧ report.rounds ≤ count + 1 := by
  induction course generalizing count with
  | capped => contradiction
  | fruitless => exact ⟨rfl, Nat.le_add_left 1 count⟩
  | fruitful grown _ ih =>
      cases count with
      | zero => exact absurd fixed grown
      | succ count =>
          rw [Function.iterate_succ_apply] at fixed
          obtain ⟨saturated, rounds⟩ := ih fixed (Nat.lt_of_succ_lt_succ spare)
          exact ⟨saturated, Nat.succ_le_succ rounds⟩

end Course

theorem turn_eq_self {facts : FactList} {rule : Rule} :
    facts.turn rule = facts ↔ ∀ atom ∈ facts.conclusions rule, atom ∈ facts := by
  constructor
  · intro fixed atom member
    have added : atom ∈ facts.turn rule := mem_addAll (isGround_of_mem_conclusions member) member
    rwa [fixed] at added
  · intro held
    unfold turn
    generalize facts.conclusions rule = atoms at held
    induction atoms with
    | nil => rfl
    | cons atom atoms ih =>
        rw [addAll_cons, add_of_mem (held atom List.mem_cons_self)]
        exact ih fun later member => held later (List.mem_cons_of_mem atom member)

/-- A round changes nothing exactly when no rule concludes anything new. Rules later in the round
see the same facts as the first one, because nothing was added before their turn. -/
theorem round_eq_self {facts : FactList} {rules : List Rule} :
    facts.round rules = facts ↔
      ∀ rule ∈ rules, ∀ atom ∈ facts.conclusions rule, atom ∈ facts := by
  induction rules with
  | nil => simp
  | cons rule rules ih =>
      rw [List.forall_mem_cons, ← turn_eq_self, ← ih, round_cons]
      constructor
      · intro fixed
        -- The turn lies between the facts and the whole round.
        have turnFixed : facts.turn rule = facts := by
          have below := prefix_round (facts.turn rule) rules
          rw [fixed] at below
          exact below.eq_of_length_le (prefix_turn facts rule).length_le
        rw [turnFixed] at fixed
        exact ⟨turnFixed, fixed⟩
      · rintro ⟨turnFixed, roundFixed⟩
        rw [turnFixed, roundFixed]

end FactList

namespace FactStore

theorem absorb_of_held {label : String} {atom : Atom} {rest : List Atom} {store : FactStore}
    (held : store.contains atom) :
    absorb label (atom :: rest) store = absorb label rest store := by
  rw [absorb, if_pos held]

theorem absorb_value_of_new {label : String} {atom : Atom} {rest : List Atom} {store : FactStore}
    (fresh : ¬ store.contains atom) :
    (absorb label (atom :: rest) store).value =
      ((absorb label rest (store.add atom).value.1).value.1,
        (store.add atom).value.2.toNat +
          (absorb label rest (store.add atom).value.1).value.2) := by
  rw [absorb, if_neg fresh]
  rfl

theorem toList_absorb (label : String) (atoms : List Atom) (store : FactStore) :
    (absorb label atoms store).value.1.toList = FactList.addAll store.toList atoms := by
  induction atoms generalizing store with
  | nil => rfl
  | cons atom atoms ih =>
      rw [FactList.addAll_cons]
      by_cases held : store.contains atom
      · rw [absorb_of_held held, ih, FactList.add_of_mem ((store.contains_iff atom).mp held)]
      · rw [absorb_value_of_new held, ih, toList_add]

theorem size_absorb (label : String) (atoms : List Atom) (store : FactStore) :
    (absorb label atoms store).value.1.size =
      store.size + (absorb label atoms store).value.2 := by
  induction atoms generalizing store with
  | nil => rfl
  | cons atom atoms ih =>
      by_cases held : store.contains atom
      · rw [absorb_of_held held, ih]
      · rw [absorb_value_of_new held, ih, size_add, Nat.add_assoc]

theorem toList_apply (store : FactStore) (rule : Rule) :
    (store.apply rule).value.1.toList = FactList.turn store.toList rule := by
  rw [apply, toList_absorb, rule.conclusions_eq]
  rfl

theorem round_cons_value (rule : Rule) (rules : List Rule) (store : FactStore) :
    (round (rule :: rules) store).value =
      ((round rules (store.apply rule).value.1).value.1,
        (store.apply rule).value.2 + (round rules (store.apply rule).value.1).value.2) := rfl

theorem toList_round (rules : List Rule) (store : FactStore) :
    (round rules store).value.1.toList = FactList.round store.toList rules := by
  induction rules generalizing store with
  | nil => rfl
  | cons rule rules ih => rw [round_cons_value, ih, toList_apply, FactList.round_cons]

theorem size_round (rules : List Rule) (store : FactStore) :
    (round rules store).value.1.size = store.size + (round rules store).value.2 := by
  induction rules generalizing store with
  | nil => rfl
  | cons rule rules ih => rw [round_cons_value, ih, apply, size_absorb, Nat.add_assoc]

-- The solver counts insertions, the list shows them as its growth.
theorem round_count (rules : List Rule) (store : FactStore) :
    (round rules store).value.2 =
      (FactList.round store.toList rules).length - store.toList.length := by
  have grown := size_round rules store
  rw [← toList_round, length_toList, length_toList]
  omega

theorem solveFrom_value (rules : List Rule) (cap number : Nat) (store : FactStore) :
    (solveFrom rules (cap + 1) number store).value =
      if (round rules store).value.2 = 0 then
        ((round rules store).value.1, { rounds := 1, derived := [0], saturated := true })
      else
        let rest := (solveFrom rules cap (number + 1) (round rules store).value.1).value
        (rest.1, { rest.2 with
          rounds := rest.2.rounds + 1
          derived := (round rules store).value.2 :: rest.2.derived }) := by
  simp only [solveFrom, Logged.bind_value]
  split <;> rfl

theorem solveFrom_eq (rules : List Rule) (cap number : Nat) (store : FactStore) :
    ((solveFrom rules cap number store).value.1.toList,
        (solveFrom rules cap number store).value.2) =
      FactList.solve rules cap store.toList := by
  induction cap generalizing number store with
  | zero => rfl
  | succ cap ih =>
      have count := round_count rules store
      have longer := (FactList.prefix_round store.toList rules).length_le
      have next := ih (number + 1) (round rules store).value.1
      rw [toList_round] at next
      rw [solveFrom_value]
      by_cases fruitless : (round rules store).value.2 = 0
      · have same : (FactList.round store.toList rules).length = store.toList.length := by omega
        rw [if_pos fruitless]
        simp only [FactList.solve, same, ↓reduceIte, toList_round]
      · have apart : (FactList.round store.toList rules).length ≠ store.toList.length := by omega
        rw [if_neg fruitless]
        simp only [FactList.solve, apart, ↓reduceIte, ← next, count]

/-- The solver on a store and on its list agree in the facts, their order and the report. -/
theorem solve_eq (rules : List Rule) (cap : Nat) (store : FactStore) :
    ((store.solve rules cap).value.1.toList, (store.solve rules cap).value.2) =
      FactList.solve rules cap store.toList :=
  solveFrom_eq rules cap 1 store

theorem toList_solve (rules : List Rule) (cap : Nat) (store : FactStore) :
    (store.solve rules cap).value.1.toList = (FactList.solve rules cap store.toList).1 :=
  congrArg Prod.fst (solve_eq rules cap store)

theorem report_solve (rules : List Rule) (cap : Nat) (store : FactStore) :
    (store.solve rules cap).value.2 = (FactList.solve rules cap store.toList).2 :=
  congrArg Prod.snd (solve_eq rules cap store)

/-- A run of the solver takes its course over the list of the store. -/
theorem course (store : FactStore) (rules : List Rule) (cap : Nat) :
    FactList.Course rules cap store.toList (store.solve rules cap).value.1.toList
      (store.solve rules cap).value.2 := by
  rw [toList_solve, report_solve]
  exact FactList.course_solve rules cap store.toList

end FactStore

end Deduction
