import Deduction.Proofs.Insertion
import Deduction.Proofs.Rounds

/-!
The log of a run. A rule reports an atom of its batch before the store is asked to take it, and the
store may refuse. But conclusions are ground, and an atom is reported only if the store does not
hold it, so what is reported is what is stored: round by round the facts that the round appends, in
their order, each under the label of the rule whose batch it came from.
-/

namespace Deduction

namespace FactList

/-- The facts that a round appends, each with the rule whose batch it comes from. A batch appends
the conclusions that are not listed at the rule's turn, each where it comes first. -/
def gains : List Rule → FactList → List (Rule × Atom)
  | [], _ => []
  | rule :: rules, facts =>
      let batch := facts.newcomers (facts.conclusions rule)
      batch.map (fun atom => (rule, atom)) ++ gains rules (facts ++ batch)

theorem turn_eq_append (facts : FactList) (rule : Rule) :
    facts.turn rule = facts ++ facts.newcomers (facts.conclusions rule) :=
  facts.addAll_eq_append_newcomers _

theorem round_eq_append_gains (rules : List Rule) (facts : FactList) :
    facts.round rules = facts ++ (gains rules facts).map Prod.snd := by
  induction rules generalizing facts with
  | nil => exact (List.append_nil facts).symm
  | cons rule rules ih =>
      rw [round_cons, ih, turn_eq_append, gains, List.map_append, List.map_map, List.append_assoc]
      simp [Function.comp_def]

def roundLog (rules : List Rule) (number count : Nat) (facts : FactList) : List Event :=
  (gains rules facts).map (fun gain => .derived gain.1.label gain.2) ++
    [.roundFinished number count (facts.round rules).length]

theorem refused_not_mem_roundLog (rules : List Rule) (number count : Nat) (facts : FactList)
    (atom : Atom) : Event.refused atom ∉ roundLog rules number count facts := by
  simp [roundLog]

end FactList

namespace FactStore

theorem events_absorb (label : String) (atoms : List Atom) (store : FactStore)
    (ground : ∀ atom ∈ atoms, atom.isGround) :
    (absorb label atoms store).events =
      (FactList.newcomers store.toList atoms).map (Event.derived label) := by
  induction atoms generalizing store with
  | nil => rfl
  | cons atom atoms ih =>
      rw [List.forall_mem_cons] at ground
      by_cases held : store.contains atom
      · rw [absorb_of_held held, ih store ground.2, FactList.newcomers_cons_of_not]
        exact fun new => new.2 ((store.contains_iff atom).mp held)
      · have fresh : atom ∉ store.toList := fun member =>
          held ((store.contains_iff atom).mpr member)
        rw [absorb, if_neg held, add_of_new ground.1 held,
          FactList.newcomers_cons_of_new ground.1 fresh]
        simp [ih _ ground.2]

theorem events_apply (store : FactStore) (rule : Rule) :
    (store.apply rule).events =
      (FactList.newcomers store.toList (FactList.conclusions store.toList rule)).map
        (Event.derived rule.label) := by
  rw [apply, rule.conclusions_eq]
  exact events_absorb _ _ _ fun _ => FactList.isGround_of_mem_conclusions

theorem events_round (rules : List Rule) (store : FactStore) :
    (round rules store).events =
      (FactList.gains rules store.toList).map fun gain => .derived gain.1.label gain.2 := by
  induction rules generalizing store with
  | nil => rfl
  | cons rule rules ih =>
      have grown := store.toList_apply rule
      rw [FactList.turn_eq_append] at grown
      simp [round, FactList.gains, events_apply, ih, grown, Function.comp_def]

theorem events_solveFrom_succ (rules : List Rule) (cap number : Nat) (store : FactStore) :
    (solveFrom rules (cap + 1) number store).events =
      FactList.roundLog rules number (round rules store).value.2 store.toList ++
        if (round rules store).value.2 = 0 then []
        else (solveFrom rules cap (number + 1) (round rules store).value.1).events := by
  have total : (round rules store).value.1.size = (FactList.round store.toList rules).length := by
    rw [← length_toList, toList_round]
  rw [FactList.roundLog, ← events_round, ← total]
  simp only [solveFrom, Logged.bind_events, Logged.report_events]
  split <;> simp

-- The rounds are numbered from `number` on.
theorem events_solveFrom (rules : List Rule) (cap number : Nat) (store : FactStore) :
    (solveFrom rules cap number store).events =
      ((solveFrom rules cap number store).value.2.derived.mapIdx fun i count =>
        FactList.roundLog rules (number + i) count
          ((fun known : FactList => known.round rules)^[i] store.toList)).flatten := by
  induction cap generalizing number store with
  | zero => rfl
  | succ cap ih =>
      rw [events_solveFrom_succ, solveFrom_value]
      by_cases fruitless : (round rules store).value.2 = 0
      · simp [fruitless]
      · rw [if_neg fruitless, if_neg fruitless, ih, toList_round, List.mapIdx_cons,
          List.flatten_cons]
        simp [Function.iterate_succ_apply, Nat.add_assoc, Nat.add_comm 1]

end FactStore

/-- The log of a run consists of the logs of its rounds. The log of a round names the facts that the
round appends, each with the label of the rule that it comes from, and closes with the number of the
round, the count of the report and the number of facts known by then. Nothing is ever refused,
because whatever a rule concludes is ground. -/
theorem solve_log_exact (store : FactStore) (rules : List Rule) (cap : Nat) :
    let solved := store.solve rules cap
    let known := fun rounds => (store.solve rules rounds).value.1.toList
    solved.events = (solved.value.2.derived.mapIdx fun i count =>
        (FactList.gains rules (known i)).map (fun gain => Event.derived gain.1.label gain.2) ++
          [.roundFinished (i + 1) count (known (i + 1)).length]).flatten ∧
    (∀ i, known (i + 1) = known i ++ (FactList.gains rules (known i)).map Prod.snd) ∧
    known solved.value.2.rounds = solved.value.1.toList ∧
    (∀ atom, Event.refused atom ∉ solved.events) ∧
    ∀ rule ∈ rules, ∀ other : FactStore, ∀ atom ∈ rule.conclusions other,
      atom.isGround = true := by
  intro solved known
  have iterated : ∀ rounds,
      known rounds = (fun facts : FactList => facts.round rules)^[rounds] store.toList :=
    fun rounds => (store.course rules rounds).final_eq_iterate
  have next : ∀ i, known (i + 1) = FactList.round (known i) rules := by
    intro i
    rw [iterated, iterated, Function.iterate_succ_apply']
  have log : solved.events = (solved.value.2.derived.mapIdx fun i count =>
      FactList.roundLog rules (1 + i) count (known i)).flatten := by
    simp only [iterated]
    exact FactStore.events_solveFrom rules cap 1 store
  refine ⟨?_, ?_, ?_, ?_, ?_⟩
  · rw [log]
    simp only [FactList.roundLog, next, Nat.add_comm 1]
  · intro i
    rw [next, FactList.round_eq_append_gains]
  · rw [iterated]
    exact (store.course rules cap).iterate_rounds_eq_final
  · intro atom
    rw [log, List.mem_flatten]
    rintro ⟨events, member, refused⟩
    obtain ⟨_, _, rfl⟩ := List.mem_mapIdx.mp member
    exact FactList.refused_not_mem_roundLog _ _ _ _ _ refused
  · intro rule _ other atom concluded
    rw [rule.conclusions_eq] at concluded
    exact FactList.isGround_of_mem_conclusions concluded

-- The second round brings nothing new. `Z` is not bound, so it stands for itself in what is stored.
theorem road_log :
    (Road.store.solve Road.rules 2).events =
        [.derived "follow" (.ground "reach" ["b"]), .derived "mark" (.ground "seen" ["a", "Z"]),
          .derived "mark" (.ground "seen" ["b", "Z"]), .roundFinished 1 3 6,
          .roundFinished 2 0 6] ∧
      Road.mark ∈ Road.rules ∧
      Atom.ground "seen" ["a", "Z"] ∈ Road.mark.conclusions Road.store ∧
      (Atom.ground "seen" ["a", "Z"]).isGround = true := by
  obtain ⟨log, _, _, _, ground⟩ := solve_log_exact Road.store Road.rules 2
  have member : Road.mark ∈ Road.rules := by decide
  have concluded : Atom.ground "seen" ["a", "Z"] ∈ Road.mark.conclusions Road.store := by
    rw [Rule.conclusions_eq, Road.toList_store]
    decide
  refine ⟨?_, member, concluded, ground _ member _ _ concluded⟩
  rw [log]
  simp only [FactStore.report_solve, FactStore.toList_solve, Road.toList_store]
  decide

end Deduction
