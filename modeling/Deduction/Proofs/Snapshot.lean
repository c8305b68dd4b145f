import Deduction.Proofs.Consequence

/-!
Rounds against snapshots. In a snapshot step every rule concludes from the same facts and only then
are the conclusions added. In a round of the solver a rule sees what the rules before it added, but
nothing of its own batch. So a round comes to at least the facts of one snapshot step and to at most
those of one step for each rule, and where steps stand still rounds do too.
-/

namespace Deduction

/-- All rules conclude from the store as it is; their conclusions are added together. -/
def FactStore.snapshot (rules : List Rule) (store : FactStore) : FactStore :=
  (store.extend (rules.flatMap fun rule => rule.conclusions store)).value

/-- How many steps it takes until one adds nothing, that one included, with a cap. -/
def FactStore.snapshotRounds (rules : List Rule) : Nat → FactStore → Nat
  | 0, _ => 0
  | cap + 1, store =>
      if (snapshot rules store).size = store.size then 1
      else snapshotRounds rules cap (snapshot rules store) + 1

def FactList.snapshot (rules : List Rule) (facts : FactList) : FactList :=
  facts.addAll (rules.flatMap facts.conclusions)

namespace Consequence

def step (rules : List Rule) (known : Set Atom) : Set Atom :=
  known ∪ {atom | ∃ rule ∈ rules, atom ∈ rule.consequences known}

variable {rules : List Rule} {known : Set Atom}

theorem subset_step (rules : List Rule) (known : Set Atom) : known ⊆ step rules known :=
  Set.subset_union_left

theorem step_mono (rules : List Rule) : Monotone (step rules) := by
  rintro small large within atom (old | ⟨rule, member, concluded⟩)
  · exact Or.inl (within old)
  · exact Or.inr ⟨rule, member, rule.consequences_mono within concluded⟩

theorem turn_subset_step {rule : Rule} (member : rule ∈ rules) :
    turn known rule ⊆ step rules known := by
  rintro atom (old | concluded)
  · exact Or.inl old
  · exact Or.inr ⟨rule, member, concluded⟩

/-- What the rules before it add cannot keep a rule from its conclusions. -/
theorem step_subset_round (rules : List Rule) (known : Set Atom) :
    step rules known ⊆ round rules known := by
  rintro atom (old | ⟨rule, member, concluded⟩)
  · exact subset_round rules known old
  · have alone : round [rule] known ⊆ round rules known :=
      round_sublist (List.singleton_sublist.mpr member) Set.Subset.rfl
    exact alone (Or.inr concluded)

theorem round_subset_iterate_step (turns : List Rule) (members : ∀ rule ∈ turns, rule ∈ rules) :
    round turns known ⊆ (step rules)^[turns.length] known := by
  induction turns generalizing known with
  | nil => exact Set.Subset.rfl
  | cons rule turns ih =>
      have later : ∀ other ∈ turns, other ∈ rules :=
        fun other held => members other (List.mem_cons_of_mem rule held)
      have first : turn known rule ⊆ step rules known :=
        turn_subset_step (members rule List.mem_cons_self)
      rw [round_cons, List.length_cons, Function.iterate_succ_apply]
      exact (ih later).trans ((step_mono rules).iterate turns.length first)

theorem iterate_step_subset (rules : List Rule) (cap : Nat) (known : Set Atom) :
    (step rules)^[cap] known ⊆ (round rules)^[cap] known :=
  (step_mono rules).iterate_le_of_le (step_subset_round rules) cap known

theorem iterate_round_subset (rules : List Rule) (cap : Nat) (known : Set Atom) :
    (round rules)^[cap] known ⊆ (step rules)^[cap * rules.length] known := by
  have everyRound : round rules ≤ (step rules)^[rules.length] :=
    fun _ => round_subset_iterate_step rules fun _ member => member
  rw [Nat.mul_comm, Function.iterate_mul]
  exact (round_mono rules).iterate_le_of_le everyRound cap known

theorem round_of_step_fixed (fixed : step rules known = known) : round rules known = known := by
  apply Set.Subset.antisymm
  · have within : round rules known ⊆ (step rules)^[rules.length] known :=
      round_subset_iterate_step rules fun _ member => member
    rwa [Function.iterate_fixed fixed] at within
  · exact subset_round rules known

/-- Where the steps stand still, as many rounds have come to the same facts: they came at least as
far, and a round does not lead out of facts that a step leaves as they are. -/
theorem iterate_round_of_fixed {height : Nat}
    (fixed : step rules ((step rules)^[height] known) = (step rules)^[height] known) :
    (round rules)^[height] known = (step rules)^[height] known := by
  have begun : known ⊆ (step rules)^[height] known :=
    Function.id_le_iterate_of_id_le (subset_step rules) height known
  apply Set.Subset.antisymm
  · calc (round rules)^[height] known
        ⊆ (round rules)^[height] ((step rules)^[height] known) :=
          (round_mono rules).iterate height begun
      _ = (step rules)^[height] known :=
          Function.iterate_fixed (round_of_step_fixed fixed) height
  · exact iterate_step_subset rules height known

end Consequence

namespace FactList

variable {rules : List Rule} {facts : FactList}

theorem atoms_snapshot (rules : List Rule) (facts : FactList) :
    (facts.snapshot rules).atoms = Consequence.step rules facts.atoms := by
  have ground : ∀ atom ∈ rules.flatMap facts.conclusions, atom.isGround := by
    intro atom concluded
    obtain ⟨rule, _, found⟩ := List.mem_flatMap.mp concluded
    exact isGround_of_mem_conclusions found
  rw [snapshot, atoms_addAll ground, Consequence.step]
  congr 1
  ext atom
  constructor
  · intro concluded
    obtain ⟨rule, member, found⟩ := List.mem_flatMap.mp concluded
    exact ⟨rule, member, mem_conclusions.mp found⟩
  · rintro ⟨rule, member, concluded⟩
    exact List.mem_flatMap.mpr ⟨rule, member, mem_conclusions.mpr concluded⟩

theorem round_eq_self_of_step (fixed : Consequence.step rules facts.atoms = facts.atoms) :
    facts.round rules = facts := by
  apply round_eq_self.mpr
  intro rule member atom concluded
  have known : atom ∈ Consequence.step rules facts.atoms :=
    Or.inr ⟨rule, member, mem_conclusions.mp concluded⟩
  rwa [fixed] at known

end FactList

namespace FactStore

variable {rules : List Rule}

theorem toList_snapshot (rules : List Rule) (store : FactStore) :
    (snapshot rules store).toList = FactList.snapshot rules store.toList := by
  rw [snapshot, toList_extend, FactList.snapshot]
  congr 2
  funext rule
  exact rule.conclusions_eq store

theorem atoms_snapshot (rules : List Rule) (store : FactStore) :
    (snapshot rules store).atoms = Consequence.step rules store.atoms := by
  rw [atoms, toList_snapshot]
  exact FactList.atoms_snapshot rules store.toList

theorem atoms_iterate_snapshot (rules : List Rule) (count : Nat) (store : FactStore) :
    ((snapshot rules)^[count] store).atoms = (Consequence.step rules)^[count] store.atoms := by
  have oneStep : Function.Semiconj atoms (snapshot rules) (Consequence.step rules) :=
    atoms_snapshot rules
  exact oneStep.iterate_right count store

theorem atoms_snapshot_of_size {store : FactStore}
    (same : (snapshot rules store).size = store.size) :
    (snapshot rules store).atoms = store.atoms := by
  have grown : store.toList <+: (snapshot rules store).toList := by
    rw [toList_snapshot]
    exact FactList.prefix_addAll store.toList _
  rw [atoms, atoms, grown.eq_of_length same.symm]

-- Snapshot evaluation either runs into the cap or ends one step after it stands still.
theorem snapshotRounds_cases (rules : List Rule) (cap : Nat) (store : FactStore) :
    snapshotRounds rules cap store = cap ∨
      ∃ height < cap, snapshotRounds rules cap store = height + 1 ∧
        ((snapshot rules)^[height] store).atoms = ((snapshot rules)^[height + 1] store).atoms := by
  induction cap generalizing store with
  | zero => exact Or.inl rfl
  | succ cap ih =>
      by_cases same : (snapshot rules store).size = store.size
      · right
        have still := (atoms_snapshot_of_size same).symm
        exact ⟨0, Nat.succ_pos cap, by simp [snapshotRounds, same], still⟩
      · rcases ih (snapshot rules store) with capped | ⟨height, below, ends, still⟩
        · exact Or.inl (by simp [snapshotRounds, same, capped])
        · exact Or.inr ⟨height + 1, by omega, by simp [snapshotRounds, same, ends], still⟩

theorem saturated_of_snapshot {store : FactStore} {height cap : Nat}
    (still : ((snapshot rules)^[height] store).atoms =
      ((snapshot rules)^[height + 1] store).atoms) (spare : height + 1 ≤ cap) :
    (store.solve rules cap).value.2.saturated = true ∧
      (store.solve rules cap).value.2.rounds ≤ height + 1 := by
  rw [atoms_iterate_snapshot, atoms_iterate_snapshot, Function.iterate_succ_apply'] at still
  apply (store.course rules cap).saturated_of_fixed _ spare
  apply FactList.round_eq_self_of_step
  rw [← (FactList.course_solve rules height store.toList).final_eq_iterate, FactList.atoms_solve]
  change Consequence.step rules ((Consequence.round rules)^[height] store.atoms) =
    (Consequence.round rules)^[height] store.atoms
  rw [Consequence.iterate_round_of_fixed still.symm]
  exact still.symm

end FactStore

/-- Capped runs lie between snapshot steps: one for each round and one for each turn of a rule. With
one rule there is no difference. Where the steps stand still the solver saturates, and it never
executes more rounds than snapshot evaluation. -/
theorem rounds_between_snapshots (store : FactStore) (rules : List Rule) :
    (∀ cap, ((FactStore.snapshot rules)^[cap] store).atoms ⊆
        (store.solve rules cap).value.1.atoms ∧
      (store.solve rules cap).value.1.atoms ⊆
        ((FactStore.snapshot rules)^[cap * rules.length] store).atoms) ∧
    (∀ rule cap, (store.solve [rule] cap).value.1.atoms =
      ((FactStore.snapshot [rule])^[cap] store).atoms) ∧
    (∀ height, ((FactStore.snapshot rules)^[height] store).atoms =
        ((FactStore.snapshot rules)^[height + 1] store).atoms →
      ∀ cap, height + 1 ≤ cap → (store.solve rules cap).value.2.saturated = true ∧
        (store.solve rules cap).value.2.rounds ≤ height + 1) ∧
    ∀ cap, (store.solve rules cap).value.2.rounds ≤ store.snapshotRounds rules cap := by
  have between : ∀ (turns : List Rule) (cap : Nat),
      ((FactStore.snapshot turns)^[cap] store).atoms ⊆ (store.solve turns cap).value.1.atoms ∧
        (store.solve turns cap).value.1.atoms ⊆
          ((FactStore.snapshot turns)^[cap * turns.length] store).atoms := by
    intro turns cap
    rw [FactStore.atoms_iterate_snapshot, FactStore.atoms_iterate_snapshot, store.atoms_solve]
    constructor
    · exact Consequence.iterate_step_subset turns cap store.atoms
    · exact Consequence.iterate_round_subset turns cap store.atoms
  refine ⟨between rules, ?_, ?_, ?_⟩
  · intro rule cap
    obtain ⟨above, below⟩ := between [rule] cap
    rw [List.length_singleton, Nat.mul_one] at below
    exact Set.Subset.antisymm below above
  · exact fun height still cap spare => FactStore.saturated_of_snapshot still spare
  · intro cap
    rcases store.snapshotRounds_cases rules cap with capped | ⟨height, below, ends, still⟩
    · rw [capped, store.report_solve]
      exact (FactList.course_solve rules cap store.toList).rounds_le_cap
    · rw [ends]
      exact (FactStore.saturated_of_snapshot still below).2

-- Snapshots take three steps on the road, the last one fruitless; the solver may do with fewer.
theorem road_between_snapshots :
    ((FactStore.snapshot Road.rules)^[2] Road.store).atoms =
        ((FactStore.snapshot Road.rules)^[3] Road.store).atoms ∧
      2 + 1 ≤ 3 ∧ (Road.store.solve Road.rules 3).value.2.saturated = true ∧
      (Road.store.solve Road.rules 3).value.2.rounds ≤ 3 := by
  have listed : ((FactStore.snapshot Road.rules)^[2] Road.store).toList =
      ((FactStore.snapshot Road.rules)^[3] Road.store).toList := by
    simp only [Function.iterate_succ_apply', Function.iterate_zero_apply,
      FactStore.toList_snapshot, Road.toList_store]
    decide
  have still := congrArg FactList.atoms listed
  have result := (rounds_between_snapshots Road.store Road.rules).2.2.1 2 still 3 (Nat.le_refl 3)
  exact ⟨still, Nat.le_refl 3, result⟩

end Deduction
