import Deduction.Proofs.Growth
import Mathlib.Data.Set.Lattice
import Mathlib.Order.CompletePartialOrder
import Mathlib.Order.Iterate

/-!
Deduction on sets of facts. Which conclusions a rule has is decided by the set of known facts, and
more known facts never take a conclusion away. A turn, a round and a whole run therefore act on sets
as monotone operators that lose nothing. A run stops early only where every further round would
leave the facts as they are, so a capped run is exactly as many rounds as its cap, and capped runs
can be compared although they stop at different times.
-/

namespace Deduction

def Rule.consequences (rule : Rule) (known : Set Atom) : Set Atom :=
  {atom | ∃ s : Substitution, s.Solves rule.premise known ∧ rule.conclusion.substitute s = atom}

namespace Consequence

def turn (known : Set Atom) (rule : Rule) : Set Atom :=
  known ∪ rule.consequences known

def round (rules : List Rule) (known : Set Atom) : Set Atom :=
  rules.foldl turn known

@[simp] theorem round_nil (known : Set Atom) : round [] known = known := rfl

@[simp] theorem round_cons (rule : Rule) (rules : List Rule) (known : Set Atom) :
    round (rule :: rules) known = round rules (turn known rule) := rfl

end Consequence

theorem Rule.consequences_mono (rule : Rule) {small large : Set Atom} (within : small ⊆ large) :
    rule.consequences small ⊆ rule.consequences large := by
  rintro atom ⟨s, solves, concluded⟩
  exact ⟨s, solves.mono fun fact known => within known, concluded⟩

namespace Consequence

variable {rules more : List Rule} {known small large : Set Atom}

theorem subset_turn (known : Set Atom) (rule : Rule) : known ⊆ turn known rule :=
  Set.subset_union_left

theorem turn_mono (rule : Rule) (within : small ⊆ large) : turn small rule ⊆ turn large rule :=
  Set.union_subset_union within (rule.consequences_mono within)

theorem subset_round (rules : List Rule) (known : Set Atom) : known ⊆ round rules known := by
  induction rules generalizing known with
  | nil => exact Set.Subset.rfl
  | cons rule rules ih => exact (subset_turn known rule).trans (ih _)

/-- A round with further rules in between, from more facts, comes to more facts. -/
theorem round_sublist (part : rules.Sublist more) (within : small ⊆ large) :
    round rules small ⊆ round more large := by
  induction part generalizing small large with
  | slnil => exact within
  | cons rule _ ih => exact ih (within.trans (subset_turn large rule))
  | cons_cons rule _ ih => exact ih (turn_mono rule within)

theorem round_mono (rules : List Rule) : Monotone (round rules) :=
  fun _ _ within => round_sublist (List.Sublist.refl rules) within

end Consequence

namespace FactList

theorem atoms_addAll {facts : FactList} {atoms : List Atom}
    (ground : ∀ atom ∈ atoms, atom.isGround) :
    (facts.addAll atoms).atoms = facts.atoms ∪ {atom | atom ∈ atoms} := by
  ext atom
  constructor
  · clear ground
    induction atoms generalizing facts with
    | nil => exact fun held => Or.inl held
    | cons first rest ih =>
        intro held
        rcases ih held with before | later
        · -- The first atom either entered at the end or left the list as it was.
          rw [mem_atoms, add] at before
          split at before
          · rcases List.mem_append.mp before with old | last
            · exact Or.inl old
            · exact Or.inr (List.mem_cons.mpr (Or.inl (List.mem_singleton.mp last)))
          · exact Or.inl before
        · exact Or.inr (List.mem_cons_of_mem first later)
  · rintro (old | new)
    · exact (prefix_addAll facts atoms).subset old
    · exact mem_addAll (ground atom new) new

theorem atoms_turn (facts : FactList) (rule : Rule) :
    (facts.turn rule).atoms = Consequence.turn facts.atoms rule := by
  rw [turn, atoms_addAll fun atom concluded => isGround_of_mem_conclusions concluded]
  congr 1
  ext atom
  exact mem_conclusions

theorem atoms_round (facts : FactList) (rules : List Rule) :
    (facts.round rules).atoms = Consequence.round rules facts.atoms := by
  induction rules generalizing facts with
  | nil => rfl
  | cons rule rules ih => rw [round_cons, Consequence.round_cons, ih, atoms_turn]

theorem atoms_solve (rules : List Rule) (cap : Nat) (facts : FactList) :
    (solve rules cap facts).1.atoms = (Consequence.round rules)^[cap] facts.atoms := by
  have oneRound : Function.Semiconj atoms (fun known => known.round rules)
      (Consequence.round rules) := fun known => atoms_round known rules
  rw [(course_solve rules cap facts).final_eq_iterate]
  exact oneRound.iterate_right cap facts

end FactList

theorem FactStore.atoms_solve (store : FactStore) (rules : List Rule) (cap : Nat) :
    (store.solve rules cap).value.1.atoms = (Consequence.round rules)^[cap] store.atoms := by
  rw [FactStore.atoms, store.toList_solve, FactList.atoms_solve]
  rfl

/-- From more facts, with more rules and a higher cap, a run comes to more facts, whether or not
either run is saturated. -/
theorem solve_monotone {store other : FactStore} {rules more : List Rule} {cap otherCap : Nat}
    (within : store.atoms ⊆ other.atoms) (part : rules.Sublist more) (capped : cap ≤ otherCap) :
    (store.solve rules cap).value.1.atoms ⊆ (other.solve more otherCap).value.1.atoms := by
  have everyRound : ∀ known, Consequence.round rules known ⊆ Consequence.round more known :=
    fun known => Consequence.round_sublist part Set.Subset.rfl
  have inflationary : id ≤ Consequence.round more := Consequence.subset_round more
  rw [store.atoms_solve, other.atoms_solve]
  calc (Consequence.round rules)^[cap] store.atoms
      ⊆ (Consequence.round more)^[cap] store.atoms :=
        (Consequence.round_mono rules).iterate_le_of_le everyRound cap store.atoms
    _ ⊆ (Consequence.round more)^[cap] other.atoms :=
        (Consequence.round_mono more).iterate cap within
    _ ⊆ (Consequence.round more)^[otherCap] other.atoms :=
        Function.monotone_iterate_of_id_le inflationary capped other.atoms

-- A road of one direction and one rule, stopped while fruitful, against both directions and rules.
theorem road_part_monotone :
    (FactStore.ofList (Road.facts.eraseIdx 1)).value.atoms ⊆ Road.store.atoms ∧
      [Road.follow].Sublist Road.rules ∧ 1 ≤ 2 ∧
      ((FactStore.ofList (Road.facts.eraseIdx 1)).value.solve [Road.follow] 1).value.1.atoms ⊆
        (Road.store.solve Road.rules 2).value.1.atoms := by
  have within : (FactStore.ofList (Road.facts.eraseIdx 1)).value.atoms ⊆ Road.store.atoms := by
    have listed : (FactStore.ofList (Road.facts.eraseIdx 1)).value.toList ⊆
        Road.store.toList := by
      rw [FactStore.toList_ofList, Road.toList_store]
      decide
    exact fun atom held => listed held
  have part : [Road.follow].Sublist Road.rules := by decide
  exact ⟨within, part, by decide, solve_monotone within part (by decide)⟩

end Deduction
