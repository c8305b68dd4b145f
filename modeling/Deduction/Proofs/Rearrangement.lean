import Deduction.Proofs.Consequence

/-!
What a run does not depend on. The order in which facts came in and the order in which a premise
lists its atoms decide in which order a rule finds its bindings, and so in which order it appends
conclusions; they do not decide which conclusions there are. From the same facts, rules that are
alike make the same rounds: every round adds equally many facts, and the cap ends both runs at the
same facts.
-/

namespace Deduction

/-- The same conclusion from the same premise atoms, in any order, repeated at will. -/
structure Rule.Alike (rule other : Rule) : Prop where
  premise : ∀ atom, atom ∈ rule.premise ↔ atom ∈ other.premise
  conclusion : rule.conclusion = other.conclusion

theorem Rule.Alike.symm {rule other : Rule} (alike : rule.Alike other) : other.Alike rule :=
  ⟨fun atom => (alike.premise atom).symm, alike.conclusion.symm⟩

theorem Atom.namesOf_subset {premise other : List Atom} (within : premise ⊆ other) :
    Atom.namesOf premise ⊆ Atom.namesOf other := by
  intro name found
  obtain ⟨atom, member, named⟩ := List.mem_flatMap.mp found
  exact Atom.mem_namesOf (within member) named

theorem Substitution.Solves.rearrange {s : Substitution} {premise other : List Atom}
    {known : Set Atom} (solves : s.Solves premise known)
    (same : ∀ atom, atom ∈ premise ↔ atom ∈ other) : s.Solves other known where
  domain := by
    intro name
    rw [solves.domain]
    constructor
    · exact fun found => Atom.namesOf_subset (fun atom => (same atom).mp) found
    · exact fun found => Atom.namesOf_subset (fun atom => (same atom).mpr) found
  holds := fun pattern member => solves.holds pattern ((same pattern).mpr member)

theorem Rule.Alike.consequences_subset {rule other : Rule} (alike : rule.Alike other)
    (known : Set Atom) : rule.consequences known ⊆ other.consequences known := by
  rintro atom ⟨s, solves, concluded⟩
  rw [alike.conclusion] at concluded
  exact ⟨s, solves.rearrange alike.premise, concluded⟩

theorem Consequence.turn_alike {rule other : Rule} (alike : rule.Alike other) (known : Set Atom) :
    turn known rule = turn known other := by
  have same : rule.consequences known = other.consequences known :=
    (alike.consequences_subset known).antisymm (alike.symm.consequences_subset known)
  rw [turn, turn, same]

theorem Consequence.round_alike {rules others : List Rule}
    (alike : List.Forall₂ Rule.Alike rules others) (known : Set Atom) :
    round rules known = round others known := by
  induction alike generalizing known with
  | nil => rfl
  | cons first _ ih => rw [round_cons, round_cons, turn_alike first, ih]

namespace FactList

variable {rules otherRules : List Rule} {facts others : FactList}

theorem nodup_round (rules : List Rule) (nodup : facts.Nodup) : (facts.round rules).Nodup :=
  (growth_round rules (fun _ member => member) Growth.refl).nodup nodup

theorem round_perm (alike : List.Forall₂ Rule.Alike rules otherRules) (nodup : facts.Nodup)
    (same : facts.Perm others) : (facts.round rules).Perm (others.round otherRules) := by
  have otherNodup : others.Nodup := same.nodup_iff.mp nodup
  have sameAtoms : facts.atoms = others.atoms := Set.ext fun _ => same.mem_iff
  have roundAtoms : (facts.round rules).atoms = (others.round otherRules).atoms := by
    rw [atoms_round, atoms_round, sameAtoms, Consequence.round_alike alike]
  rw [List.perm_ext_iff_of_nodup (nodup_round rules nodup) (nodup_round otherRules otherNodup)]
  exact fun atom => Set.ext_iff.mp roundAtoms atom

/-- Rearranged runs go side by side: their lists stay permutations of each other, so each round adds
equally many facts and both stop together. -/
theorem solve_perm (alike : List.Forall₂ Rule.Alike rules otherRules) (nodup : facts.Nodup)
    (same : facts.Perm others) (cap : Nat) :
    (solve rules cap facts).2 = (solve otherRules cap others).2 ∧
      (solve rules cap facts).1.Perm (solve otherRules cap others).1 := by
  induction cap generalizing facts others with
  | zero => exact ⟨rfl, same⟩
  | succ cap ih =>
      have next := round_perm alike nodup same
      simp only [solve, next.length_eq, same.length_eq]
      split
      · exact ⟨rfl, next⟩
      · obtain ⟨report, final⟩ := ih (nodup_round rules nodup) next
        exact ⟨by rw [report], final⟩

end FactList

/-- Neither the order of insertion nor the order or repetition of premise atoms nor a label changes
the report of a capped run or the facts that it ends with. -/
theorem solve_rearranged {store other : FactStore} {rules otherRules : List Rule}
    (sameFacts : store.atoms = other.atoms) (alike : List.Forall₂ Rule.Alike rules otherRules)
    (cap : Nat) :
    (store.solve rules cap).value.2 = (other.solve otherRules cap).value.2 ∧
      (store.solve rules cap).value.1.atoms = (other.solve otherRules cap).value.1.atoms := by
  have same : store.toList.Perm other.toList := by
    rw [List.perm_ext_iff_of_nodup store.nodup_toList other.nodup_toList]
    exact fun atom => Set.ext_iff.mp sameFacts atom
  obtain ⟨report, final⟩ := FactList.solve_perm alike store.nodup_toList same cap
  rw [store.report_solve, other.report_solve, FactStore.atoms, FactStore.atoms, store.toList_solve,
    other.toList_solve]
  exact ⟨report, Set.ext fun _ => final.mem_iff⟩

namespace Road

def retold : List Rule :=
  [⟨[⟨"next", [.var "X", .var "Y"]⟩, ⟨"reach", [.var "X"]⟩, ⟨"next", [.var "X", .var "Y"]⟩],
      ⟨"reach", [.var "Y"]⟩, "go on"⟩,
    ⟨[⟨"reach", [.var "X"]⟩, ⟨"reach", [.var "X"]⟩], ⟨"seen", [.var "X", .var "Z"]⟩, ""⟩]

theorem alike_retold : List.Forall₂ Rule.Alike rules retold := by
  refine .cons ⟨?_, rfl⟩ (.cons ⟨?_, rfl⟩ .nil)
  · intro atom
    simp only [follow, List.mem_cons, List.not_mem_nil]
    tauto
  · intro atom
    simp [mark]

end Road

-- The round that the cap allows adds three facts either way, in another order.
theorem road_retold_alike :
    Road.store.atoms = (FactStore.ofList Road.facts.reverse).value.atoms ∧
      List.Forall₂ Rule.Alike Road.rules Road.retold ∧
      (Road.store.solve Road.rules 1).value.2 =
        ((FactStore.ofList Road.facts.reverse).value.solve Road.retold 1).value.2 ∧
      (Road.store.solve Road.rules 1).value.1.atoms =
        ((FactStore.ofList Road.facts.reverse).value.solve Road.retold 1).value.1.atoms := by
  have reversed : (FactStore.ofList Road.facts.reverse).value.toList = Road.facts.reverse := by
    rw [FactStore.toList_ofList]
    decide
  have sameFacts : Road.store.atoms = (FactStore.ofList Road.facts.reverse).value.atoms := by
    rw [FactStore.atoms, FactStore.atoms, Road.toList_store, reversed]
    exact Set.ext fun _ => List.mem_reverse.symm
  exact ⟨sameFacts, Road.alike_retold, solve_rearranged sameFacts Road.alike_retold 1⟩

end Deduction
