import Deduction.Proofs.Join

/-!
Insertion into a store. An atom is refused, already held or new, and a store changes only where it
takes a new one. So the atoms of a list that a store takes, one after the other, are the first
occurrences of those that are ground and were not held before: an occurrence that comes later finds
its atom in the store.
-/

namespace Deduction

namespace FactList

/-- The atoms that are ground and not in the list yet, each where it occurs first. -/
def newcomers (facts : FactList) (atoms : List Atom) : List Atom :=
  (atoms.filter fun atom => atom.isGround ∧ atom ∉ facts).eraseDups

variable {facts : FactList} {atom : Atom}

theorem newcomers_cons_of_not (passed : ¬ (atom.isGround ∧ atom ∉ facts)) (atoms : List Atom) :
    facts.newcomers (atom :: atoms) = facts.newcomers atoms := by
  rw [newcomers, List.filter_cons_of_neg (by simpa using passed)]
  rfl

/-- Once an atom is taken, it is in the list for those after it. -/
theorem newcomers_cons_of_new (ground : atom.isGround) (fresh : atom ∉ facts)
    (atoms : List Atom) :
    facts.newcomers (atom :: atoms) = atom :: newcomers (facts ++ [atom]) atoms := by
  rw [newcomers, List.filter_cons_of_pos (by simp [ground, fresh]), List.eraseDups_cons,
    List.filter_filter, newcomers]
  congr 2
  apply List.filter_congr
  intro other _
  by_cases same : other = atom
  · simp [same]
  · simp [same]

/-- Adding a list appends its newcomers. -/
theorem addAll_eq_append_newcomers (facts : FactList) (atoms : List Atom) :
    facts.addAll atoms = facts ++ facts.newcomers atoms := by
  induction atoms generalizing facts with
  | nil => exact (List.append_nil facts).symm
  | cons atom atoms ih =>
      rw [addAll_cons, ih]
      by_cases new : atom.isGround ∧ atom ∉ facts
      · rw [newcomers_cons_of_new new.1 new.2, add_of_not_mem new.1 new.2, List.append_assoc]
        rfl
      · rw [newcomers_cons_of_not new, add, if_neg new]

end FactList

namespace FactStore

theorem add_inserts_iff (store : FactStore) (atom : Atom) :
    (store.add atom).value.2 = true ↔ atom.isGround ∧ atom ∉ store.toList := by
  rw [← store.contains_iff]
  by_cases ground : atom.isGround
  · by_cases held : store.contains atom
    · simp [add_of_held ground held, held]
    · simp [add_of_new ground held, ground, held]
  · simp [add_of_not_ground ground, ground]

theorem add_value_of_not_inserted {store : FactStore} {atom : Atom}
    (idle : (store.add atom).value.2 = false) :
    (store.add atom).value.1 = store := by
  by_cases ground : atom.isGround
  · by_cases held : store.contains atom
    · rw [add_of_held ground held]
    · rw [add_of_new ground held] at idle
      contradiction
  · rw [add_of_not_ground ground]

/-- A list of atoms can be inserted piece by piece, and the same is reported. -/
theorem extend_append (store : FactStore) (atoms more : List Atom) :
    store.extend (atoms ++ more) = store.extend atoms >>= fun grown => grown.extend more := by
  induction atoms generalizing store with
  | nil => rfl
  | cons atom atoms ih =>
      rw [List.cons_append, extend, extend, Logged.bind_assoc]
      exact congrArg (store.add atom >>= ·) (funext fun added => ih added.1)

end FactStore

/-- A list of atoms adds the first occurrences of those among them that are ground and were not
stored before; it can be given in two parts, and a store made of a list is the empty store with the
list added. One insertion says whether its atom was ground and absent, and changes nothing if not.
-/
theorem extend_adds_first_occurrences (store : FactStore) (atoms : List Atom) :
    (store.extend atoms).value.toList = store.toList ++
      (atoms.filter fun atom => atom.isGround ∧ atom ∉ store.toList).eraseDups ∧
    (∀ more, store.extend (atoms ++ more) =
      store.extend atoms >>= fun grown => grown.extend more) ∧
    FactStore.ofList atoms = FactStore.empty.extend atoms ∧
    ∀ atom, ((store.add atom).value.2 = true ↔ atom.isGround = true ∧ atom ∉ store.toList) ∧
      ((store.add atom).value.2 = false → (store.add atom).value.1 = store) := by
  refine ⟨?_, store.extend_append atoms, rfl, fun atom => ⟨store.add_inserts_iff atom, ?_⟩⟩
  · rw [FactStore.toList_extend, FactList.addAll_eq_append_newcomers]
    rfl
  · exact FactStore.add_value_of_not_inserted

-- A variable named like a constant, an atom held already, another arity, and a repetition.
theorem road_extended :
    (Road.store.extend [⟨"reach", [.var "b"]⟩, .ground "reach" ["b"], .ground "reach" ["a"],
        .ground "reach" ["a", "a"], .ground "reach" ["b"]]).value.toList =
      Road.facts ++ [.ground "reach" ["b"], .ground "reach" ["a", "a"]] ∧
    (Road.store.add (.ground "reach" ["a"])).value.2 = false ∧
    (Road.store.add (.ground "reach" ["a"])).value.1 = Road.store := by
  have extended := extend_adds_first_occurrences Road.store [⟨"reach", [.var "b"]⟩,
    .ground "reach" ["b"], .ground "reach" ["a"], .ground "reach" ["a", "a"],
    .ground "reach" ["b"]]
  have held : (Road.store.add (.ground "reach" ["a"])).value.2 = false := by
    rw [Bool.eq_false_iff, ne_eq, (extended.2.2.2 _).1, Road.toList_store]
    decide
  refine ⟨?_, held, (extended.2.2.2 _).2 held⟩
  rw [extended.1, Road.toList_store]
  decide

end Deduction
