import Deduction.FactStore
import Mathlib.Data.List.Sort
import Mathlib.Data.Set.Defs

/-!
A store seen as the plain list of its facts. Membership, queries and insertion are stated on the
list alone; set and index of the store give the same answers because a store carries the proof that
they agree with its list. Everything else about deduction is then a matter of lists.
-/

namespace Deduction

abbrev FactList := List Atom

namespace FactList

def atoms (facts : FactList) : Set Atom :=
  {atom | atom ∈ facts}

def add (facts : FactList) (atom : Atom) : FactList :=
  if atom.isGround ∧ atom ∉ facts then facts ++ [atom] else facts

def addAll (facts : FactList) (atoms : List Atom) : FactList :=
  atoms.foldl add facts

@[simp] theorem mem_atoms {facts : FactList} {atom : Atom} : atom ∈ facts.atoms ↔ atom ∈ facts :=
  Iff.rfl

@[simp] theorem addAll_nil (facts : FactList) : facts.addAll [] = facts := rfl

@[simp] theorem addAll_cons (facts : FactList) (atom : Atom) (atoms : List Atom) :
    facts.addAll (atom :: atoms) = (facts.add atom).addAll atoms := rfl

theorem add_of_mem {facts : FactList} {atom : Atom} (member : atom ∈ facts) :
    facts.add atom = facts := by
  simp [add, member]

theorem add_of_not_mem {facts : FactList} {atom : Atom} (ground : atom.isGround)
    (fresh : atom ∉ facts) : facts.add atom = facts ++ [atom] := by
  simp [add, ground, fresh]

theorem prefix_add (facts : FactList) (atom : Atom) : facts <+: facts.add atom := by
  unfold add
  split
  · exact List.prefix_append facts [atom]
  · exact List.prefix_refl facts

theorem prefix_addAll (facts : FactList) (atoms : List Atom) : facts <+: facts.addAll atoms := by
  induction atoms generalizing facts with
  | nil => exact List.prefix_refl facts
  | cons atom atoms ih => exact (prefix_add facts atom).trans (ih _)

theorem mem_add {facts : FactList} {atom : Atom} (ground : atom.isGround) :
    atom ∈ facts.add atom := by
  by_cases member : atom ∈ facts
  · rwa [add_of_mem member]
  · rw [add_of_not_mem ground member]
    simp

theorem mem_addAll {facts : FactList} {atoms : List Atom} {atom : Atom} (ground : atom.isGround)
    (member : atom ∈ atoms) : atom ∈ facts.addAll atoms := by
  induction atoms generalizing facts with
  | nil => contradiction
  | cons first rest ih =>
      rcases List.mem_cons.mp member with rfl | later
      · exact (prefix_addAll _ rest).subset (mem_add ground)
      · exact ih later

theorem addAll_eq_append {facts : FactList} {atoms : List Atom} (nodup : (facts ++ atoms).Nodup)
    (ground : ∀ atom ∈ atoms, atom.isGround) : facts.addAll atoms = facts ++ atoms := by
  induction atoms generalizing facts with
  | nil => exact (List.append_nil facts).symm
  | cons first rest ih =>
      have fresh : first ∉ facts := fun held =>
        (List.nodup_append.mp nodup).2.2 first held first List.mem_cons_self rfl
      rw [List.append_cons] at nodup ⊢
      rw [List.forall_mem_cons] at ground
      rw [addAll_cons, add_of_not_mem ground.1 fresh, ih nodup ground.2]

end FactList

/-- Reading a list at ascending positions, those of the members with a property, filters it. -/
theorem filterMap_positions {α : Type} (list : List α) (p : α → Bool) (positions : List Nat)
    (ascending : positions.Pairwise (· < ·))
    (exact_positions : ∀ position, position ∈ positions ↔
      ∃ a, list[position]? = some a ∧ p a = true) :
    positions.filterMap (fun position => list[position]?) = list.filter p := by
  -- Two ascending lists with the same members are one list.
  have same : positions = (List.range list.length).filter fun i => (list[i]?).any p := by
    apply ascending.eq_of_mem_iff (List.pairwise_lt_range.filter _)
    intro position
    rw [exact_positions, List.mem_filter, List.mem_range]
    constructor
    · rintro ⟨a, found, holds⟩
      exact ⟨(List.getElem?_eq_some_iff.mp found).1, by simp [found, holds]⟩
    · rintro ⟨inside, holds⟩
      rw [List.getElem?_eq_getElem inside] at holds ⊢
      exact ⟨_, rfl, by simpa using holds⟩
  have whole : (List.range list.length).filterMap (fun i => list[i]?) = list := by
    have read : (List.range list.length).map (fun i => list[i]?) = list.map some := by
      apply List.ext_getElem <;> simp
    calc (List.range list.length).filterMap (fun i => list[i]?)
        = ((List.range list.length).map (fun i => list[i]?)).filterMap id := by
          rw [List.filterMap_map]; rfl
      _ = list := by rw [read]; simp
  calc positions.filterMap (fun position => list[position]?)
      = (List.range list.length).filterMap fun i => (list[i]?).filter p := by
        rw [same, List.filterMap_filter]
        congr
        funext i
        cases list[i]? <;> simp [Option.filter]
    _ = ((List.range list.length).filterMap fun i => list[i]?).filter p :=
        List.filter_filterMap.symm
    _ = list.filter p := by rw [whole]

namespace FactStore

def atoms (store : FactStore) : Set Atom :=
  FactList.atoms store.toList

theorem nodup_toList (store : FactStore) : store.toList.Nodup :=
  store.agree.distinct

theorem isGround_of_mem {store : FactStore} {atom : Atom} (member : atom ∈ store.toList) :
    atom.isGround :=
  store.agree.ground atom (Array.mem_toList_iff.mp member)

/-- The index leads to exactly the facts of a predicate, in the order of the list. -/
theorem withPredicate_eq_filter (store : FactStore) (predicate : String) :
    store.withPredicate predicate =
      store.toList.filter fun atom => atom.predicate = predicate := by
  rw [withPredicate, ← filterMap_positions store.toList _ _ (store.agree.ascending predicate)]
  · simp [toList, positions]
  · intro position
    rw [Array.mem_toList_iff, store.agree.indexed_iff]
    simp [toList]

variable {store : FactStore} {atom : Atom}

-- The three ways in which an insertion goes.
theorem add_of_not_ground (loose : ¬ atom.isGround) :
    store.add atom = ⟨(store, false), [.refused atom]⟩ := by
  rw [add, dif_neg loose]
  rfl

theorem add_of_held (ground : atom.isGround) (held : store.contains atom) :
    store.add atom = ⟨(store, false), []⟩ := by
  rw [add, dif_pos ground, dif_pos held]
  rfl

theorem add_of_new (ground : atom.isGround) (fresh : ¬ store.contains atom) :
    store.add atom = ⟨(store.push atom ground fresh, true), []⟩ := by
  rw [add, dif_pos ground, dif_neg fresh]
  rfl

theorem toList_add (store : FactStore) (atom : Atom) :
    (store.add atom).value.1.toList = FactList.add store.toList atom := by
  by_cases ground : atom.isGround
  · by_cases held : store.contains atom
    · rw [add_of_held ground held, FactList.add_of_mem ((store.contains_iff atom).mp held)]
    · have fresh : atom ∉ store.toList := fun member => held ((store.contains_iff atom).mpr member)
      rw [add_of_new ground held, toList_push, FactList.add_of_not_mem ground fresh]
  · rw [add_of_not_ground ground, FactList.add, if_neg fun new => ground new.1]

theorem toList_extend (store : FactStore) (atoms : List Atom) :
    (store.extend atoms).value.toList = FactList.addAll store.toList atoms := by
  induction atoms generalizing store with
  | nil => rfl
  | cons atom atoms ih =>
      simp only [extend, Logged.bind_value, FactList.addAll_cons]
      rw [ih, toList_add]

theorem toList_ofList (atoms : List Atom) :
    (ofList atoms).value.toList = FactList.addAll [] atoms :=
  empty.toList_extend atoms

/-- The flag of an insertion counts what was inserted. -/
theorem size_add (store : FactStore) (atom : Atom) :
    (store.add atom).value.1.size = store.size + (store.add atom).value.2.toNat := by
  by_cases ground : atom.isGround
  · by_cases held : store.contains atom
    · simp [add_of_held ground held]
    · simp [add_of_new ground held, size, push]
  · simp [add_of_not_ground ground]

end FactStore

end Deduction
