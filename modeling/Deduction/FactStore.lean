import Deduction.Event
import Std.Data.HashMap
import Std.Data.HashSet

/-!
The fact store: an insertion-ordered set of ground atoms that only grows. It keeps the facts three
times over: as a list in order, as a set for membership tests, and as an index that holds, for each
predicate, the positions of its facts in the list. A store carries the proof that the three agree.
-/

namespace Deduction

/-- The list holds distinct ground atoms, the set holds exactly the listed atoms, and the index
holds for each predicate exactly the positions of its atoms, in ascending order. -/
structure FactStore.Agree (facts : Array Atom) (members : Std.HashSet Atom)
    (index : Std.HashMap String (Array Nat)) : Prop where
  ground : ∀ atom ∈ facts, atom.isGround
  distinct : facts.toList.Nodup
  members_iff : ∀ atom, atom ∈ members ↔ atom ∈ facts
  ascending : ∀ predicate, (index.getD predicate #[]).toList.Pairwise (· < ·)
  indexed_iff : ∀ predicate position, position ∈ index.getD predicate #[] ↔
    ∃ atom, facts[position]? = some atom ∧ atom.predicate = predicate

structure FactStore where
  facts : Array Atom
  members : Std.HashSet Atom
  index : Std.HashMap String (Array Nat)
  agree : FactStore.Agree facts members index

namespace FactStore

theorem Agree.empty : Agree #[] ∅ ∅ where
  ground := by simp
  distinct := by simp
  members_iff := by simp
  ascending := by simp
  indexed_iff := by simp

/-- A fresh ground atom can be appended to the list when it enters the set and the index too. -/
theorem Agree.push {facts : Array Atom} {members : Std.HashSet Atom}
    {index : Std.HashMap String (Array Nat)} (agree : Agree facts members index) {atom : Atom}
    (ground : atom.isGround) (fresh : atom ∉ members) :
    Agree (facts.push atom) (members.insert atom)
      (index.insert atom.predicate ((index.getD atom.predicate #[]).push facts.size)) where
  ground := by
    intro other member
    rcases Array.mem_push.mp member with old | rfl
    · exact agree.ground other old
    · exact ground
  distinct := by
    rw [agree.members_iff] at fresh
    rw [Array.toList_push, List.nodup_append]
    refine ⟨agree.distinct, by simp, ?_⟩
    rintro left old right last rfl
    cases List.mem_singleton.mp last
    exact fresh (Array.mem_toList_iff.mp old)
  members_iff := by
    intro other
    rw [Std.HashSet.mem_insert, agree.members_iff, Array.mem_push, beq_iff_eq, or_comm, eq_comm]
  ascending := by
    intro predicate
    rw [Std.HashMap.getD_insert]
    split
    · rw [Array.toList_push, List.pairwise_append]
      refine ⟨agree.ascending _, by simp, ?_⟩
      intro position old last same
      cases List.mem_singleton.mp same
      obtain ⟨held, found, _⟩ := (agree.indexed_iff _ _).mp (Array.mem_toList_iff.mp old)
      exact (Array.getElem?_eq_some_iff.mp found).1
    · exact agree.ascending _
  indexed_iff := by
    intro predicate position
    have old := agree.indexed_iff predicate position
    rw [Std.HashMap.getD_insert, Array.getElem?_push]
    by_cases last : position = facts.size
    · subst last
      by_cases same : atom.predicate = predicate
      · subst same; simp
      · simpa [same] using old
    · by_cases same : atom.predicate = predicate
      · subst same; simpa [last, Array.mem_push] using old
      · simpa [last, same] using old

def empty : FactStore :=
  ⟨#[], ∅, ∅, .empty⟩

def toList (store : FactStore) : List Atom :=
  store.facts.toList

def size (store : FactStore) : Nat :=
  store.facts.size

def isEmpty (store : FactStore) : Bool :=
  store.size == 0

def contains (store : FactStore) (atom : Atom) : Bool :=
  store.members.contains atom

def positions (store : FactStore) (predicate : String) : Array Nat :=
  store.index.getD predicate #[]

def withPredicate (store : FactStore) (predicate : String) : List Atom :=
  (store.positions predicate).toList.filterMap fun position => store.facts[position]?

def query (store : FactStore) : Option String → List Atom
  | none => store.toList
  | some predicate => store.withPredicate predicate

def push (store : FactStore) (atom : Atom) (ground : atom.isGround)
    (fresh : ¬ store.contains atom) : FactStore where
  facts := store.facts.push atom
  members := store.members.insert atom
  index := store.index.insert atom.predicate
    ((store.positions atom.predicate).push store.size)
  agree := store.agree.push ground fresh

/-- Adds an atom. The store takes ground atoms that it does not hold yet and is unchanged by any
other; an atom that is not ground is reported. -/
def add (store : FactStore) (atom : Atom) : Logged (FactStore × Bool) :=
  if ground : atom.isGround then
    if held : store.contains atom then pure (store, false)
    else pure (store.push atom ground held, true)
  else do
    Logged.report (.refused atom)
    pure (store, false)

def extend (store : FactStore) : List Atom → Logged FactStore
  | [] => pure store
  | atom :: rest => do
      let (grown, _) ← store.add atom
      grown.extend rest

def ofList (atoms : List Atom) : Logged FactStore :=
  empty.extend atoms

@[simp] theorem toList_empty : empty.toList = [] := rfl

@[simp] theorem length_toList (store : FactStore) : store.toList.length = store.size := rfl

@[simp] theorem toList_push (store : FactStore) (atom : Atom) (ground : atom.isGround)
    (fresh : ¬ store.contains atom) :
    (store.push atom ground fresh).toList = store.toList ++ [atom] :=
  Array.toList_push

theorem contains_iff (store : FactStore) (atom : Atom) :
    store.contains atom ↔ atom ∈ store.toList :=
  (store.agree.members_iff atom).trans Array.mem_toList_iff.symm

def written (store : FactStore) : String :=
  Atom.writtenList store.toList

def outline (store : FactStore) : Outline :=
  Atom.outlineList store.toList

end FactStore

end Deduction
