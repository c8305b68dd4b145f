import Deduction.Pipeline
import Deduction.Proofs.Rounds

/-!
Histories of stores. A program makes stores, copies them and changes them in any order; whatever it
does, list, set and index of each store agree, and so every question about a store is answered as
its plain list would answer it. The list itself is the one that the same history makes of plain
lists, where nothing but the list is kept.
-/

namespace Deduction.History

inductive Change where
  | add (atom : Atom)
  | extend (atoms : List Atom)
  | seed (problem : String)
  | solve (rules : List Rule) (cap : Nat)

/-- Stores are numbered as they are made. Nothing happens where a number is not given out yet. -/
inductive Operation where
  | new
  | collect (atoms : List Atom)
  | clone (source : Nat)
  | change (target : Nat) (change : Change)

def Change.store (store : FactStore) : Change → FactStore
  | add atom => (store.add atom).value.1
  | extend atoms => (store.extend atoms).value
  | seed problem => (Pipeline.seed problem store).value
  | solve rules cap => (store.solve rules cap).value.1

def Change.list (facts : FactList) : Change → FactList
  | add atom => facts.add atom
  | extend atoms => facts.addAll atoms
  | seed problem => facts.addAll (Pipeline.seeds problem)
  | solve rules cap => (FactList.solve rules cap facts).1

def perform (stores : List FactStore) : Operation → List FactStore
  | .new => stores ++ [FactStore.empty]
  | .collect atoms => stores ++ [(FactStore.ofList atoms).value]
  | .clone source => stores ++ stores[source]?.toList
  | .change target change => stores.modify target fun store => change.store store

def performOnLists (lists : List FactList) : Operation → List FactList
  | .new => lists ++ [[]]
  | .collect atoms => lists ++ [FactList.addAll [] atoms]
  | .clone source => lists ++ lists[source]?.toList
  | .change target change => lists.modify target fun facts => change.list facts

def run (operations : List Operation) : List FactStore :=
  operations.foldl perform []

def runOnLists (operations : List Operation) : List FactList :=
  operations.foldl performOnLists []

/-- List, set and index of a store agree, and questions are answered as the list answers them. -/
structure Coherent (store : FactStore) : Prop where
  ground : ∀ atom ∈ store.toList, atom.isGround
  distinct : store.toList.Nodup
  members : ∀ atom, atom ∈ store.members ↔ atom ∈ store.toList
  ascending : ∀ predicate, (store.index.getD predicate #[]).toList.Pairwise (· < ·)
  indexed : ∀ predicate position, position ∈ store.index.getD predicate #[] ↔
    ∃ atom, store.toList[position]? = some atom ∧ atom.predicate = predicate
  inside : ∀ predicate, ∀ position ∈ store.index.getD predicate #[],
    position < store.toList.length
  contains : ∀ atom, store.contains atom = true ↔ atom ∈ store.toList
  query_some : ∀ predicate, store.query (some predicate) =
    store.toList.filter fun atom => atom.predicate = predicate
  query_none : store.query none = store.toList
  size : store.size = store.toList.length
  isEmpty : store.isEmpty = true ↔ store.toList.length = 0

theorem coherent (store : FactStore) : Coherent store := by
  have indexed : ∀ predicate position, position ∈ store.index.getD predicate #[] ↔
      ∃ atom, store.toList[position]? = some atom ∧ atom.predicate = predicate := by
    intro predicate position
    rw [store.agree.indexed_iff]
    simp [FactStore.toList]
  constructor
  · exact fun atom member => FactStore.isGround_of_mem member
  · exact store.nodup_toList
  · exact fun atom => (store.agree.members_iff atom).trans Array.mem_toList_iff.symm
  · exact store.agree.ascending
  · exact indexed
  · intro predicate position member
    obtain ⟨atom, found, _⟩ := (indexed predicate position).mp member
    exact (List.getElem?_eq_some_iff.mp found).1
  · exact store.contains_iff
  · exact store.withPredicate_eq_filter
  · rfl
  · exact store.length_toList.symm
  · rw [store.length_toList]
    exact beq_iff_eq

theorem Change.toList_store (change : Change) (store : FactStore) :
    (change.store store).toList = change.list store.toList := by
  cases change with
  | add atom => exact store.toList_add atom
  | extend atoms => exact store.toList_extend atoms
  | seed problem => exact store.toList_extend (Pipeline.seeds problem)
  | solve rules cap => exact store.toList_solve rules cap

-- One operation does to the lists of all stores what it does to the plain lists.
theorem map_toList_perform (stores : List FactStore) (operation : Operation) :
    (perform stores operation).map FactStore.toList =
      performOnLists (stores.map FactStore.toList) operation := by
  cases operation with
  | new => simp [perform, performOnLists]
  | collect atoms => simp [perform, performOnLists, FactStore.toList_ofList]
  | clone source =>
      simp only [perform, performOnLists, List.map_append, List.getElem?_map]
      cases stores[source]? <;> rfl
  | change target change =>
      apply List.ext_getElem?
      intro index
      simp only [perform, performOnLists, List.getElem?_map, List.getElem?_modify]
      cases stores[index]? with
      | none => simp
      | some store => by_cases same : target = index <;> simp [same, change.toList_store]

theorem map_toList_run (operations : List Operation) :
    (run operations).map FactStore.toList = runOnLists operations := by
  have folded : ∀ stores : List FactStore,
      (operations.foldl perform stores).map FactStore.toList =
        operations.foldl performOnLists (stores.map FactStore.toList) := by
    induction operations with
    | nil => exact fun _ => rfl
    | cons operation operations ih =>
        intro stores
        rw [List.foldl_cons, List.foldl_cons, ih, map_toList_perform]
  exact folded []

/-- After every history each store is coherent, and its list is the list that the history makes. -/
theorem run_coherent (operations : List Operation) :
    (∀ store ∈ run operations, Coherent store) ∧
      (run operations).map FactStore.toList = runOnLists operations :=
  ⟨fun store _ => coherent store, map_toList_run operations⟩

-- The copy is solved for one round; the store that it was made of stays as it is.
theorem road_history_coherent :
    (Road.store.solve Road.rules 1).value.1 ∈
        run [.collect Road.facts, .clone 0, .change 1 (.solve Road.rules 1)] ∧
      Coherent (Road.store.solve Road.rules 1).value.1 := by
  have member : (Road.store.solve Road.rules 1).value.1 ∈
      run [.collect Road.facts, .clone 0, .change 1 (.solve Road.rules 1)] := by
    simp [run, perform, Change.store, Road.store]
  exact ⟨member, (run_coherent _).1 _ member⟩

end Deduction.History
