import Deduction.Proofs.Insertion
import Deduction.Proofs.WrittenAtom

/-!
Stores read back. The dump of a store puts its facts between brackets and commas, where no name of
an atom begins, so scanning finds fact after fact. What is lost is the tag of each term: a constant
that looks like a variable comes back as one. The atom is then no fact any more, and a store made of
what was read does not take it.
-/

namespace Deduction

open RuleText

/-- Written and read, the atom is the same but for the tags of its terms. -/
@[mk_iff]
structure Atom.Presentable (atom : Atom) : Prop extends Atom.Legible atom, Atom.Kept atom where
  unquoted : ∀ term ∈ atom.args, ¬ Text.Padded isQuote term.text.toList

instance (atom : Atom) : Decidable atom.Presentable :=
  decidable_of_iff _ (Atom.presentable_iff atom).symm

def Atom.reclassified (atom : Atom) : Atom :=
  Atom.pattern atom.predicate (atom.args.map Term.text)

theorem Atom.texts_reclassified (atom : Atom) :
    atom.reclassified.args.map Term.text = atom.args.map Term.text := by
  simp only [reclassified, pattern, List.map_map]
  exact List.map_congr_left fun term _ => Term.text_classify term.text

theorem Term.reread_eq_classify {term : Term}
    (bare : ¬ Text.Padded Text.isBlank term.text.toList)
    (unquoted : ¬ Text.Padded isQuote term.text.toList) :
    term.reread = Term.classify term.text := by
  rw [Term.reread, argument, Text.trim, Text.trimBy_eq_self.mpr bare,
    Text.trimBy_eq_self.mpr unquoted, String.ofList_toList]

theorem Atom.Presentable.reread?_eq {atom : Atom} (presentable : atom.Presentable) :
    atom.reread? = some atom.reclassified := by
  have sameTerms : ∀ term ∈ atom.args, term.reread = Term.classify term.text :=
    fun term member => Term.reread_eq_classify (presentable.bare term member)
      (presentable.unquoted term member)
  rw [Atom.reread?, if_neg presentable.notLone, Atom.reclassified, Atom.pattern, List.map_map,
    List.map_congr_left sameTerms]
  rfl

theorem RuleText.scanAtoms_writtenList {atoms : List Atom}
    (presentable : ∀ atom ∈ atoms, atom.Presentable) :
    scanAtoms (Atom.writtenList atoms).toList = atoms.map Atom.reclassified := by
  have between : (Atom.writtenList atoms).toList =
      ['['] ++ ((String.intercalate ", " (atoms.map Atom.written)).toList ++ [']']) := by
    simp [Atom.writtenList]
  have noAtom : scanAtoms [']'] = [] := scanAtoms_of_not_mem (by decide)
  rw [between, scanAtoms_skip (by decide),
    scanAtoms_intercalate fun atom member => (presentable atom member).toLegible, noAtom,
    List.append_nil]
  calc atoms.filterMap Atom.reread?
      = atoms.filterMap (some ∘ Atom.reclassified) :=
        List.filterMap_congr fun atom member => (presentable atom member).reread?_eq
    _ = atoms.map Atom.reclassified := by rw [List.filterMap_eq_map]

/-! Facts that come back as facts. -/

def Atom.Unmistakable (atom : Atom) : Prop :=
  ∀ term ∈ atom.args, Term.isVariableToken term.text = false

theorem Atom.Unmistakable.reclassified_eq {atom : Atom} (unmistakable : atom.Unmistakable)
    (ground : atom.isGround) : atom.reclassified = atom := by
  have same : ∀ term ∈ atom.args, Term.classify term.text = term := by
    intro term member
    have constant := Atom.isVar_of_isGround ground member
    rw [Term.classify, if_neg (Bool.eq_false_iff.mp (unmistakable term member))]
    cases term with
    | const text => rfl
    | var name => contradiction
  rw [Atom.reclassified, Atom.pattern, List.map_map]
  congr 1
  exact (List.map_congr_left same).trans (List.map_id _)

theorem Atom.unmistakable_reclassified {atom : Atom} (ground : atom.reclassified.isGround) :
    atom.reclassified.Unmistakable := by
  intro term member
  have constant := Atom.isVar_of_isGround ground member
  obtain ⟨text, _, rfl⟩ := List.mem_map.mp member
  rwa [Term.text_classify, ← Term.isVar_classify]

theorem FactList.addAll_reclassified_eq_self {facts : FactList} (nodup : facts.Nodup)
    (ground : ∀ atom ∈ facts, atom.isGround) :
    FactList.addAll [] (facts.map Atom.reclassified) = facts ↔
      ∀ atom ∈ facts, atom.Unmistakable := by
  constructor
  · intro same atom member
    -- Every fact of the rebuilt list was taken from what was read.
    have taken := member
    rw [← same, addAll_eq_append_newcomers, List.nil_append, newcomers, List.mem_eraseDups,
      List.mem_filter] at taken
    obtain ⟨original, _, rfl⟩ := List.mem_map.mp taken.1
    exact Atom.unmistakable_reclassified (ground _ member)
  · intro unmistakable
    have unchanged : facts.map Atom.reclassified = facts := by
      have same : ∀ atom ∈ facts, atom.reclassified = id atom :=
        fun atom member => (unmistakable atom member).reclassified_eq (ground atom member)
      rw [List.map_congr_left same, List.map_id]
    rw [unchanged]
    exact addAll_eq_append nodup ground

/-- Scanning the dump of a store of presentable facts finds the facts in their order, with the same
names and texts, and with the terms told apart by their look. A store made of them holds the facts
of the first one, in the same order, exactly if none of these has a constant that looks like a
variable. -/
theorem dump_reads_back (store : FactStore)
    (presentable : ∀ atom ∈ store.toList, atom.Presentable) :
    scanAtoms store.written.toList = store.toList.map Atom.reclassified ∧
    ((scanAtoms store.written.toList).map fun atom =>
        (atom.predicate, atom.args.map Term.text)) =
      (store.toList.map fun atom => (atom.predicate, atom.args.map Term.text)) ∧
    ((FactStore.ofList (scanAtoms store.written.toList)).value.toList = store.toList ↔
      ∀ atom ∈ store.toList, ∀ term ∈ atom.args, Term.isVariableToken term.text = false) := by
  have scanned : scanAtoms store.written.toList = store.toList.map Atom.reclassified :=
    scanAtoms_writtenList presentable
  refine ⟨scanned, ?_, ?_⟩
  · rw [scanned, List.map_map]
    apply List.map_congr_left
    intro atom _
    exact congrArg (Prod.mk atom.predicate) atom.texts_reclassified
  · rw [scanned, FactStore.toList_ofList]
    exact FactList.addAll_reclassified_eq_self store.nodup_toList
      fun atom => FactStore.isGround_of_mem

/-- Facts with a parenthesis, a bracket, a line feed and blanks within their texts, with empty
texts, and with the name of a variable that nothing was bound to. -/
def nestedFacts : List Atom :=
  [.ground "größe_2" ["(a] b\n[c", "", "é"], .ground "q" ["", ""], .ground "seen" ["a", "Z_"]]

theorem nested_dump_reads_back :
    let store := (FactStore.ofList nestedFacts).value
    (∀ atom ∈ store.toList, atom.Presentable) ∧
      scanAtoms store.written.toList = [.ground "größe_2" ["(a] b\n[c", "", "é"],
        .ground "q" ["", ""], ⟨"seen", [.const "a", .var "Z_"]⟩] ∧
      (FactStore.ofList (scanAtoms store.written.toList)).value.toList ≠ store.toList := by
  intro store
  have stored : store.toList = nestedFacts :=
    (FactStore.toList_ofList nestedFacts).trans (by decide)
  have presentable : ∀ atom ∈ store.toList, atom.Presentable := by
    rw [stored]
    decide +kernel
  obtain ⟨scanned, _, rebuilt⟩ := dump_reads_back store presentable
  refine ⟨presentable, scanned.trans ?_, ?_⟩
  · rw [stored]
    decide +kernel
  · rw [ne_eq, rebuilt, stored]
    decide +kernel

end Deduction
