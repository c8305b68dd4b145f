import Deduction.Proofs.Scanning
import Deduction.Rule
import Mathlib.Tactic.MkIffOfInductiveProp

/-!
Atoms read back. The written form of an atom has no quotes and no escapes, while reading trims every
argument, takes quotes off its ends and tells variables by their look. An atom is legible if its
name is a word and nothing inside its arguments ends one of them: then scanning finds it again where
it was written, with every argument read anew, except that a lone empty argument leaves nothing
between the parentheses and the atom is lost. Scanned atoms are legible themselves, and reading them
anew changes them only where an argument is padded with blanks.
-/

namespace Deduction

def Term.reread (term : Term) : Term :=
  RuleText.argument term.text.toList

namespace RuleText

theorem argument_blank (token : List Char) : argument (' ' :: token) = argument token := by
  rw [argument, Text.trim, Text.trimBy_cons_of_pos (by decide)]
  rfl

theorem map_argument_modifyHead_blank (tokens : List (List Char)) :
    (tokens.modifyHead (List.cons ' ')).map argument = tokens.map argument := by
  cases tokens <;> simp [argument_blank]

/-- Where no word begins no pattern does. -/
theorem scanAtoms_skip {skipped : List Char} (noWord : skipped.any isWord = false)
    (rest : List Char) : scanAtoms (skipped ++ rest) = scanAtoms rest := by
  induction skipped with
  | nil => rfl
  | cons c skipped ih =>
      rw [List.any_cons, Bool.or_eq_false_iff] at noWord
      rw [List.cons_append, scanAtoms_of_not_ok, ih noWord.2]
      intro atom after read
      obtain ⟨piece, run, blanks, body, whole, _, opening, _⟩ := atomPattern_eq_ok.mp read
      obtain ⟨first, more, rfl⟩ := List.exists_cons_of_ne_nil opening.run_ne_nil
      rw [opening.whole] at whole
      obtain rfl : c = first := List.head_eq_of_cons_eq whole
      exact Bool.eq_false_iff.mp noWord.1 (opening.word c List.mem_cons_self)

/-- Splitting at the commas finds the joined terms; the blank after each comma is trimmed. -/
theorem map_argument_splitOn {terms : List Term} (some : terms ≠ [])
    (noComma : ∀ term ∈ terms, ',' ∉ term.text.toList) :
    ((String.intercalate ", " (terms.map Term.text)).toList.splitOn ',').map argument =
      terms.map Term.reread := by
  induction terms with
  | nil => contradiction
  | cons term rest ih =>
      rw [List.forall_mem_cons] at noComma
      rw [List.map_cons, List.map_cons, Term.reread]
      cases rest with
      | nil =>
          rw [List.map_nil, String.intercalate_singleton, List.splitOn_eq_singleton noComma.1]
          rfl
      | cons next rest =>
          let later := String.intercalate ", " ((next :: rest).map Term.text)
          have divided :
              (String.intercalate ", " (term.text :: (next :: rest).map Term.text)).toList =
                term.text.toList ++ ',' :: (' ' :: later.toList) := by
            simp [later]
          rw [divided, List.splitOn_append_cons_self_of_not_mem noComma.1,
            List.splitOn_cons_eq_if_modifyHead, if_neg (by decide), List.map_cons,
            map_argument_modifyHead_blank, ih (List.cons_ne_nil _ _) noComma.2]

end RuleText

open RuleText

/-- The atom's name is a word, and no argument holds what ends an argument. -/
@[mk_iff]
structure Atom.Legible (atom : Atom) : Prop where
  name_ne_nil : atom.predicate.toList ≠ []
  word : atom.predicate.toList.all isWord = true
  args_ne_nil : atom.args ≠ []
  noComma : ∀ term ∈ atom.args, ',' ∉ term.text.toList
  noClosing : ∀ term ∈ atom.args, ')' ∉ term.text.toList

instance (atom : Atom) : Decidable atom.Legible :=
  decidable_of_iff _ (Atom.legible_iff atom).symm

/-- What reading makes of an atom: empty parentheses are no pattern. -/
def Atom.reread? (atom : Atom) : Option Atom :=
  if atom.args.map Term.text = [""] then none
  else some ⟨atom.predicate, atom.args.map Term.reread⟩

def Atom.body (atom : Atom) : List Char :=
  (String.intercalate ", " (atom.args.map Term.text)).toList

theorem Atom.toList_written (atom : Atom) :
    atom.written.toList = (atom.predicate.toList ++ '(' :: atom.body) ++ [')'] := by
  simp [Atom.written, Atom.body]

namespace Atom.Legible

variable {atom : Atom}

theorem isWord_of_mem (legible : atom.Legible) {c : Char} (member : c ∈ atom.predicate.toList) :
    isWord c = true :=
  List.all_eq_true.mp legible.word c member

theorem texts_ne_nil (legible : atom.Legible) : atom.args.map Term.text ≠ [] := by
  simp [legible.args_ne_nil]

theorem body_eq_nil (legible : atom.Legible) :
    atom.body = [] ↔ atom.args.map Term.text = [""] :=
  Text.intercalate_eq_nil (by decide) legible.texts_ne_nil

theorem atomOf_body (legible : atom.Legible) :
    atomOf atom.predicate.toList atom.body = ⟨atom.predicate, atom.args.map Term.reread⟩ := by
  rw [atomOf, Atom.body, map_argument_splitOn legible.args_ne_nil legible.noComma,
    String.ofList_toList]

theorem not_mem_piece (legible : atom.Legible) :
    ')' ∉ atom.predicate.toList ++ '(' :: atom.body := by
  simp only [List.mem_append, List.mem_cons, not_or]
  refine ⟨?_, by decide, ?_⟩
  · intro inName
    exact absurd (legible.isWord_of_mem inName) (by decide)
  intro inBody
  rcases Text.mem_intercalate inBody with between | ⟨text, held, inside⟩
  · exact absurd between (by decide)
  · obtain ⟨term, argument, rfl⟩ := List.mem_map.mp held
    exact legible.noClosing term argument inside

-- The one opening parenthesis is the last character, so nothing is left for a body.
theorem no_opening_of_lone (legible : atom.Legible) (lone : atom.args.map Term.text = [""])
    (before run blanks body : List Char) :
    ¬ Opening (atom.predicate.toList ++ '(' :: atom.body) before run blanks body := by
  intro opening
  have front := congrArg List.dropLast opening.whole
  rw [legible.body_eq_nil.mpr lone, List.dropLast_concat, List.dropLast_append_of_ne_nil (by simp),
    List.dropLast_append_of_ne_nil (by simp), List.dropLast_append_of_ne_nil (by simp),
    List.dropLast_cons_of_ne_nil opening.body_ne_nil] at front
  have inName : '(' ∈ atom.predicate.toList := by simp [front]
  exact absurd (legible.isWord_of_mem inName) (by decide)

/-- Scanning takes a written atom off the front of a text. -/
theorem scanAtoms_written (legible : atom.Legible) (rest : List Char) :
    scanAtoms (atom.written.toList ++ rest) = atom.reread?.toList ++ scanAtoms rest := by
  rw [atom.toList_written, List.append_assoc, List.singleton_append]
  by_cases lone : atom.args.map Term.text = [""]
  · rw [scanAtoms_piece legible.not_mem_piece,
      scanAtoms_of_none legible.not_mem_piece (legible.no_opening_of_lone lone), Atom.reread?,
      if_pos lone]
    rfl
  · have opening : Opening (atom.predicate.toList ++ '(' :: atom.body) [] atom.predicate.toList []
        atom.body :=
      ⟨rfl, legible.name_ne_nil, fun c => legible.isWord_of_mem, by simp,
        not_word_of_head (by simp), by simp, fun empty => lone (legible.body_eq_nil.mp empty)⟩
    rw [scanAtoms_of_opening legible.not_mem_piece opening, legible.atomOf_body, Atom.reread?,
      if_neg lone]
    rfl

end Atom.Legible

theorem RuleText.scanAtoms_intercalate {atoms : List Atom} (legible : ∀ atom ∈ atoms, atom.Legible)
    (rest : List Char) :
    scanAtoms ((String.intercalate ", " (atoms.map Atom.written)).toList ++ rest) =
      atoms.filterMap Atom.reread? ++ scanAtoms rest := by
  induction atoms with
  | nil => rfl
  | cons atom atoms ih =>
      rw [List.forall_mem_cons] at legible
      have first : (atom :: atoms).filterMap Atom.reread? =
          atom.reread?.toList ++ atoms.filterMap Atom.reread? := by
        cases same : atom.reread? with
        | none => rw [List.filterMap_cons_none same]; rfl
        | some other => rw [List.filterMap_cons_some same]; rfl
      cases atoms with
      | nil =>
        rw [first, List.map_singleton, String.intercalate_singleton, legible.1.scanAtoms_written]
        simp
      | cons next atoms =>
          rw [List.map_cons, List.map_cons, Text.toList_intercalate_cons, List.append_assoc,
            List.append_assoc, legible.1.scanAtoms_written, scanAtoms_skip (by decide),
            ← List.map_cons, ih legible.2, first, List.append_assoc]

/-! Atoms that were read. -/

theorem Term.text_classify (token : String) : (Term.classify token).text = token := by
  unfold Term.classify
  split <;> rfl

theorem Term.isVar_classify (token : String) :
    (Term.classify token).isVar = Term.isVariableToken token := by
  unfold Term.classify
  split
  next holds => exact holds.symm
  next fails => exact (Bool.eq_false_iff.mpr fails).symm

theorem Term.isVariableToken_iff {token : String} : Term.isVariableToken token = true ↔
    token.toList ≠ [] ∧ ∀ c ∈ token.toList, c = '_' ∨ Text.isUppercase c = true := by
  simp [isVariableToken, isVariableChar]

/-- The term is what its own text is read as, and has no quote at either end. -/
@[mk_iff]
structure Term.Settled (term : Term) : Prop where
  classified : Term.classify term.text = term
  unquoted : ¬ Text.Padded isQuote term.text.toList

instance (term : Term) : Decidable term.Settled :=
  decidable_of_iff _ (Term.settled_iff term).symm

theorem Term.Settled.reread_eq_self {term : Term} (settled : term.Settled) :
    term.reread = term ↔ ¬ Text.Padded Text.isBlank term.text.toList := by
  rw [← Text.trimBy_eq_self, Term.reread, argument]
  constructor
  · intro same
    have sameText := congrArg (String.toList ∘ Term.text) same
    simp only [Function.comp_apply, Term.text_classify, String.toList_ofList] at sameText
    -- Neither trimming may take anything away.
    have within := Text.infix_trimBy isQuote (Text.trim term.text.toList)
    rw [sameText] at within
    exact (Text.infix_trimBy Text.isBlank _).eq_of_length_le within.length_le
  · intro bare
    rw [Text.trim, bare, Text.trimBy_eq_self.mpr settled.unquoted, String.ofList_toList,
      settled.classified]

theorem settled_argument (token : List Char) : (argument token).Settled := by
  constructor
  · rw [argument, Term.text_classify]
  · rw [argument, Term.text_classify, String.toList_ofList]
    exact Text.not_padded_trimBy _ _

theorem infix_argument (token : List Char) : (argument token).text.toList <:+: token := by
  rw [argument, Term.text_classify, String.toList_ofList]
  exact (Text.infix_trimBy _ _).trans (Text.infix_trimBy _ _)

/-- Nothing in the atom is lost when it is written. -/
@[mk_iff]
structure Atom.Kept (atom : Atom) : Prop where
  bare : ∀ term ∈ atom.args, ¬ Text.Padded Text.isBlank term.text.toList
  notLone : atom.args.map Term.text ≠ [""]

instance (atom : Atom) : Decidable atom.Kept :=
  decidable_of_iff _ (Atom.kept_iff atom).symm

theorem Atom.reread?_eq_self {atom : Atom} (settled : ∀ term ∈ atom.args, term.Settled) :
    atom.reread? = some atom ↔ atom.Kept := by
  have eachSame : atom.args.map Term.reread = atom.args ↔
      ∀ term ∈ atom.args, term.reread = term := by
    simpa using List.map_inj_left (f := Term.reread) (g := id) (l := atom.args)
  rw [Atom.reread?]
  split
  next lone =>
    constructor
    · exact nofun
    · exact fun kept => absurd lone kept.notLone
  next notLone =>
    rw [Option.some.injEq, Atom.mk.injEq, eachSame]
    constructor
    · rintro ⟨_, same⟩
      exact ⟨fun term member => (settled term member).reread_eq_self.mp (same term member), notLone⟩
    · exact fun kept =>
        ⟨rfl, fun term member => (settled term member).reread_eq_self.mpr (kept.bare term member)⟩

/-- What scanning yields can be written and found again. -/
theorem legible_of_mem_scanAtoms {text : List Char} {atom : Atom} (member : atom ∈ scanAtoms text) :
    atom.Legible ∧ ∀ term ∈ atom.args, term.Settled ∧ term.text.toList <:+: text := by
  obtain ⟨piece, before, run, blanks, body, isPiece, noClosing, opening, rfl⟩ :=
    opening_of_mem_scanAtoms member
  have bodyInfix : body <:+: piece := by
    rw [opening.whole]
    exact ⟨before ++ (run ++ (blanks ++ ['('])), [], by simp⟩
  have fromPiece : ∀ term ∈ (atomOf run body).args,
      ∃ token ∈ body.splitOn ',', term = argument token := by
    intro term held
    obtain ⟨token, isToken, rfl⟩ := List.mem_map.mp held
    exact ⟨token, isToken, rfl⟩
  refine ⟨⟨?_, ?_, ?_, ?_, ?_⟩, ?_⟩
  · simpa [atomOf] using opening.run_ne_nil
  · simpa [atomOf] using opening.word
  · simp [atomOf, List.splitOn_ne_nil]
  · intro term held comma
    obtain ⟨token, isToken, rfl⟩ := fromPiece term held
    exact Text.not_mem_of_mem_splitOn isToken ((infix_argument token).subset comma)
  · intro term held closing
    obtain ⟨token, isToken, rfl⟩ := fromPiece term held
    have inToken := (infix_argument token).subset closing
    have inBody := (Text.infix_of_mem_splitOn isToken).subset inToken
    exact opening.not_mem_body noClosing inBody
  · intro term held
    obtain ⟨token, isToken, rfl⟩ := fromPiece term held
    exact ⟨settled_argument token, (infix_argument token).trans
      ((Text.infix_of_mem_splitOn isToken).trans (bodyInfix.trans isPiece))⟩

end Deduction
