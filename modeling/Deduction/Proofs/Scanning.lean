import Deduction.Proofs.Cutting
import Deduction.Proofs.Opening

/-!
Scanning is a split at the closing parentheses. The scanner tries to read a pattern at every
character, also within words and within arguments that turned out to be none. Still it comes to what
one pass would: each closing parenthesis ends at most one atom, which is decided by the text since
the closing parenthesis before it. The atom's name is the first word there that opens a pattern. A
later start in the same word is never reached, because the word itself would have been read first.
-/

namespace Deduction.RuleText

/-! One attempt of the scanner. -/

@[simp] theorem scanAtoms_nil : scanAtoms [] = [] := by
  rw [scanAtoms]

theorem scanAtoms_of_ok {text rest : List Char} {atom : Atom}
    (read : atomPattern text = .ok (atom, rest)) : scanAtoms text = atom :: scanAtoms rest := by
  cases text with
  | nil => exact absurd (atomPattern_shorter read) (Nat.not_lt_zero _)
  | cons c text =>
      rw [scanAtoms]
      split
      next found =>
          rw [read] at found
          cases found
          rfl
      next found =>
          rw [read] at found
          contradiction

theorem scanAtoms_of_not_ok {c : Char} {text : List Char}
    (fails : ∀ atom rest, atomPattern (c :: text) ≠ .ok (atom, rest)) :
    scanAtoms (c :: text) = scanAtoms text := by
  rw [scanAtoms]
  split
  next found => exact absurd found (fails _ _)
  · rfl

theorem scanAtoms_of_not_mem {text : List Char} (noClosing : ')' ∉ text) : scanAtoms text = [] := by
  induction text with
  | nil => exact scanAtoms_nil
  | cons c text ih =>
      rw [scanAtoms_of_not_ok, ih fun later => noClosing (List.mem_cons_of_mem c later)]
      intro atom rest read
      obtain ⟨piece, _, _, _, whole, _⟩ := atomPattern_eq_ok.mp read
      rw [whole] at noClosing
      simp at noClosing

/-! From one closing parenthesis to the next. -/

variable {piece before run blanks body : List Char}

theorem atomPattern_piece {rest after : List Char} {atom : Atom} (noClosing : ')' ∉ piece) :
    atomPattern (piece ++ ')' :: rest) = .ok (atom, after) ↔
      after = rest ∧ ∃ run blanks body, Opening piece [] run blanks body ∧
        atom = atomOf run body := by
  rw [atomPattern_eq_ok]
  constructor
  · rintro ⟨other, run, blanks, body, whole, otherNoClosing, opening, rfl⟩
    -- Both pieces end at the first closing parenthesis.
    obtain ⟨rfl, rfl⟩ := Text.append_separator_inj noClosing otherNoClosing whole
    exact ⟨rfl, run, blanks, body, opening, rfl⟩
  · rintro ⟨rfl, run, blanks, body, opening, rfl⟩
    exact ⟨piece, run, blanks, body, rfl, noClosing, opening, rfl⟩

theorem scanAtoms_of_opening (noClosing : ')' ∉ piece) (opening : Opening piece [] run blanks body)
    (rest : List Char) :
    scanAtoms (piece ++ ')' :: rest) = atomOf run body :: scanAtoms rest :=
  scanAtoms_of_ok ((atomPattern_piece noClosing).mpr ⟨rfl, run, blanks, body, opening, rfl⟩)

theorem scanAtoms_of_no_opening {c : Char} (noClosing : ')' ∉ c :: piece)
    (noOpening : ∀ run blanks body, ¬ Opening (c :: piece) [] run blanks body)
    (rest : List Char) :
    scanAtoms (c :: piece ++ ')' :: rest) = scanAtoms (piece ++ ')' :: rest) := by
  apply scanAtoms_of_not_ok
  intro atom after read
  obtain ⟨_, run, blanks, body, opening, _⟩ := (atomPattern_piece noClosing).mp read
  exact noOpening run blanks body opening

theorem scanAtoms_closing (rest : List Char) : scanAtoms (')' :: rest) = scanAtoms rest := by
  apply scanAtoms_of_not_ok
  intro atom after read
  obtain ⟨_, _, _, _, opening, _⟩ := (atomPattern_piece List.not_mem_nil).mp read
  have empty := opening.whole
  simp at empty

/-- Nothing of a text before a closing parenthesis takes part in an atom after it. -/
theorem scanAtoms_piece (noClosing : ')' ∉ piece) (rest : List Char) :
    scanAtoms (piece ++ ')' :: rest) = scanAtoms (piece ++ [')']) ++ scanAtoms rest := by
  induction piece with
  | nil => simp [scanAtoms_closing]
  | cons c piece ih =>
      by_cases opens : ∃ run blanks body, Opening (c :: piece) [] run blanks body
      · obtain ⟨run, blanks, body, opening⟩ := opens
        rw [scanAtoms_of_opening noClosing opening rest, scanAtoms_of_opening noClosing opening []]
        simp
      · simp only [not_exists] at opens
        rw [scanAtoms_of_no_opening noClosing opens rest,
          scanAtoms_of_no_opening noClosing opens [],
          ih fun later => noClosing (List.mem_cons_of_mem c later)]

theorem scanAtoms_append (front back : List Char) :
    scanAtoms (front ++ ')' :: back) = scanAtoms (front ++ [')']) ++ scanAtoms back := by
  induction front using Text.split_induction ')' with
  | last front noClosing => exact scanAtoms_piece noClosing back
  | step piece later noClosing ih =>
      simp only [List.append_assoc, List.cons_append]
      rw [scanAtoms_piece noClosing, scanAtoms_piece noClosing (later ++ [')']), ih,
        List.append_assoc]

/-! The word that opens a piece. -/

structure FirstOpening (text before run blanks body : List Char) : Prop
    extends Opening text before run blanks body where
  first : ∀ otherBefore otherRun otherBlanks otherBody,
    Opening text otherBefore otherRun otherBlanks otherBody → before.length ≤ otherBefore.length

/-- Another character in front either lengthens the word or stands apart from it. -/
theorem Opening.cons (c : Char) (opening : Opening piece before run blanks body) :
    ∃ otherBefore otherRun, Opening (c :: piece) otherBefore otherRun blanks body ∧
      otherBefore.length ≤ before.length + 1 := by
  obtain ⟨whole, notEmpty, word, begins, ends, blank, bodyNotEmpty⟩ := opening
  by_cases joins : before = [] ∧ isWord c = true
  · obtain ⟨rfl, wordHead⟩ := joins
    refine ⟨[], c :: run, ⟨by simp [whole], by simp, ?_, by simp, ends, blank, bodyNotEmpty⟩, ?_⟩
    · exact List.forall_mem_cons.mpr ⟨wordHead, word⟩
    · simp
  · refine ⟨c :: before, run, ⟨by simp [whole], notEmpty, word, ?_, ends, blank, bodyNotEmpty⟩,
      Nat.le_refl _⟩
    intro last found
    cases before with
    | nil =>
        cases found
        exact Bool.eq_false_iff.mpr fun wordHead => joins ⟨rfl, wordHead⟩
    | cons first more => exact begins last (by simpa [List.getLast?_cons] using found)

theorem Opening.tail {c : Char} (opening : Opening (c :: piece) (c :: before) run blanks body) :
    Opening piece before run blanks body := by
  obtain ⟨whole, notEmpty, word, begins, ends, blank, bodyNotEmpty⟩ := opening
  refine ⟨List.tail_eq_of_cons_eq whole, notEmpty, word, ?_, ends, blank, bodyNotEmpty⟩
  intro last found
  exact begins last (by simp [List.getLast?_cons, found])

theorem exists_first (opening : Opening piece before run blanks body) :
    ∃ before run blanks body, FirstOpening piece before run blanks body := by
  induction size : before.length using Nat.strong_induction_on
    generalizing before run blanks body with
  | _ count ih =>
    by_cases first : ∀ otherBefore otherRun otherBlanks otherBody,
        Opening piece otherBefore otherRun otherBlanks otherBody →
          before.length ≤ otherBefore.length
    · exact ⟨before, run, blanks, body, opening, first⟩
    · simp only [not_forall, not_le] at first
      obtain ⟨_, _, _, _, other, earlier⟩ := first
      exact ih _ (size ▸ earlier) other rfl

theorem scanAtoms_of_first (noClosing : ')' ∉ piece)
    (opening : FirstOpening piece before run blanks body) :
    scanAtoms (piece ++ [')']) = [atomOf run body] := by
  induction before generalizing piece with
  | nil => rw [scanAtoms_of_opening noClosing opening.toOpening, scanAtoms_nil]
  | cons c before ih =>
      obtain ⟨rest, rfl⟩ : ∃ rest, piece = c :: rest := ⟨_, opening.whole⟩
      have noneHere : ∀ run blanks body, ¬ Opening (c :: rest) [] run blanks body :=
        fun run blanks body here => absurd (opening.first [] run blanks body here) (by simp)
      rw [scanAtoms_of_no_opening noClosing noneHere]
      apply ih fun later => noClosing (List.mem_cons_of_mem c later)
      refine ⟨opening.toOpening.tail, ?_⟩
      intro otherBefore otherRun otherBlanks otherBody other
      obtain ⟨longer, longerRun, found, bound⟩ := other.cons c
      have earliest := opening.first _ _ _ _ found
      rw [List.length_cons] at earliest
      omega

theorem scanAtoms_of_none (noClosing : ')' ∉ piece)
    (none : ∀ before run blanks body, ¬ Opening piece before run blanks body) :
    scanAtoms (piece ++ [')']) = [] := by
  induction piece with
  | nil => simp [scanAtoms_closing]
  | cons c piece ih =>
      rw [scanAtoms_of_no_opening noClosing (none [])]
      apply ih fun later => noClosing (List.mem_cons_of_mem c later)
      intro before run blanks body opening
      obtain ⟨longer, longerRun, found, _⟩ := opening.cons c
      exact none _ _ _ _ found

/-- A piece gives the atom of its first opening, or it has no opening and gives nothing. -/
theorem scanAtoms_cases (noClosing : ')' ∉ piece) :
    (∃ before run blanks body, FirstOpening piece before run blanks body ∧
      scanAtoms (piece ++ [')']) = [atomOf run body]) ∨ scanAtoms (piece ++ [')']) = [] := by
  by_cases opens : ∃ before run blanks body, Opening piece before run blanks body
  · obtain ⟨_, _, _, _, opening⟩ := opens
    obtain ⟨before, run, blanks, body, first⟩ := exists_first opening
    exact Or.inl ⟨before, run, blanks, body, first, scanAtoms_of_first noClosing first⟩
  · simp only [not_exists] at opens
    exact Or.inr (scanAtoms_of_none noClosing opens)

theorem length_scanAtoms_le (noClosing : ')' ∉ piece) :
    (scanAtoms (piece ++ [')'])).length ≤ 1 := by
  rcases scanAtoms_cases noClosing with ⟨_, _, _, _, _, one⟩ | none
  · rw [one, List.length_singleton]
  · simp [none]

theorem scanAtoms_eq_flatMap (text : List Char) :
    scanAtoms text = (text.splitOn ')').dropLast.flatMap fun piece =>
      scanAtoms (piece ++ [')']) := by
  induction text using Text.split_induction ')' with
  | last text noClosing =>
      rw [scanAtoms_of_not_mem noClosing, List.splitOn_eq_singleton noClosing]
      rfl
  | step piece rest noClosing ih =>
      rw [scanAtoms_piece noClosing, List.splitOn_append_cons_self_of_not_mem noClosing,
        List.dropLast_cons_of_ne_nil (List.splitOn_ne_nil ')' rest), List.flatMap_cons, ← ih]

/-- A scanned atom comes from an opening in a piece of the text. -/
theorem opening_of_mem_scanAtoms {text : List Char} {atom : Atom} (member : atom ∈ scanAtoms text) :
    ∃ piece before run blanks body, piece <:+: text ∧ ')' ∉ piece ∧
      Opening piece before run blanks body ∧ atom = atomOf run body := by
  rw [scanAtoms_eq_flatMap, List.mem_flatMap] at member
  obtain ⟨piece, kept, scanned⟩ := member
  have isPiece := List.dropLast_subset _ kept
  have noClosing := Text.not_mem_of_mem_splitOn isPiece
  rcases scanAtoms_cases noClosing with ⟨before, run, blanks, body, first, one⟩ | none
  · rw [one, List.mem_singleton] at scanned
    exact ⟨piece, before, run, blanks, body, Text.infix_of_mem_splitOn isPiece, noClosing,
      first.toOpening, scanned⟩
  · rw [none] at scanned
    contradiction

/-- Scanning is done from one closing parenthesis to the next. A text without one holds no atom; up
to one there is the atom of the first word that opens a pattern, if there is such a word. So every
closing parenthesis ends one atom at most, and the atoms come in the order of their parentheses. -/
theorem scan_splits_at_closings :
    (∀ front back, scanAtoms (front ++ [')'] ++ back) =
      scanAtoms (front ++ [')']) ++ scanAtoms back) ∧
    (∀ text, ')' ∉ text → scanAtoms text = []) ∧
    (∀ piece, ')' ∉ piece →
      ((∀ before run blanks body, ¬ Opening piece before run blanks body) →
        scanAtoms (piece ++ [')']) = []) ∧
      (∀ before run blanks body, FirstOpening piece before run blanks body →
        scanAtoms (piece ++ [')']) =
          [⟨String.ofList run, (body.splitOn ',').map argument⟩]) ∧
      ((∃ before run blanks body, Opening piece before run blanks body) →
        ∃ before run blanks body, FirstOpening piece before run blanks body)) ∧
    ∀ text, scanAtoms text = ((text.splitOn ')').dropLast.flatMap fun piece =>
        scanAtoms (piece ++ [')'])) ∧
      ∀ piece ∈ (text.splitOn ')').dropLast, (scanAtoms (piece ++ [')'])).length ≤ 1 := by
  refine ⟨?_, fun _ => scanAtoms_of_not_mem, ?_, ?_⟩
  · intro front back
    rw [List.append_assoc]
    exact scanAtoms_append front back
  · intro piece noClosing
    refine ⟨scanAtoms_of_none noClosing, fun _ _ _ _ => scanAtoms_of_first noClosing, ?_⟩
    rintro ⟨before, run, blanks, body, opening⟩
    exact exists_first opening
  · intro text
    refine ⟨scanAtoms_eq_flatMap text, ?_⟩
    intro piece member
    exact length_scanAtoms_le (Text.not_mem_of_mem_splitOn (List.dropLast_subset _ member))

theorem noisy_first_opening :
    FirstOpening "p q (r(a, 'b c'".toList "p ".toList "q".toList " ".toList
      "r(a, 'b c'".toList := by
  have opening : Opening "p q (r(a, 'b c'".toList "p ".toList "q".toList " ".toList
      "r(a, 'b c'".toList := by
    refine ⟨by decide, by decide, List.all_eq_true.mp (by decide), ?_, not_word_of_head ?_,
      List.all_eq_true.mp (by decide), by decide⟩
    · rintro c ⟨⟩
      decide
    · exact List.all_eq_true.mp (by decide)
  refine ⟨opening, ?_⟩
  intro before run blanks body opening
  match before, opening with
  | [], opening =>
      have read : atomPattern ("p q (r(a, 'b c'".toList ++ [')']) = .ok (atomOf run body, []) :=
        (atomPattern_piece (by decide)).mpr ⟨rfl, run, blanks, body, opening, rfl⟩
      have fails : atomPattern ("p q (r(a, 'b c'".toList ++ [')']) =
          .error (.opening "q (r(a, 'b c')".toList) := by decide
      exact absurd (fails.symm.trans read) nofun
  | [c], opening =>
      obtain rfl : 'p' = c := List.head_eq_of_cons_eq opening.whole
      exact absurd (opening.begins 'p' rfl) (by decide)
  | _ :: _ :: more, _ => exact Nat.le_add_left 2 more.length

-- The word `p` opens nothing. What follows `q` runs up to the parenthesis, a second one included.
theorem noisy_scan :
    ')' ∉ "p q (r(a, 'b c'".toList ∧
      FirstOpening "p q (r(a, 'b c'".toList "p ".toList "q".toList " ".toList
        "r(a, 'b c'".toList ∧
      scanAtoms ("p q (r(a, 'b c'".toList ++ [')']) =
        [⟨"q", [.const "r(a", .const "b c"]⟩] := by
  have noClosing : ')' ∉ "p q (r(a, 'b c'".toList := by decide
  have scanned := (scan_splits_at_closings.2.2.1 _ noClosing).2.1 _ _ _ _ noisy_first_opening
  exact ⟨noClosing, noisy_first_opening, scanned.trans (by decide)⟩

end Deduction.RuleText
