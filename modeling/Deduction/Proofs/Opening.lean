import Deduction.Proofs.Cutting
import Deduction.RuleText

/-!
Where a pattern stands. A text opens a pattern where a longest run of word characters, then perhaps
blanks, an opening parenthesis and at least one character more follow each other. Reading a pattern
off the front of a text succeeds exactly when what comes before the first closing parenthesis opens
one at once; it takes the text up to that parenthesis, and no other division of the text is
possible. This says of a reader made of several steps what a grammar would say.
-/

namespace Deduction

namespace Text

def codesOf (ranges : List (Nat × Nat)) : List Nat :=
  ranges.flatMap fun range => List.range' range.1 (range.2 + 1 - range.1)

theorem mem_codesOf {ranges : List (Nat × Nat)} {code : Nat}
    (inside : inRanges ranges code = true) : code ∈ codesOf ranges := by
  induction ranges with
  | nil => simp [inRanges] at inside
  | cons range rest ih =>
      obtain ⟨first, last⟩ := range
      rw [codesOf, List.flatMap_cons, List.mem_append]
      simp only [inRanges, Bool.if_false_left, Bool.and_eq_true, Bool.not_eq_true',
        decide_eq_false_iff_not] at inside
      obtain ⟨above, found⟩ := inside
      split at found
      · left
        rw [List.mem_range'_1]
        omega
      · exact Or.inr (ih found)

end Text

namespace RuleText

-- A table of six hundred ranges against the twenty-five blank characters.
theorem isWord_of_isBlank {c : Char} (blank : Text.isBlank c = true) : isWord c = false := by
  have apart : ∀ code ∈ Text.codesOf Text.blankRanges,
      Text.inRanges Text.alphanumericRanges code = false ∧ code ≠ '_'.toNat := by
    decide +kernel
  obtain ⟨noLetter, noLine⟩ := apart c.toNat (Text.mem_codesOf blank)
  have different : c ≠ '_' := fun same => noLine (congrArg Char.toNat same)
  simp [isWord, Text.isAlphanumeric, noLetter, different]

/-- A longest run of word characters within a text, with blanks, an opening parenthesis and the rest
of the text after it. -/
structure Opening (text before run blanks body : List Char) : Prop where
  whole : text = before ++ (run ++ (blanks ++ '(' :: body))
  run_ne_nil : run ≠ []
  word : ∀ c ∈ run, isWord c = true
  begins : ∀ c, before.getLast? = some c → isWord c = false
  ends : ∀ c, (blanks ++ ['(']).head? = some c → isWord c = false
  blank : ∀ c ∈ blanks, Text.isBlank c = true
  body_ne_nil : body ≠ []

theorem name_eq_ok {text run rest : List Char} : name text = .ok (run, rest) ↔
    run ≠ [] ∧ text = run ++ rest ∧ (∀ c ∈ run, isWord c = true) ∧
      ∀ c, rest.head? = some c → isWord c = false := by
  rw [← Text.takeWhile_eq_iff]
  unfold name
  cases text.takeWhile isWord with
  | nil => simp +contextual [eq_comm]
  | cons first run => simp +contextual [eq_comm]

theorem isInside_eq_false {c : Char} : isInside c = false ↔ c = ')' := by
  simp [isInside]

theorem enclosed_eq_ok {text body rest : List Char} : enclosed text = .ok (body, rest) ↔
    text = body ++ ')' :: rest ∧ body ≠ [] ∧ ')' ∉ body := by
  constructor
  · intro read
    unfold enclosed at read
    split at read
    · contradiction
    · contradiction
    next first more closing after taken dropped =>
        obtain ⟨whole, inside, stopped⟩ := Text.takeWhile_eq_iff.mp ⟨taken, dropped⟩
        simp only [Except.ok.injEq, Prod.mk.injEq] at read
        obtain ⟨rfl, rfl⟩ := read
        rw [isInside_eq_false.mp (stopped closing rfl)] at whole
        refine ⟨whole, List.cons_ne_nil _ _, ?_⟩
        intro member
        exact absurd (inside _ member) (by decide)
  · rintro ⟨whole, notEmpty, inside⟩
    have cut : text.takeWhile isInside = body ∧ text.dropWhile isInside = ')' :: rest := by
      refine Text.takeWhile_eq_iff.mpr ⟨whole, ?_, ?_⟩
      · intro c member
        by_contra outside
        rw [Bool.not_eq_true, isInside_eq_false] at outside
        exact inside (outside ▸ member)
      · rintro c ⟨⟩
        rfl
    obtain ⟨first, more, rfl⟩ := List.exists_cons_of_ne_nil notEmpty
    simp only [enclosed, cut]

theorem argList_eq_ok {text body rest : List Char} : argList text = .ok (body, rest) ↔
    ∃ blanks, text = blanks ++ '(' :: (body ++ ')' :: rest) ∧
      (∀ c ∈ blanks, Text.isBlank c = true) ∧ body ≠ [] ∧ ')' ∉ body := by
  constructor
  · intro read
    unfold argList at read
    split at read
    next after opened =>
        obtain ⟨whole, blank, _⟩ := Text.takeWhile_eq_iff.mp ⟨rfl, opened⟩
        obtain ⟨rfl, notEmpty, inside⟩ := enclosed_eq_ok.mp read
        exact ⟨_, whole, blank, notEmpty, inside⟩
    · contradiction
  · rintro ⟨blanks, whole, blank, notEmpty, inside⟩
    have opened : text.dropWhile Text.isBlank = '(' :: (body ++ ')' :: rest) := by
      refine (Text.takeWhile_eq_iff.mpr ⟨whole, blank, ?_⟩).2
      rintro c ⟨⟩
      decide
    rw [argList, opened]
    exact enclosed_eq_ok.mpr ⟨rfl, notEmpty, inside⟩

/-- A word before blanks and an opening parenthesis ends where they begin. -/
theorem not_word_of_head {blanks : List Char} (blank : ∀ c ∈ blanks, Text.isBlank c = true) :
    ∀ c, (blanks ++ ['(']).head? = some c → isWord c = false := by
  cases blanks with
  | nil =>
      rintro c ⟨⟩
      decide
  | cons first more =>
      rintro c ⟨⟩
      exact isWord_of_isBlank (blank first List.mem_cons_self)

theorem Opening.not_mem_body {text before run blanks body : List Char}
    (opening : Opening text before run blanks body) (noClosing : ')' ∉ text) : ')' ∉ body := by
  intro member
  rw [opening.whole] at noClosing
  simp [member] at noClosing

-- What stands before the first closing parenthesis decides whether a pattern is read, and which.
theorem atomPattern_eq_ok {text rest : List Char} {atom : Atom} :
    atomPattern text = .ok (atom, rest) ↔
      ∃ piece run blanks body, text = piece ++ ')' :: rest ∧ ')' ∉ piece ∧
        Opening piece [] run blanks body ∧ atom = atomOf run body := by
  constructor
  · intro read
    unfold atomPattern at read
    split at read
    · contradiction
    next run afterName named =>
      split at read
      · contradiction
      next body after listed =>
        simp only [Except.ok.injEq, Prod.mk.injEq] at read
        obtain ⟨rfl, rfl⟩ := read
        obtain ⟨runNotEmpty, rfl, word, _⟩ := name_eq_ok.mp named
        obtain ⟨blanks, rfl, blank, bodyNotEmpty, inside⟩ := argList_eq_ok.mp listed
        refine ⟨run ++ (blanks ++ '(' :: body), run, blanks, body, by simp, ?_,
          ⟨rfl, runNotEmpty, word, by simp, not_word_of_head blank, blank, bodyNotEmpty⟩, rfl⟩
        simp only [List.mem_append, List.mem_cons, not_or]
        refine ⟨fun member => ?_, fun member => ?_, by decide, inside⟩
        · exact absurd (word _ member) (by decide)
        · exact absurd (blank _ member) (by decide)
  · rintro ⟨piece, run, blanks, body, rfl, noClosing, opening, rfl⟩
    have named : name (piece ++ ')' :: rest) =
        .ok (run, blanks ++ '(' :: (body ++ ')' :: rest)) := by
      refine name_eq_ok.mpr ⟨opening.run_ne_nil, by simp [opening.whole], opening.word, ?_⟩
      intro c found
      exact opening.ends c (by simpa using found)
    have listed : argList (blanks ++ '(' :: (body ++ ')' :: rest)) = .ok (body, rest) :=
      argList_eq_ok.mpr ⟨blanks, rfl, opening.blank, opening.body_ne_nil,
        opening.not_mem_body noClosing⟩
    simp only [atomPattern, named, listed]

end RuleText

end Deduction
