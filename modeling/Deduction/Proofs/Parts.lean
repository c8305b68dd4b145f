import Deduction.Proofs.Cutting

/-!
The parts of a text, described by what they are and not by how they are found: the longest front
with a property, the core between two paddings, the tokens between separators, the surroundings of
the first occurrence of a needle. Every text has such parts in one way only (the needle has to
occur) and cutting finds them.
-/

namespace Deduction.Text

structure LongestFront (p : Char → Bool) (text front : List Char) : Prop where
  begins : front <+: text
  holds : ∀ c ∈ front, p c = true
  longest : ∀ other, other <+: text → (∀ c ∈ other, p c = true) → other.length ≤ front.length

structure Core (p : Char → Bool) (text core : List Char) : Prop where
  between : ∃ front back, text = front ++ (core ++ back) ∧
    (∀ c ∈ front, p c = true) ∧ ∀ c ∈ back, p c = true
  bare : ¬ Padded p core

structure Tokens (separator : Char) (text : List Char) (tokens : List (List Char)) : Prop where
  joined : [separator].intercalate tokens = text
  absent : ∀ token ∈ tokens, separator ∉ token
  notEmpty : tokens ≠ []

structure FirstOccurrence (needle text front back : List Char) : Prop where
  whole : text = front ++ (needle ++ back)
  first : ∀ before after, text = before ++ (needle ++ after) → front.length ≤ before.length

variable {p : Char → Bool} {text : List Char}

theorem longestFront_iff {front : List Char} :
    LongestFront p text front ↔ text.takeWhile p = front := by
  have within : ∀ other, other <+: text → (∀ c ∈ other, p c = true) →
      other <+: text.takeWhile p := by
    rintro other ⟨back, rfl⟩ holds
    rw [List.takeWhile_append_of_pos holds]
    exact List.prefix_append other _
  constructor
  · intro front
    have bound := front.longest _ (List.takeWhile_prefix p) fun c => List.mem_takeWhile_imp
    exact ((within _ front.begins front.holds).eq_of_length_le bound).symm
  · rintro rfl
    exact ⟨List.takeWhile_prefix p, fun c => List.mem_takeWhile_imp,
      fun other begins holds => (within other begins holds).length_le⟩

theorem longestFront_append_iff {front back : List Char} :
    LongestFront p (front ++ back) front ↔
      (∀ c ∈ front, p c = true) ∧ ∀ c, back.head? = some c → p c = false := by
  rw [longestFront_iff]
  constructor
  · intro taken
    have dropped := List.takeWhile_append_dropWhile (p := p) (l := front ++ back)
    rw [taken, List.append_cancel_left_eq] at dropped
    exact (takeWhile_eq_iff.mp ⟨taken, dropped⟩).2
  · exact fun stops => (takeWhile_eq_iff.mpr ⟨rfl, stops⟩).1

theorem trimBy_append_append {front back : List Char} (frontPadding : ∀ c ∈ front, p c = true)
    (backPadding : ∀ c ∈ back, p c = true) (core : List Char) :
    trimBy p (front ++ (core ++ back)) = trimBy p core := by
  induction front with
  | cons c front ih =>
      rw [List.forall_mem_cons] at frontPadding
      rw [List.cons_append, trimBy_cons_of_pos frontPadding.1, ih frontPadding.2]
  | nil =>
      rw [List.nil_append]
      induction back using List.reverseRecOn with
      | nil => rw [List.append_nil]
      | append_singleton back c ih =>
          rw [List.forall_mem_append, List.forall_mem_singleton] at backPadding
          rw [← List.append_assoc, trimBy_concat_of_pos backPadding.2, ih backPadding.1]

theorem core_iff {core : List Char} : Core p text core ↔ trimBy p text = core := by
  constructor
  · rintro ⟨⟨front, back, rfl, frontPadding, backPadding⟩, bare⟩
    rw [trimBy_append_append frontPadding backPadding, trimBy_eq_self.mpr bare]
  · rintro rfl
    refine ⟨⟨text.takeWhile p, (text.dropWhile p).rtakeWhile p, ?_, ?_, ?_⟩,
      not_padded_trimBy p text⟩
    · rw [trimBy_eq_rdropWhile, List.rdropWhile_append_rtakeWhile,
        List.takeWhile_append_dropWhile]
    · exact fun c => List.mem_takeWhile_imp
    · exact fun c => List.mem_rtakeWhile_imp

theorem trimBy_eq_nil_iff : trimBy p text = [] ↔ ∀ c ∈ text, p c = true := by
  rw [← core_iff]
  constructor
  · rintro ⟨⟨front, back, rfl, frontPadding, backPadding⟩, _⟩
    rw [List.nil_append, List.forall_mem_append]
    exact ⟨frontPadding, backPadding⟩
  · intro padding
    exact ⟨⟨text, [], (List.append_nil text).symm, padding, nofun⟩, by simp [Padded]⟩

theorem core_trim (text : List Char) : Core isBlank text (trim text) :=
  core_iff.mpr rfl

theorem tokens_iff {separator : Char} {tokens : List (List Char)} :
    Tokens separator text tokens ↔ text.splitOn separator = tokens := by
  constructor
  · rintro ⟨rfl, absent, notEmpty⟩
    exact List.splitOn_intercalate separator absent notEmpty
  · rintro rfl
    exact ⟨List.intercalate_splitOn separator, fun token => not_mem_of_mem_splitOn,
      List.splitOn_ne_nil separator text⟩

/-- There is one token more than there are separators. -/
theorem length_splitOn (separator : Char) (text : List Char) :
    (text.splitOn separator).length = text.count separator + 1 := by
  induction text using split_induction separator with
  | last text absent =>
      rw [List.splitOn_eq_singleton absent, List.count_eq_zero_of_not_mem absent]
      rfl
  | step piece rest absent ih =>
      rw [List.splitOn_append_cons_self_of_not_mem absent, List.length_cons, ih,
        List.count_append, List.count_cons_self, List.count_eq_zero_of_not_mem absent, Nat.zero_add]

theorem FirstOccurrence.text_ne_nil {needle front back : List Char} (notEmpty : needle ≠ [])
    (occurrence : FirstOccurrence needle text front back) : text ≠ [] := by
  rw [occurrence.whole]
  simp [notEmpty]

/-- No earlier occurrence means that the needle is never complete before this one. -/
theorem firstOccurrence_iff {needle front back : List Char} (notEmpty : needle ≠ []) :
    FirstOccurrence needle text front back ↔ cut? needle text = some (front, back) := by
  have size := List.length_pos_iff.mpr notEmpty
  rw [cut?_eq_some_iff notEmpty]
  constructor
  · rintro ⟨rfl, first⟩
    refine ⟨rfl, ?_⟩
    rintro ⟨before, after, early⟩
    have bound := congrArg List.length early
    simp only [List.length_append, List.length_dropLast] at bound
    have other : front ++ (needle ++ back) =
        before ++ (needle ++ (after ++ (needle.getLast notEmpty :: back))) := by
      calc front ++ (needle ++ back)
          = (front ++ needle.dropLast) ++ (needle.getLast notEmpty :: back) := by
            conv_lhs => rw [← List.dropLast_append_getLast notEmpty]
            simp
        _ = before ++ (needle ++ (after ++ (needle.getLast notEmpty :: back))) := by
            rw [← early]
            simp
    have earliest := first _ _ other
    omega
  · rintro ⟨rfl, first⟩
    refine ⟨rfl, ?_⟩
    intro before after other
    by_contra earlier
    -- An occurrence that begins earlier ends before this one is complete.
    have long : before ++ needle <+: front ++ (needle ++ back) :=
      ⟨after, by rw [other, List.append_assoc]⟩
    have inside : before ++ needle <+: front ++ needle.dropLast := by
      apply List.prefix_of_prefix_length_le long (prefix_append_dropLast front needle back)
      simp only [List.length_append, List.length_dropLast]
      omega
    exact first ((List.suffix_append before needle).isInfix.trans inside.isInfix)

end Deduction.Text
