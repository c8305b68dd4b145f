import Deduction.Text.Cut
import Mathlib.Data.List.Chain
import Mathlib.Data.List.DropRight
import Mathlib.Data.List.Infix
import Mathlib.Data.List.TakeWhile

/-!
Ways of cutting text, each with what it leaves: the front of a text up to where a property fails,
the pieces between separators, the text without padding, the text around the first occurrence of a
needle. What is cut out always stands in the text as it is, so whatever does not occur in a text
does not occur in the parts either. Joined texts are cut where they were joined.
-/

namespace Deduction.Text

/-- Cutting a text where a property first fails: the one way to divide it so. -/
theorem takeWhile_eq_iff {p : Char → Bool} {text front back : List Char} :
    text.takeWhile p = front ∧ text.dropWhile p = back ↔
      text = front ++ back ∧ (∀ c ∈ front, p c = true) ∧
        ∀ c, back.head? = some c → p c = false := by
  constructor
  · rintro ⟨rfl, rfl⟩
    refine ⟨List.takeWhile_append_dropWhile.symm, fun c => List.mem_takeWhile_imp, ?_⟩
    intro c found
    have stopped := List.head?_dropWhile_not p text
    rwa [found] at stopped
  · rintro ⟨rfl, inside, stopped⟩
    rw [List.takeWhile_append_of_pos inside, List.dropWhile_append_of_pos inside]
    cases back with
    | nil => simp
    | cons c back => simp [stopped c rfl]

/-- The first separator divides a text in one way only. -/
theorem append_separator_inj {separator : Char} {front other rest after : List Char}
    (absent : separator ∉ front) (otherAbsent : separator ∉ other)
    (same : front ++ separator :: rest = other ++ separator :: after) :
    front = other ∧ rest = after := by
  have samePieces := congrArg (List.splitOn separator) same
  rw [List.splitOn_append_cons_self_of_not_mem absent,
    List.splitOn_append_cons_self_of_not_mem otherAbsent] at samePieces
  obtain rfl := List.head_eq_of_cons_eq samePieces
  exact ⟨rfl, List.tail_eq_of_cons_eq (List.append_cancel_left same)⟩

/-- What holds of a text without separators, and of a text if it holds of what follows the first
separator, holds of every text. -/
@[elab_as_elim]
theorem split_induction (separator : Char) {motive : List Char → Prop}
    (last : ∀ text, separator ∉ text → motive text)
    (step : ∀ piece rest, separator ∉ piece → motive rest → motive (piece ++ separator :: rest))
    (text : List Char) : motive text := by
  induction bound : text.length using Nat.strong_induction_on generalizing text with
  | _ size ih =>
    by_cases member : separator ∈ text
    · obtain ⟨piece, rest, rfl, absent⟩ := List.eq_append_cons_of_mem member
      rw [List.length_append, List.length_cons] at bound
      exact step piece rest absent (ih rest.length (by omega) rest rfl)
    · exact last text member

theorem not_mem_of_mem_splitOn {separator : Char} {text piece : List Char}
    (member : piece ∈ text.splitOn separator) : separator ∉ piece := by
  induction text using split_induction separator with
  | last text absent =>
      rw [List.splitOn_eq_singleton absent, List.mem_singleton] at member
      exact member ▸ absent
  | step first rest absent ih =>
      rw [List.splitOn_append_cons_self_of_not_mem absent] at member
      rcases List.mem_cons.mp member with rfl | later
      · exact absent
      · exact ih later

theorem infix_of_mem_splitOn {separator : Char} {text piece : List Char}
    (member : piece ∈ text.splitOn separator) : piece <:+: text := by
  induction text using split_induction separator with
  | last text absent =>
      rw [List.splitOn_eq_singleton absent, List.mem_singleton] at member
      rw [member]
  | step first rest absent ih =>
      rw [List.splitOn_append_cons_self_of_not_mem absent] at member
      rcases List.mem_cons.mp member with rfl | later
      · exact (List.prefix_append _ _).isInfix
      · exact ((ih later).trans (List.suffix_cons _ _).isInfix).trans
          (List.suffix_append _ _).isInfix

/-! Padding. -/

def Padded (p : Char → Bool) (text : List Char) : Prop :=
  text.head?.any p = true ∨ text.getLast?.any p = true

instance (p : Char → Bool) (text : List Char) : Decidable (Padded p text) :=
  inferInstanceAs (Decidable (_ ∨ _))

theorem trimBy_eq_rdropWhile (p : Char → Bool) (text : List Char) :
    trimBy p text = (text.dropWhile p).rdropWhile p := rfl

theorem infix_trimBy (p : Char → Bool) (text : List Char) : trimBy p text <:+: text :=
  (List.rdropWhile_prefix p _).isInfix.trans (List.dropWhile_suffix p).isInfix

@[simp] theorem trimBy_cons_of_pos {p : Char → Bool} {c : Char} (holds : p c = true)
    (text : List Char) : trimBy p (c :: text) = trimBy p text := by
  rw [trimBy, List.dropWhile_cons_of_pos holds, trimBy]

@[simp] theorem trimBy_concat_of_pos {p : Char → Bool} {c : Char} (holds : p c = true)
    (text : List Char) : trimBy p (text ++ [c]) = trimBy p text := by
  rw [trimBy_eq_rdropWhile, trimBy_eq_rdropWhile, List.dropWhile_append]
  split
  next none =>
      rw [List.isEmpty_iff.mp none, List.dropWhile_cons_of_pos holds, List.dropWhile_nil]
  · exact List.rdropWhile_concat_pos p _ c holds

theorem padded_iff {p : Char → Bool} {text : List Char} :
    Padded p text ↔ ∃ c, (text.head? = some c ∨ text.getLast? = some c) ∧ p c = true := by
  simp only [Padded, Option.any_eq_true, or_and_right, exists_or]

theorem not_padded_trimBy (p : Char → Bool) (text : List Char) : ¬ Padded p (trimBy p text) := by
  rw [padded_iff, trimBy_eq_rdropWhile]
  rintro ⟨c, first | last, holds⟩
  · obtain ⟨dropped, whole⟩ := List.rdropWhile_prefix p (text.dropWhile p)
    have front : (text.dropWhile p).head? = some c := by
      rw [← whole, List.head?_append, first, Option.some_or]
    have stopped := (takeWhile_eq_iff.mp ⟨rfl, rfl⟩).2.2 c front
    exact Bool.eq_false_iff.mp stopped holds
  · have notEmpty : (text.dropWhile p).rdropWhile p ≠ [] := by
      rintro empty
      simp [empty] at last
    rw [List.getLast?_eq_some_getLast notEmpty, Option.some.injEq] at last
    exact List.rdropWhile_last_not p _ notEmpty (last ▸ holds)

theorem trimBy_eq_self {p : Char → Bool} {text : List Char} :
    trimBy p text = text ↔ ¬ Padded p text := by
  constructor
  · intro same
    rw [← same]
    exact not_padded_trimBy p text
  · rw [padded_iff]
    intro bare
    have front : text.dropWhile p = text := by
      refine List.dropWhile_eq_self_iff.mpr fun inside holds => bare ⟨_, Or.inl ?_, holds⟩
      rw [List.head?_eq_getElem?, List.getElem?_eq_getElem inside]
    rw [trimBy_eq_rdropWhile, front, List.rdropWhile_eq_self_iff]
    exact fun notEmpty holds =>
      bare ⟨_, Or.inr (List.getLast?_eq_some_getLast notEmpty), holds⟩

/-- Trimming leaves nothing to trim. -/
@[simp] theorem trim_trim (text : List Char) : trim (trim text) = trim text :=
  trimBy_eq_self.mpr (not_padded_trimBy isBlank text)

-- A carriage return is blank.
theorem trim_dropReturn (line : List Char) : trim (dropReturn line) = trim line := by
  unfold dropReturn
  split
  next last =>
      obtain ⟨front, rfl⟩ := List.getLast?_eq_some_iff.mp last
      rw [List.dropLast_concat, trim, trim, trimBy_concat_of_pos (by decide)]
  · rfl

/-! The first occurrence of a needle. -/

theorem occurs_iff {needle text : List Char} : occurs needle text = true ↔ needle <:+: text := by
  induction text with
  | nil => simp [occurs, cut?, apply_ite, List.isEmpty_iff]
  | cons c rest ih =>
      rw [List.infix_cons_iff, ← ih, ← List.isPrefixOf_iff_prefix, occurs, cut?]
      by_cases here : needle.isPrefixOf (c :: rest) <;> simp [here, occurs]

/-- A needle does not lie across a character that it lacks. -/
theorem infix_append_cons {needle front back : List Char} {c : Char} (notEmpty : needle ≠ [])
    (absent : c ∉ needle) (inside : needle <:+: front ++ c :: back) :
    needle <:+: front ∨ needle <:+: back := by
  obtain ⟨before, after, whole⟩ := inside
  rw [List.append_assoc] at whole
  rcases List.append_eq_append_iff.mp whole with ⟨later, rfl, rest⟩ | ⟨later, rfl, rest⟩
  · left
    rcases List.append_eq_append_iff.mp rest with ⟨_, rfl, _⟩ | ⟨shared, rfl, across⟩
    · exact ⟨before, _, List.append_assoc _ _ _⟩
    · cases shared with
      | nil => exact ⟨before, [], by simp⟩
      | cons first more =>
          obtain rfl := List.head_eq_of_cons_eq across
          simp at absent
  · right
    cases later with
    | nil =>
        obtain ⟨first, needle, rfl⟩ := List.exists_cons_of_ne_nil notEmpty
        obtain rfl := List.head_eq_of_cons_eq rest
        simp at absent
    | cons first later =>
        exact ⟨later, after, by simpa using (List.tail_eq_of_cons_eq rest).symm⟩

theorem prefix_append_dropLast (front needle back : List Char) :
    front ++ needle.dropLast <+: front ++ (needle ++ back) :=
  (List.prefix_append_right_inj front).mpr
    ((List.dropLast_prefix needle).trans (List.prefix_append needle back))

-- Whether a needle stands before another one is settled when the other lacks its last character.
theorem prefix_append_iff {needle front : List Char} (notEmpty : front ≠ []) (back : List Char) :
    needle <+: front ++ (needle ++ back) ↔ needle <+: front ++ needle.dropLast := by
  have shorter := prefix_append_dropLast front needle back
  constructor
  · intro early
    apply List.prefix_of_prefix_length_le early shorter
    have positive := List.length_pos_iff.mpr notEmpty
    rw [List.length_append, List.length_dropLast]
    omega
  · exact fun early => early.trans shorter

theorem not_infix_dropLast {needle : List Char} (notEmpty : needle ≠ []) :
    ¬ needle <:+: needle.dropLast := by
  intro inside
  have bound := inside.length_le
  have positive := List.length_pos_iff.mpr notEmpty
  rw [List.length_dropLast] at bound
  omega

/-- The first occurrence is the one before which the needle is never complete. -/
theorem cut?_eq_some_iff {needle text front back : List Char} (notEmpty : needle ≠ []) :
    cut? needle text = some (front, back) ↔
      text = front ++ (needle ++ back) ∧ ¬ needle <:+: front ++ needle.dropLast := by
  induction text generalizing front with
  | nil => simp [cut?, notEmpty]
  | cons c rest ih =>
    simp only [cut?, List.isPrefixOf_iff_prefix]
    by_cases here : needle <+: c :: rest
    · obtain ⟨after, whole⟩ := here
      rw [← whole, if_pos (List.prefix_append needle after), List.drop_left, Option.some.injEq,
        Prod.mk.injEq]
      constructor
      · rintro ⟨rfl, rfl⟩
        exact ⟨rfl, not_infix_dropLast notEmpty⟩
      · rintro ⟨same, first⟩
        have noFront : front = [] := by
          by_contra later
          have early : needle <+: front ++ (needle ++ back) :=
            same ▸ List.prefix_append needle after
          exact first ((prefix_append_iff later back).mp early).isInfix
        rw [noFront] at same
        exact ⟨noFront.symm, List.append_cancel_left same⟩
    · rw [if_neg here, Option.map_eq_some_iff]
      constructor
      · rintro ⟨⟨before, _⟩, found, same⟩
        obtain ⟨rfl, rfl⟩ := Prod.mk.inj same
        obtain ⟨rfl, first⟩ := ih.mp found
        refine ⟨rfl, fun inside => ?_⟩
        rcases List.infix_cons_iff.mp inside with early | within
        · exact here ((prefix_append_iff (List.cons_ne_nil c before) _).mpr early)
        · exact first within
      · rintro ⟨same, first⟩
        cases front with
        | nil => exact absurd (same ▸ List.prefix_append needle back) here
        | cons d before =>
            obtain rfl := List.head_eq_of_cons_eq same
            refine ⟨(before, back), ih.mpr ⟨List.tail_eq_of_cons_eq same, ?_⟩, rfl⟩
            exact fun within => first (within.trans (List.suffix_cons c _).isInfix)

/-! Joined texts. -/

theorem toList_intercalate_cons (separator text next : String) (rest : List String) :
    (String.intercalate separator (text :: next :: rest)).toList =
      text.toList ++
        (separator.toList ++ (String.intercalate separator (next :: rest)).toList) := by
  simp

theorem mem_intercalate {separator : String} {texts : List String} {c : Char}
    (member : c ∈ (String.intercalate separator texts).toList) :
    c ∈ separator.toList ∨ ∃ text ∈ texts, c ∈ text.toList := by
  induction texts with
  | nil => simp at member
  | cons text rest ih =>
    cases rest with
    | nil => exact Or.inr ⟨text, by simp, by simpa using member⟩
    | cons next rest =>
      rw [toList_intercalate_cons, List.mem_append, List.mem_append] at member
      rcases member with here | between | later
      · exact Or.inr ⟨text, by simp, here⟩
      · exact Or.inl between
      · rcases ih later with between | ⟨other, held, inside⟩
        · exact Or.inl between
        · exact Or.inr ⟨other, List.mem_cons_of_mem text held, inside⟩

theorem intercalate_eq_nil {separator : String} (notEmpty : separator.toList ≠ [])
    {texts : List String} (some : texts ≠ []) :
    (String.intercalate separator texts).toList = [] ↔ texts = [""] := by
  match texts with
  | [] => contradiction
  | [text] => simp
  | text :: next :: rest => simp [notEmpty]

theorem not_infix_intercalate {needle : List Char} (notEmpty : needle ≠ []) (noComma : ',' ∉ needle)
    (noBlank : ' ' ∉ needle) {texts : List String}
    (absent : ∀ text ∈ texts, ¬ needle <:+: text.toList) :
    ¬ needle <:+: (String.intercalate ", " texts).toList := by
  induction texts with
  | nil => exact fun inside => notEmpty (List.infix_nil.mp inside)
  | cons text rest ih =>
      rw [List.forall_mem_cons] at absent
      cases rest with
      | nil =>
          rw [String.intercalate_singleton]
          exact absent.1
      | cons next rest =>
          have divided : (String.intercalate ", " (text :: next :: rest)).toList =
              (text.toList ++ [',']) ++ ' ' :: (String.intercalate ", " (next :: rest)).toList := by
            simp
          rw [divided]
          intro inside
          rcases infix_append_cons notEmpty noBlank inside with front | later
          · rcases infix_append_cons notEmpty noComma front with here | none
            · exact absent.1 here
            · exact notEmpty (List.infix_nil.mp none)
          · exact ih absent.2 later

theorem prefix_intercalate (separator text : String) (rest : List String) :
    text.toList <+: (String.intercalate separator (text :: rest)).toList := by
  cases rest with
  | nil => rw [String.intercalate_singleton]
  | cons next rest => exact toList_intercalate_cons _ _ _ _ ▸ List.prefix_append _ _

theorem splitOn_intercalate {texts : List String} (some : texts ≠ [])
    (oneLine : ∀ text ∈ texts, '\n' ∉ text.toList) :
    (String.intercalate "\n" texts).toList.splitOn '\n' = texts.map String.toList := by
  rw [String.toList_intercalate]
  exact List.splitOn_intercalate '\n' (List.forall_mem_map.mpr oneLine) (by simpa using some)

end Deduction.Text
