import Deduction.Proofs.Cutting
import Deduction.Text.Quoted

/-!
Quoted text ends at its closing quote. The escapes of single characters can be cut off one after the
other: each shows its end by itself, and none begins with a quote. So a quoted text with anything
behind it was quoted from one text only, whatever characters that holds. Which characters are
printable plays no part here; quote and backslash are escaped in any case.
-/

namespace Deduction.Text

/-! Hexadecimal numbers. -/

/-- The last digit of a number, and the digits before it. -/
theorem toDigits_eq_append (value : Nat) :
    ∃ front, Nat.toDigits 16 value = front ++ [Nat.digitChar (value % 16)] ∧
      (value < 16 ∧ front = [] ∨ 16 ≤ value ∧ front = Nat.toDigits 16 (value / 16)) := by
  by_cases small : value < 16
  · refine ⟨[], ?_, .inl ⟨small, rfl⟩⟩
    rw [Nat.toDigits_of_lt_base small, Nat.mod_eq_of_lt small, List.nil_append]
  · rw [Nat.not_lt] at small
    exact ⟨_, Nat.toDigits_of_base_le (by decide) small, .inr ⟨small, rfl⟩⟩

theorem brace_not_mem_toDigits (value : Nat) : '\x7d' ∉ Nat.toDigits 16 value := by
  have apart : ∀ digit < 16, '\x7d' ≠ Nat.digitChar digit := by decide
  induction value using Nat.strong_induction_on with
  | _ value ih =>
    obtain ⟨front, digits, shape⟩ := toDigits_eq_append value
    rw [digits, List.mem_append, List.mem_singleton, not_or]
    refine ⟨?_, apart _ (Nat.mod_lt _ (by decide))⟩
    rcases shape with ⟨_, rfl⟩ | ⟨large, rfl⟩
    · exact List.not_mem_nil
    · exact ih _ (by omega)

theorem toDigits_inj {value other : Nat} (same : Nat.toDigits 16 value = Nat.toDigits 16 other) :
    value = other := by
  have digitChar_inj : ∀ digit < 16, ∀ other < 16,
      Nat.digitChar digit = Nat.digitChar other → digit = other := by decide
  induction value using Nat.strong_induction_on generalizing other with
  | _ value ih =>
    obtain ⟨front, digits, shape⟩ := toDigits_eq_append value
    obtain ⟨otherFront, otherDigits, otherShape⟩ := toDigits_eq_append other
    rw [digits, otherDigits, List.append_singleton_inj] at same
    obtain ⟨sameFront, sameLast⟩ := same
    have last := digitChar_inj _ (Nat.mod_lt _ (by decide)) _ (Nat.mod_lt _ (by decide)) sameLast
    rcases shape with ⟨small, rfl⟩ | ⟨large, rfl⟩ <;>
      rcases otherShape with ⟨otherSmall, rfl⟩ | ⟨otherLarge, rfl⟩
    · omega
    · exact absurd sameFront.symm Nat.toDigits_ne_nil
    · exact absurd sameFront Nat.toDigits_ne_nil
    · have higher := ih (value / 16) (by omega) sameFront
      omega

/-! One character. -/

def marked? : Char → Option Char
  | '0' => some '\x00'
  | 't' => some '\t'
  | 'n' => some '\n'
  | 'r' => some '\r'
  | '"' => some '"'
  | '\\' => some '\\'
  | _ => none

inductive Escaped (c : Char) : List Char → Prop where
  | plain : c ≠ '"' → c ≠ '\\' → Escaped c [c]
  | mark {mark : Char} : marked? mark = some c → Escaped c ['\\', mark]
  | code : Escaped c ('\\' :: 'u' :: '\x7b' :: (hexDigits c ++ ['\x7d']))

theorem escaped_escape (c : Char) : Escaped c (escape c) := by
  unfold escape
  split_ifs with null tab feed ret quote backslash printable
  · subst null
    exact .mark rfl
  · subst tab
    exact .mark rfl
  · subst feed
    exact .mark rfl
  · subst ret
    exact .mark rfl
  · subst quote
    exact .mark rfl
  · subst backslash
    exact .mark rfl
  · exact .plain quote backslash
  · exact .code

variable {c d : Char} {text other rest after : List Char}

theorem Escaped.head (escaped : Escaped c text) :
    ∃ first more, text = first :: more ∧ first ≠ '"' := by
  cases escaped with
  | plain notQuote => exact ⟨_, _, rfl, notQuote⟩
  | mark | code => exact ⟨_, _, rfl, by decide⟩

/-- What begins with an escaped character begins with that of no other, and goes on in one way. -/
theorem Escaped.append_inj (escaped : Escaped c text) (otherEscaped : Escaped d other)
    (same : text ++ rest = other ++ after) : c = d ∧ rest = after := by
  cases escaped with
  | plain notQuote notBackslash =>
      cases otherEscaped with
      | plain => simpa using same
      | mark | code => exact absurd (List.head_eq_of_cons_eq same) notBackslash
  | mark marks =>
      cases otherEscaped with
      | plain _ notBackslash => exact absurd (List.head_eq_of_cons_eq same).symm notBackslash
      | mark marksToo =>
          simp only [List.cons_append, List.nil_append, List.cons.injEq, true_and] at same
          obtain ⟨rfl, sameRest⟩ := same
          exact ⟨Option.some.inj (marks.symm.trans marksToo), sameRest⟩
      | code =>
          simp only [List.cons_append, List.nil_append, List.cons.injEq, true_and] at same
          simp [same.1, marked?] at marks
  | code =>
      cases otherEscaped with
      | plain _ notBackslash => exact absurd (List.head_eq_of_cons_eq same).symm notBackslash
      | mark marks =>
          simp only [List.cons_append, List.nil_append, List.cons.injEq, true_and] at same
          simp [← same.1, marked?] at marks
      | code =>
          simp only [List.cons_append, List.append_assoc, List.cons.injEq, true_and,
            List.nil_append] at same
          obtain ⟨sameDigits, sameRest⟩ := append_separator_inj (brace_not_mem_toDigits _)
            (brace_not_mem_toDigits _) same
          exact ⟨Char.toNat_inj.mp (toDigits_inj sameDigits), sameRest⟩

/-! A text. -/

theorem flatMap_escape_inj
    (same : text.flatMap escape ++ '"' :: rest = other.flatMap escape ++ '"' :: after) :
    text = other ∧ rest = after := by
  induction text generalizing other with
  | nil =>
      cases other with
      | nil => exact ⟨rfl, List.tail_eq_of_cons_eq same⟩
      | cons d other =>
          obtain ⟨first, more, shape, notQuote⟩ := (escaped_escape d).head
          rw [List.flatMap_cons, shape] at same
          exact absurd (List.head_eq_of_cons_eq same).symm notQuote
  | cons c text ih =>
      cases other with
      | nil =>
          obtain ⟨first, more, shape, notQuote⟩ := (escaped_escape c).head
          rw [List.flatMap_cons, shape] at same
          exact absurd (List.head_eq_of_cons_eq same) notQuote
      | cons d other =>
          rw [List.flatMap_cons, List.flatMap_cons, List.append_assoc, List.append_assoc] at same
          obtain ⟨rfl, sameLater⟩ := (escaped_escape c).append_inj (escaped_escape d) same
          obtain ⟨rfl, sameRest⟩ := ih sameLater
          exact ⟨rfl, sameRest⟩

theorem quote_append_inj {text other : String}
    (same : (quote text).toList ++ rest = (quote other).toList ++ after) :
    text = other ∧ rest = after := by
  simp only [quote, String.toList_ofList, List.cons_append, List.append_assoc, List.nil_append,
    List.cons.injEq, true_and] at same
  obtain ⟨sameText, sameRest⟩ := flatMap_escape_inj same
  exact ⟨String.toList_inj.mp sameText, sameRest⟩

end Deduction.Text
