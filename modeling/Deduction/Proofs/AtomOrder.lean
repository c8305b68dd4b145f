import Deduction.Rule
import Deduction.Proofs.TextOrder

/-!
The order of atoms is total, and atoms that compare as equal are the same atom. What comes first is
said here by relations on the data: bytes decide between texts, the kind and then the text between
terms, the predicate and then the arguments in dictionary order between atoms. Sorting by such an
order leaves no choice: a list has one ascending permutation.
-/

namespace Deduction

inductive Term.Before : Term → Term → Prop where
  | kind (text name : String) : Before (.const text) (.var name)
  | const {left right : String} : Text.Before left right → Before (.const left) (.const right)
  | var {left right : String} : Text.Before left right → Before (.var left) (.var right)

inductive Atom.Before : Atom → Atom → Prop where
  | predicate {left right : Atom} : Text.Before left.predicate right.predicate → Before left right
  | args (predicate : String) {left right : List Term} :
      List.Lex Term.Before left right → Before ⟨predicate, left⟩ ⟨predicate, right⟩

namespace Term

/-- First the kind, `false` before `true`, and then the text. -/
theorem order_eq : order = compareLex (compareOn isVar) (compareOn text) := by
  funext left right
  cases left <;> cases right <;> rfl

instance : Std.TransCmp order :=
  order_eq ▸ inferInstance

instance : Std.LawfulEqCmp order where
  eq_of_compare {left right} same := by
    cases left <;> cases right <;> simp_all [order]

theorem order_eq_lt_iff (left right : Term) : left.order right = .lt ↔ left.Before right := by
  constructor
  · intro lt
    cases left with
    | const text =>
        cases right with
        | const other => exact .const ((Text.compare_eq_lt_iff_before text other).mp lt)
        | var name => exact .kind text name
    | var name =>
        cases right with
        | const text => contradiction
        | var other => exact .var ((Text.compare_eq_lt_iff_before name other).mp lt)
  · intro before
    cases before with
    | kind text name => rfl
    | const before | var before => exact (Text.compare_eq_lt_iff_before _ _).mpr before

end Term

namespace Atom

theorem orderArgs_eq : orderArgs = List.compareLex Term.order := by
  funext left right
  induction left generalizing right with
  | nil => cases right <;> rfl
  | cons first left ih =>
      cases right with
      | nil => rfl
      | cons other right => rw [orderArgs, ih, List.compareLex_cons_cons]

instance : Std.TransCmp orderArgs :=
  orderArgs_eq ▸ inferInstance

instance : Std.LawfulEqCmp orderArgs :=
  orderArgs_eq ▸ inferInstance

instance : Std.TransCmp fun left right : Atom => orderArgs left.args right.args where
  eq_swap := Std.OrientedCmp.eq_swap
  isLE_trans := Std.TransCmp.isLE_trans

instance : Std.TransCmp order :=
  inferInstanceAs (Std.TransCmp (compareLex (compareOn predicate)
    fun left right => orderArgs left.args right.args))

instance : Std.LawfulEqCmp order where
  eq_of_compare {left right} same := by
    rw [order, Ordering.then_eq_eq, Std.LawfulEqCmp.compare_eq_iff_eq,
      Std.LawfulEqCmp.compare_eq_iff_eq] at same
    cases left
    cases right
    exact (mk.injEq ..).mpr same

theorem orderArgs_eq_lt_iff (left right : List Term) :
    orderArgs left right = .lt ↔ List.Lex Term.Before left right := by
  rw [orderArgs_eq]
  exact Text.compareLex_eq_lt_iff Term.order_eq_lt_iff left right

theorem order_eq_lt_iff (left right : Atom) : left.order right = .lt ↔ left.Before right := by
  rw [order, Ordering.then_eq_lt, Text.compare_eq_lt_iff_before, orderArgs_eq_lt_iff,
    Std.LawfulEqCmp.compare_eq_iff_eq]
  constructor
  · rintro (earlier | ⟨same, lex⟩)
    · exact .predicate earlier
    · cases left
      cases right
      cases same
      exact .args _ lex
  · intro before
    cases before with
    | predicate earlier => exact Or.inl earlier
    | args predicate lex => exact Or.inr ⟨rfl, lex⟩

theorem order_eq_gt_iff (left right : Atom) : left.order right = .gt ↔ right.Before left := by
  rw [Std.OrientedCmp.gt_iff_lt, order_eq_lt_iff]

/-- Arguments that agree in front leave the order to the rest. -/
theorem order_of_lex (predicate : String) (front : List Term) {left right : List Term}
    (lex : List.Lex Term.Before left right) :
    (Atom.mk predicate (front ++ left)).order ⟨predicate, front ++ right⟩ = .lt := by
  rw [order_eq_lt_iff]
  apply Before.args
  exact List.Lex.append_left _ lex front

/-! Sorting. -/

theorem sort_perm (atoms : List Atom) : (sort atoms).Perm atoms :=
  List.mergeSort_perm atoms _

theorem order_total (left right : Atom) :
    ((left.order right).isLE || (right.order left).isLE) = true := by
  have swapped : right.order left = (left.order right).swap := Std.OrientedCmp.eq_swap
  rw [swapped]
  cases left.order right <;> rfl

theorem sort_ascending (atoms : List Atom) :
    (sort atoms).Pairwise fun left right => left.order right ≠ .gt := by
  have ascending : (sort atoms).Pairwise fun left right => (left.order right).isLE = true :=
    List.pairwise_mergeSort (fun _ _ _ => Std.TransCmp.isLE_trans) order_total atoms
  exact ascending.imp Ordering.isLE_iff_ne_gt.mp

theorem eq_of_order_ne_gt {left right : Atom} (le : left.order right ≠ .gt)
    (ge : right.order left ≠ .gt) : left = right := by
  have same : left.order right = .eq := Std.OrientedCmp.isLE_antisymm
    (Ordering.isLE_iff_ne_gt.mpr le) (Ordering.isLE_iff_ne_gt.mpr ge)
  exact Std.LawfulEqCmp.eq_of_compare same

/-- A list has one ascending permutation, and sorting gives it. -/
theorem eq_sort_iff (atoms sorted : List Atom) :
    sorted = sort atoms ↔
      sorted.Perm atoms ∧ sorted.Pairwise fun left right => left.order right ≠ .gt := by
  constructor
  · rintro rfl
    exact ⟨sort_perm atoms, sort_ascending atoms⟩
  · rintro ⟨perm, ascending⟩
    have same : sorted.Perm (sort atoms) := perm.trans (sort_perm atoms).symm
    exact same.eq_of_pairwise (fun _ _ _ _ => eq_of_order_ne_gt) ascending (sort_ascending atoms)

end Atom

/-- The three outcomes of a comparison mean that the first atom comes before the second, that both
are one atom, and that the second comes before the first; the other way round the outcome is
reversed. To come before is transitive. Arguments come before the same ones with more behind them,
and a constant before a variable, alone or at one place of two atoms that agree up to there. Bytes
and code points compare as the texts do. The sorted list is the one ascending permutation. -/
theorem atom_order_lawful :
    (∀ left right : Atom,
      (left.order right = .lt ↔ left.Before right) ∧
      (left.order right = .eq ↔ left = right) ∧
      (left.order right = .gt ↔ right.Before left) ∧
      right.order left = (left.order right).swap) ∧
    (∀ first second third : Atom, first.order second = .lt → second.order third = .lt →
      first.order third = .lt) ∧
    (∀ (predicate : String) (args : List Term) (next : Term) (more : List Term),
      (Atom.mk predicate args).order ⟨predicate, args ++ next :: more⟩ = .lt) ∧
    (∀ text name : String, (Term.const text).order (.var name) = .lt) ∧
    (∀ (predicate : String) (front : List Term) (text name : String) (more rest : List Term),
      (Atom.mk predicate (front ++ .const text :: more)).order
        ⟨predicate, front ++ .var name :: rest⟩ = .lt) ∧
    (∀ left right : String,
      compare (Text.bytes left) (Text.bytes right) = compare left right ∧
      compare (Text.codePoints left) (Text.codePoints right) = compare left right) ∧
    ∀ atoms sorted : List Atom,
      sorted = Atom.sort atoms ↔
        sorted.Perm atoms ∧ sorted.Pairwise fun left right => left.order right ≠ .gt := by
  refine ⟨?_, ?_, ?_, ?_, ?_, ?_, Atom.eq_sort_iff⟩
  · intro left right
    exact ⟨Atom.order_eq_lt_iff left right, Std.LawfulEqCmp.compare_eq_iff_eq,
      Atom.order_eq_gt_iff left right, Std.OrientedCmp.eq_swap⟩
  · intro first second third earlier later
    exact Std.TransCmp.lt_trans earlier later
  · intro predicate args next more
    have shorter : List.Lex Term.Before [] (next :: more) := .nil
    simpa using Atom.order_of_lex predicate args shorter
  · intro text name
    rfl
  · intro predicate front text name more rest
    apply Atom.order_of_lex
    exact .rel (.kind text name)
  · intro left right
    exact ⟨Text.compare_bytes left right, Text.compare_codePoints left right⟩

-- `\uffff` has three bytes and `😀` four; in units of 16 bits `😀` would come first.
theorem four_atoms_ordered :
    let first : Atom := ⟨"p", [.const "\uffff"]⟩
    let second : Atom := ⟨"p", [.const "😀"]⟩
    let third : Atom := ⟨"p", [.const "😀", .const ""]⟩
    let fourth : Atom := ⟨"p", [.var "A"]⟩
    first.order second = .lt ∧ second.order third = .lt ∧ first.order third = .lt ∧
      first.Before third ∧ fourth.order third = .gt ∧
      Atom.sort [fourth, third, second, first, second] =
        [first, second, second, third, fourth] := by
  intro first second third fourth
  obtain ⟨meaning, transitive, _, _, _, _, sorting⟩ := atom_order_lawful
  have earlier : first.order second = .lt := by decide
  have later : second.order third = .lt := by decide
  have across : first.order third = .lt := transitive first second third earlier later
  refine ⟨earlier, later, across, (meaning first third).1.mp across, by decide, ?_⟩
  symm
  apply (sorting _ _).mpr
  exact ⟨by decide, by decide⟩

end Deduction
