import Deduction.Generation.Response
import Deduction.Proofs.LiteralTexts
import Mathlib.Data.List.Forall2

/-!
Records with one field, as documents give them. The field is given by one member of an object, among
others whose names are other texts, or it stands alone in an array. A list may be left out where it
is empty, and what is optional where there is none. What a reader of records finds is what one of
these forms says.
-/

namespace Deduction.Generation

open Json (Document Literal Member)
open Json.Literal (Denotes text?_eq_some)

/-! Records. -/

/-- Members that are none of a record's business: their names are other texts than its field's. -/
def Foreign (name : String) (members : List Member) : Prop :=
  ∀ member ∈ members, ∃ other : String, Denotes member.1 other.toList ∧ other ≠ name

inductive Gives (name : String) (value : Document) : Document → Prop where
  | member {literal : Literal} {before after : List Member} (named : Denotes literal name.toList)
      (foreignBefore : Foreign name before) (foreignAfter : Foreign name after) :
      Gives name value (.object (before ++ (literal, value) :: after))
  | item : Gives name value (.array [value])

/-- A record whose field holds a list. An empty one may be left out. -/
inductive ListForm {α : Type} (name : String) (Item : α → Document → Prop) :
    List α → Document → Prop where
  | listed {items : List α} {documents : List Document} {document : Document}
      (each : List.Forall₂ Item items documents) (given : Gives name (.array documents) document) :
      ListForm name Item items document
  | noMember {members : List Member} (foreign : Foreign name members) :
      ListForm name Item [] (.object members)
  | noItem : ListForm name Item [] (.array [])

/-- A record whose field may hold nothing. -/
inductive OptionForm {α : Type} (name : String) (Held : α → Document → Prop) :
    Option α → Document → Prop where
  | held {content : α} {value document : Document} (held : Held content value)
      (given : Gives name value document) : OptionForm name Held (some content) document
  | null {document : Document} (given : Gives name .null document) :
      OptionForm name Held none document
  | noMember {members : List Member} (foreign : Foreign name members) :
      OptionForm name Held none (.object members)

/-- A document changed so that a record in it gives its field a second time: this record, or one
that stands in its field. -/
inductive Doubled (name : String) (Inner : Document → Document → Prop) :
    Document → Document → Prop where
  | again {literal : Literal} {value : Document} {before after : List Member}
      (gave : ∃ member ∈ before ++ after, Denotes member.1 name.toList)
      (named : Denotes literal name.toList) :
      Doubled name Inner (.object (before ++ after)) (.object (before ++ (literal, value) :: after))
  | member {literal : Literal} {value changed : Document} {before after : List Member}
      (named : Denotes literal name.toList) (inner : Inner value changed) :
      Doubled name Inner (.object (before ++ (literal, value) :: after))
        (.object (before ++ (literal, changed) :: after))
  | item {value changed : Document} (inner : Inner value changed) :
      Doubled name Inner (.array [value]) (.array [changed])

inductive AtItem (Change : Document → Document → Prop) : Document → Document → Prop where
  | item {value changed : Document} {before after : List Document} (change : Change value changed) :
      AtItem Change (.array (before ++ value :: after)) (.array (before ++ changed :: after))

/-! Fields. -/

section Fields

variable {name : String} {members before after : List Member} {literal : Literal}
  {value document : Document}

def matching? (name : String) (members : List Member) : Option (List (String × Document)) :=
  (named? members).map (List.filter fun member => member.1 == name)

theorem matching?_cons (named : Denotes literal name.toList) (rest : List Member) :
    matching? name ((literal, value) :: rest) =
      (matching? name rest).map ((name, value) :: ·) := by
  simp only [matching?, named?, text?_eq_some.mpr named]
  cases named? rest <;> simp

theorem matching?_foreign {other : String} (named : Denotes literal other.toList)
    (differs : other ≠ name) (rest : List Member) :
    matching? name ((literal, value) :: rest) = matching? name rest := by
  simp only [matching?, named?, text?_eq_some.mpr named]
  cases named? rest <;> simp [differs]

theorem matching?_spoilt (spoilt : literal.text? = none) (rest : List Member) :
    matching? name ((literal, value) :: rest) = none := by
  simp only [matching?, named?, spoilt]
  rfl

theorem Foreign.matching? (foreign : Foreign name before) (rest : List Member) :
    matching? name (before ++ rest) = Generation.matching? name rest := by
  induction before with
  | nil => rfl
  | cons member others ih =>
      obtain ⟨⟨other, named, differs⟩, later⟩ := List.forall_mem_cons.mp foreign
      rw [List.cons_append, matching?_foreign named differs, ih later]

theorem foreign_nil : Foreign name [] := nofun

/-- Members are foreign, or the first that is not foreign has the record's name or spoils them. -/
theorem members_cases (name : String) (members : List Member) :
    Foreign name members ∨ ∃ before literal value after,
      members = before ++ (literal, value) :: after ∧ Foreign name before ∧
        (Denotes literal name.toList ∨ literal.text? = none) := by
  induction members with
  | nil => exact .inl foreign_nil
  | cons member rest ih =>
      cases found : member.1.text? with
      | none => exact .inr ⟨[], member.1, member.2, rest, rfl, foreign_nil, .inr found⟩
      | some other =>
          have named := text?_eq_some.mp found
          by_cases same : other = name
          · exact .inr ⟨[], member.1, member.2, rest, rfl, foreign_nil, .inl (same ▸ named)⟩
          rcases ih with foreignRest | ⟨before, literal, value, after, rfl, foreignBefore, ends⟩
          · exact .inl (List.forall_mem_cons.mpr ⟨⟨other, named, same⟩, foreignRest⟩)
          · exact .inr ⟨member :: before, literal, value, after, rfl,
              List.forall_mem_cons.mpr ⟨⟨other, named, same⟩, foreignBefore⟩, ends⟩

theorem matching?_eq_nil : matching? name members = some [] ↔ Foreign name members := by
  constructor
  · intro none
    rcases members_cases name members with foreign | ⟨before, _, _, after, rfl, foreign, ends⟩
    · exact foreign
    · rw [foreign.matching?] at none
      rcases ends with named | spoilt
      · simp [matching?_cons named] at none
      · simp [matching?_spoilt spoilt] at none
  · intro foreign
    have found := foreign.matching? []
    rwa [List.append_nil] at found

theorem matching?_eq_singleton {found : String} :
    matching? name members = some [(found, value)] ↔
      found = name ∧ ∃ before literal after, members = before ++ (literal, value) :: after ∧
        Denotes literal name.toList ∧ Foreign name before ∧ Foreign name after := by
  constructor
  · intro one
    rcases members_cases name members with
      foreign | ⟨before, literal, given, after, rfl, foreign, ends⟩
    · simp [matching?_eq_nil.mpr foreign] at one
    · rw [foreign.matching?] at one
      rcases ends with named | spoilt
      · rw [matching?_cons named] at one
        obtain ⟨others, none, same⟩ := Option.map_eq_some_iff.mp one
        cases same
        exact ⟨rfl, before, literal, after, rfl, named, foreign, matching?_eq_nil.mp none⟩
      · simp [matching?_spoilt spoilt] at one
  · rintro ⟨rfl, before, literal, after, rfl, named, foreignBefore, foreignAfter⟩
    rw [foreignBefore.matching?, matching?_cons named, matching?_eq_nil.mpr foreignAfter]
    rfl

theorem field?_object (name : String) (members : List Member) :
    field? name (.object members) =
      match matching? name members with
      | some [] => some .missingMember
      | some [(_, value)] => some (.given value)
      | _ => none :=
  rfl

theorem field?_given : field? name document = some (.given value) ↔ Gives name value document := by
  constructor
  · intro given
    cases document with
    | object members =>
        rw [field?_object] at given
        split at given <;> cases given
        next one =>
          obtain ⟨_, before, literal, after, rfl, named, foreignBefore, foreignAfter⟩ :=
            matching?_eq_singleton.mp one
          exact .member named foreignBefore foreignAfter
    | array items =>
        rcases items with _ | ⟨item, _ | ⟨_, _⟩⟩ <;> cases given
        exact .item
    | _ => contradiction
  · rintro (⟨named, foreignBefore, foreignAfter⟩ | _)
    · rw [field?_object, matching?_eq_singleton.mpr
        ⟨rfl, _, _, _, rfl, named, foreignBefore, foreignAfter⟩]
    · rfl

theorem field?_missingMember :
    field? name document = some .missingMember ↔
      ∃ members, document = .object members ∧ Foreign name members := by
  constructor
  · intro missing
    cases document with
    | object members =>
        rw [field?_object] at missing
        split at missing <;> cases missing
        next none => exact ⟨members, rfl, matching?_eq_nil.mp none⟩
    | array items => rcases items with _ | ⟨item, _ | ⟨_, _⟩⟩ <;> cases missing
    | _ => contradiction
  · rintro ⟨members, rfl, foreign⟩
    rw [field?_object, matching?_eq_nil.mpr foreign]

theorem field?_missingItem : field? name document = some .missingItem ↔ document = .array [] := by
  constructor
  · intro missing
    cases document with
    | object members =>
        rw [field?_object] at missing
        split at missing <;> cases missing
    | array items =>
        rcases items with _ | ⟨item, _ | ⟨_, _⟩⟩ <;> cases missing
        rfl
    | _ => contradiction
  · rintro rfl
    rfl

theorem Foreign.unnamed (foreign : Foreign name members) :
    ∀ member ∈ members, ¬ Denotes member.1 name.toList := by
  intro member listed named
  obtain ⟨other, otherNamed, differs⟩ := foreign member listed
  exact differs (Option.some.inj
    ((text?_eq_some.mpr otherNamed).symm.trans (text?_eq_some.mpr named)))

/-- A member of the record's name is the only one that is not foreign. -/
theorem Foreign.member_unique {front back : List Member} {other : Literal} {held : Document}
    (named : Denotes literal name.toList) (foreignFront : Foreign name front)
    (foreignBack : Foreign name back)
    (same : before ++ (literal, value) :: after = front ++ (other, held) :: back) :
    before = front ∧ value = held ∧ after = back := by
  rcases List.append_eq_append_iff.mp same with ⟨between, rfl, rest⟩ | ⟨between, rfl, rest⟩
  · cases between with
    | nil => simp_all
    | cons first others =>
        obtain ⟨rfl, _⟩ := List.cons.inj rest
        exact absurd named (foreignFront.unnamed (literal, value) (by simp))
  · cases between with
    | nil => simp_all
    | cons first others =>
        obtain ⟨_, rfl⟩ := List.cons.inj rest
        exact absurd named (foreignBack.unnamed (literal, value) (by simp))

/-- A member of the record's name gives the field, unless another member does so as well. -/
theorem field?_member (named : Denotes literal name.toList) :
    field? name (.object (before ++ (literal, value) :: after)) = none ∨
    Foreign name before ∧ Foreign name after ∧
      field? name (.object (before ++ (literal, value) :: after)) = some (.given value) := by
  cases found : field? name (.object (before ++ (literal, value) :: after)) with
  | none => exact .inl rfl
  | some field =>
      cases field with
      | given held =>
          generalize whole : before ++ (literal, value) :: after = members at found
          rcases field?_given.mp found with ⟨_, foreignFront, foreignBack⟩
          obtain ⟨rfl, rfl, rfl⟩ := foreignFront.member_unique named foreignBack whole
          exact .inr ⟨foreignFront, foreignBack, rfl⟩
      | missingMember =>
          obtain ⟨members, same, foreign⟩ := field?_missingMember.mp found
          cases same
          exact absurd named (foreign.unnamed (literal, value) (by simp))
      | missingItem => exact nomatch field?_missingItem.mp found

theorem field?_doubled {Inner : Document → Document → Prop} {changed : Document}
    (doubled : Doubled name Inner document changed) :
    field? name changed = none ∨
      ∃ value other, Inner value other ∧ field? name changed = some (.given other) := by
  cases doubled with
  | again gave named =>
      left
      rcases field?_member named with refused | ⟨foreignBefore, foreignAfter, _⟩
      · exact refused
      · obtain ⟨member, listed, namedToo⟩ := gave
        rcases List.mem_append.mp listed with front | back
        · exact absurd namedToo (foreignBefore.unnamed member front)
        · exact absurd namedToo (foreignAfter.unnamed member back)
  | member named inner =>
      exact (field?_member named).imp id fun ⟨_, _, given⟩ => ⟨_, _, inner, given⟩
  | item inner => exact .inr ⟨_, _, inner, rfl⟩

end Fields

/-! Records read. -/

section Records

variable {α : Type} {name : String} {read : Document → Option α} {Form : α → Document → Prop}
  {document : Document}

theorem mapM_eq_some
    (exact : ∀ {item : α} {document}, read document = some item ↔ Form item document)
    {documents : List Document} {items : List α} :
    documents.mapM read = some items ↔ List.Forall₂ Form items documents := by
  induction documents generalizing items with
  | nil => cases items <;> simp
  | cons document rest ih =>
      rw [List.mapM_cons]
      cases items with
      | nil => cases read document <;> cases rest.mapM read <;> simp
      | cons item others =>
          rw [List.forall₂_cons, ← exact, ← ih]
          cases read document <;> cases rest.mapM read <;> simp

theorem mapM_eq_none (refused : read document = none) (before after : List Document) :
    (before ++ document :: after).mapM read = none := by
  simp [List.mapM_append, List.mapM_cons, refused]

theorem list?_eq_some
    (exact : ∀ {item : α} {document}, read document = some item ↔ Form item document)
    {items : List α} :
    list? name read document = some items ↔ ListForm name Form items document := by
  constructor
  · intro found
    unfold list? at found
    split at found
    · next documents given => exact .listed ((mapM_eq_some exact).mp found) (field?_given.mp given)
    · next missing =>
        cases found
        obtain ⟨members, rfl, foreign⟩ := field?_missingMember.mp missing
        exact .noMember foreign
    · next missing =>
        cases found
        exact field?_missingItem.mp missing ▸ .noItem
    · contradiction
  · rintro (⟨each, given⟩ | ⟨foreign⟩ | _)
    · simp only [list?, field?_given.mpr given, (mapM_eq_some exact).mpr each]
    · simp only [list?, field?_missingMember.mpr ⟨_, rfl, foreign⟩]
    · rfl

theorem list?_doubled {Change : Document → Document → Prop} {changed : Document}
    (refused : ∀ item changed, Change item changed → read changed = none)
    (doubled : Doubled name (AtItem Change) document changed) : list? name read changed = none := by
  rcases field?_doubled doubled with none | ⟨_, _, ⟨change⟩, given⟩
  · simp only [list?, none]
  · simp only [list?, given, mapM_eq_none (refused _ _ change)]

-- Null stands for nothing before it could be read, so it must not be readable.
theorem option?_eq_some
    (exact : ∀ {content : α} {document}, read document = some content ↔ Form content document)
    (refused : read .null = none) {content : Option α} :
    option? name read document = some content ↔ OptionForm name Form content document := by
  constructor
  · intro found
    unfold option? at found
    split at found
    · next given =>
        cases found
        exact .null (field?_given.mp given)
    · next value _ given =>
        obtain ⟨inner, held, rfl⟩ := Option.map_eq_some_iff.mp found
        exact .held (exact.mp held) (field?_given.mp given)
    · next missing =>
        cases found
        obtain ⟨members, rfl, foreign⟩ := field?_missingMember.mp missing
        exact .noMember foreign
    · contradiction
  · rintro (⟨held, given⟩ | ⟨given⟩ | ⟨foreign⟩)
    · rename_i value
      have held := exact.mpr held
      cases value with
      | null => simp [refused] at held
      | _ => simp [option?, field?_given.mpr given, held]
    · simp only [option?, field?_given.mpr given]
    · simp only [option?, field?_missingMember.mpr ⟨_, rfl, foreign⟩]

theorem option?_doubled {Change : Document → Document → Prop} {changed : Document}
    (refused : ∀ value changed, Change value changed → read changed = none ∧ changed ≠ .null)
    (doubled : Doubled name Change document changed) : option? name read changed = none := by
  rcases field?_doubled doubled with none | ⟨_, other, change, given⟩
  · simp only [option?, none]
  · obtain ⟨unread, notNull⟩ := refused _ _ change
    cases other <;> simp_all [option?]

end Records

end Deduction.Generation
