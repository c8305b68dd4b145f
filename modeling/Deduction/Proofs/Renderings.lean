import Deduction.Proofs.JsonReading
import Deduction.Proofs.Records

/-!
The renderings of a response. A body is decoded exactly if it spells a document that renders a
response, and then it is decoded as this one, whatever else the document says. What a response says
is in its first content. A record that gives its field a second time renders nothing.
-/

namespace Deduction.Generation

open Json (Blanks Document Literal Member Spells read_eq_some_iff)
open Json.Literal (Denotes text?_eq_some plain plain_denotes)

inductive TextForm : String → Document → Prop where
  | literal {text : String} {literal : Literal} (denotes : Denotes literal text.toList) :
      TextForm text (.string literal)

def PartForm : Part → Document → Prop :=
  OptionForm "text" TextForm

def ContentForm : Content → Document → Prop :=
  ListForm "parts" PartForm

def CandidateForm : Candidate → Document → Prop :=
  OptionForm "content" ContentForm

def ResponseForm (response : Response) : Document → Prop :=
  ListForm "candidates" CandidateForm response.candidates

/-! The same document with a field given a second time, in one of its records. -/

def PartDoubled : Document → Document → Prop :=
  Doubled "text" fun _ _ => False

def ContentDoubled : Document → Document → Prop :=
  Doubled "parts" (AtItem PartDoubled)

def CandidateDoubled : Document → Document → Prop :=
  Doubled "content" ContentDoubled

def ResponseDoubled : Document → Document → Prop :=
  Doubled "candidates" (AtItem CandidateDoubled)

/-! Documents read. -/

theorem textOf?_eq_some {document : Document} {text : String} :
    textOf? document = some text ↔ TextForm text document := by
  constructor
  · intro found
    cases document <;> try contradiction
    exact .literal (text?_eq_some.mp found)
  · rintro ⟨denotes⟩
    exact text?_eq_some.mpr denotes

theorem part?_eq_some {document : Document} {part : Part} :
    part? document = some part ↔ PartForm part document :=
  option?_eq_some textOf?_eq_some rfl

theorem content?_eq_some {document : Document} {content : Content} :
    content? document = some content ↔ ContentForm content document :=
  list?_eq_some part?_eq_some

theorem candidate?_eq_some {document : Document} {candidate : Candidate} :
    candidate? document = some candidate ↔ CandidateForm candidate document :=
  option?_eq_some content?_eq_some rfl

theorem response?_eq_some {document : Document} {response : Response} :
    response? document = some response ↔ ResponseForm response document := by
  rw [response?, Option.map_eq_some_iff, ResponseForm, ← list?_eq_some candidate?_eq_some]
  obtain ⟨candidates⟩ := response
  simp

/-- What is decoded is what a body renders. -/
theorem decode_eq_some {body : List UInt8} {response : Response} :
    Response.decode body = some response ↔
      ∃ document, Spells (.text document) body ∧ ResponseForm response document := by
  simp only [Response.decode, Option.bind_eq_some_iff, read_eq_some_iff, response?_eq_some]

/-! What a response says. -/

theorem text_of_first {response : Response} {before after : List Candidate} {content : Content}
    (candidates : response.candidates = before ++ some content :: after)
    (empty : ∀ candidate ∈ before, candidate = none) :
    response.text = .ok (String.join (content.filterMap id)) := by
  have none : before.findSome? id = none := List.findSome?_eq_none_iff.mpr empty
  have found : response.candidates.findSome? id = some content := by
    rw [candidates, List.findSome?_append, none]
    rfl
  rw [Response.text, found]

theorem text_eq_error {response : Response} :
    response.text = .error (.service "response has no candidates") ↔
      ∀ candidate ∈ response.candidates, candidate = none := by
  have exact : response.candidates.findSome? id = none ↔ _ := List.findSome?_eq_none_iff
  rw [Response.text]
  cases found : response.candidates.findSome? id with
  | none => exact iff_of_true rfl (exact.mp found)
  | some content => exact iff_of_false nofun fun empty => by simp [exact.mpr empty] at found

/-! Fields given twice. -/

section Doubled

variable {document changed : Document}

theorem part?_doubled (doubled : PartDoubled document changed) : part? changed = none :=
  option?_doubled (fun _ _ => False.elim) doubled

theorem content?_doubled (doubled : ContentDoubled document changed) : content? changed = none :=
  list?_doubled (fun _ _ => part?_doubled) doubled

theorem candidate?_doubled (doubled : CandidateDoubled document changed) :
    candidate? changed = none :=
  option?_doubled (fun _ _ inner => ⟨content?_doubled inner, by rintro rfl; cases inner⟩) doubled

theorem response?_doubled (doubled : ResponseDoubled document changed) :
    response? changed = none := by
  have refused : list? "candidates" candidate? changed = none :=
    list?_doubled (fun _ _ => candidate?_doubled) doubled
  rw [response?, refused, Option.map_none]

end Doubled

/-- A body that spells a rendering of a response is decoded as it. Then the text is that of the
first content, and it is missing exactly if there is no content. A body that gives a field of the
rendering a second time is not decoded. -/
theorem rendering_decoded {response : Response} {document : Document} {body : List UInt8}
    (rendered : ResponseForm response document) (spelled : Spells (.text document) body) :
    Response.decode body = some response ∧
    (∀ before content after, response.candidates = before ++ some content :: after →
      (∀ candidate ∈ before, candidate = none) →
        response.text = .ok (String.join (content.filterMap id))) ∧
    (response.text = .error (.service "response has no candidates") ↔
      ∀ candidate ∈ response.candidates, candidate = none) ∧
    ∀ changed other, ResponseDoubled document changed → Spells (.text changed) other →
      Response.decode other = none := by
  refine ⟨decode_eq_some.mpr ⟨document, spelled, rendered⟩, fun _ _ _ => text_of_first,
    text_eq_error, fun changed other doubled spelledToo => ?_⟩
  rw [Response.decode, read_eq_some_iff.mpr spelledToo]
  exact response?_doubled doubled

/-! A body with a foreign member and with escapes in the name of the field. The first candidate is
empty; the second and everything in it are arrays. -/

def foreignMember : Member :=
  (plain "a".toList, .array [.object [], .number [0x31, 0x65, 0x33]])

def escapedMember : Member :=
  (.unit 0x63 :: plain "andidates".toList,
    .array
      [ .object [],
        .array [.array [.array [.array [.string [.unit 0xD83D, .unit 0xDE00]], .array [.null]]]] ])

def escapedBody (rest : String) : List UInt8 :=
  Text.encoded
    ("\x7b\"a\":[\x7b\x7d,1e3], \"\\u0063andidates\" : ".toList ++
      "[\x7b\x7d,[[[[\"\\ud83d\\ude00\"],[null]]]]]".toList ++ rest.toList)

theorem escaped_named : Denotes escapedMember.1 "candidates".toList := by
  have first : "candidates".toList = Char.ofNat 0x63 :: "andidates".toList := by decide
  exact first ▸ .unit (.inl (by decide)) (plain_denotes _)

theorem escaped_rendered :
    ResponseForm ⟨[none, some [some "😀", none]]⟩ (.object [foreignMember, escapedMember]) := by
  have smile : "😀".toList = [Literal.paired 0xD83D 0xDE00] := by decide
  have said : Denotes [.unit 0xD83D, .unit 0xDE00] "😀".toList :=
    smile ▸ .pair (by decide) (by decide) .nil
  have parts : List.Forall₂ PartForm [some "😀", none]
      [.array [.string [.unit 0xD83D, .unit 0xDE00]], .array [.null]] :=
    .cons (.held (.literal said) .item) (.cons (.null .item) .nil)
  have candidates : List.Forall₂ CandidateForm [none, some [some "😀", none]] _ :=
    .cons (.noMember foreign_nil) (.cons (.held (.listed parts .item) .item) .nil)
  have foreign : Foreign "candidates" [foreignMember] :=
    List.forall_mem_singleton.mpr ⟨"a", plain_denotes _, by decide⟩
  exact .listed candidates (.member escaped_named foreign foreign_nil)

theorem escaped_spelled :
    Spells (.text (.object [foreignMember, escapedMember])) (escapedBody "\x7d\n") :=
  read_eq_some_iff.mp rfl

theorem escaped_rendering_decoded :
    let response : Response := ⟨[none, some [some "😀", none]]⟩
    Response.decode (escapedBody "\x7d\n") = some response ∧ response.text = .ok "😀" ∧
      Response.decode (escapedBody ",\"candidates\":[]\x7d") = none := by
  intro response
  obtain ⟨decoded, first, _, doubled⟩ := rendering_decoded escaped_rendered escaped_spelled
  have again : ResponseDoubled (.object ([foreignMember, escapedMember] ++ []))
      (.object ([foreignMember, escapedMember] ++ (plain "candidates".toList, .array []) :: [])) :=
    .again ⟨escapedMember, by simp, escaped_named⟩ (plain_denotes _)
  exact ⟨decoded, first [none] [some "😀", none] [] rfl (by decide),
    doubled _ _ again (read_eq_some_iff.mp rfl)⟩

/-! Bodies that are cut short or go on. -/

theorem decode_append {body : List UInt8} {response : Response}
    (decoded : Response.decode body = some response) (rest : List UInt8) :
    Response.decode (body ++ rest) = if Blanks rest then some response else none := by
  obtain ⟨document, found, rendered⟩ := Option.bind_eq_some_iff.mp decoded
  have closed : ∀ digits, document ≠ .number digits := by
    rintro digits rfl
    contradiction
  rw [Response.decode, Json.read_append found closed]
  split
  · exact rendered
  · rfl

/-- What is added to a body that is decoded may be blanks, which say nothing, and nothing else. So
the front of such a body is decoded only if blanks are all that it lacks. -/
theorem decoded_body_complete {body : List UInt8} {response : Response}
    (decoded : Response.decode body = some response) :
    (∀ rest, (∃ other, Response.decode (body ++ rest) = some other) ↔ Blanks rest) ∧
    (∀ rest, Blanks rest → Response.decode (body ++ rest) = some response) ∧
    ∀ front rest, body = front ++ rest → ∀ other, Response.decode front = some other →
      Blanks rest ∧ other = response := by
  refine ⟨fun rest => ?_, fun rest blank => ?_, fun front rest cut other found => ?_⟩
  · rw [decode_append decoded]
    by_cases blank : Blanks rest <;> simp [blank]
  · rw [decode_append decoded, if_pos blank]
  · rw [cut, decode_append found] at decoded
    split at decoded
    · next blank => exact ⟨blank, Option.some.inj decoded⟩
    · contradiction

theorem escaped_body_complete :
    Response.decode (escapedBody "\x7d\n" ++ [0x20, 0x09]) =
        some ⟨[none, some [some "😀", none]]⟩ ∧
      ¬ (∃ other, Response.decode (escapedBody "\x7d\n" ++ [0x7D]) = some other) ∧
      ¬ ∃ other, Response.decode (escapedBody "") = some other := by
  have decoded := decode_eq_some.mpr ⟨_, escaped_spelled, escaped_rendered⟩
  obtain ⟨goesOn, blank, cut⟩ := decoded_body_complete decoded
  refine ⟨blank _ (by decide), fun more => absurd ((goesOn _).mp more) (by decide), ?_⟩
  rintro ⟨other, front⟩
  have lacks := cut (escapedBody "") [0x7D, 0x0A] rfl other front
  exact absurd lacks.1 (by decide)

end Deduction.Generation
