import Deduction.Failure
import Deduction.Json.Reader

/-!
Responses of the generative service: candidates, each perhaps with a content, which has parts, each
perhaps with a text. Every level is a record with one field, given as an object or as an array.
In an object, members of other names are ignored and the field may be missing; in an array, only
the lists may be missing. The answer is what the first content says.
-/

namespace Deduction.Generation

open Json (Document Literal)

abbrev Part := Option String

abbrev Content := List Part

abbrev Candidate := Option Content

structure Response where
  candidates : List Candidate
deriving DecidableEq

/-! Records with one field. -/

inductive Field where
  | given (value : Document)
  | missingMember
  | missingItem

/-- The members' names as texts; a name that is no text spoils the object. -/
def named? : List (Literal × Document) → Option (List (String × Document))
  | [] => some []
  | (literal, value) :: rest =>
      match literal.text?, named? rest with
      | some name, some others => some ((name, value) :: others)
      | _, _ => none

/-- The field of a record. It may not be given twice, and in an array nothing may stand beside
it. -/
def field? (name : String) : Document → Option Field
  | .object members =>
      match (named? members).map (List.filter fun member => member.1 == name) with
      | some [] => some .missingMember
      | some [(_, value)] => some (.given value)
      | _ => none
  | .array [] => some .missingItem
  | .array [value] => some (.given value)
  | _ => none

section Records

variable {α : Type}

def list? (name : String) (read : Document → Option α) (document : Document) : Option (List α) :=
  match field? name document with
  | some (.given (.array items)) => items.mapM read
  | some .missingMember => some []
  | some .missingItem => some []
  | _ => none

def option? (name : String) (read : Document → Option α) (document : Document) :
    Option (Option α) :=
  match field? name document with
  | some (.given .null) => some none
  | some (.given value) => (read value).map some
  | some .missingMember => some none
  | _ => none

end Records

/-! The records of a response. -/

def textOf? : Document → Option String
  | .string literal => literal.text?
  | _ => none

def part? : Document → Option Part :=
  option? "text" textOf?

def content? : Document → Option Content :=
  list? "parts" part?

def candidate? : Document → Option Candidate :=
  option? "content" content?

def response? (document : Document) : Option Response :=
  (list? "candidates" candidate? document).map Response.mk

namespace Response

def decode (body : List UInt8) : Option Response :=
  (Json.read body).bind response?

def text (response : Response) : Except Failure String :=
  match response.candidates.findSome? id with
  | none => .error (.service "response has no candidates")
  | some content => .ok (String.join (content.filterMap id))

end Response

end Deduction.Generation
