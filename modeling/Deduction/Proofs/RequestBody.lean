import Deduction.Generation.Client
import Deduction.Proofs.WrittenJson

/-!
Request bodies. A body is one document and holds the instruction and the prompt as they are:
whatever they contain, a reader finds these two texts in the frame, and nothing else. So two
requests with one body ask for the same.
-/

namespace Deduction.Generation

open Json (Value Number Spells write_spells read_of_spells)
open Text (encoded)

namespace Request

theorem share_eq : share = .number [0x30, 0x2E, 0x39, 0x37] := by
  rw [share, Text.toList_toUTF8]
  rfl

theorem share_numeric : share.Numeric := by
  have fraction : Json.Fraction [0x2E, 0x39, 0x37] :=
    .digits (by decide) (by decide : Json.Digits [0x37])
  rw [share_eq]
  exact Number.parts .plain .zero fraction .absent

theorem content_numeric (role : Option String) (text : String) : (content role text).Numeric := by
  cases role <;> simp [content, Value.Numeric, Json.ItemsNumeric, Json.MembersNumeric]

theorem document_numeric (request : Request) : request.document.Numeric := by
  simp [document, settings, tools, content_numeric, share_numeric, Value.Numeric, Json.ItemsNumeric,
    Json.MembersNumeric]

theorem text_bytes (request : Request) :
    request.text.toUTF8.toList = encoded request.document.write := by
  rw [Text.toList_toUTF8, text, String.toList_ofList]

theorem text_spells (request : Request) :
    ∃ document, Spells (.text document) request.text.toUTF8.toList ∧
      document.texts? = some request.document :=
  request.text_bytes ▸ write_spells request.document_numeric

theorem read_text (request : Request) :
    (Json.read request.text.toUTF8.toList).bind Value.texts? = some request.document := by
  obtain ⟨document, spelled, said⟩ := request.text_spells
  rw [read_of_spells spelled]
  exact said

theorem document_inj {request other : Request} (same : request.document = other.document) :
    request = other := by
  obtain ⟨instruction, prompt⟩ := request
  obtain ⟨otherInstruction, otherPrompt⟩ := other
  simpa [document, content] using same

theorem text_inj {request other : Request} : request.text = other.text ↔ request = other := by
  refine ⟨fun same => document_inj ?_, congrArg text⟩
  have read := request.read_text
  rw [same, other.read_text] at read
  exact (Option.some.inj read).symm

end Request

/-- The body of a request spells a document. Read again, it is an object of these four members, with
the instruction and the prompt in their places, whatever characters they have. Bodies are equal only
where instruction and prompt are. -/
theorem request_reads_back (client : Client) (prompt : String) :
    (∃ document, Spells (.text document) (client.request prompt).text.toUTF8.toList) ∧
    (Json.read (client.request prompt).text.toUTF8.toList).bind Value.texts? = some (.object
      [ ("systemInstruction", .object
          [("parts", .array [.object [("text", .string client.instruction)]])]),
        ("contents", .array
          [.object
            [ ("role", .string "user"),
              ("parts", .array [.object [("text", .string prompt)]]) ]]),
        ("generationConfig", .object
          [ ("temperature", .number [0x30, 0x2E, 0x39, 0x37]),
            ("topP", .number [0x30, 0x2E, 0x39, 0x37]),
            ("thinkingConfig", .object [("thinkingLevel", .string "HIGH")]),
            ("mediaResolution", .string "MEDIA_RESOLUTION_HIGH") ]),
        ("tools", .array
          [ .object [("urlContext", .object [])],
            .object [("codeExecution", .object [])],
            .object [("googleSearch", .object [])] ]) ]) ∧
    ∀ (other : Client) (otherPrompt : String),
      (other.request otherPrompt).text = (client.request prompt).text ↔
        other.instruction = client.instruction ∧ otherPrompt = prompt := by
  refine ⟨?_, ?_, fun other otherPrompt => ?_⟩
  · obtain ⟨document, spelled, _⟩ := (client.request prompt).text_spells
    exact ⟨document, spelled⟩
  · rw [Request.read_text]
    simp only [Client.request, Request.document, Request.content, Request.settings, Request.tools,
      Request.share_eq]
  · rw [Request.text_inj]
    exact Request.mk.injEq _ _ _ _ ▸ Iff.rfl

end Deduction.Generation
