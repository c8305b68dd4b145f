import Deduction.Json.Document

/-!
Requests to the generative service: an instruction and a prompt in a fixed frame of settings.
-/

namespace Deduction.Generation

open Json (Value)

structure Request where
  instruction : String
  prompt : String
deriving DecidableEq

namespace Request

def content (role : Option String) (text : String) : Value String :=
  let parts := ("parts", Value.array [.object [("text", .string text)]])
  match role with
  | none => .object [parts]
  | some role => .object [("role", .string role), parts]

/-- The number 0.97, which serves both as temperature and as probability mass. -/
def share : Value String :=
  .number "0.97".toUTF8.toList

def settings : Value String :=
  .object
    [ ("temperature", share),
      ("topP", share),
      ("thinkingConfig", .object [("thinkingLevel", .string "HIGH")]),
      ("mediaResolution", .string "MEDIA_RESOLUTION_HIGH") ]

def tools : Value String :=
  .array
    [ .object [("urlContext", .object [])],
      .object [("codeExecution", .object [])],
      .object [("googleSearch", .object [])] ]

def document (request : Request) : Value String :=
  .object
    [ ("systemInstruction", content none request.instruction),
      ("contents", .array [content (some "user") request.prompt]),
      ("generationConfig", settings),
      ("tools", tools) ]

def text (request : Request) : String :=
  String.ofList request.document.write

end Request

end Deduction.Generation
