import Deduction.Event
import Deduction.Text.Cut

/-!
Rule text. An atom pattern is a name, perhaps blanks, and a non-empty argument list in parentheses,
as in `p (a, "b c", X)`. A reader takes a pattern off the front of a text or says where it fails.
Scanning collects the patterns of a text from left to right and skips whatever stands between.

Rules stand one to a line: premise patterns, the arrow `=>`, and a conclusion pattern. Reading is
lenient. Text between patterns is ignored, so are conclusion patterns past the first; a line that is
blank, a comment or no rule is skipped.
-/

namespace Deduction.RuleText

/-- Why no pattern begins here, with the text that was left where reading stopped. -/
inductive Mismatch where
  | name (left : List Char)
  /-- No opening parenthesis after the name. -/
  | opening (left : List Char)
  /-- Nothing between the parentheses. -/
  | body (left : List Char)
  | closing (left : List Char)
deriving DecidableEq

abbrev Reading (α : Type) := Except Mismatch (α × List Char)

def isWord (c : Char) : Bool :=
  Text.isAlphanumeric c || c == '_'

def isQuote (c : Char) : Bool :=
  c == '"' || c == '\''

def isInside (c : Char) : Bool :=
  c != ')'

def name (text : List Char) : Reading (List Char) :=
  match text.takeWhile isWord with
  | [] => .error (.name text)
  | first :: rest => .ok (first :: rest, text.dropWhile isWord)

def enclosed (text : List Char) : Reading (List Char) :=
  match text.takeWhile isInside, text.dropWhile isInside with
  | [], _ => .error (.body text)
  | _ :: _, [] => .error (.closing [])
  | first :: rest, _ :: after => .ok (first :: rest, after)

def argList (text : List Char) : Reading (List Char) :=
  match text.dropWhile Text.isBlank with
  | '(' :: rest => enclosed rest
  | left => .error (.opening left)

/-- The term of one argument: blanks are dropped from its ends, then quotes, and what is left is
classified. Blanks inside the quotes stay. -/
def argument (token : List Char) : Term :=
  Term.classify (String.ofList (Text.trimBy isQuote (Text.trim token)))

def atomOf (name body : List Char) : Atom :=
  ⟨String.ofList name, (body.splitOn ',').map argument⟩

def atomPattern (text : List Char) : Reading Atom :=
  match name text with
  | .error mismatch => .error mismatch
  | .ok (name, afterName) =>
      match argList afterName with
      | .error mismatch => .error mismatch
      | .ok (body, rest) => .ok (atomOf name body, rest)

theorem length_dropWhile_le (p : Char → Bool) (text : List Char) :
    (text.dropWhile p).length ≤ text.length :=
  (List.dropWhile_suffix p).length_le

theorem enclosed_shorter {text body rest : List Char} (read : enclosed text = .ok (body, rest)) :
    rest.length < text.length := by
  have bound := length_dropWhile_le isInside text
  simp only [enclosed] at read
  split at read
  · cases read
  · cases read
  next _ after _ dropped =>
      cases read
      rw [dropped, List.length_cons] at bound
      omega

theorem argList_shorter {text body rest : List Char} (read : argList text = .ok (body, rest)) :
    rest.length < text.length := by
  have bound := length_dropWhile_le Text.isBlank text
  simp only [argList] at read
  split at read
  next after opened =>
      have shorter := enclosed_shorter read
      rw [opened, List.length_cons] at bound
      omega
  · cases read

/-- A pattern takes something off the text. -/
theorem atomPattern_shorter {text rest : List Char} {atom : Atom}
    (read : atomPattern text = .ok (atom, rest)) : rest.length < text.length := by
  simp only [atomPattern] at read
  split at read
  · cases read
  next afterName named =>
      split at read
      · cases read
      next body after listed =>
          cases read
          have shorter := argList_shorter listed
          simp only [name] at named
          split at named
          · cases named
          · cases named
            have bound := length_dropWhile_le isWord text
            omega

/-- Every atom pattern of the text, from left to right. Where no pattern begins, one character is
skipped. -/
def scanAtoms (text : List Char) : List Atom :=
  match text with
  | [] => []
  | c :: rest =>
      match read : atomPattern (c :: rest) with
      | .ok (atom, after) =>
          have := atomPattern_shorter read
          atom :: scanAtoms after
      | .error _ => scanAtoms rest
termination_by text.length
decreasing_by
  · assumption
  · simp

/-! Lines. -/

def arrow : String := "=>"

def commentMark : Char := '#'

inductive Skip where
  | blank
  | comment
  | noArrow
  | noConclusion
deriving DecidableEq

def segments (text : List Char) : Option (List Char × List Char) :=
  Text.cut? arrow.toList text

def ruleOf (line : List Char) : Logged (Except Skip Rule) :=
  match segments line with
  | none => pure (.error .noArrow)
  | some (before, after) =>
      match scanAtoms after with
      | [] => pure (.error .noConclusion)
      | conclusion :: extra => do
          if !extra.isEmpty then
            Logged.report (.extraConclusions extra.length (String.ofList line))
          pure (.ok ⟨scanAtoms before, conclusion, String.ofList line⟩)

/-- Reads one line. The rule's label is the line without the blanks at its ends. -/
def parseLine (text : List Char) : Logged (Except Skip Rule) :=
  match Text.trim text with
  | [] => pure (.error .blank)
  | c :: rest => if c = commentMark then pure (.error .comment) else ruleOf (c :: rest)

/-- Reads lines whose numbers begin at `number`. Lines that look like rules but are none are
reported. -/
def parseLines (number : Nat) : List (List Char) → Logged (List Rule)
  | [] => pure []
  | line :: rest => do
      match ← parseLine line with
      | .ok rule => do
          let rules ← parseLines (number + 1) rest
          pure (rule :: rules)
      | .error skip => do
          if skip = .noArrow ∨ skip = .noConclusion then
            Logged.report (.lineSkipped number (String.ofList (Text.trim line)))
          parseLines (number + 1) rest

def parseRules (text : List Char) : Logged (List Rule) :=
  parseLines 1 (Text.lines text)

end Deduction.RuleText
