import Deduction.Failure

/-!
File trees: directories and files as data, with the rules by which a path names a file. A path is
walked name by name; an empty name and a dot stay where they are, two dots lead to the directory
above. Above the tree, and along absolute paths, nothing is known: a directory without entries.
-/

namespace Deduction

inductive Node where
  | file (content : ByteArray)
  | directory (entries : List (String × Node))

/-- What reading each path as text gives. -/
abbrev Files := String → Except ReadFault String

def Files.load (files : Files) (path : String) : Except Failure String :=
  match files path with
  | .error fault => .error (.unreadable path fault)
  | .ok text => .ok text

namespace Node

/-- Where a walk stands: at a file, or in a directory with those above it, nearest first. -/
inductive Place where
  | file (content : ByteArray)
  | directory (trail : List (List (String × Node)))

def enter (trail : List (List (String × Node))) (name : String) : Except ReadFault Place :=
  match trail with
  | [] => .error .missing
  | entries :: _ =>
      match entries.lookup name with
      | none => .error .missing
      | some (file content) => .ok (.file content)
      | some (directory inner) => .ok (.directory (inner :: trail))

def walk : Place → List String → Except ReadFault Place
  | place, [] => .ok place
  | .file _, _ :: _ => .error .throughFile
  | .directory trail, name :: rest =>
      if name = "" ∨ name = "." then walk (.directory trail) rest
      else if name = ".." then walk (.directory trail.tail) rest
      else
        match enter trail name with
        | .error fault => .error fault
        | .ok place => walk place rest

def names (path : String) : List String :=
  (path.toList.splitOn '/').map String.ofList

/-- The bytes of the file that a path names, seen from the tree's top directory. A path that begins
with a slash has an empty first name. -/
def read (top : List (String × Node)) (path : String) : Except ReadFault ByteArray :=
  if path.isEmpty then .error .missing
  else
    let start := if (names path).head? = some "" then [] else [top]
    match walk (.directory start) (names path) with
    | .error fault => .error fault
    | .ok (.directory _) => .error .directory
    | .ok (.file content) => .ok content

def textOf (content : ByteArray) : Except ReadFault String :=
  match String.fromUTF8? content with
  | none => .error .notText
  | some text => .ok text

def readText (top : List (String × Node)) : Files :=
  fun path => read top path >>= textOf

/-- The tree with an entry at the end of a list of plain names; directories on the way are made, and
an empty directory leaves one that is there as it was. -/
def insert (entry : Node) : List String → List (String × Node) → List (String × Node)
  | [], entries => entries
  | [name], entries =>
      match entry, entries.lookup name with
      | directory [], some (directory _) => entries
      | _, _ => (name, entry) :: entries
  | name :: rest, entries =>
      match entries.lookup name with
      | some (directory inner) => (name, directory (insert entry rest inner)) :: entries
      | _ => (name, directory (insert entry rest [])) :: entries

/-- Follows names and inserts the entry where they end; `here` holds the names gone down so far, the
last first. Two dots go up from a directory, which is made for it; what would lie above the tree is
left out. -/
def follow (entry : Node) (here : List String) :
    List String → List (String × Node) → List (String × Node)
  | [], top => insert entry here.reverse top
  | name :: rest, top =>
      if name = "" ∨ name = "." then follow entry here rest top
      else if name = ".." then
        match here with
        | [] => top
        | _ :: above => follow entry above rest (insert (directory []) here.reverse top)
      else follow entry (name :: here) rest top

def put (entry : Node) (path : String) (top : List (String × Node)) : List (String × Node) :=
  follow entry [] (names path) top

/-! A file is read where it was put. -/

def Plain (name : String) : Prop :=
  name ≠ "" ∧ name ≠ "." ∧ name ≠ ".."

instance (name : String) : Decidable (Plain name) :=
  inferInstanceAs (Decidable (_ ∧ _ ∧ _))

variable {name path : String} {places : List String}

theorem walk_cons (plain : Plain name) (trail : List (List (String × Node)))
    (rest : List String) :
    walk (.directory trail) (name :: rest) =
      match enter trail name with
      | .error fault => .error fault
      | .ok place => walk place rest := by
  obtain ⟨notEmpty, noDot, noDots⟩ := plain
  rw [walk, if_neg (not_or.mpr ⟨notEmpty, noDot⟩), if_neg noDots]

theorem follow_of_plain (plain : ∀ name ∈ places, Plain name) (entry : Node)
    (here : List String) (top : List (String × Node)) :
    follow entry here places top = insert entry (here.reverse ++ places) top := by
  induction places generalizing here with
  | nil => rw [follow, List.append_nil]
  | cons name rest ih =>
      rw [List.forall_mem_cons] at plain
      obtain ⟨⟨notEmpty, noDot, noDots⟩, others⟩ := plain
      unfold follow
      rw [if_neg (not_or.mpr ⟨notEmpty, noDot⟩), if_neg noDots, ih others, List.reverse_cons,
        List.append_assoc, List.singleton_append]

-- What is put into a directory stands before what it held.
theorem insert_cons {rest : List String} (more : rest ≠ []) (entry : Node) (name : String)
    (entries : List (String × Node)) :
    ∃ inner, insert entry (name :: rest) entries =
      (name, directory (insert entry rest inner)) :: entries := by
  cases rest with
  | nil => contradiction
  | cons next rest =>
      simp only [insert]
      split
      · exact ⟨_, rfl⟩
      · exact ⟨_, rfl⟩

theorem walk_insert (some : places ≠ []) (plain : ∀ name ∈ places, Plain name)
    (content : ByteArray) (entries : List (String × Node))
    (above : List (List (String × Node))) :
    walk (.directory (insert (file content) places entries :: above)) places =
      .ok (.file content) := by
  induction places generalizing entries above with
  | nil => contradiction
  | cons name rest ih =>
      rw [List.forall_mem_cons] at plain
      rw [walk_cons plain.1]
      cases rest with
      | nil => simp [insert, enter, walk]
      | cons next rest =>
          have more : next :: rest ≠ [] := List.cons_ne_nil next rest
          obtain ⟨inner, inserted⟩ := insert_cons more (file content) name entries
          rw [inserted, enter, List.lookup_cons_self]
          exact ih more plain.2 inner _

theorem read_put (plain : ∀ name ∈ names path, Plain name) (content : ByteArray)
    (top : List (String × Node)) : read (put (file content) path top) path = .ok content := by
  have some : names path ≠ [] := by simp [names, List.splitOn_ne_nil]
  have notEmpty : path.isEmpty = false := by
    rw [← Bool.not_eq_true, String.isEmpty_iff]
    rintro rfl
    exact (plain "" (by decide)).1 rfl
  have relative : (names path).head? ≠ Option.some "" := fun first =>
    (plain "" (List.mem_of_head? first)).1 rfl
  rw [read, notEmpty, put, follow_of_plain plain]
  simp [relative, walk_insert some plain]

example : ∀ name ∈ names "data/physics_rules.txt", Plain name := by decide

end Node

end Deduction
