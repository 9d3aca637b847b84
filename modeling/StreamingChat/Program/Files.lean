import StreamingChat.Text.Blank

/-!
A tree of files as far as the program looks at it: which paths are files and with what text, and
which are directories. A path is followed name by name, so every name but the last has to be that
of a directory, also one that two dots lead out of again.
-/

namespace StreamingChat.Program

/-- The names on the way to a file. -/
abbrev Path := List String

namespace Path

/-- The bytes that a name may have. -/
def nameLimit : Nat := 255

/-- A path as it is written has fewer bytes than this. -/
def sizeLimit : Nat := 4096

/-- Goes one name further; an empty name and a dot stay, two dots go back. -/
def follow (p : Path) (name : String) : Path :=
  if name.isEmpty || name == "." then p
  else if name == ".." then p.dropLast
  else p ++ [name]

/-- The names of a path as it is written. -/
def names (text : String) : List String :=
  Text.split '/' text

def ofString (text : String) : Path :=
  (names text).foldl follow []

/-- A name below a directory. -/
def join (directory name : String) : String :=
  if directory.isEmpty || directory.toList.getLast? == some '/' then directory ++ name
  else directory ++ "/" ++ name

/-- Whether a text can be a path at all. -/
def isWritable (text : String) : Bool :=
  !text.isEmpty && text.utf8ByteSize < sizeLimit && !text.toList.contains '\x00'

end Path

structure Files where
  texts : List (Path × String) := []
  directories : List Path := []

namespace Files

inductive Kind where
  | file
  | directory
  deriving DecidableEq, Repr

def isDirectoryAt (f : Files) (p : Path) : Bool :=
  p.isEmpty || f.directories.contains p

def kind? (f : Files) (p : Path) : Option Kind :=
  if f.isDirectoryAt p then some .directory
  else if (f.texts.lookup p).isSome then some .file
  else none

/-- Follows names from a place on, as long as there are directories to go on from. What is at the
end need not be there. -/
def walk? (f : Files) : Path → List String → Option Path
  | p, [] => some p
  | p, name :: rest =>
    if f.isDirectoryAt p && name.utf8ByteSize ≤ Path.nameLimit then f.walk? (p.follow name) rest
    else none

/-- The place that a written path leads to. -/
def locate? (f : Files) (path : String) : Option Path :=
  if Path.isWritable path then f.walk? [] (Path.names path) else none

/-- The text of a file. -/
def text? (f : Files) (path : String) : Option String :=
  (f.locate? path).bind fun p => f.texts.lookup p

def isDirectory (f : Files) (path : String) : Bool :=
  (f.locate? path).any f.isDirectoryAt

/-- Makes a single directory if there is none. -/
def ensure? (f : Files) (names : List String) : Option Files :=
  let names := (names.reverse.dropWhile String.isEmpty).reverse
  (f.walk? [] names).bind fun p =>
    match f.kind? p with
    | some .directory => some f
    | some .file => none
    | none => some { f with directories := f.directories ++ [p] }

/-- Makes a directory after all that are named on the way to it, unless a file is in the way. A dot
names no directory. -/
def makeDirectory? (f : Files) (path : String) : Option Files :=
  if Path.isWritable path then
    let names := Path.names path
    let above := (names.filter fun name => !name.isEmpty && name != ".").dropLast
    let steps := (List.range above.length).map fun k => above.take (k + 1)
    (steps ++ [names]).foldlM ensure? f
  else none

/-- Puts a file into the tree, and the directories on the way to it. -/
def withText (f : Files) (path text : String) : Files :=
  let names := Path.names path
  let above := (List.range names.length).map fun k => (names.take k).foldl Path.follow []
  { texts := f.texts ++ [(Path.ofString path, text)], directories := f.directories ++ above }

/-- Whether a file can be written: it is there, or there is a place for it. -/
def isWritable (f : Files) (path : String) : Bool :=
  (f.locate? path).any fun p => f.kind? p != some .directory

theorem walk?_nil (f : Files) (p : Path) : f.walk? p [] = some p := rfl

/-- Names are followed one after the other. -/
theorem walk?_append (f : Files) (p : Path) (first rest : List String) :
    f.walk? p (first ++ rest) = (f.walk? p first).bind fun q => f.walk? q rest := by
  induction first generalizing p with
  | nil => rfl
  | cons name first ih =>
    simp only [List.cons_append, walk?]
    split
    · exact ih _
    · rfl

end Files

end StreamingChat.Program
