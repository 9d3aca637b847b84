/-!
TOML documents. A document is a table that grows line by line: a header opens a table or appends
one to a list of tables, and an assignment gives a key of the open table its value. Whether a table
may still be added to depends on how it came to be.
-/

namespace StreamingChat

/-- How a table came to be. -/
inductive Toml.Standing where
  /-- By a header of its own. -/
  | defined
  /-- By longer headers only; its own header may still come. -/
  | implied
  /-- By a key with dots. -/
  | dotted
  /-- In one piece; nothing can be added. -/
  | closed
  deriving DecidableEq, Repr

inductive Toml where
  | string (s : String)
  | integer (n : Int)
  | decimal (x : Float)
  | bool (b : Bool)
  /-- A date, a time or both, in their normal text. -/
  | date (text : String)
  | array (items : List Toml)
  | table (standing : Toml.Standing) (members : List (String × Toml))
  /-- Tables under one header each, oldest first. -/
  | tables (elements : List (List (String × Toml)))

namespace Toml

abbrev Members := List (String × Toml)

/-- Gives a name that is present another value. -/
def put (name : String) (t : Toml) (members : Members) : Members :=
  members.map fun m => if m.1 == name then (name, t) else m

/-- Replaces the last of some tables. -/
def changeLast (f : Members → Option Members) (elements : List Members) : Option (List Members) :=
  match elements.reverse with
  | [] => none
  | last :: earlier => (fun changed => (changed :: earlier).reverse) <$> f last

/-- Gives a key its value. The tables that a key with dots goes through must not have headers of
their own, and the last of them must come from such keys alone; no value is replaced. -/
def assign (t : Toml) : List String → Members → Option Members
  | [], _ => none
  | [name], members =>
    match members.lookup name with
    | none => some (members ++ [(name, t)])
    | some _ => none
  | name :: next :: rest, members =>
    match members.lookup name with
    | none =>
      (fun inner => members ++ [(name, .table .dotted inner)]) <$> assign t (next :: rest) []
    | some (.table standing inner) =>
      if standing = .dotted ∨ (standing = .implied ∧ rest ≠ []) then
        (fun inner => put name (.table standing inner) members) <$> assign t (next :: rest) inner
      else none
    | some (.tables elements) =>
      if rest = [] then none
      else
        (fun elements => put name (.tables elements) members) <$>
          changeLast (assign t (next :: rest)) elements
    | some _ => none

/-- Changes the table that a header's path leads to. Tables that are missing on the way are implied
by it, and of several tables under one header the last is meant. -/
def change (f : Members → Option Members) : List String → Members → Option Members
  | [], members => f members
  | name :: rest, members =>
    match members.lookup name with
    | none => (fun inner => members ++ [(name, .table .implied inner)]) <$> change f rest []
    | some (.table standing inner) =>
      if standing = .closed then none
      else (fun inner => put name (.table standing inner) members) <$> change f rest inner
    | some (.tables elements) =>
      (fun elements => put name (.tables elements) members) <$>
        changeLast (change f rest) elements
    | some _ => none

/-- A table gets its header, which it may have once. -/
def define (name : String) (members : Members) : Option Members :=
  match members.lookup name with
  | none => some (members ++ [(name, .table .defined [])])
  | some (.table .implied inner) => some (put name (.table .defined inner) members)
  | some _ => none

/-- A list of tables gets one more. -/
def append (name : String) (members : Members) : Option Members :=
  match members.lookup name with
  | none => some (members ++ [(name, .tables [[]])])
  | some (.tables elements) => some (put name (.tables (elements ++ [[]])) members)
  | some _ => none

/-- What has been read of a document, and the path of the table that is open. -/
structure Document where
  members : Members := []
  current : List String := []

namespace Document

/-- Opens the table at a path by what is done with its last name in the table around it. -/
def openBy (d : Document) (f : String → Members → Option Members) (path : List String) :
    Option Document := do
  let name ← path.getLast?
  let members ← change (f name) path.dropLast d.members
  return ⟨members, path⟩

/-- The header of a table. -/
def header (d : Document) (path : List String) : Option Document :=
  d.openBy define path

/-- The header of one more of a list of tables. -/
def element (d : Document) (path : List String) : Option Document :=
  d.openBy append path

def assign (d : Document) (path : List String) (t : Toml) : Option Document := do
  let members ← change (Toml.assign t path) d.current d.members
  return { d with members }

end Document

end Toml

end StreamingChat
