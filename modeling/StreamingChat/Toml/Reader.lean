import StreamingChat.Toml.Scalar
import StreamingChat.Toml.Token

/-!
Reading TOML text token by token. The reader knows what may follow and which containers are open;
every header and every finished assignment goes into the document at once, so that a key that is
given twice is noticed where it is.
-/

namespace StreamingChat.Toml

/-- How many containers may be open at a time, and how many names a key may have. -/
def maxDepth : Nat := 79

/-- An open container that waits for one value, with what it already holds. -/
inductive Open where
  /-- Newest first. -/
  | array (items : List Toml)
  | table (members : Members) (path : List String)

/-- Where a value goes: into the innermost open container or, without one, to the key that the line
began with. -/
structure Place where
  path : List String
  outer : List Open := []

/-- What a key is read for. -/
inductive Use where
  | assignment
  | header
  | element
  | member (members : Members) (p : Place)

inductive Position where
  /-- A line begins. -/
  | line
  /-- A bracket began the line: a second one or a key must follow. -/
  | bracket
  /-- A name must follow; the names before it, newest first. -/
  | name (path : List String) (use : Use)
  /-- A dot or what ends the key must follow. -/
  | afterName (path : List String) (use : Use)
  /-- The second closing bracket must follow at once. -/
  | closing (path : List String)
  /-- The line must end. -/
  | lineEnd
  /-- A value must follow. -/
  | value (p : Place)
  /-- A value without quotes goes on. -/
  | scalar (read : List Char) (p : Place)
  /-- A value or the closing bracket must follow. -/
  | item (items : List Toml) (p : Place)
  /-- A comma or the closing bracket must follow. -/
  | afterItem (items : List Toml) (p : Place)
  /-- A key or the closing brace must follow. -/
  | firstMember (p : Place)
  /-- A comma or the closing brace must follow. -/
  | afterMember (members : Members) (p : Place)

structure Reader where
  document : Document := {}
  position : Position := .line

namespace Reader

/-- Puts a value that has been read where it goes. -/
def deliver (r : Reader) (t : Toml) (p : Place) : Option Reader :=
  match p.outer with
  | [] => do
    let document ← r.document.assign p.path.reverse t
    return { document, position := .lineEnd }
  | .array items :: outer => some { r with position := .afterItem (t :: items) { p with outer } }
  | .table members path :: outer => do
    let members ← assign t path.reverse members
    return { r with position := .afterMember members { p with outer } }

def moved (r : Reader) (position : Position) : Option Reader :=
  some { r with position }

/-- A value begins: it is delivered at once or opened. -/
def begin (r : Reader) (p : Place) : Token → Option Reader
  | .quoted s | .lines s => r.deliver (.string s) p
  | .word chars => r.moved (.scalar chars p)
  | .openBracket => if p.outer.length < maxDepth then r.moved (.item [] p) else none
  | .openBrace => if p.outer.length < maxDepth then r.moved (.firstMember p) else none
  | _ => none

/-- A name has been read. -/
def named (r : Reader) (name : String) (path : List String) (use : Use) : Option Reader :=
  if path.length < maxDepth then r.moved (.afterName (name :: path) use) else none

/-- A key begins or goes on. -/
def nameStep (r : Reader) (path : List String) (use : Use) : Token → Option Reader
  | .quoted s => r.named s path use
  | .word chars =>
    if chars.all Token.isBareChar then r.named (String.ofList chars) path use else none
  | _ => none

/-- The end of a key. -/
def keyEnd (r : Reader) (path : List String) (use : Use) (t : Token) : Option Reader :=
  match use, t with
  | .assignment, .equals => r.moved (.value { path })
  | .member members p, .equals =>
    r.moved (.value { p with outer := .table members path :: p.outer })
  | .header, .closeBracket => do
    return { document := ← r.document.header path.reverse, position := .lineEnd }
  | .element, .closeBracket => r.moved (.closing path)
  | _, _ => none

/-- A token that is no blank. -/
def step (r : Reader) (t : Token) : Option Reader :=
  match r.position, t with
  | .line, .newline => some r
  | .line, .openBracket => r.moved .bracket
  | .line, t => r.nameStep [] .assignment t
  | .bracket, .openBracket => r.moved (.name [] .element)
  | .bracket, t => r.nameStep [] .header t
  | .name path use, t => r.nameStep path use t
  | .afterName path use, .dot => r.moved (.name path use)
  | .afterName path use, t => r.keyEnd path use t
  | .closing path, .closeBracket => do
    return { document := ← r.document.element path.reverse, position := .lineEnd }
  | .lineEnd, .newline => r.moved .line
  | .value p, t => r.begin p t
  | .item _ _, .newline | .afterItem _ _, .newline => some r
  | .item items p, .closeBracket | .afterItem items p, .closeBracket =>
    r.deliver (.array items.reverse) p
  | .item items p, t => r.begin { p with outer := .array items :: p.outer } t
  | .afterItem items p, .comma => r.moved (.item items p)
  | .firstMember p, .closeBrace => r.deliver (.table .closed []) p
  | .firstMember p, t => r.nameStep [] (.member [] p) t
  | .afterMember members p, .closeBrace => r.deliver (.table .closed members) p
  | .afterMember members p, .comma => r.moved (.name [] (.member members p))
  | _, _ => none

/-- A blank stands anywhere but inside double brackets, where it is refused or ends their chance. -/
def blank (r : Reader) : Option Reader :=
  match r.position with
  | .bracket => r.moved (.name [] .header)
  | .closing _ => none
  | _ => some r

/-- Takes one token; a value without quotes ends before the first that does not continue it. -/
def take (r : Reader) (t : Token) : Option Reader :=
  match r.position, t with
  | .scalar read p, .word chars => r.moved (.scalar (read ++ chars) p)
  | .scalar read p, .dot => r.moved (.scalar (read ++ ['.']) p)
  | .scalar read p, t => do
    let v ← Scalar.ofWord? read
    let r ← r.deliver v p
    match t with
    | .blank => r.blank
    | t => r.step t
  | _, .blank => r.blank
  | _, t => r.step t

end Reader

/-- The table that a text holds. The end of the text ends its last line. -/
def read? (text : String) : Option Members := do
  let tokens ← Token.scan text.toList
  let r ← (tokens ++ [Token.newline]).foldlM Reader.take {}
  match r.position with
  | .line => some r.document.members
  | _ => none

end StreamingChat.Toml
