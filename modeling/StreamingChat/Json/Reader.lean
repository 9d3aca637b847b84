import StreamingChat.Json.Token

/-!
Reading JSON text with a stack of the containers that are still open. Each token takes the reader
from one state to the next; a text is a document when its tokens lead from the first state to a
complete one. At most 127 containers are open at a time.
-/

namespace StreamingChat.Json

def maxDepth : Nat := 127

/-- An open container that waits for one value, with what it already holds, newest first. -/
inductive Open where
  | array (items : List Json)
  | object (members : List (String × Json)) (name : String)

namespace Reader

inductive State where
  /-- A value must follow. -/
  | value (outer : List Open)
  /-- An array was opened: a value or the closing bracket must follow. -/
  | firstItem (outer : List Open)
  /-- A comma or the closing bracket must follow. -/
  | afterItem (items : List Json) (outer : List Open)
  /-- An object was opened: a name or the closing brace must follow. -/
  | firstName (outer : List Open)
  /-- A name must follow. -/
  | name (members : List (String × Json)) (outer : List Open)
  /-- A colon must follow. -/
  | afterName (members : List (String × Json)) (name : String) (outer : List Open)
  /-- A comma or the closing brace must follow. -/
  | afterMember (members : List (String × Json)) (outer : List Open)
  | complete (j : Json)

/-- Hands a value that has been read to the container that waits for it. -/
def deliver (j : Json) : List Open → State
  | [] => .complete j
  | .array items :: outer => .afterItem (j :: items) outer
  | .object members name :: outer => .afterMember ((name, j) :: members) outer

/-- A value begins: it is delivered at once or, if it is a container, opened. -/
def begin (outer : List Open) : Token → Option State
  | .null => some (deliver .null outer)
  | .bool b => some (deliver (.bool b) outer)
  | .number n => some (deliver (.number n) outer)
  | .text s => some (deliver (.string s) outer)
  | .openArray => if outer.length < maxDepth then some (.firstItem outer) else none
  | .openObject => if outer.length < maxDepth then some (.firstName outer) else none
  | .closeArray | .closeObject | .comma | .colon => none

def step : State → Token → Option State
  | .value outer, t => begin outer t
  | .firstItem outer, .closeArray => some (deliver (.array []) outer)
  | .firstItem outer, t => begin (.array [] :: outer) t
  | .afterItem items outer, .comma => some (.value (.array items :: outer))
  | .afterItem items outer, .closeArray => some (deliver (.array items.reverse) outer)
  | .firstName outer, .closeObject => some (deliver (.object []) outer)
  | .firstName outer, .text s => some (.afterName [] s outer)
  | .name members outer, .text s => some (.afterName members s outer)
  | .afterName members name outer, .colon => some (.value (.object members name :: outer))
  | .afterMember members outer, .comma => some (.name members outer)
  | .afterMember members outer, .closeObject => some (deliver (.object members.reverse) outer)
  | .afterItem .., _ | .firstName .., _ | .name .., _ | .afterName .., _ | .afterMember .., _
  | .complete .., _ => none

def run (s : State) (ts : List Token) : Option State :=
  ts.foldlM step s

theorem run_nil (s : State) : run s [] = some s := rfl

theorem run_cons (s : State) (t : Token) (ts : List Token) :
    run s (t :: ts) = (step s t).bind (run · ts) := by
  simp [run, List.foldlM_cons, Option.bind_eq_bind]

end Reader

/-- The document a text holds, read strictly. -/
def ofChars? (text : List Char) : Option Json :=
  match (Token.scan text).bind (Reader.run (.value [])) with
  | some (.complete j) => some j
  | _ => none

def read? (text : String) : Option Json :=
  ofChars? text.toList

end StreamingChat.Json

namespace StreamingChat.Value

/-- The free-form value a text holds. -/
def read? (text : String) : Option Value :=
  (Json.read? text).map ofJson

def render (v : Value) : String :=
  v.json.render

end StreamingChat.Value
