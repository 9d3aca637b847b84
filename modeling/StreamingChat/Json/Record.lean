import StreamingChat.Json.Reader

/-!
Records and choices written in JSON. A record is an object that names its fields, in any order
and among members that are not its own, or an array that lists them in their order; a field may
be required, have a default, or be optional, and only an optional one may be null.
-/

namespace StreamingChat.Json

/-- The fields of a record that are present, each once. -/
structure Fields where
  present : List (String × Json)

/-- Finds the fields of a record. A second member with the name of a field is refused, and so is
an array with more items than there are fields. -/
def fields? (names : List String) : Json → Option Fields
  | .object members =>
    let known := members.filter fun m => names.contains m.1
    if (known.map Prod.fst).Nodup then some ⟨known⟩ else none
  | .array items => if items.length ≤ names.length then some ⟨names.zip items⟩ else none
  | _ => none

namespace Fields

def get? (f : Fields) (name : String) : Option Json :=
  f.present.lookup name

def required (f : Fields) (name : String) (read : Json → Option α) : Option α :=
  (f.get? name).bind read

def withDefault (f : Fields) (name : String) (value : α) (read : Json → Option α) : Option α :=
  match f.get? name with
  | none => some value
  | some j => read j

/-- Absent and null mean the same. -/
def optional (f : Fields) (name : String) (read : Json → Option α) : Option (Option α) :=
  match f.get? name with
  | none | some .null => some none
  | some j => some <$> read j

end Fields

def string? : Json → Option String
  | .string s => some s
  | _ => none

def bool? : Json → Option Bool
  | .bool b => some b
  | _ => none

def value? (j : Json) : Option Value :=
  some (.ofJson j)

def values? : Json → Option (List Value)
  | .array items => some (items.map .ofJson)
  | _ => none

/-- Which bodies a choice without content may have when it is written as an object. -/
inductive EmptyBody where
  | null
  | nullOrObject

/-- The name of a choice without content: a string, or an object whose one member has the name and
an empty body. -/
def choice? (body : EmptyBody) : Json → Option String
  | .string s => some s
  | .object [(name, .null)] => some name
  | .object [(name, .object [])] =>
    match body with
    | .nullOrObject => some name
    | .null => none
  | _ => none

/-- Splits a tagged record into its tag and the rest. In an object the tag may stand anywhere but
only once; in an array it comes first. -/
def tagged? (tag : String) : Json → Option (Json × Json)
  | .object members =>
    match members.filter (·.1 == tag) with
    | [(_, j)] => some (j, .object (members.filter (·.1 != tag)))
    | _ => none
  | .array (j :: rest) => some (j, .array rest)
  | _ => none

/-- What may follow the tag of a frame without fields: any members, but no items. -/
def noFields? : Json → Option Unit
  | .object _ | .array [] => some ()
  | _ => none

/-- A member that is left out when it has no value. -/
def optionalMember (name : String) (write : α → Json) : Option α → List (String × Json)
  | none => []
  | some a => [(name, write a)]

def ofValues (values : List Value) : Json :=
  .array (values.map Value.json)

/-- A whole number as JSON; what does not fit 64 bits has no exact form and is null. -/
def ofInt (n : Int) : Json :=
  if h : Number.Fits n then .number (.integer n h) else .null

end StreamingChat.Json
