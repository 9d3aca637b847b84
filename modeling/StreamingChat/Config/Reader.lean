import StreamingChat.Config.Basic
import StreamingChat.Toml.Reader

/-!
Reading a configuration from TOML. What is missing has its default and what is unknown is ignored;
what is known must have the right kind of value. A record is a table of its fields or an array that
lists them in their order.
-/

namespace StreamingChat.Config

/-- The name under which the text of a date stands if the date is taken for a table. -/
def dateName : String := "$__toml_private_datetime"

def text? : Toml → Option String
  | .string s => some s
  | _ => none

/-- Durations are whole and not negative. -/
def duration? : Toml → Option Nat
  | .integer n => if 0 ≤ n then some n.toNat else none
  | _ => none

def decimal? : Toml → Option Float
  | .decimal x => some x
  | .integer n => some (if n < 0 then -n.natAbs.toUInt64.toFloat else n.natAbs.toUInt64.toFloat)
  | _ => none

/-- The members of what can be taken for a table. -/
def members? : Toml → Option Toml.Members
  | .table _ members => some members
  | .date text => some [(dateName, .string text)]
  | _ => none

/-- The members of a record with the given fields. An array may have more or fewer items. -/
def record? (names : List String) : Toml → Option Toml.Members
  | .array items => some (names.zip items)
  | .tables elements => some (names.zip (elements.map (.table .defined)))
  | t => members? t

/-- A field that may be missing. -/
def field (members : Toml.Members) (name : String) (default : α) (read : Toml → Option α) :
    Option α :=
  match members.lookup name with
  | none => some default
  | some t => read t

def reconnect? (t : Toml) : Option Reconnect := do
  let members ← record? ["base_delay_ms", "max_delay_ms", "jitter"] t
  let default : Reconnect := {}
  return {
    baseDelay := ← field members "base_delay_ms" default.baseDelay duration?
    maxDelay := ← field members "max_delay_ms" default.maxDelay duration?
    jitter := ← field members "jitter" default.jitter decimal? }

/-- Puts a header where its name belongs in a list sorted by name. -/
def insertHeader (name value : String) : List (String × String) → List (String × String)
  | [] => [(name, value)]
  | first :: rest =>
    if name < first.1 then (name, value) :: first :: rest
    else first :: insertHeader name value rest

def headers? (t : Toml) : Option (List (String × String)) := do
  let members ← members? t
  members.foldrM (fun m sorted => do return insertHeader m.1 (← text? m.2) sorted) []

def ofMembers? (members : Toml.Members) : Option Config := do
  let default : Config := {}
  return {
    url := ← field members "url" default.url text?
    session := ← field members "session_id" default.session text?
    mode := ← field members "mode" default.mode text?
    flushInterval := ← field members "flush_interval_ms" default.flushInterval duration?
    reconnect := ← field members "reconnect" default.reconnect reconnect?
    headers := ← field members "headers" default.headers headers? }

/-- The configuration that a TOML text holds; it need not be valid. -/
def read? (text : String) : Option Config :=
  (Toml.read? text).bind ofMembers?

end StreamingChat.Config
