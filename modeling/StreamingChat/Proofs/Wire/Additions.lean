import StreamingChat.Proofs.Json.Extension
import StreamingChat.Proofs.Wire.NormalForm

/-!
# Frames of a newer backend

A newer backend may write the members of a frame in another order, and add members that are not
known here, to the frame and to the record that it carries as its data.  A text that can be read at
all decodes as it would without the additions, and so does a stored message.
-/

namespace StreamingChat

open StreamingChat.Json (Alike Extends)

/-! ## Records within frames -/

namespace Chat

variable {j k : Json}

theorem Activity.Update.ofJson?_of_alike (body : Json.EmptyBody) (alike : Alike fieldNames j k) :
    ofJson? body j = ofJson? body k :=
  alike.bind fun f g same => by
    simp only [Json.Fields.required, Json.Fields.withDefault, same]

theorem Approval.Request.ofJson?_of_alike (alike : Alike fieldNames j k) :
    ofJson? j = ofJson? k :=
  alike.bind fun f g same => by
    simp only [Json.Fields.required, Json.Fields.withDefault, Json.Fields.optional, same]

theorem Origin.ofFields?_congr {f g : Json.Fields} (same : ∀ name, f.get? name = g.get? name) :
    ofFields? f = ofFields? g := by
  simp only [ofFields?, Json.Fields.optional, same]

theorem Entry.ofJson?_of_alike (alike : Alike fieldNames j k) : ofJson? j = ofJson? k :=
  alike.bind fun f g same => by
    simp only [Json.Fields.required, Json.Fields.withDefault, Json.Fields.optional, same,
      Origin.ofFields?_congr same]

end Chat

namespace Wire.Inbound

open StreamingChat.Chat

/-- The names of the fields of the frames of a type; frames of a type that is not known have
none. -/
def fieldsOf : String → List String
  | "chunk" => "message" :: Origin.fieldNames
  | "error" => ["message"]
  | "stats" | "search_results" | "activity" | "tool_confirmation_request" | "download_progress" =>
    ["data"]
  | "history" => ["messages", "sessionId"]
  | "session_changed" => ["sessionId"]
  | _ => []

/-- The names of the fields of the record that the frames of a type carry as their data. -/
def dataFieldsOf? : String → Option (List String)
  | "activity" => some Activity.Update.fieldNames
  | "tool_confirmation_request" => some Approval.Request.fieldNames
  | _ => none

/-- The fields of a frame are those of its type. -/
theorem fieldNames_eq_fieldsOf (f : Inbound) : f.fieldNames = fieldsOf f.kind := by
  cases f <;> rfl

/-- How a newer backend may write the members of a frame of a type: in another order, with members
that are neither the type nor a field, and the same within the record that it carries. -/
inductive Restated (type : String) : List (String × Json) → List (String × Json) → Prop where
  | outside {fewer more : List (String × Json)}
      (extends_ : Extends ("type" :: fieldsOf type) fewer more) : Restated type fewer more
  | inside {known : List String} {before after fewer more : List (String × Json)}
      (record : dataFieldsOf? type = some known) (extends_ : Extends known fewer more) :
      Restated type (before ++ ("data", .object fewer) :: after)
        (before ++ ("data", .object more) :: after)
  | trans {first second third : List (String × Json)} (earlier : Restated type first second)
      (later : Restated type second third) : Restated type first third

variable {type : String} {members fewer more : List (String × Json)}

/-! ## Bodies -/

theorem chunk?_of_alike {j k : Json} (alike : Alike ("message" :: Origin.fieldNames) j k) :
    chunk? j = chunk? k :=
  alike.bind fun f g same => by
    simp only [Json.Fields.optional, same, Origin.ofFields?_congr same]

/-- A body with more members is decoded as it would be without them. -/
theorem ofBody?_of_extends (extends_ : Extends (fieldsOf type) fewer more) :
    ofBody? type (.object more) = ofBody? type (.object fewer) := by
  unfold ofBody?
  -- One case for each type, in the order of the reader, and one for those that are not known.
  split
  · exact chunk?_of_alike extends_.alike
  · rfl
  · rfl
  · rfl
  · exact extends_.alike.bind fun f g same => by simp only [Json.Fields.optional, same]
  · exact extends_.alike.bind fun f g same => by simp only [Json.Fields.withDefault, same]
  · exact extends_.alike.bind fun f g same => by simp only [Json.Fields.withDefault, same]
  · exact extends_.alike.bind fun f g same => by simp only [Json.Fields.required, same]
  · exact extends_.alike.bind fun f g same => by simp only [Json.Fields.required, same]
  · exact extends_.alike.bind fun f g same => by
      simp only [Json.Fields.withDefault, Json.Fields.optional, same]
  · exact extends_.alike.bind fun f g same => by simp only [Json.Fields.required, same]
  · exact extends_.alike.bind fun f g same => by simp only [Json.Fields.withDefault, same]
  · rfl

/-- A frame that carries a record depends on what the record is read as. -/
theorem bind_data?_required {α : Type} {read : Json → Option α} {j k : Json}
    (same : read j = read k) (before after : List (String × Json)) (frame : α → Option Inbound) :
    ((data? (.object (before ++ ("data", j) :: after))).bind fun f =>
        (f.required "data" read).bind frame) =
      (data? (.object (before ++ ("data", k) :: after))).bind fun f =>
        (f.required "data" read).bind frame := by
  unfold data?
  rw [← Option.bind_assoc, ← Option.bind_assoc, Json.bind_required_object rfl,
    Json.bind_required_object rfl, same]

/-- A body whose record has more members is decoded as it would be without them. -/
theorem ofBody?_of_inside {known : List String} (record : dataFieldsOf? type = some known)
    (extends_ : Extends known fewer more) (before after : List (String × Json)) :
    ofBody? type (.object (before ++ ("data", .object more) :: after)) =
      ofBody? type (.object (before ++ ("data", .object fewer) :: after)) := by
  unfold dataFieldsOf? at record
  split at record
  · cases record
    exact bind_data?_required (Activity.Update.ofJson?_of_alike .nullOrObject extends_.alike)
      before after _
  · cases record
    exact bind_data?_required (Approval.Request.ofJson?_of_alike extends_.alike) before after _
  · cases record

/-! ## Frames -/

/-- An object that names its type is a frame only if it names it once. -/
theorem ofJson?_of_type (named : ("type", .string type) ∈ members) :
    ofJson? (.object members) =
      if (members.filter (·.1 == "type")).length = 1 then
        ofBody? type (.object (members.filter (·.1 != "type")))
      else none := by
  have kept : ("type", .string type) ∈ members.filter (·.1 == "type") :=
    List.mem_filter.mpr ⟨named, rfl⟩
  unfold ofJson? Json.tagged?
  simp only
  split
  · next tag j only =>
    rw [only] at kept
    cases List.mem_singleton.mp kept
    rw [only]
    rfl
  · next several =>
    rw [if_neg fun once => ?_]
    · rfl
    · obtain ⟨m, only⟩ := List.length_eq_one_iff.mp once
      exact several _ _ only

/-- The record of a frame is not its type, whatever stands in it. -/
theorem ofJson?_around {before after : List (String × Json)}
    (named : ("type", .string type) ∈ before ++ after) (data : Json) :
    ofJson? (.object (before ++ ("data", data) :: after)) =
      if ((before ++ after).filter (·.1 == "type")).length = 1 then
        ofBody? type (.object
          (before.filter (·.1 != "type") ++ ("data", data) :: after.filter (·.1 != "type")))
      else none := by
  have around : ("type", .string type) ∈ before ++ ("data", data) :: after :=
    (List.sublist_cons_self _ after).append_left before |>.subset named
  have types : (before ++ ("data", data) :: after).filter (·.1 == "type") =
      (before ++ after).filter (·.1 == "type") := by
    rw [List.filter_append, List.filter_cons_of_neg (by simp), List.filter_append]
  have rest : (before ++ ("data", data) :: after).filter (·.1 != "type") =
      before.filter (·.1 != "type") ++ ("data", data) :: after.filter (·.1 != "type") := by
    rw [List.filter_append, List.filter_cons_of_pos (by simp)]
  rw [ofJson?_of_type around, types, rest]

/-- A newer backend writes a frame that is decoded as before, under the same type. -/
theorem ofJson?_of_restated (restated : Restated type fewer more)
    (named : ("type", .string type) ∈ fewer) :
    ("type", .string type) ∈ more ∧ ofJson? (.object more) = ofJson? (.object fewer) := by
  induction restated with
  | outside extends_ =>
      have namedStill := extends_.mem named
      refine ⟨namedStill, ?_⟩
      have types := extends_.filter (p := (·.1 == "type")) fun m same =>
        eq_of_beq same ▸ List.mem_cons_self
      rw [ofJson?_of_type named, ofJson?_of_type namedStill, types.length_eq,
        ofBody?_of_extends extends_.untagged]
  | @inside known before after fewer more record extends_ =>
      have around : ("type", .string type) ∈ before ++ after := by
        simpa using named
      refine ⟨by simpa using around, ?_⟩
      rw [ofJson?_around around, ofJson?_around around, ofBody?_of_inside record extends_]
  | trans earlier later first second =>
      obtain ⟨namedStill, same⟩ := first named
      obtain ⟨namedLast, sameLast⟩ := second namedStill
      exact ⟨namedLast, sameLast.trans same⟩

/-- What a newer backend adds is ignored, and so is the order of members.  Two texts that can be
read, and whose members are the same but for their order and for members that are not known, in the
frame or in the record that it carries, decode as the same frame or both as none.  The additions may
be named as fields of other types, and as each other.  A stored message that names no member twice
is decoded likewise. -/
theorem additions_ignored :
    (∀ (type text newer : String) (fewer more : List (String × Json)),
      Json.read? text = some (.object fewer) → ("type", .string type) ∈ fewer →
        Json.read? newer = some (.object more) → Restated type fewer more →
          read? newer = read? text) ∧
      ∀ fewer more : List (String × Json), (fewer.map Prod.fst).Nodup →
        Extends Entry.fieldNames fewer more →
          Entry.ofValue? (.ofJson (.object more)) = Entry.ofValue? (.ofJson (.object fewer)) := by
  constructor
  · intro type text newer fewer more document named newDocument restated
    obtain ⟨-, same⟩ := ofJson?_of_restated restated named
    rw [read?, read?, document, newDocument]
    exact same
  · intro fewer more once extends_
    exact Entry.ofJson?_of_alike (extends_.alike_normal once)

/-- A report of an agent. -/
def report : String :=
  "\x7b\"type\":\"activity\",\"data\":\x7b\"id\":\"planner\",\"status\":\"running\"\x7d\x7d"

def reportRecord : List (String × Json) :=
  [("id", .string "planner"), ("status", .string "running")]

def reportMembers : List (String × Json) :=
  [("type", .string "activity"), ("data", .object reportRecord)]

/-- The report as a newer backend writes it: the type last, the record turned round and with a
member of its own, and beside it a member that is named as a field of other types. -/
def newerReport : String :=
  "\x7b\"message\":[7],\"data\":\x7b\"eta\":\x7b\"id\":3\x7d,\"status\":\"running\"," ++
    "\"id\":\"planner\"\x7d,\"type\":\"activity\"\x7d"

def newerReportRecord : List (String × Json) :=
  ("eta", .object [("id", Json.ofInt 3)]) :: reportRecord.reverse

def newerReportMembers : List (String × Json) :=
  [("message", .array [Json.ofInt 7]), ("data", .object newerReportRecord),
    ("type", .string "activity")]

def stored : List (String × Json) :=
  [("role", .string "user"), ("content", .string "hello")]

def newerStored : List (String × Json) :=
  ("pinned", .bool true) :: stored.reverse

theorem additions_ignored_of_report :
    (Json.read? report = some (.object reportMembers) ∧
      ("type", .string "activity") ∈ reportMembers ∧
      Json.read? newerReport = some (.object newerReportMembers) ∧
      Restated "activity" reportMembers newerReportMembers ∧
      read? newerReport = read? report ∧
      read? report = some (activity ⟨"planner", .processing, ""⟩)) ∧
      (stored.map Prod.fst).Nodup ∧ Extends Entry.fieldNames stored newerStored ∧
        Entry.ofValue? (.ofJson (.object newerStored)) =
          Entry.ofValue? (.ofJson (.object stored)) := by
  obtain ⟨frames, entries⟩ := additions_ignored
  have turned {known : List String} (m : String × Json) (members : List (String × Json))
      (other : m.1 ∉ known) : Extends known members (m :: members.reverse) := by
    refine ⟨[m], ?_, List.forall_mem_singleton.mpr other⟩
    simpa using List.reverse_perm (members ++ [m])
  have inside : Restated "activity"
      ([("type", .string "activity")] ++ ("data", .object reportRecord) :: [])
      ([("type", .string "activity")] ++ ("data", .object newerReportRecord) :: []) :=
    .inside rfl (turned _ reportRecord (by decide))
  have restated : Restated "activity" reportMembers newerReportMembers :=
    inside.trans (.outside (turned ("message", .array [Json.ofInt 7]) _ (by decide)))
  have document : Json.read? report = some (.object reportMembers) := rfl
  have newDocument : Json.read? newerReport = some (.object newerReportMembers) := rfl
  have named : ("type", .string "activity") ∈ reportMembers := List.mem_cons_self
  have same := frames "activity" report newerReport _ _ document named newDocument restated
  have once : (stored.map Prod.fst).Nodup := by decide
  have extends_ : Extends Entry.fieldNames stored newerStored :=
    turned ("pinned", .bool true) stored (by decide)
  exact ⟨⟨document, named, newDocument, restated, same, rfl⟩, once, extends_,
    entries stored newerStored once extends_⟩

/-- The frame that ends an answer, with what is written behind its type. -/
def doneWith (addition : String) : String :=
  "\x7b\"type\":\"done\"" ++ addition ++ "\x7d"

/-- A text is read as a whole before its members are told apart, so that an addition is ignored only
if it can be read: a number too large for a double, or half of a surrogate pair, spoils a frame that
does not know the member. -/
theorem unreadable_addition_refused :
    read? (doneWith "") = some done ∧ "tokens" ∉ "type" :: fieldsOf "done" ∧
      read? (doneWith ",\"tokens\":1e400") = none ∧
      read? (doneWith ",\"tokens\":\"\\ud83d\"") = none :=
  ⟨rfl, by decide, rfl, rfl⟩

end Wire.Inbound

end StreamingChat
