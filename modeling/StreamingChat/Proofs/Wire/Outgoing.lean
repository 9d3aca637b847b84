import StreamingChat.Proofs.Json.Records
import StreamingChat.Proofs.Json.RoundTrip
import StreamingChat.Wire.Outbound

/-!
# Frames that are sent are read back

Every frame of the client is read back from its text as the frame it was: a control frame by its
type, and a turn of the user, which has no type, by its own fields.  What a turn leaves out when it
is written, an empty list of attachments and a choice that was not made, is absent when it is read.
-/

namespace StreamingChat.Wire

open StreamingChat.Json (Lists)

/-- A control frame is read back from its document. -/
theorem Control.ofJson?_json (c : Control) : Control.ofJson? c.json = some c := by
  cases c with
  | stop => rfl
  | stats => rfl
  | setSession session => rfl
  | answer request approved => rfl

namespace Turn

/-- The attachments that are written: an empty list is not. -/
def written (t : Turn) : Option (List Value) :=
  if t.attachments.isEmpty then none else some t.attachments

theorem getD_written (t : Turn) : t.written.getD [] = t.attachments := by
  unfold written
  split
  · next empty => exact (List.isEmpty_iff.mp empty).symm
  · rfl

/-- The members of a turn, those without a value left out. -/
def members (t : Turn) : List (String × Json) :=
  [("message", .string t.message)] ++ ([("mode", .string t.mode)] ++
    (Json.optionalMember "attachments" Json.ofValues t.written ++
      (Json.optionalMember "skipWebSearch" .bool t.skipWebSearch ++
        [("sessionId", .string t.session)])))

theorem json_eq (t : Turn) : t.json = .object t.members := by
  unfold json members written
  cases t.attachments.isEmpty with
  | true => rfl
  | false => rfl

theorem lists_members (t : Turn) : Lists fieldNames t.members :=
  (Lists.member _ _).append ((Lists.member _ _).append
    ((Lists.optional _ _ _).append ((Lists.optional _ _ _).append (.member _ _))))

/-- A turn is read back from its document. -/
theorem ofJson?_json (t : Turn) : ofJson? t.json = some t := by
  let f : Json.Fields := ⟨t.members⟩
  have record : t.json.fields? fieldNames = some f := by
    rw [json_eq]
    exact t.lists_members.fields? (by decide)
  have message : f.get? "message" = some (.string t.message) := rfl
  have mode : f.get? "mode" = some (.string t.mode) := rfl
  have attachments : f.get? "attachments" = t.written.map Json.ofValues := by
    simp [f, members, Json.Fields.get?, List.lookup_append, List.lookup_cons]
  have skip : f.get? "skipWebSearch" = t.skipWebSearch.map .bool := by
    simp [f, members, Json.Fields.get?, List.lookup_append, List.lookup_cons]
  have session : f.get? "sessionId" = some (.string t.session) := by
    simp [f, members, Json.Fields.get?, List.lookup_append, List.lookup_cons]
  have given := Json.Fields.withDefault_map attachments [] fun _ _ => Json.values?_ofValues _
  rw [ofJson?, record]
  simp only [Option.bind_eq_bind, Option.bind_some, Json.Fields.required_of_get? message,
    Json.Fields.required_of_get? mode, given, getD_written, Json.Fields.optional_bool skip,
    Json.Fields.required_of_get? session, Json.string?]
  rfl

end Turn

namespace Outbound

/-- What a frame carries in free form. -/
def values : Outbound → List Value
  | control _ => []
  | turn t => t.attachments

/-- A frame is read back from its document, a turn never as a control frame. -/
theorem ofJson?_json (f : Outbound) : ofJson? f.json = some f := by
  cases f with
  | control c =>
      change ((Control.ofJson? c.json).map control <|> (Turn.ofJson? c.json).map turn) = _
      rw [Control.ofJson?_json]
      rfl
  | turn t =>
      have untagged : Control.ofJson? t.json = none := by
        rw [Control.ofJson?, Turn.json_eq,
          Json.tagged?_of_untagged t.lists_members (by decide)]
        rfl
      change ((Control.ofJson? t.json).map control <|> (Turn.ofJson? t.json).map turn) = _
      rw [untagged, Turn.ofJson?_json]
      rfl

theorem integral_json {f : Outbound} (integral : ∀ v ∈ f.values, v.json.Integral) :
    f.json.Integral := by
  cases f with
  | control c =>
      cases c with
      | stop => exact ⟨trivial, trivial⟩
      | stats => exact ⟨trivial, trivial⟩
      | setSession session => exact ⟨trivial, trivial, trivial⟩
      | answer request approved => exact ⟨trivial, trivial, trivial, trivial⟩
  | turn t =>
      have attachments (vs : List Value) (given : t.written = some vs) :
          (Json.ofValues vs).Integral := by
        have same : vs = t.attachments := by rw [← Turn.getD_written, given]; rfl
        rw [same]
        exact Json.integral_ofValues integral
      change t.json.Integral
      rw [Turn.json_eq, Json.integral_object, Turn.members]
      simp only [List.forall_mem_append, List.forall_mem_singleton]
      exact ⟨trivial, trivial, Json.forall_mem_optionalMember.mpr attachments,
        Json.forall_mem_optionalMember.mpr fun _ _ => trivial, trivial⟩

/-- Frames survive the wire.  A frame whose attachments hold no double, and which nests no deeper
than a reader may go, is read back from its text as exactly the frame that it was: no turn is taken
for a control frame, and what was left out is absent. -/
theorem sent_frames_read_back (f : Outbound) (integral : ∀ v ∈ f.values, v.json.Integral)
    (nested : f.json.depth ≤ Json.maxDepth) : read? f.render = some f := by
  rw [read?, render, Json.read?_render (integral_json integral) nested]
  exact ofJson?_json f

/-- A turn whose message and whose attachment look like the frame that stops an answer. -/
def likeStop : Outbound :=
  .turn
    { message := "\x7b\"type\":\"stop\"\x7d\n"
      mode := "chat"
      attachments := [.ofJson (.object [("type", .string "stop"), ("page", Json.ofInt (-1))])]
      session := "default" }

theorem sent_frames_read_back_of_likeStop :
    (∀ v ∈ likeStop.values, v.json.Integral) ∧ likeStop.json.depth ≤ Json.maxDepth ∧
      read? likeStop.render = some likeStop := by
  have integral : ∀ v ∈ likeStop.values, v.json.Integral :=
    List.forall_mem_singleton.mpr ⟨trivial, trivial, trivial⟩
  have nested : likeStop.json.depth ≤ Json.maxDepth := by decide
  exact ⟨integral, nested, sent_frames_read_back likeStop integral nested⟩

end Outbound

end StreamingChat.Wire
