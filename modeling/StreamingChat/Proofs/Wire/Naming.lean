import StreamingChat.Proofs.Json.Members
import StreamingChat.Wire.Inbound

/-!
# What a text says of itself

A text is read in two ways: strictly, as a frame, and as free-form JSON, in which the last of
several members with one name counts.  A frame names its type and each of its fields once, so for a
text that is a frame the two readings agree.
-/

namespace StreamingChat.Wire

/-- A text says that it is the history of a session, whether or not it is a frame. -/
def NamesHistoryOf (session text : String) : Prop :=
  ∃ members canonical, Value.read? text = some ⟨.object members, canonical⟩ ∧
    members.lookup "type" = some (.string "history") ∧
    members.lookup "sessionId" = some (.string session)

/-- An object that names its members once each, among them a type and a session. -/
theorem namesHistoryOf_of_read {session text : String} {members : List (String × Json)}
    (document : Json.read? text = some (.object members)) (once : (members.map Prod.fst).Nodup)
    (type : ("type", .string "history") ∈ members)
    (named : ("sessionId", .string session) ∈ members) : NamesHistoryOf session text := by
  refine ⟨_, (Json.object members).canonical_normal, ?_, Json.lookup_normalMembers once type,
    Json.lookup_normalMembers once named⟩
  rw [Value.read?, document]
  rfl

namespace Inbound

theorem history?_eq_some {body : Json} {frame : Inbound} {session : String}
    {members : List (String × Json)} (decodes : history? body = some frame)
    (shape : body = .object members) (member : ("sessionId", .string session) ∈ members) :
    ∃ entries, frame = .history entries (some session) := by
  obtain ⟨f, record, decodes⟩ := Option.bind_eq_some_iff.mp decodes
  obtain ⟨entries, -, decodes⟩ := Option.bind_eq_some_iff.mp decodes
  obtain ⟨named, optional, decodes⟩ := Option.bind_eq_some_iff.mp decodes
  rw [shape] at record
  have found := Json.get?_fields record rfl member
  rw [Json.Fields.optional, found] at optional
  cases optional
  cases decodes
  exact ⟨entries, rfl⟩

/-- A frame whose text says that it is the history of a session is a history of that session. -/
theorem eq_history_of_names {text session : String} {frame : Inbound}
    (names : NamesHistoryOf session text) (decodes : read? text = some frame) :
    ∃ entries, frame = .history entries (some session) := by
  obtain ⟨members, canonical, free, type, named⟩ := names
  obtain ⟨j, document, strict⟩ := Option.bind_eq_some_iff.mp decodes
  rw [Value.read?, document] at free
  have sorted : j.normal = .object members := congrArg Value.json (Option.some_inj.mp free)
  obtain ⟨written, rfl, rfl⟩ := Json.object_of_normal sorted
  obtain ⟨⟨tag, body⟩, tagged, strict⟩ := Option.bind_eq_some_iff.mp strict
  obtain ⟨kind, name, strict⟩ := Option.bind_eq_some_iff.mp strict
  obtain ⟨rfl, rfl⟩ := Json.tagged?_object tagged (Json.mem_of_lookup_normalMembers type)
  cases name
  refine history?_eq_some strict rfl ?_
  exact List.mem_filter.mpr ⟨Json.mem_of_lookup_normalMembers named, rfl⟩

end Inbound

end StreamingChat.Wire
