import StreamingChat.Proofs.Json.Records
import StreamingChat.Wire.Inbound

/-!
# The parts of frames are read back

The records that stand inside frames, an origin, a report of an agent, a request for consent and a
stored message, are read back from the documents that they are written as.  A stored message is so
unless its timestamp is null, which is what a timestamp that is left out would be read as; none that
was read has such a timestamp.
-/

namespace StreamingChat.Chat

open StreamingChat.Json (Lists)

namespace Origin

theorem lists_members (o : Origin) : Lists fieldNames o.members :=
  ((Lists.optional _ _ _).append (Lists.optional _ _ _)).append (Lists.optional _ _ _)

/-- The members of an origin are texts. -/
theorem forall_mem_members {p : Json → Prop} (text : ∀ s, p (.string s)) (o : Origin) :
    ∀ m ∈ o.members, p m.2 := by
  have optional (name : String) (a : Option String) :
      ∀ m ∈ Json.optionalMember name .string a, p m.2 :=
    Json.forall_mem_optionalMember.mpr fun s _ => text s
  unfold members
  simp only [List.forall_mem_append]
  exact ⟨⟨optional _ _, optional _ _⟩, optional _ _⟩

/-- An origin is read back from its members wherever they stand among others. -/
theorem ofFields?_of_get? {f : Json.Fields} {o : Origin}
    (found : ∀ name ∈ fieldNames, f.get? name = o.members.lookup name) :
    ofFields? f = some o := by
  have mode : f.get? "mode" = o.mode.map .string := by
    rw [found _ (by decide)]
    simp [members, List.lookup_append]
  have agent : f.get? "agentName" = o.agent.map .string := by
    rw [found _ (by decide)]
    simp [members, List.lookup_append]
  have node : f.get? "nodeId" = o.node.map .string := by
    rw [found _ (by decide)]
    simp [members, List.lookup_append]
  rw [ofFields?]
  simp only [Option.bind_eq_bind, Option.bind_some, Json.Fields.optional_string mode,
    Json.Fields.optional_string agent, Json.Fields.optional_string node]
  rfl

end Origin

namespace Activity.Update

/-- A report is read back from its document. -/
theorem ofJson?_json (body : Json.EmptyBody) (u : Update) : ofJson? body u.json = some u := by
  have status : Status.ofName? u.status.name = some u.status := Status.ofName?_name u.status
  have record : u.json.fields? fieldNames = some ⟨[("id", .string u.id),
      ("status", .string u.status.name), ("message", .string u.message)]⟩ := rfl
  rw [ofJson?, record]
  change (some u.id).bind (fun id => (Status.ofName? u.status.name).bind fun status =>
    (some u.message).bind fun message => some ({ id, status, message } : Update)) = some u
  rw [status]
  rfl

end Activity.Update

namespace Approval.Request

def members (r : Request) : List (String × Json) :=
  [("requestId", .string r.id)] ++ ([("toolName", .string r.tool)] ++
    ([("toolArgs", r.args.json)] ++ Json.optionalMember "description" .string r.description))

theorem lists_members (r : Request) : Lists fieldNames r.members :=
  (Lists.member _ _).append ((Lists.member _ _).append
    ((Lists.member _ _).append (Lists.optional _ _ _)))

/-- A request is read back from its document. -/
theorem ofJson?_json (r : Request) : ofJson? r.json = some r := by
  let f : Json.Fields := ⟨r.members⟩
  have record : r.json.fields? fieldNames = some f := r.lists_members.fields? (by decide)
  have id : f.get? "requestId" = some (.string r.id) := rfl
  have tool : f.get? "toolName" = some (.string r.tool) := rfl
  have args : f.get? "toolArgs" = some r.args.json := rfl
  have description : f.get? "description" = r.description.map .string := by
    simp [f, members, Json.Fields.get?, List.lookup_cons]
  rw [ofJson?, record]
  simp only [Option.bind_eq_bind, Option.bind_some, Json.Fields.required_of_get? id,
    Json.Fields.required_of_get? tool, Json.Fields.withDefault_of_get? args,
    Json.Fields.optional_string description, Json.string?, Json.value?_json]
  rfl

theorem integral_json {r : Request} (integral : r.args.json.Integral) : r.json.Integral := by
  refine Json.integral_object.mpr (List.forall_mem_append.mpr ⟨?_, ?_⟩)
  · simp only [List.forall_mem_cons]
    exact ⟨trivial, trivial, integral, List.forall_mem_nil _⟩
  · exact Json.forall_mem_optionalMember.mpr fun _ _ => trivial

theorem depth_json_le {r : Request} {n : Nat} (args : r.args.json.depth ≤ n) :
    r.json.depth ≤ n + 1 := by
  refine Json.depth_object_le.mpr (List.forall_mem_append.mpr ⟨?_, ?_⟩)
  · simp only [List.forall_mem_cons]
    exact ⟨Nat.zero_le _, Nat.zero_le _, args, List.forall_mem_nil _⟩
  · exact (Json.forall_mem_optionalMember (p := (·.depth ≤ n))).mpr fun _ _ => Nat.zero_le _

/-- The arguments of a request nest less deep than the request they were read from. -/
theorem depth_args_le {r : Request} {j : Json} (decodes : ofJson? j = some r) :
    r.args.json.depth + 1 ≤ max j.depth 1 := by
  obtain ⟨f, record, decodes⟩ := Option.bind_eq_some_iff.mp decodes
  obtain ⟨id, -, decodes⟩ := Option.bind_eq_some_iff.mp decodes
  obtain ⟨tool, -, decodes⟩ := Option.bind_eq_some_iff.mp decodes
  obtain ⟨args, given, decodes⟩ := Option.bind_eq_some_iff.mp decodes
  obtain ⟨description, -, decodes⟩ := Option.bind_eq_some_iff.mp decodes
  cases decodes
  exact Json.depth_free_le record given

end Approval.Request

namespace Entry

/-- The members of an entry, those without a value left out. -/
def members (e : Entry) : List (String × Json) :=
  Json.optionalMember "id" .string e.id ++ ([("role", .string e.role.name)] ++
    ([("content", .string e.content)] ++
      (Json.optionalMember "timestamp" Value.json e.timestamp ++ e.origin.members)))

theorem json_eq (e : Entry) : e.json = .object e.members := by
  rw [json, members]
  simp only [List.cons_append, List.nil_append, List.append_assoc]

theorem lists_members (e : Entry) : Lists fieldNames e.members :=
  (Lists.optional _ _ _).append ((Lists.member _ _).append ((Lists.member _ _).append
    ((Lists.optional _ _ _).append e.origin.lists_members)))

/-- An entry is read back from a record with its members unless its timestamp is null. -/
theorem ofJson?_of_get? {e : Entry} {j : Json} {f : Json.Fields}
    (record : j.fields? fieldNames = some f)
    (found : ∀ name, f.get? name = e.members.lookup name)
    (present : ∀ v, e.timestamp = some v → v.json ≠ .null) : ofJson? j = some e := by
  have id : f.get? "id" = e.id.map .string := by
    rw [found]
    simp [members, Origin.members, List.lookup_append, List.lookup_cons]
  have role : f.get? "role" = some (.string e.role.name) := by
    rw [found]
    simp [members, List.lookup_append]
  have content : f.get? "content" = some (.string e.content) := by
    rw [found]
    simp [members, List.lookup_append, List.lookup_cons]
  have timestamp : f.get? "timestamp" = e.timestamp.map Value.json := by
    rw [found]
    simp [members, Origin.members, List.lookup_append, List.lookup_cons]
  have origin : ∀ name ∈ Origin.fieldNames, f.get? name = e.origin.members.lookup name := by
    simp [found, members, Origin.fieldNames, List.lookup_append, List.lookup_cons]
  have time : f.optional "timestamp" Json.value? = some e.timestamp :=
    Json.Fields.optional_of_get? timestamp fun v given => ⟨present v given, Json.value?_json v⟩
  have named : role? (.string e.role.name) = some e.role := Role.ofName?_name e.role
  rw [ofJson?, record]
  simp only [Option.bind_eq_bind, Option.bind_some, Json.Fields.optional_string id,
    Json.Fields.required_of_get? role, Json.Fields.withDefault_of_get? content, time,
    Origin.ofFields?_of_get? origin, Json.string?, named]
  rfl

/-- Every member of an entry is its own normal form. -/
theorem normal_members (e : Entry) : ∀ m ∈ e.members, m.2.normal = m.2 := by
  have optional {α : Type} {name : String} {write : α → Json} {a : Option α}
      (same : ∀ x, a = some x → (write x).normal = write x) :
      ∀ m ∈ Json.optionalMember name write a, m.2.normal = m.2 :=
    (Json.forall_mem_optionalMember (p := fun j => j.normal = j)).mpr same
  simp only [members, List.forall_mem_append, List.forall_mem_singleton]
  exact ⟨optional fun _ _ => rfl, rfl, rfl,
    optional fun v _ => Json.normal_of_canonical v.json v.canonical,
    Origin.forall_mem_members (p := fun j => j.normal = j) (fun _ => rfl) _⟩

/-- An entry is read back from the free-form value of its document unless its timestamp is null. -/
theorem ofValue?_json {e : Entry} (present : ∀ v, e.timestamp = some v → v.json ≠ .null) :
    ofValue? (.ofJson e.json) = some e := by
  obtain ⟨f, record, found⟩ := e.lists_members.fields?_normal (by decide)
  refine ofJson?_of_get? (f := f) ?_ (fun name => ?_) present
  · rw [← record, json_eq]
    rfl
  · rw [found]
    cases written : e.members.lookup name with
    | none => rfl
    | some j => exact congrArg some (e.normal_members _ (Json.mem_of_lookup written))

theorem integral_json {e : Entry} (integral : ∀ v, e.timestamp = some v → v.json.Integral) :
    e.json.Integral := by
  rw [json_eq, Json.integral_object, members]
  simp only [List.forall_mem_append, List.forall_mem_singleton]
  exact ⟨Json.forall_mem_optionalMember.mpr fun _ _ => trivial, trivial, trivial,
    Json.forall_mem_optionalMember.mpr integral, Origin.forall_mem_members (fun _ => trivial) _⟩

theorem depth_json_le {e : Entry} {n : Nat} (time : ∀ v, e.timestamp = some v → v.json.depth ≤ n) :
    e.json.depth ≤ n + 1 := by
  have optional {α : Type} {name : String} {write : α → Json} {a : Option α}
      (shallow : ∀ x, a = some x → (write x).depth ≤ n) :
      ∀ m ∈ Json.optionalMember name write a, m.2.depth ≤ n :=
    (Json.forall_mem_optionalMember (p := (·.depth ≤ n))).mpr shallow
  rw [json_eq, Json.depth_object_le, members]
  simp only [List.forall_mem_append, List.forall_mem_singleton]
  exact ⟨optional fun _ _ => Nat.zero_le _, Nat.zero_le _, Nat.zero_le _, optional time,
    Origin.forall_mem_members (p := (·.depth ≤ n)) (fun _ => Nat.zero_le _) _⟩

/-- The timestamp of an entry that was read is not null, and nests less deep than the entry. -/
theorem timestamp_of_ofJson? {e : Entry} {j : Json} (decodes : ofJson? j = some e) {v : Value}
    (given : e.timestamp = some v) : v.json ≠ .null ∧ v.json.depth < j.depth := by
  obtain ⟨f, record, decodes⟩ := Option.bind_eq_some_iff.mp decodes
  obtain ⟨id, -, decodes⟩ := Option.bind_eq_some_iff.mp decodes
  obtain ⟨role, -, decodes⟩ := Option.bind_eq_some_iff.mp decodes
  obtain ⟨content, -, decodes⟩ := Option.bind_eq_some_iff.mp decodes
  obtain ⟨timestamp, time, decodes⟩ := Option.bind_eq_some_iff.mp decodes
  obtain ⟨origin, -, decodes⟩ := Option.bind_eq_some_iff.mp decodes
  cases decodes
  cases given
  obtain ⟨k, found, present, free⟩ := Json.Fields.optional_eq_some time
  refine ⟨?_, Nat.lt_of_le_of_lt (Json.depth_value?_le free) (Json.depth_get?_lt record found)⟩
  cases free
  cases k with
  | null => exact absurd rfl present
  | bool b => nofun
  | number n => nofun
  | string s => nofun
  | array items => nofun
  | object members => nofun

end Entry

end StreamingChat.Chat
