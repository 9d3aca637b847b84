import StreamingChat.Proofs.Json.RoundTrip
import StreamingChat.Proofs.Wire.Parts

/-!
# The normal form of received frames

A frame that was read in any notation is written in one: an object with the type first, the fields
in their order, those without a value left out.  What was written in this form is read as the same
frame again, and so is a stored message.
-/

namespace StreamingChat

open StreamingChat.Json (Lists)

namespace Chat.Entry

/-- The text that an entry is written as. -/
def render (e : Entry) : String :=
  e.json.render

end Chat.Entry

namespace Wire.Inbound

open StreamingChat.Chat

/-- What a frame carries in free form. -/
def values : Inbound → List Value
  | stats data | downloadProgress data => [data]
  | searchResults data => data
  | confirmation request => [request.args]
  | history entries _ => entries
  | chunk .. | done | stopped | status | error _ | activity _ | sessionChanged _ | unknown => []

/-- The text that a frame is written as. -/
def render (f : Inbound) : String :=
  f.json.render

/-- The names of the fields of a frame, in their order. -/
def fieldNames : Inbound → List String
  | chunk .. => ["message"] ++ Origin.fieldNames
  | error _ => ["message"]
  | stats _ | downloadProgress _ | searchResults _ | activity _ | confirmation _ => ["data"]
  | history .. => ["messages"] ++ ["sessionId"]
  | sessionChanged _ => ["sessionId"]
  | done | stopped | status | unknown => []

theorem lists_members (f : Inbound) : Lists f.fieldNames f.members := by
  cases f with
  | chunk text origin => exact (Lists.optional _ _ _).append origin.lists_members
  | error message => exact .optional _ _ _
  | history entries session => exact (Lists.member _ _).append (.optional _ _ _)
  | stats data => exact .member _ _
  | downloadProgress data => exact .member _ _
  | searchResults data => exact .member _ _
  | activity update => exact .member _ _
  | confirmation request => exact .member _ _
  | sessionChanged session => exact .member _ _
  | done => exact .refl _
  | stopped => exact .refl _
  | status => exact .refl _
  | unknown => exact .refl _

theorem nodup_fieldNames (f : Inbound) : f.fieldNames.Nodup := by
  cases f <;> simp [fieldNames, Origin.fieldNames]

/-- No field is named as the type is. -/
theorem type_not_mem_fieldNames (f : Inbound) : "type" ∉ f.fieldNames := by
  cases f <;> simp [fieldNames, Origin.fieldNames]

theorem chunk?_members (text : Option String) (origin : Origin) :
    chunk? (.object (chunk text origin).members) = some (chunk text origin) := by
  let f : Json.Fields := ⟨(chunk text origin).members⟩
  have record : Json.fields? ("message" :: Origin.fieldNames) (.object f.present) = some f :=
    (chunk text origin).lists_members.fields? (nodup_fieldNames _)
  have message : f.get? "message" = text.map .string := by
    simp [f, members, Origin.members, Json.Fields.get?, List.lookup_append]
  have known : ∀ name ∈ Origin.fieldNames, f.get? name = origin.members.lookup name := by
    simp [f, members, Origin.fieldNames, Json.Fields.get?, List.lookup_append]
  rw [chunk?, record]
  simp only [Option.bind_eq_bind, Option.bind_some, Json.Fields.optional_string message,
    Origin.ofFields?_of_get? known]
  rfl

theorem error?_members (message : Option String) :
    error? (.object (error message).members) = some (error message) := by
  let f : Json.Fields := ⟨(error message).members⟩
  have record : Json.fields? ["message"] (.object f.present) = some f :=
    (error message).lists_members.fields? (nodup_fieldNames _)
  have found : f.get? "message" = message.map .string := by
    simp [f, members, Json.Fields.get?]
  rw [error?, record]
  simp only [Option.bind_eq_bind, Option.bind_some, Json.Fields.optional_string found]
  rfl

theorem history?_members (entries : List Value) (session : Option String) :
    history? (.object (history entries session).members) = some (history entries session) := by
  let f : Json.Fields := ⟨(history entries session).members⟩
  have record : Json.fields? ["messages", "sessionId"] (.object f.present) = some f :=
    (history entries session).lists_members.fields? (nodup_fieldNames _)
  have messages : f.get? "messages" = some (Json.ofValues entries) := rfl
  have named : f.get? "sessionId" = session.map .string := by
    simp [f, members, Json.Fields.get?, List.lookup_cons]
  rw [history?, record]
  simp only [Option.bind_eq_bind, Option.bind_some, Json.Fields.withDefault_of_get? messages,
    Json.values?_ofValues, Json.Fields.optional_string named]
  rfl

/-- A frame is read back from its type and its members. -/
theorem ofBody?_members (f : Inbound) : ofBody? f.kind (.object f.members) = some f := by
  cases f with
  | chunk text origin => exact chunk?_members text origin
  | error message => exact error?_members message
  | history entries session => exact history?_members entries session
  | stats data => exact congrArg (fun v => some (stats v)) data.ofJson_json
  | downloadProgress data => exact congrArg (fun v => some (downloadProgress v)) data.ofJson_json
  | searchResults data =>
      change (Json.values? (Json.ofValues data)).bind (fun data => some (searchResults data)) = _
      rw [Json.values?_ofValues]
      rfl
  | activity update =>
      change (Activity.Update.ofJson? .nullOrObject update.json).bind
        (fun update => some (activity update)) = _
      rw [Activity.Update.ofJson?_json]
      rfl
  | confirmation request =>
      change (Approval.Request.ofJson? request.json).bind
        (fun request => some (confirmation request)) = _
      rw [Approval.Request.ofJson?_json]
      rfl
  | sessionChanged session => rfl
  | done => rfl
  | stopped => rfl
  | status => rfl
  | unknown => rfl

/-- A frame is read back from its document. -/
theorem ofJson?_json (f : Inbound) : ofJson? f.json = some f := by
  rw [ofJson?, json, f.lists_members.tagged? f.type_not_mem_fieldNames]
  exact f.ofBody?_members

/-! ## Free-form values within a frame -/

theorem integral_json {f : Inbound} (integral : ∀ v ∈ f.values, v.json.Integral) :
    f.json.Integral := by
  have optional (name : String) (a : Option String) :
      ∀ m ∈ Json.optionalMember name .string a, m.2.Integral :=
    Json.forall_mem_optionalMember.mpr fun _ _ => trivial
  refine Json.integral_object.mpr (List.forall_mem_cons.mpr ⟨trivial, ?_⟩)
  cases f with
  | chunk text origin =>
      exact List.forall_mem_append.mpr
        ⟨optional _ _, Origin.forall_mem_members (fun _ => trivial) _⟩
  | error message => exact optional _ _
  | stats data => exact List.forall_mem_singleton.mpr (integral data List.mem_cons_self)
  | downloadProgress data =>
      exact List.forall_mem_singleton.mpr (integral data List.mem_cons_self)
  | searchResults data => exact List.forall_mem_singleton.mpr (Json.integral_ofValues integral)
  | activity update => exact List.forall_mem_singleton.mpr ⟨trivial, trivial, trivial, trivial⟩
  | confirmation request =>
      exact List.forall_mem_singleton.mpr
        (Approval.Request.integral_json (integral request.args List.mem_cons_self))
  | history entries session =>
      exact List.forall_mem_cons.mpr ⟨Json.integral_ofValues integral, optional _ _⟩
  | sessionChanged session => exact List.forall_mem_singleton.mpr trivial
  | done => exact List.forall_mem_nil _
  | stopped => exact List.forall_mem_nil _
  | status => exact List.forall_mem_nil _
  | unknown => exact List.forall_mem_nil _

/-- How many containers stand around what a frame carries in free form. -/
def level : Inbound → Nat
  | stats _ | downloadProgress _ => 1
  | _ => 2

theorem depth_json_le {f : Inbound} {n : Nat}
    (shallow : ∀ v ∈ f.values, v.json.depth + f.level ≤ n + 2) : f.json.depth ≤ n + 2 := by
  have optional (name : String) (a : Option String) :
      ∀ m ∈ Json.optionalMember name .string a, m.2.depth ≤ n + 1 :=
    (Json.forall_mem_optionalMember (p := (·.depth ≤ n + 1))).mpr fun _ _ => Nat.zero_le _
  refine Json.depth_object_le.mpr (List.forall_mem_cons.mpr ⟨Nat.zero_le _, ?_⟩)
  cases f with
  | chunk text origin =>
      have known : ∀ m ∈ origin.members, m.2.depth ≤ n + 1 :=
        Origin.forall_mem_members (p := (·.depth ≤ n + 1)) (fun _ => Nat.zero_le _) _
      exact List.forall_mem_append.mpr ⟨optional _ _, known⟩
  | error message => exact optional _ _
  | stats data =>
      exact List.forall_mem_singleton.mpr
        (Nat.le_of_succ_le_succ (shallow data List.mem_cons_self))
  | downloadProgress data =>
      exact List.forall_mem_singleton.mpr
        (Nat.le_of_succ_le_succ (shallow data List.mem_cons_self))
  | searchResults data =>
      refine List.forall_mem_singleton.mpr (Json.depth_ofValues_le fun v member => ?_)
      exact Nat.le_of_add_le_add_right (shallow v member)
  | activity update => exact List.forall_mem_singleton.mpr (Nat.le_add_left 1 n)
  | confirmation request =>
      exact List.forall_mem_singleton.mpr
        (Approval.Request.depth_json_le
          (Nat.le_of_add_le_add_right (shallow request.args List.mem_cons_self)))
  | history entries session =>
      refine List.forall_mem_cons.mpr
        ⟨Json.depth_ofValues_le fun v member => ?_, optional _ _⟩
      exact Nat.le_of_add_le_add_right (shallow v member)
  | sessionChanged session => exact List.forall_mem_singleton.mpr (Nat.zero_le _)
  | done => exact List.forall_mem_nil _
  | stopped => exact List.forall_mem_nil _
  | status => exact List.forall_mem_nil _
  | unknown => exact List.forall_mem_nil _

/-- What a frame carries in free form comes from as deep in a body as it is written in the frame. -/
def ComesFrom (f : Inbound) (body : Json) : Prop :=
  ∀ v ∈ f.values, v.json.depth + f.level ≤ max body.depth 2

section

variable {body : Json} {f : Inbound}

theorem comesFrom_of_values_eq_nil (nothing : f.values = []) : f.ComesFrom body := by
  intro v member
  rw [nothing] at member
  cases member

theorem comesFrom_of_noFields? {g : Inbound} (nothing : g.values = [])
    (decodes : (body.noFields?.map fun _ => g) = some f) : f.ComesFrom body := by
  obtain ⟨-, -, rfl⟩ := Option.map_eq_some_iff.mp decodes
  exact comesFrom_of_values_eq_nil nothing

theorem comesFrom_of_chunk? (decodes : chunk? body = some f) : f.ComesFrom body := by
  obtain ⟨g, -, decodes⟩ := Option.bind_eq_some_iff.mp decodes
  obtain ⟨text, -, decodes⟩ := Option.bind_eq_some_iff.mp decodes
  obtain ⟨origin, -, decodes⟩ := Option.bind_eq_some_iff.mp decodes
  cases decodes
  exact comesFrom_of_values_eq_nil rfl

theorem comesFrom_of_error? (decodes : error? body = some f) : f.ComesFrom body := by
  obtain ⟨g, -, decodes⟩ := Option.bind_eq_some_iff.mp decodes
  obtain ⟨message, -, decodes⟩ := Option.bind_eq_some_iff.mp decodes
  cases decodes
  exact comesFrom_of_values_eq_nil rfl

theorem comesFrom_of_history? (decodes : history? body = some f) : f.ComesFrom body := by
  obtain ⟨g, record, decodes⟩ := Option.bind_eq_some_iff.mp decodes
  obtain ⟨entries, given, decodes⟩ := Option.bind_eq_some_iff.mp decodes
  obtain ⟨session, -, decodes⟩ := Option.bind_eq_some_iff.mp decodes
  cases decodes
  intro v member
  exact Nat.le_trans (Json.depth_listed_le record given v member) (Nat.le_max_left _ _)

theorem comesFrom_of_sessionChanged? (decodes : sessionChanged? body = some f) :
    f.ComesFrom body := by
  obtain ⟨g, -, decodes⟩ := Option.bind_eq_some_iff.mp decodes
  obtain ⟨session, -, decodes⟩ := Option.bind_eq_some_iff.mp decodes
  cases decodes
  exact comesFrom_of_values_eq_nil rfl

variable {g : Json.Fields} (record : data? body = some g)

include record

/-- One value of its own, for statistics and the progress of a download. -/
theorem comesFrom_of_free {data : Value}
    (given : g.withDefault "data" .null Json.value? = some data) :
    (stats data).ComesFrom body ∧ (downloadProgress data).ComesFrom body := by
  have shallow := Json.depth_free_le record given
  have both : ∀ v ∈ [data], v.json.depth + 1 ≤ max body.depth 2 := by
    refine List.forall_mem_singleton.mpr ?_
    omega
  exact ⟨both, both⟩

theorem comesFrom_of_request {request : Approval.Request}
    (given : g.required "data" Approval.Request.ofJson? = some request) :
    (confirmation request).ComesFrom body := by
  obtain ⟨k, found, asked⟩ := Json.Fields.required_eq_some given
  have inner := Json.depth_get?_lt record found
  have args := Approval.Request.depth_args_le asked
  refine List.forall_mem_singleton.mpr ?_
  change request.args.json.depth + 2 ≤ _
  omega

end

theorem comesFrom_of_ofBody? {type : String} {body : Json} {f : Inbound}
    (decodes : ofBody? type body = some f) : f.ComesFrom body := by
  unfold ofBody? at decodes
  -- One case for each type, in the order of the reader, and one for those that are not known.
  split at decodes
  · exact comesFrom_of_chunk? decodes
  · exact comesFrom_of_noFields? rfl decodes
  · exact comesFrom_of_noFields? rfl decodes
  · exact comesFrom_of_noFields? rfl decodes
  · exact comesFrom_of_error? decodes
  · obtain ⟨g, record, decodes⟩ := Option.bind_eq_some_iff.mp decodes
    obtain ⟨data, given, decodes⟩ := Option.bind_eq_some_iff.mp decodes
    cases decodes
    exact (comesFrom_of_free record given).1
  · obtain ⟨g, record, decodes⟩ := Option.bind_eq_some_iff.mp decodes
    obtain ⟨data, given, decodes⟩ := Option.bind_eq_some_iff.mp decodes
    cases decodes
    intro v member
    exact Nat.le_trans (Json.depth_listed_le record given v member) (Nat.le_max_left _ _)
  · obtain ⟨g, -, decodes⟩ := Option.bind_eq_some_iff.mp decodes
    obtain ⟨update, -, decodes⟩ := Option.bind_eq_some_iff.mp decodes
    cases decodes
    exact comesFrom_of_values_eq_nil rfl
  · obtain ⟨g, record, decodes⟩ := Option.bind_eq_some_iff.mp decodes
    obtain ⟨request, given, decodes⟩ := Option.bind_eq_some_iff.mp decodes
    cases decodes
    exact comesFrom_of_request record given
  · exact comesFrom_of_history? decodes
  · exact comesFrom_of_sessionChanged? decodes
  · obtain ⟨g, record, decodes⟩ := Option.bind_eq_some_iff.mp decodes
    obtain ⟨data, given, decodes⟩ := Option.bind_eq_some_iff.mp decodes
    cases decodes
    exact (comesFrom_of_free record given).2
  · exact comesFrom_of_noFields? rfl decodes

theorem comesFrom_of_ofJson? {j : Json} {f : Inbound} (decodes : ofJson? j = some f) :
    f.ComesFrom j := by
  obtain ⟨⟨tag, body⟩, tagged, decodes⟩ := Option.bind_eq_some_iff.mp decodes
  obtain ⟨type, -, decodes⟩ := Option.bind_eq_some_iff.mp decodes
  have inner := Json.depth_tagged?_le tagged
  intro v member
  have shallow := comesFrom_of_ofBody? decodes v member
  omega

/-- The frames a reader accepts have a stable normal form: a frame that was read from a text, in
whatever notation, and holds no double is read again from the text it is written as.  The same holds
of every stored message that is decoded from a value, be the value a text of its own or an entry of
a history. -/
theorem normal_form_stable (text : String) :
    (∀ f, read? text = some f → (∀ v ∈ f.values, v.json.Integral) →
      read? f.render = some f) ∧
    ∀ v, (Value.read? text = some v ∨
        ∃ entries session, read? text = some (history entries session) ∧ v ∈ entries) →
      ∀ e, Entry.ofValue? v = some e → (∀ t, e.timestamp = some t → t.json.Integral) →
        (Value.read? e.render).bind Entry.ofValue? = some e := by
  constructor
  · intro f decodes integral
    obtain ⟨j, document, decodes⟩ := Option.bind_eq_some_iff.mp decodes
    have deepest := Json.depth_le_of_read? document
    have nested : f.json.depth ≤ Json.maxDepth := by
      refine depth_json_le (n := 125) fun v member => ?_
      have shallow := comesFrom_of_ofJson? decodes v member
      unfold Json.maxDepth at deepest
      omega
    rw [read?, render, Json.read?_render (integral_json integral) nested]
    exact ofJson?_json f
  · intro v source e decodes integral
    have nested : v.json.depth ≤ Json.maxDepth := by
      rcases source with free | ⟨entries, session, framed, member⟩
      · obtain ⟨j, document, rfl⟩ := Option.map_eq_some_iff.mp free
        exact Nat.le_trans (Json.depth_normal_le j) (Json.depth_le_of_read? document)
      · obtain ⟨j, document, framed⟩ := Option.bind_eq_some_iff.mp framed
        have shallow := comesFrom_of_ofJson? framed v member
        have deepest := Json.depth_le_of_read? document
        unfold Json.maxDepth at *
        omega
    have time (t : Value) (given : e.timestamp = some t) := Entry.timestamp_of_ofJson? decodes given
    have shallow : e.json.depth ≤ Json.maxDepth :=
      Entry.depth_json_le (n := 126) fun t given =>
        Nat.le_of_lt_succ (Nat.lt_of_lt_of_le (time t given).2 nested)
    rw [Value.read?, Entry.render, Json.read?_render (Entry.integral_json integral) shallow]
    exact Entry.ofValue?_json fun t given => (time t given).1

/-- A history in which the frame and its one entry are written as lists. -/
def listed : String :=
  "[\"history\",[[null,\"user\",\"a\",[1],null,\"Planner\"]],\"default\"]"

/-- The entry of that history, as it is written in the frame. -/
def listedValue : Value :=
  .ofJson (.array [.null, .string "user", .string "a", .array [Json.ofInt 1], .null,
    .string "Planner"])

def listedEntry : Entry where
  id := none
  role := .user
  content := "a"
  timestamp := some (.ofJson (.array [Json.ofInt 1]))
  origin := { agent := some "Planner" }

theorem normal_form_stable_of_listed :
    read? listed = some (history [listedValue] (some "default")) ∧
      read? (history [listedValue] (some "default")).render =
        some (history [listedValue] (some "default")) ∧
      Entry.ofValue? listedValue = some listedEntry ∧
      (Value.read? listedEntry.render).bind Entry.ofValue? = some listedEntry := by
  have decodes : read? listed = some (history [listedValue] (some "default")) := rfl
  have entry : Entry.ofValue? listedValue = some listedEntry := rfl
  obtain ⟨frames, entries⟩ := normal_form_stable listed
  have integral : ∀ v ∈ [listedValue], v.json.Integral :=
    List.forall_mem_singleton.mpr ⟨trivial, trivial, trivial, ⟨trivial, trivial⟩, trivial, trivial,
      trivial⟩
  have time : ∀ t, listedEntry.timestamp = some t → t.json.Integral := by
    intro t given
    cases given
    exact ⟨trivial, trivial⟩
  have member : ∃ values session, read? listed = some (history values session) ∧
      listedValue ∈ values := ⟨_, _, decodes, List.mem_cons_self⟩
  exact ⟨decodes, frames _ decodes integral, entry, entries _ (.inr member) _ entry time⟩

end Wire.Inbound

end StreamingChat
