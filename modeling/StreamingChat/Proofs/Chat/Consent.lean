import StreamingChat.Chat.Run

/-!
# What an approval for good rests on

Requests are shown, answered, and dropped with their session.  A request that can be answered is the
last one that was shown under its id, and a tool that is approved without asking was approved for
good under such a request, all in the same session.  Each occurrence keeps this.
-/

namespace StreamingChat.Chat.Approval

/-- What happens to the requests of a session. -/
inductive Occurrence where
  /-- A request became the visible one. -/
  | surfaced (request : Request)
  /-- An answer was sent. -/
  | answered (id : String) (approved remember : Bool)
  /-- The session was switched. -/
  | switched

/-- Whether the request last shown under an id stays that. -/
def Occurrence.Spares (id : String) : Occurrence → Prop
  | surfaced request => request.id ≠ id
  | answered .. => True
  | switched => False

/-- In the session that is current after some occurrences, the request last shown under an id is for
a tool. -/
def LastShown (id tool : String) (events : List Occurrence) : Prop :=
  ∃ before request since, events = before ++ .surfaced request :: since ∧
    request.id = id ∧ request.tool = tool ∧ ∀ event ∈ since, event.Spares id

/-- In the session that is current after some occurrences, a tool was approved for good, by an
answer to an id whose last shown request was for that tool. -/
def Consented (tool : String) (events : List Occurrence) : Prop :=
  ∃ before id since, events = before ++ .answered id true true :: since ∧
    LastShown id tool before ∧ .switched ∉ since

variable {id tool : String} {events : List Occurrence}

theorem LastShown.concat (shown : LastShown id tool events) {event : Occurrence}
    (spares : event.Spares id) : LastShown id tool (events ++ [event]) := by
  obtain ⟨before, request, since, rfl, named, wanted, spared⟩ := shown
  refine ⟨before, request, since ++ [event], ?_, named, wanted, ?_⟩
  · rw [List.append_assoc, List.cons_append]
  · intro later member
    rcases List.mem_append.mp member with old | new
    · exact spared later old
    · rw [List.mem_singleton.mp new]
      exact spares

theorem lastShown_concat_surfaced (request : Request) (events : List Occurrence) :
    LastShown request.id request.tool (events ++ [.surfaced request]) :=
  ⟨events, request, [], rfl, rfl, rfl, fun _ member => by cases member⟩

theorem Consented.concat (consented : Consented tool events) {event : Occurrence}
    (stays : event ≠ .switched) : Consented tool (events ++ [event]) := by
  obtain ⟨before, id, since, rfl, shown, kept⟩ := consented
  refine ⟨before, id, since ++ [event], ?_, shown, ?_⟩
  · rw [List.append_assoc, List.cons_append]
  · intro member
    rcases List.mem_append.mp member with old | new
    · exact kept old
    · exact stays (List.mem_singleton.mp new).symm

theorem LastShown.consented (shown : LastShown id tool events) :
    Consented tool (events ++ [.answered id true true]) :=
  ⟨events, id, [], rfl, shown, fun member => by cases member⟩

namespace Gate

/-- A gate once a request is the visible one. -/
def surface (g : Gate) (r : Request) : Gate :=
  { g with pending := some r, outstanding := enqueue g.outstanding ⟨r.id, r.tool⟩ }

def after (g : Gate) : Occurrence → Gate
  | .surfaced request => g.surface request
  | .answered id approved remember => g.resolve id approved remember
  | .switched => g.reset

/-- What a gate holds rests on what has happened, and the visible request can be answered. -/
structure RestsOn (g : Gate) (events : List Occurrence) : Prop where
  outstanding : ∀ o ∈ g.outstanding, LastShown o.id o.tool events
  remembered : ∀ tool ∈ g.remembered, Consented tool events
  pending : ∀ r, g.pending = some r → g.toolOf? r.id = some r.tool

variable {g : Gate}

theorem offer_of_remembered {r : Request} (remembered : g.isRemembered r.tool = true) :
    g.offer r = (g, .approved r.id) := by
  rw [offer, if_pos remembered]

theorem offer_of_not_remembered {r : Request} (unknown : g.isRemembered r.tool = false) :
    g.offer r = (g.surface r, .surfaced) := by
  rw [offer, unknown, if_neg Bool.false_ne_true]
  rfl

/-- A queued request is the last one, and those before it were queued under other ids. -/
theorem sublist_enqueue (queue : List Outstanding) (new : Outstanding) :
    ∃ front, enqueue queue new = front ++ [new] ∧
      front.Sublist (queue.filter (·.id != new.id)) := by
  refine ⟨_, rfl, ?_⟩
  split
  · exact List.drop_sublist 1 _
  · exact .refl _

/-- So those before it have other ids. -/
theorem enqueue_shape (queue : List Outstanding) (new : Outstanding) :
    ∃ front, enqueue queue new = front ++ [new] ∧ ∀ o ∈ front, o ∈ queue ∧ o.id ≠ new.id := by
  obtain ⟨front, shape, others⟩ := sublist_enqueue queue new
  refine ⟨front, shape, ?_⟩
  intro o member
  obtain ⟨queued, other⟩ := List.mem_filter.mp (others.subset member)
  exact ⟨queued, bne_iff_ne.mp other⟩

theorem toolOf?_surface (g : Gate) (r : Request) : (g.surface r).toolOf? r.id = some r.tool := by
  obtain ⟨front, shape, others⟩ := enqueue_shape g.outstanding ⟨r.id, r.tool⟩
  have passed : front.find? (·.id == r.id) = none := by
    refine List.find?_eq_none.mpr ?_
    intro o member same
    exact (others o member).2 (eq_of_beq same)
  have found : [(⟨r.id, r.tool⟩ : Outstanding)].find? (·.id == r.id) = some ⟨r.id, r.tool⟩ :=
    List.find?_cons_of_pos (beq_self_eq_true r.id)
  rw [toolOf?, surface, shape, List.find?_append, passed, found]
  rfl

/-- An answer leaves the requests with other ids as they are. -/
theorem toolOf?_resolve {other : String} (differs : other ≠ id) (g : Gate)
    (approved remember : Bool) :
    (g.resolve id approved remember).toolOf? other = g.toolOf? other := by
  unfold toolOf? resolve
  simp only
  induction g.outstanding with
  | nil => rfl
  | cons o rest ih =>
      cases answered : o.id == id with
      | true =>
          have passed : (o.id == other) = false := by
            rw [eq_of_beq answered]
            exact beq_eq_false_iff_ne.mpr (Ne.symm differs)
          simp only [List.eraseP_cons, answered, List.find?_cons, passed, cond_true]
      | false =>
          simp only [List.eraseP_cons, answered, List.find?_cons, cond_false]
          cases o.id == other with
          | true => rfl
          | false => exact ih

/-- An answer that approves a request for good makes its tool a remembered one. -/
theorem isRemembered_resolve (named : g.toolOf? id = some tool) :
    (g.resolve id true true).isRemembered tool = true := by
  have remembered : (g.resolve id true true).remembered =
      if g.isRemembered tool then g.remembered else tool :: g.remembered := by
    simp only [resolve, named, Bool.and_self]
  have member : tool ∈ (g.resolve id true true).remembered := by
    rw [remembered]
    cases known : g.isRemembered tool with
    | true => exact List.contains_iff_mem.mp known
    | false => exact List.mem_cons_self
  exact List.contains_iff_mem.mpr member

/-- The tools remembered after an answer are those of before and, if it approves for good, that of
the request it answers. -/
theorem mem_remembered_resolve {approved remember : Bool}
    (member : tool ∈ (g.resolve id approved remember).remembered) :
    tool ∈ g.remembered ∨
      approved = true ∧ remember = true ∧ ∃ o ∈ g.outstanding, o.id = id ∧ o.tool = tool := by
  unfold resolve at member
  simp only at member
  split at member
  · next answer found consent named =>
    split at member
    · exact .inl member
    · rcases List.mem_cons.mp member with rfl | old
      · obtain ⟨o, first, rfl⟩ := Option.map_eq_some_iff.mp named
        obtain ⟨yes, good⟩ := Bool.and_eq_true_iff.mp consent
        have same := List.find?_some first
        exact .inr ⟨yes, good, o, List.mem_of_find?_eq_some first, eq_of_beq same, rfl⟩
      · exact .inl old
  · exact .inl member

theorem restsOn_surface (rests : g.RestsOn events) (r : Request) :
    (g.surface r).RestsOn (events ++ [.surfaced r]) where
  outstanding := by
    intro o member
    obtain ⟨front, shape, others⟩ := enqueue_shape g.outstanding ⟨r.id, r.tool⟩
    change o ∈ enqueue g.outstanding ⟨r.id, r.tool⟩ at member
    rw [shape] at member
    rcases List.mem_append.mp member with old | new
    · obtain ⟨queued, other⟩ := others o old
      exact (rests.outstanding o queued).concat (Ne.symm other)
    · rw [List.mem_singleton.mp new]
      exact lastShown_concat_surfaced r events
  remembered := by
    intro tool member
    exact (rests.remembered tool member).concat (by intro same; cases same)
  pending := by
    intro request visible
    cases visible
    exact toolOf?_surface g r

theorem restsOn_resolve (rests : g.RestsOn events) (id : String) (approved remember : Bool) :
    (g.resolve id approved remember).RestsOn (events ++ [.answered id approved remember]) where
  outstanding := by
    intro o member
    exact (rests.outstanding o (List.mem_of_mem_eraseP member)).concat trivial
  remembered := by
    intro tool member
    rcases mem_remembered_resolve member with old | ⟨rfl, rfl, o, waits, rfl, rfl⟩
    · exact (rests.remembered tool old).concat (by intro same; cases same)
    · exact (rests.outstanding o waits).consented
  pending := by
    intro request visible
    obtain ⟨before, other⟩ := Option.filter_eq_some_iff.mp visible
    rw [toolOf?_resolve (bne_iff_ne.mp other)]
    exact rests.pending request before

theorem restsOn_reset (g : Gate) (events : List Occurrence) : g.reset.RestsOn events where
  outstanding := by
    intro o member
    cases member
  remembered := by
    intro tool member
    cases member
  pending := by
    intro request visible
    cases visible

/-- One occurrence more keeps a gate resting on what has happened. -/
theorem RestsOn.after (rests : g.RestsOn events) (event : Occurrence) :
    (g.after event).RestsOn (events ++ [event]) := by
  cases event with
  | surfaced request => exact restsOn_surface rests request
  | answered id approved remember => exact restsOn_resolve rests id approved remember
  | switched => exact restsOn_reset g _

/-- A tool stays remembered until the session is switched. -/
theorem isRemembered_after (remembered : g.isRemembered tool = true) {event : Occurrence}
    (stays : event ≠ .switched) : (g.after event).isRemembered tool = true := by
  cases event with
  | surfaced request => exact remembered
  | answered id approved remember =>
      have kept : tool ∈ (g.resolve id approved remember).remembered := by
        unfold resolve
        simp only
        split
        · split
          · exact List.contains_iff_mem.mp remembered
          · exact List.mem_cons_of_mem _ (List.contains_iff_mem.mp remembered)
        · exact List.contains_iff_mem.mp remembered
      exact List.contains_iff_mem.mpr kept
  | switched => exact absurd rfl stays

end Gate

end StreamingChat.Chat.Approval

namespace StreamingChat.Chat.State

open StreamingChat.Calendar (Moment)
open StreamingChat.Wire

/-- The request that a text makes visible. -/
def shown? (s : State) (text : String) : Option Approval.Request :=
  match Inbound.read? text with
  | some (.confirmation request) =>
    if (s.gate.offer request).2 = .surfaced then some request else none
  | _ => none

/-- What an input means for the requests of the session. -/
def occurrence? (s : State) : Input → Option Approval.Occurrence
  | .received text => (s.shown? text).map .surfaced
  | .answered id approved remember => some (.answered id approved remember)
  | .switched _ _ => some .switched
  | _ => none

variable (s : State)

theorem gate_offer (request : Approval.Request) :
    (s.offer request).1.gate = (s.gate.offer request).1 := by
  unfold offer
  split
  · next offered => rw [offered]; rfl
  · next offered => rw [offered]

theorem receive_of_confirmation {text : String} {request : Approval.Request}
    (asks : Inbound.read? text = some (.confirmation request)) (now : Moment) :
    s.receive text now = s.offer request := by
  unfold receive
  rw [asks]
  rfl

/-- A text that is no request leaves the gate alone and is not answered. -/
theorem receive_of_other {text : String}
    (other : ∀ request, Inbound.read? text ≠ some (.confirmation request)) (now : Moment) :
    (s.receive text now).1.gate = s.gate ∧
      ∀ id approved, .send (.answer id approved) ∉ (s.receive text now).2 := by
  unfold receive
  cases read : Inbound.read? text with
  | none => exact ⟨rfl, fun _ _ => List.not_mem_nil⟩
  | some frame =>
      cases frame with
      | confirmation request => exact absurd read (other request)
      | history entries session =>
          simp only [dispatch]
          split
          · exact ⟨rfl, fun _ _ => List.not_mem_nil⟩
          · exact ⟨rfl, fun _ _ => List.not_mem_nil⟩
      | chunk text origin =>
          cases text with
          | none => exact ⟨rfl, fun _ _ => List.not_mem_nil⟩
          | some text => exact ⟨rfl, fun _ _ => List.not_mem_nil⟩
      | downloadProgress data =>
          refine ⟨rfl, ?_⟩
          intro id approved answer
          cases List.mem_singleton.mp answer
      | done => exact ⟨rfl, fun _ _ => List.not_mem_nil⟩
      | stopped => exact ⟨rfl, fun _ _ => List.not_mem_nil⟩
      | status => exact ⟨rfl, fun _ _ => List.not_mem_nil⟩
      | error message => exact ⟨rfl, fun _ _ => List.not_mem_nil⟩
      | stats data => exact ⟨rfl, fun _ _ => List.not_mem_nil⟩
      | searchResults data => exact ⟨rfl, fun _ _ => List.not_mem_nil⟩
      | activity update => exact ⟨rfl, fun _ _ => List.not_mem_nil⟩
      | sessionChanged session => exact ⟨rfl, fun _ _ => List.not_mem_nil⟩
      | unknown => exact ⟨rfl, fun _ _ => List.not_mem_nil⟩

theorem gate_receive (text : String) (now : Moment) :
    (s.receive text now).1.gate =
      ((s.shown? text).map .surfaced).elim s.gate s.gate.after := by
  by_cases asked : ∃ request, Inbound.read? text = some (.confirmation request)
  · obtain ⟨request, asks⟩ := asked
    rw [receive_of_confirmation s asks, gate_offer, shown?, asks]
    cases remembered : s.gate.isRemembered request.tool with
    | true =>
        have offered := Approval.Gate.offer_of_remembered remembered
        simp only [offered, reduceCtorEq, if_false]
        rfl
    | false =>
        have offered := Approval.Gate.offer_of_not_remembered remembered
        simp only [offered, if_true]
        rfl
  · have other : ∀ request, Inbound.read? text ≠ some (.confirmation request) :=
      fun request asks => asked ⟨request, asks⟩
    have silent : s.shown? text = none := by
      unfold shown?
      split
      · next request asks => exact absurd asks (other request)
      · rfl
    rw [silent]
    exact (receive_of_other s other now).1

theorem gate_flushDue (now : Moment) : (s.flushDue now).gate = s.gate := by
  unfold flushDue
  split
  · rfl
  · rfl

theorem gate_takeChanges : s.takeChanges.1.gate = s.gate := by
  unfold takeChanges
  split
  · rfl
  · rfl

/-- The gate changes only by what an input means for it. -/
theorem gate_step (input : Input) (now : Moment) :
    (s.step input now).1.gate = (s.occurrence? input).elim s.gate s.gate.after := by
  cases input with
  | received text => exact gate_receive s text now
  | flushDue => exact gate_flushDue s now
  | opened => rfl
  | disconnected => rfl
  | ended => rfl
  | turn content => rfl
  | switched session connected => rfl
  | answered request approved remember => rfl
  | takeChanges => exact gate_takeChanges s

variable {s} {text : String} {request : Approval.Request}

/-- A request for a remembered tool has one effect, its approval, and changes nothing. -/
theorem receive_of_remembered (asks : Inbound.read? text = some (.confirmation request))
    (remembered : s.gate.isRemembered request.tool = true) (now : Moment) :
    s.receive text now = (s, [.send (.answer request.id true)]) := by
  rw [receive_of_confirmation s asks, offer, Approval.Gate.offer_of_remembered remembered]

/-- A text is answered only if it is a request for a remembered tool, and only by approval. -/
theorem remembered_of_answer {id : String} {approved : Bool} {now : Moment}
    (answer : .send (.answer id approved) ∈ (s.receive text now).2) :
    approved = true ∧ ∃ request, Inbound.read? text = some (.confirmation request) ∧
      request.id = id ∧ s.gate.isRemembered request.tool = true := by
  by_cases asked : ∃ request, Inbound.read? text = some (.confirmation request)
  · obtain ⟨request, asks⟩ := asked
    rw [receive_of_confirmation s asks] at answer
    cases remembered : s.gate.isRemembered request.tool with
    | true =>
        rw [offer, Approval.Gate.offer_of_remembered remembered] at answer
        cases List.mem_singleton.mp answer
        exact ⟨rfl, request, asks, rfl, remembered⟩
    | false =>
        rw [offer, Approval.Gate.offer_of_not_remembered remembered] at answer
        cases answer
  · have other : ∀ request, Inbound.read? text ≠ some (.confirmation request) :=
      fun request asks => asked ⟨request, asks⟩
    exact absurd answer ((receive_of_other s other now).2 id approved)

end StreamingChat.Chat.State
