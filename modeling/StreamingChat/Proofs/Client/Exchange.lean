import StreamingChat.Proofs.Client.Counting

/-!
# A client and the backend at the other end of its link

What the client hands to its link reaches the backend in order, and what the backend sends reaches
the client in order; what is under way on a link is lost with it.  A backend that behaves well
answers each frame that points it at a session with one history of that session.  Each move of the
two keeps the count of the histories that were accepted and of those that are under way.
-/

namespace StreamingChat.Client

open StreamingChat.Chat
open StreamingChat.Link
open StreamingChat.Wire

/-- A client, the backend, and what is under way between them. -/
structure Exchange where
  client : Step
  /-- How many frames of the link the backend has read. -/
  read : Nat := 0
  /-- What the backend has sent and the client has not received, oldest first. -/
  incoming : List String := []

inductive Move where
  /-- An input of the client that is not a text. -/
  | acts (input : Input) (r : Reading)
  /-- The backend reads a frame; if it points at a session, the text answers it. -/
  | reads (answer : String)
  /-- The backend sends a text unasked. -/
  | talks (text : String)
  /-- The client receives a text. -/
  | hears (r : Reading)

def Move.switches : Move → Bool
  | acts (.command (.setSession _)) _ => true
  | _ => false

namespace Exchange

/-- A client that is yet to be given an input, and a backend that is yet to read. -/
def start (c : Client) : Exchange where
  client := { client := c }

/-- The frames that the backend has yet to read, oldest first. -/
def outgoing (e : Exchange) : List Outbound :=
  (onLink e.client.acts).drop e.read

/-- The session that the next frame points at. -/
def sought? (e : Exchange) : Option String :=
  e.outgoing.head?.bind Outbound.target?

/-- What can come next with a backend that behaves well. -/
def allows (e : Exchange) : Move → Bool
  | .acts (.received (.text _)) _ => false
  | .acts _ _ => true
  | .reads answer => !e.outgoing.isEmpty && e.sought?.all (isHistoryOf · answer)
  | .talks text => isTalk text
  | .hears _ => !e.incoming.isEmpty

/-- One move more.  A link that opens has nothing under way on it. -/
def next (e : Exchange) : Move → Exchange
  | .acts input r =>
    let client := e.client.next input r
    if e.client.client.happening input = .opening then { client } else { e with client }
  | .reads answer =>
    { e with
      read := e.read + 1, incoming := e.incoming ++ (e.sought?.map fun _ => answer).toList }
  | .talks text => { e with incoming := e.incoming ++ [text] }
  | .hears r =>
    match e.incoming with
    | [] => e
    | text :: rest =>
      { e with client := e.client.next (.received (.text text)) r, incoming := rest }

def run (e : Exchange) (moves : List Move) : Exchange :=
  moves.foldl next e

/-- Whether the backend behaves well all along. -/
def proper (e : Exchange) : List Move → Bool
  | [] => true
  | m :: rest => e.allows m && (e.next m).proper rest

/-- Whether a move makes the client put a history in the place of its messages. -/
def applies (e : Exchange) : Move → Bool
  | .hears _ =>
    e.client.client.isRunning && e.client.client.connection.isOpen &&
      e.incoming.head?.any fun text =>
        (Inbound.read? text).any e.client.client.state.replaces
  | _ => false

/-- How many histories are put in the place of the messages. -/
def applied (e : Exchange) : List Move → Nat
  | [] => 0
  | m :: rest => (e.applies m).toNat + (e.next m).applied rest

/-- How many histories of a session are under way. -/
def underway (e : Exchange) (session : String) : Nat :=
  e.client.standing.underway e.read e.incoming session

/-- How a count of accepted histories stands to a bound. -/
def Counted (e : Exchange) (bound applied : Nat) : Prop :=
  e.client.standing.Counted bound applied (e.underway e.client.standing.session.current)

/-- What is under way to the client comes from a backend that behaves well. -/
def Fair (e : Exchange) : Prop :=
  ∀ text ∈ e.incoming, isTalk text = true ∨ ∃ session, isHistoryOf session text = true

end Exchange

end StreamingChat.Client

namespace StreamingChat.Client

open StreamingChat.Chat
open StreamingChat.Link
open StreamingChat.Wire

/-- What ends a wait: a text on the open link of a client that runs. -/
theorem of_loading {c : Client} {input : Input} (loading : c.happening input = .loading) :
    ∃ text, input = .received (.text text) := by
  unfold happening at loading
  split at loading
  · split at loading
    · cases loading
    · cases loading
  · next text => exact ⟨text, rfl⟩
  · cases loading
  · cases loading

namespace Exchange

variable {e : Exchange} {bound applied : Nat}

theorem isHistoryOf_unique {first second text : String} (here : isHistoryOf first text = true)
    (there : isHistoryOf second text = true) : first = second := by
  obtain ⟨entries, read⟩ := State.history_of_isHistoryOf here
  unfold isHistoryOf at there
  rw [read] at there
  exact eq_of_beq there

/-! ## What the backend does -/

/-- A frame that is read gives way to its answer. -/
theorem underway_reads {answer : String} (allowed : e.allows (.reads answer) = true)
    (session : String) :
    (e.next (.reads answer)).underway session ≤ e.underway session := by
  obtain ⟨waits, answered⟩ := Bool.and_eq_true_iff.mp allowed
  unfold underway Standing.underway
  change (if e.client.standing.isOpen then _ else 0) ≤ _
  cases e.client.standing.isOpen with
  | false => exact Nat.le_refl _
  | true =>
      change ((onLink e.client.acts).drop (e.read + 1)).countP _ +
        (e.incoming ++ (e.sought?.map fun _ => answer).toList).countP _ ≤
          e.outgoing.countP _ + _
      cases frames : e.outgoing with
      | nil =>
          rw [frames] at waits
          cases waits
      | cons frame rest =>
          have left : (onLink e.client.acts).drop (e.read + 1) = rest := by
            rw [← List.drop_drop]
            exact congrArg (List.drop 1) frames
          have sought : e.sought? = frame.target? := by
            rw [sought?, frames]
            rfl
          rw [left, sought, List.countP_cons, List.countP_append]
          rw [sought] at answered
          cases target : frame.target? with
          | none =>
              simp only [Option.map_none, Option.toList_none, List.countP_nil]
              omega
          | some other =>
              rw [target] at answered
              have history : isHistoryOf other answer = true := answered
              have one : [answer].countP (isHistoryOf session) ≤
                  if frame.seeks session then 1 else 0 := by
                rw [List.countP_singleton]
                cases here : isHistoryOf session answer with
                | false => exact Nat.zero_le _
                | true =>
                    have seeks : frame.seeks session = true := by
                      rw [Outbound.seeks, target, isHistoryOf_unique here history,
                        beq_self_eq_true]
                    exact Nat.le_of_eq (congrArg (fun b : Bool => if b then 1 else 0) seeks.symm)
              simp only [Option.map_some, Option.toList_some]
              omega

theorem not_isHistoryOf_of_talk {text : String} (talk : isTalk text = true) (session : String) :
    isHistoryOf session text = false := by
  cases history : isHistoryOf session text with
  | false => rfl
  | true =>
      obtain ⟨entries, read⟩ := State.history_of_isHistoryOf history
      unfold isTalk at talk
      rw [read] at talk
      cases talk

theorem underway_talks {text : String} (talk : isTalk text = true) (session : String) :
    (e.next (.talks text)).underway session = e.underway session := by
  have none : (e.incoming ++ [text]).countP (isHistoryOf session) =
      e.incoming.countP (isHistoryOf session) := by
    rw [List.countP_append, List.countP_singleton, not_isHistoryOf_of_talk talk session,
      if_neg Bool.false_ne_true]
    rfl
  unfold underway Standing.underway
  change (if e.client.standing.isOpen then _ + (e.incoming ++ [text]).countP _ else 0) = _
  rw [none]
  rfl

/-! ## What the client does -/

theorem counted_of_stopped (counted : e.Counted bound applied)
    (stopped : e.client.client.isRunning = false) (input : Input) (r : Reading) :
    { e with client := e.client.next input r }.Counted bound applied := by
  have same := Step.standing_next_of_stopped stopped input r
  unfold Counted underway
  simp only [same]
  exact counted

theorem counted_of_other (counted : e.Counted bound applied)
    (running : e.client.client.isRunning = true) {input : Input} {r : Reading}
    (other : e.client.client.happening input = .other) :
    { e with client := e.client.next input r }.Counted bound applied := by
  have shift := Step.shift_next running input r
  rw [other] at shift
  have current := shift.current fun session switching => by cases switching
  refine (shift.counted_other counted running).mono ?_
  rw [current]
  exact shift.underway_other e.read e.incoming _

/-- An input that is not a text and does not switch the session keeps the count. -/
theorem counted_acts (counted : e.Counted bound applied) {input : Input} {r : Reading}
    (allowed : e.allows (.acts input r) = true) (stays : (Move.acts input r).switches = false) :
    (e.next (.acts input r)).Counted bound applied := by
  unfold next
  simp only
  cases running : e.client.client.isRunning with
  | false =>
      have closed : e.client.client.happening input ≠ .opening := by
        intro opening
        obtain ⟨-, runs, -⟩ := of_opening opening
        cases running.symm.trans runs
      rw [if_neg closed]
      exact counted_of_stopped counted running input r
  | true =>
      cases what : e.client.client.happening input with
      | opening =>
          have shift := Step.shift_next running input r
          rw [what] at shift
          rw [if_pos rfl]
          exact shift.counted_opening counted running
      | loading =>
          obtain ⟨text, rfl⟩ := of_loading what
          cases allowed
      | switching session =>
          cases happening_eq_switching what
          cases stays
      | other =>
          rw [if_neg (by intro same; cases same)]
          exact counted_of_other counted running what

/-- A text that is not accepted leaves no more under way. -/
theorem underway_dropped {text : String} {rest : List String} (first : e.incoming = text :: rest)
    (session : String) : { e with incoming := rest }.underway session ≤ e.underway session := by
  have fewer : rest.countP (isHistoryOf session) ≤ e.incoming.countP (isHistoryOf session) := by
    rw [first]
    exact (List.sublist_cons_self text rest).countP_le
  unfold underway Standing.underway
  simp only
  split
  · exact Nat.add_le_add_left fewer _
  · exact Nat.le_refl _

/-- Whether a history is accepted can be told from what its text comes to. -/
theorem applies_hears {text : String} {rest : List String} (first : e.incoming = text :: rest)
    (fair : e.Fair) (r : Reading) :
    e.applies (.hears r) =
      (e.client.client.isRunning && e.client.client.connection.isOpen &&
        e.client.client.state.loads text) := by
  have member : text ∈ e.incoming := by
    rw [first]
    exact List.mem_cons_self
  have same := (State.loads_of_fair (s := e.client.client.state) (fair text member)).1
  rw [applies, first, same]
  rfl

/-- A history that is accepted is no longer under way. -/
theorem underway_accepted {text : String} {rest : List String} (first : e.incoming = text :: rest)
    (accepted : isHistoryOf e.client.standing.session.current text = true) {q : Standing}
    (shift : e.client.standing.Shift .loading q) :
    q.underway e.read rest q.session.current + 1 ≤
      e.underway e.client.standing.session.current := by
  cases shift with
  | loaded open_ =>
      have one : e.incoming.countP (isHistoryOf e.client.standing.session.current) =
          rest.countP (isHistoryOf e.client.standing.session.current) + 1 := by
        rw [first, List.countP_cons, if_pos accepted]
      unfold underway Standing.underway
      rw [one]
      simp only [open_, if_true]
      exact Nat.le_refl _

/-- A text that the client receives is counted if it is accepted, and is no longer under way. -/
theorem counted_hears (counted : e.Counted bound applied) (fair : e.Fair) (r : Reading) :
    (e.next (.hears r)).Counted bound (applied + (e.applies (.hears r)).toNat) := by
  cases first : e.incoming with
  | nil =>
      have still : e.next (.hears r) = e := by
        unfold next
        simp only [first]
      have none : e.applies (.hears r) = false := by
        unfold applies
        simp only [first, List.head?_nil, Option.any_none, Bool.and_false]
      rw [still, none]
      exact counted
  | cons text rest =>
      have dropped : { e with incoming := rest }.Counted bound applied :=
        Standing.Counted.mono counted (underway_dropped first _)
      have moved : e.next (.hears r) =
          { e with client := e.client.next (.received (.text text)) r, incoming := rest } := by
        unfold next
        simp only [first]
      rw [moved, applies_hears first fair r]
      cases running : e.client.client.isRunning with
      | false => exact counted_of_stopped dropped running _ r
      | true =>
          have what : e.client.client.happening (.received (.text text)) =
              if e.client.client.connection.isOpen && e.client.client.state.loads text
                then .loading else .other := by
            simp only [happening, running, Bool.true_and]
          rw [Bool.true_and]
          cases accepted :
              e.client.client.connection.isOpen && e.client.client.state.loads text with
          | false =>
              rw [accepted, if_neg Bool.false_ne_true] at what
              exact counted_of_other dropped running what
          | true =>
              rw [accepted, if_pos rfl] at what
              have shift := Step.shift_next running (.received (.text text)) r
              rw [what] at shift
              have member : text ∈ e.incoming := by
                rw [first]
                exact List.mem_cons_self
              have loads := (Bool.and_eq_true_iff.mp accepted).2
              have history := (State.loads_of_fair (fair text member)).2 loads
              exact shift.counted_loading counted running (underway_accepted first history shift)

/-! ## Runs -/

/-- One move keeps the count, and what is under way fair. -/
theorem counted_next (counted : e.Counted bound applied) (fair : e.Fair) {m : Move}
    (allowed : e.allows m = true) (stays : m.switches = false) :
    (e.next m).Counted bound (applied + (e.applies m).toNat) := by
  cases m with
  | acts input r => exact counted_acts counted allowed stays
  | reads answer => exact Standing.Counted.mono counted (underway_reads allowed _)
  | talks text => exact Standing.Counted.mono counted (Nat.le_of_eq (underway_talks allowed _))
  | hears r => exact counted_hears counted fair r

theorem fair_next (fair : e.Fair) {m : Move} (allowed : e.allows m = true) : (e.next m).Fair := by
  cases m with
  | acts input r =>
      unfold next
      simp only
      split
      · intro text member
        cases member
      · exact fair
  | reads answer =>
      intro text member
      rcases List.mem_append.mp member with old | new
      · exact fair text old
      · obtain ⟨session, sought, rfl⟩ := Option.map_eq_some_iff.mp (Option.mem_toList.mp new)
        have answered := (Bool.and_eq_true_iff.mp allowed).2
        rw [sought] at answered
        exact .inr ⟨session, answered⟩
  | talks said =>
      intro text member
      rcases List.mem_append.mp member with old | new
      · exact fair text old
      · rw [List.mem_singleton.mp new]
        exact .inl allowed
  | hears r =>
      unfold next
      cases first : e.incoming with
      | nil => exact fair
      | cons text rest =>
          intro later member
          refine fair later ?_
          rw [first]
          exact List.mem_cons_of_mem text member

/-- A run of a backend that behaves well in which the session is not switched keeps the count. -/
theorem counted_run {moves : List Move} (counted : e.Counted bound applied) (fair : e.Fair)
    (proper : e.proper moves = true) (stays : ∀ m ∈ moves, m.switches = false) :
    (e.run moves).Counted bound (applied + e.applied moves) := by
  induction moves generalizing e applied with
  | nil => exact counted
  | cons m rest ih =>
      obtain ⟨allowed, later⟩ := Bool.and_eq_true_iff.mp proper
      have here := counted_next counted fair allowed (stays m List.mem_cons_self)
      have there := ih here (fair_next fair allowed) later fun m member =>
        stays m (List.mem_cons_of_mem _ member)
      rw [Exchange.applied, ← Nat.add_assoc]
      exact there

theorem fair_run {moves : List Move} (fair : e.Fair) (proper : e.proper moves = true) :
    (e.run moves).Fair := by
  induction moves generalizing e with
  | nil => exact fair
  | cons m rest ih =>
      obtain ⟨allowed, later⟩ := Bool.and_eq_true_iff.mp proper
      exact ih (fair_next fair allowed) later

end Exchange

end StreamingChat.Client
