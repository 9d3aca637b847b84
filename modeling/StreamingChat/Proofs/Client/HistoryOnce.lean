import StreamingChat.Proofs.Chat.Growth
import StreamingChat.Proofs.Client.Course
import StreamingChat.Proofs.Client.Exchange

/-!
# A history comes once for each switch

With a backend that behaves well, at most one more history is accepted after a switch than were
still under way of the same session when the client was pointed at it.  If none was, one history is
accepted at most, and what the user said after it came is not lost.  If one was, a history that was
asked for before the switch can end the wait, and the one that the switch asks for then takes the
place of what was said in between.
-/

namespace StreamingChat.Chat.State

open StreamingChat.Chat.Transcript (Grows)

variable {s t : State}

theorem Follows.grows (follows : s.Follows t) : Grows s.feed.transcript t.feed.transcript := by
  induction follows with
  | same => exact Grows.refl _
  | disconnected _ now ih => exact ih.trans (Feed.grows_close _ now.clock)
  | takeChanges _ ih =>
      rw [feed_takeChanges]
      exact ih

end StreamingChat.Chat.State

namespace StreamingChat.Client

open StreamingChat.Chat
open StreamingChat.Chat.Transcript (Grows)
open StreamingChat.Link
open StreamingChat.Wire

namespace Step

variable {s : Step} {input : Input} {r : Reading}

/-- The transcript grows over an input unless the conversation is told to put other messages in the
place of all. -/
theorem grows_next
    (keeps : ∀ heard, s.client.told input r = some heard → s.client.state.resets heard = false) :
    Grows s.client.state.feed.transcript (s.next input r).client.state.feed.transcript := by
  have follows := follows_next s input r
  cases told : s.client.told input r with
  | none =>
      rw [told] at follows
      exact follows.grows
  | some heard =>
      have change := State.change_step s.client.state r.now heard
      rw [keeps heard told] at change
      rw [told] at follows
      exact (Feed.grows_of_change change).trans follows.grows

theorem feed_publish (s : Step) : s.publish.client.state.feed = s.client.state.feed := by
  rw [state_publish, State.feed_takeChanges]

/-- A turn that was sent went over the open link, and stands among the messages that are complete.
-/
theorem turn_of_sent {request : Request}
    (sent : (s.next (.command (.say request)) r).reply = some (.ok ())) :
    s.client.connection.isOpen = true ∧
      ∃ turn, turn ∈ (s.next (.command (.say request)) r).client.state.feed.transcript.committed ∧
        turn.role = .user ∧ turn.content = request.message := by
  cases running : s.client.isRunning with
  | false =>
      rw [reply_next_of_stopped running] at sent
      cases sent
  | true =>
      have feed : (s.next (.command (.say request)) r).client.state.feed =
          (s.carryOut (.say request) r).1.client.state.feed := by
        rw [next_of_running running, feed_publish]
        exact feed_publish _
      have carried : s.carryOut (.say request) r =
          s.sendThen (turnOf s.client request) (·.recordTurn request.message r.now) r := rfl
      rw [reply_next_command running, Option.some_inj, carried] at sent
      rw [feed, carried]
      rcases sendThen_cases s (turnOf s.client request) (·.recordTurn request.message r.now) r with
        ⟨-, refused⟩ | ⟨open_, taken⟩ | ⟨fault, -, lost⟩
      · rw [refused] at sent
        cases sent
      · rw [taken]
        exact ⟨open_, _, List.mem_append_right _ List.mem_cons_self, rfl, rfl⟩
      · rw [lost] at sent
        cases sent

end Step

namespace Exchange

variable {e : Exchange} {applied : Nat}

/-- The messages that are complete. -/
def complete (e : Exchange) : List Message :=
  e.client.client.state.feed.transcript.committed

/-- What the user says once the history has come is seen from then on. -/
def KeepsTurns (e : Exchange) (moves : List Move) : Prop :=
  ∀ first request r rest, moves = first ++ .acts (.command (.say request)) r :: rest →
    let u := e.run first
    let v := u.next (.acts (.command (.say request)) r)
    u.client.client.state.snapshot.isLoadingHistory = false → v.client.reply = some (.ok ()) →
      ∃ turn, turn.role = .user ∧ turn.content = request.message ∧
        ∀ more, more <+: rest → turn ∈ (v.run more).client.client.state.snapshot.messages

theorem complete_next {m : Move} (allowed : e.allows m = true) (stays : m.switches = false)
    (kept : e.applies m = false) : e.complete <+: (e.next m).complete := by
  cases m with
  | acts input r =>
      have moved : (e.next (.acts input r)).client = e.client.next input r := by
        unfold next
        simp only
        split
        · rfl
        · rfl
      have keeps : ∀ heard, e.client.client.told input r = some heard →
          e.client.client.state.resets heard = false := by
        intro heard told
        cases (tells_of_told told).2 with
        | received text => cases allowed
        | switched session => cases stays
        | turn request => rfl
        | answered request approved remember => rfl
        | shutDown => rfl
        | abandoned => rfl
        | opened => rfl
        | unreached fault => rfl
        | failed fault => rfl
        | ended => rfl
        | flush => rfl
      rw [complete, complete, moved]
      exact (Step.grows_next keeps).committed
  | reads answer => exact List.prefix_rfl
  | talks text => exact List.prefix_rfl
  | hears r =>
      cases first : e.incoming with
      | nil =>
          have still : (e.next (.hears r)).complete = e.complete := by rw [next, first]
          exact ⟨[], by rw [List.append_nil, still]⟩
      | cons text rest =>
          have keeps : ∀ heard, e.client.client.told (.received (.text text)) r = some heard →
              e.client.client.state.resets heard = false := by
            intro heard told
            obtain ⟨running, tells⟩ := tells_of_told told
            cases tells with
            | received _ open_ =>
                unfold applies at kept
                simp only [running, open_, first, Bool.true_and] at kept
                exact kept
          rw [next, first]
          exact (Step.grows_next keeps).committed

theorem complete_run {moves : List Move} (proper : e.proper moves = true)
    (stays : ∀ m ∈ moves, m.switches = false) (kept : e.applied moves = 0) :
    e.complete <+: (e.run moves).complete := by
  induction moves generalizing e with
  | nil => exact List.prefix_rfl
  | cons m rest ih =>
      obtain ⟨allowed, later⟩ := Bool.and_eq_true_iff.mp proper
      obtain ⟨here, there⟩ := Nat.add_eq_zero_iff.mp kept
      have first := complete_next allowed (stays m List.mem_cons_self) (Bool.toNat_eq_zero.mp here)
      have others := ih later (fun m member => stays m (List.mem_cons_of_mem _ member)) there
      exact first.trans others

/-- Once the one history has come, no more is accepted. -/
theorem applied_of_loaded (counted : e.Counted 1 applied) (fair : e.Fair) {moves : List Move}
    (open_ : e.client.client.connection.isOpen = true)
    (loaded : e.client.client.state.session.loading = false) (proper : e.proper moves = true)
    (stays : ∀ m ∈ moves, m.switches = false) : e.applied moves = 0 := by
  have later := (counted_run counted fair proper stays).le
  cases counted with
  | stopped _ closed _ => cases open_.symm.trans closed
  | came _ _ _ some_ _ => omega
  | owed _ closed _ _ => cases open_.symm.trans closed
  | asked _ _ _ loading _ _ => cases loading.symm.trans loaded

theorem proper_append {first rest : List Move} (proper : e.proper (first ++ rest) = true) :
    e.proper first = true ∧ (e.run first).proper rest = true := by
  induction first generalizing e with
  | nil => exact ⟨rfl, proper⟩
  | cons m first ih =>
      obtain ⟨allowed, later⟩ := Bool.and_eq_true_iff.mp proper
      obtain ⟨here, there⟩ := ih later
      exact ⟨Bool.and_eq_true_iff.mpr ⟨allowed, here⟩, there⟩

theorem applied_append (e : Exchange) (first rest : List Move) :
    e.applied (first ++ rest) = e.applied first + (e.run first).applied rest := by
  induction first generalizing e with
  | nil => exact (Nat.zero_add _).symm
  | cons m first ih =>
      rw [List.cons_append, Exchange.applied, ih, ← Nat.add_assoc]
      rfl

/-- What the user says once the one history has come is not lost. -/
theorem keepsTurns {moves : List Move} (counted : e.Counted 1 applied) (fair : e.Fair)
    (proper : e.proper moves = true) (stays : ∀ m ∈ moves, m.switches = false) :
    e.KeepsTurns moves := by
  rintro first request r rest rfl u v loaded sent
  obtain ⟨before, after⟩ := proper_append proper
  have staysFirst : ∀ m ∈ first, m.switches = false := fun m member =>
    stays m (List.mem_append_left _ member)
  have staysLast : ∀ m ∈ .acts (.command (.say request)) r :: rest, m.switches = false :=
    fun m member => stays m (List.mem_append_right _ member)
  have here : u.Counted 1 (applied + e.applied first) := counted_run counted fair before staysFirst
  have fairHere : u.Fair := fair_run fair before
  obtain ⟨open_, turn, recorded, role, content⟩ := Step.turn_of_sent sent
  have none : u.applied (.acts (.command (.say request)) r :: rest) = 0 :=
    applied_of_loaded here fairHere open_ loaded after staysLast
  refine ⟨turn, role, content, ?_⟩
  rintro more ⟨others, rfl⟩
  have proper : v.proper (more ++ others) = true := (Bool.and_eq_true_iff.mp after).2
  have later : v.applied (more ++ others) = 0 := (Nat.add_eq_zero_iff.mp none).2
  rw [applied_append] at later
  have grows := complete_run (proper_append proper).1
    (fun m member => staysLast m (List.mem_cons_of_mem _ (List.mem_append_left _ member)))
    (Nat.add_eq_zero_iff.mp later).1
  exact List.mem_append_left _ (grows.subset recorded)

/-! ## Where counting begins -/

theorem counted_start (session mode : String) (interval : Nat) (backoff : Backoff) :
    (start (initial session mode interval backoff).start).Counted 1 0 :=
  .owed rfl rfl rfl (Nat.le_refl 1)

theorem fair_start (c : Client) : (start c).Fair := by
  intro text member
  cases member

/-- A switch begins the count anew, with what is under way of the session on top of one. -/
theorem counted_switch {bound : Nat} (counted : e.Counted bound applied) (id : String)
    (r : Reading) :
    (e.next (.acts (.command (.setSession id)) r)).Counted (e.underway id + 1) 0 := by
  have moved : e.next (.acts (.command (.setSession id)) r) =
      { e with client := e.client.next (.command (.setSession id)) r } := rfl
  rw [moved]
  cases running : e.client.client.isRunning with
  | false =>
      have same := Step.standing_next_of_stopped running (.command (.setSession id)) r
      unfold Counted
      simp only [same]
      cases counted with
      | stopped stopped closed _ => exact .stopped stopped closed (Nat.zero_le _)
      | came runs => cases running.symm.trans runs
      | owed runs => cases running.symm.trans runs
      | asked runs => cases running.symm.trans runs
  | true =>
      have shift := Step.shift_next running (.command (.setSession id)) r
      have current :
          (e.client.next (.command (.setSession id)) r).standing.session.current = id := by
        have what : e.client.client.happening (.command (.setSession id)) = .switching id := rfl
        rw [what] at shift
        generalize (e.client.next (.command (.setSession id)) r).standing = q at shift
        cases shift with
        | switched _ closed => rfl
        | pointed _ open_ => rfl
        | pointedLost _ open_ frames => rfl
      refine shift.counted_switching running ?_
      rw [current]
      exact shift.underway_switching e.read e.incoming

/-- A run of a backend that behaves well ends in the middle of a count, whatever was switched. -/
theorem counted_any {moves : List Move} {bound : Nat} (counted : e.Counted bound applied)
    (fair : e.Fair) (proper : e.proper moves = true) :
    ∃ bound applied, (e.run moves).Counted bound applied := by
  induction moves generalizing e bound applied with
  | nil => exact ⟨bound, applied, counted⟩
  | cons m rest ih =>
      obtain ⟨allowed, later⟩ := Bool.and_eq_true_iff.mp proper
      have fairNext := fair_next fair allowed
      cases switches : m.switches with
      | false => exact ih (counted_next counted fair allowed switches) fairNext later
      | true =>
          obtain ⟨id, r, rfl⟩ : ∃ id r, m = .acts (.command (.setSession id)) r := by
            unfold Move.switches at switches
            split at switches
            · next id r => exact ⟨id, r, rfl⟩
            · cases switches
          exact ih (counted_switch counted id r) fairNext later

end Exchange

/-- With a backend that behaves well, one history is accepted at most until the session is first
switched, and after a switch at most one more than were under way of the same session when the
client was pointed at it.  If none was, what the user says once the history has come is seen until
the next switch. -/
theorem history_applied_once (session mode : String) (interval : Nat) (backoff : Backoff) :
    let start := Exchange.start (initial session mode interval backoff).start
    (∀ moves, start.proper moves = true → (∀ m ∈ moves, m.switches = false) →
      start.applied moves ≤ 1 ∧ start.KeepsTurns moves) ∧
    ∀ before id r after,
      let e := start.run before
      let t := e.next (.acts (.command (.setSession id)) r)
      start.proper before = true → t.proper after = true →
        (∀ m ∈ after, m.switches = false) →
          t.applied after ≤ e.underway id + 1 ∧ (e.underway id = 0 → t.KeepsTurns after) := by
  intro start
  have counted : start.Counted 1 0 := Exchange.counted_start session mode interval backoff
  have fair : start.Fair := Exchange.fair_start _
  constructor
  · intro moves proper stays
    have later := (Exchange.counted_run counted fair proper stays).le
    rw [Nat.zero_add] at later
    exact ⟨later, Exchange.keepsTurns counted fair proper stays⟩
  · intro before id r after e t proper properAfter stays
    obtain ⟨bound, applied, here⟩ := Exchange.counted_any counted fair proper
    have fairHere : e.Fair := Exchange.fair_run fair proper
    have switched : t.Counted (e.underway id + 1) 0 := Exchange.counted_switch here id r
    have fairSwitched : t.Fair := Exchange.fair_next fairHere (m := .acts _ r) rfl
    have later := (Exchange.counted_run switched fairSwitched properAfter stays).le
    rw [Nat.zero_add] at later
    refine ⟨later, ?_⟩
    intro none
    rw [none] at switched
    exact Exchange.keepsTurns switched fairSwitched properAfter stays

/-! ## Going elsewhere, and coming back -/

def defaultHistory : String :=
  "\x7b\"type\":\"history\",\"sessionId\":\"default\",\"messages\":[]\x7d"

def otherHistory : String :=
  "\x7b\"type\":\"history\",\"sessionId\":\"other\",\"messages\":[]\x7d"

def greeting : Move :=
  .acts (.command (.say { message := "hello" })) calm

/-- The link opens, and the history of the first session comes. -/
def home : List Move :=
  [.acts (.attempted (.ok ())) calm, .reads defaultHistory, .hears calm]

/-- Then the user goes to the other session. -/
def gone : Exchange :=
  ((Exchange.start fresh).run home).next (.acts (.command (.setSession "other")) calm)

/-- Its history comes, the user says something, and the answer ends. -/
def visit : List Move :=
  [.reads otherHistory, .hears calm, greeting, .talks "[\"done\"]", .hears calm]

theorem history_applied_once_of_visit :
    ((Exchange.start fresh).run home).underway "other" = 0 ∧
      (Exchange.start fresh).applied home ≤ 1 ∧ gone.applied visit ≤ 1 ∧
      ∃ turn, turn.role = .user ∧ turn.content = "hello" ∧
        turn ∈ (gone.run visit).client.client.state.snapshot.messages := by
  have law := history_applied_once "default" "chat" 50 ⟨1, 1, 0.0⟩
  have proper : (Exchange.start fresh).proper home = true := by decide +kernel
  have settled : ∀ m ∈ home, m.switches = false := by decide +kernel
  have properVisit : gone.proper visit = true := by decide +kernel
  have stays : ∀ m ∈ visit, m.switches = false := by decide +kernel
  have none : ((Exchange.start fresh).run home).underway "other" = 0 := by decide +kernel
  have loaded : (gone.run [.reads otherHistory,
      .hears calm]).client.client.state.snapshot.isLoadingHistory = false := by decide +kernel
  have sent : ((gone.run [.reads otherHistory, .hears calm]).next greeting).client.reply =
      some (.ok ()) := rfl
  obtain ⟨bound, keeps⟩ := law.2 home "other" calm visit proper properVisit stays
  have once : gone.applied visit ≤ 1 := Nat.le_trans bound (Nat.le_of_eq (congrArg (· + 1) none))
  obtain ⟨turn, role, content, seen⟩ :=
    keeps none [.reads otherHistory, .hears calm] { message := "hello" } calm
      [.talks "[\"done\"]", .hears calm] rfl loaded sent
  exact ⟨none, (law.1 home proper settled).1, once, turn, role, content, seen _ List.prefix_rfl⟩

/-- The link opens, and the user goes to the other session at once. -/
def away : List Move :=
  [.acts (.attempted (.ok ())) calm, .acts (.command (.setSession "other")) calm]

/-- Then the user comes back. -/
def returned : Exchange :=
  ((Exchange.start fresh).run away).next (.acts (.command (.setSession "default")) calm)

/-- The histories come in order, and the user says something after the first. -/
def back : List Move :=
  [.reads defaultHistory, .hears calm, greeting, .reads otherHistory, .hears calm,
    .reads defaultHistory, .hears calm]

/-- The user goes to the other session and comes back before a history has come.  Then two histories
are accepted, and what the user said in between is lost. -/
theorem history_applied_twice :
    (Exchange.start fresh).proper away = true ∧ returned.proper back = true ∧
      (∀ m ∈ back, m.switches = false) ∧ returned.applied back = 2 ∧
      ¬returned.KeepsTurns back := by
  have loaded : (returned.run [.reads defaultHistory,
      .hears calm]).client.client.state.snapshot.isLoadingHistory = false := by decide +kernel
  have sent : ((returned.run [.reads defaultHistory, .hears calm]).next greeting).client.reply =
      some (.ok ()) := rfl
  have lost : (returned.run back).client.client.state.snapshot.messages.length = 0 := by
    decide +kernel
  refine ⟨by decide +kernel, by decide +kernel, by decide +kernel, by decide +kernel, ?_⟩
  intro keeps
  obtain ⟨turn, -, -, seen⟩ :=
    keeps [.reads defaultHistory, .hears calm] { message := "hello" } calm
      [.reads otherHistory, .hears calm, .reads defaultHistory, .hears calm] rfl loaded sent
  have member : turn ∈ (returned.run back).client.client.state.snapshot.messages :=
    seen _ List.prefix_rfl
  rw [List.length_eq_zero_iff.mp lost] at member
  cases member

end StreamingChat.Client
