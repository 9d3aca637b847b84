import Mathlib.Data.List.Basic
import Mathlib.Data.List.Induction
import StreamingChat.Proofs.Client.Standing

/-!
# The history is asked for as long as it is owed

The history of the current session has come, or it was asked for on the link that is open, or it
will be asked for when a link opens.  An input takes one of these to another, and so whether it will
be asked for can be read off a run: it will unless the wait for it ended since the client was last
pointed at a session.
-/

namespace StreamingChat.Client

open StreamingChat.Chat
open StreamingChat.Link
open StreamingChat.Wire

/-- A session was asked for, and no other was asked for after it. -/
def Asked (session : String) (frames : List Outbound) : Prop :=
  ∃ earlier later, frames = earlier ++ .setSession session :: later ∧
    ∀ other, .setSession other ∈ later → other = session

theorem asked_concat_self (session : String) (frames : List Outbound) :
    Asked session (frames ++ [.setSession session]) :=
  ⟨frames, [], rfl, fun _ member => by cases member⟩

theorem Asked.concat {session : String} {frames : List Outbound} (asked : Asked session frames)
    {frame : Outbound} (other : ∀ session, frame ≠ .setSession session) :
    Asked session (frames ++ [frame]) := by
  obtain ⟨earlier, later, rfl, same⟩ := asked
  refine ⟨earlier, later ++ [frame], by rw [List.append_assoc, List.cons_append], ?_⟩
  intro id member
  rcases List.mem_append.mp member with old | new
  · exact same id old
  · exact absurd (List.mem_singleton.mp new).symm (other id)

/-- Whether the history of the current session has come, from whether it had before. -/
def Happening.loaded (before : Prop) : Happening → Prop
  | opening => before
  | loading => True
  | switching _ => False
  | other => before

/-- How matters stand with the history of the current session, given whether it has come. -/
inductive Standing.Owing (came : Prop) (p : Standing) : Prop where
  | stopped (stopped : p.isRunning = false) (closed : p.isOpen = false)
  | came (running : p.isRunning = true) (here : came) (owed : p.session.owed = false)
      (loading : p.session.loading = false)
  | owed (running : p.isRunning = true) (due : ¬came) (closed : p.isOpen = false)
      (owed : p.session.owed = true)
  | asked (running : p.isRunning = true) (due : ¬came) (open_ : p.isOpen = true)
      (owed : p.session.owed = false) (loading : p.session.loading = true)
      (asked : Asked p.session.current p.onLink)

namespace Standing

variable {came : Prop} {p q : Standing} {h : Happening}

/-- A history that has come is not asked for until another session is current. -/
theorem Shift.owing_of_came (shift : p.Shift h q) (running : p.isRunning = true) (here : came)
    (owed : p.session.owed = false) (loading : p.session.loading = false) :
    q.Owing (h.loaded came) := by
  cases shift with
  | kept => exact .came running here owed loading
  | sent frame other => exact .came running here owed loading
  | lost frames =>
      have settled : p.session.disconnected.owed = false := by
        simp only [Session.disconnected, owed, loading, Bool.or_false]
      exact .came running here settled loading
  | stopped => exact .stopped rfl rfl
  | opened closed =>
      rw [Session.opened_of_not_owed owed]
      exact .came running here owed loading
  | openedLost closed due frames => cases owed.symm.trans due
  | loaded open_ => exact .came running trivial owed rfl
  | switched session closed => exact .owed running id closed rfl
  | pointed session open_ =>
      exact .asked running id open_ rfl rfl (asked_concat_self session p.onLink)
  | pointedLost session open_ frames => exact .owed running id rfl rfl

/-- A history that is owed is asked for when the link opens. -/
theorem Shift.owing_of_owed (shift : p.Shift h q) (running : p.isRunning = true) (due : ¬came)
    (closed : p.isOpen = false) (owed : p.session.owed = true) : q.Owing (h.loaded came) := by
  cases shift with
  | kept => exact .owed running due closed owed
  | sent frame other => exact .owed running due closed owed
  | lost frames => exact .owed running due rfl (Session.owed_disconnected_of_owed owed)
  | stopped => exact .stopped rfl rfl
  | opened _ =>
      rw [Session.opened_of_owed owed]
      exact .asked running due rfl rfl rfl (asked_concat_self p.session.current [])
  | openedLost _ _ frames =>
      rw [Session.opened_of_owed owed]
      exact .owed running due rfl rfl
  | loaded open_ => cases closed.symm.trans open_
  | switched session _ => exact .owed running id closed rfl
  | pointed session open_ => cases closed.symm.trans open_
  | pointedLost session open_ frames => cases closed.symm.trans open_

/-- A history that was asked for comes, or it is owed again when the link is lost. -/
theorem Shift.owing_of_asked (shift : p.Shift h q) (running : p.isRunning = true) (due : ¬came)
    (open_ : p.isOpen = true) (owed : p.session.owed = false) (loading : p.session.loading = true)
    (asked : Asked p.session.current p.onLink) : q.Owing (h.loaded came) := by
  cases shift with
  | kept => exact .asked running due open_ owed loading asked
  | sent frame other => exact .asked running due open_ owed loading (asked.concat other)
  | lost frames => exact .owed running due rfl (Session.owed_disconnected_of_loading loading)
  | stopped => exact .stopped rfl rfl
  | opened closed => cases closed.symm.trans open_
  | openedLost closed _ frames => cases closed.symm.trans open_
  | loaded _ => exact .came running trivial owed rfl
  | switched session closed => cases closed.symm.trans open_
  | pointed session _ =>
      exact .asked running id open_ rfl rfl (asked_concat_self session p.onLink)
  | pointedLost session _ frames => exact .owed running id rfl rfl

/-- As long as a client runs, only a switch changes the session. -/
theorem Shift.current (shift : p.Shift h q) (same : ∀ session, h ≠ .switching session) :
    q.session.current = p.session.current := by
  have opened : p.session.opened.1.current = p.session.current := by
    cases owed : p.session.owed with
    | true => rw [Session.opened_of_owed owed]
    | false => rw [Session.opened_of_not_owed owed]
  cases shift with
  | kept => rfl
  | sent frame other => rfl
  | lost frames => rfl
  | stopped => rfl
  | opened closed => exact opened
  | openedLost closed owed frames => exact opened
  | loaded open_ => rfl
  | switched session closed => exact absurd rfl (same session)
  | pointed session open_ => exact absurd rfl (same session)
  | pointedLost session open_ frames => exact absurd rfl (same session)

/-- No link will open any more, or the next one that opens finds the history owed. -/
inductive Due (p : Standing) : Prop where
  | stopped (stopped : p.isRunning = false)
  | owed (closed : p.isOpen = false) (owed : p.session.owed = true)

/-- What is due stays so until a link opens. -/
theorem Shift.due (shift : p.Shift h q) (closed : p.isOpen = false) (owed : p.session.owed = true)
    (unopened : h ≠ .opening) : q.Due := by
  cases shift with
  | kept => exact .owed closed owed
  | sent frame other => exact .owed closed owed
  | lost frames => exact .owed rfl (Session.owed_disconnected_of_owed owed)
  | stopped => exact .stopped rfl
  | opened _ => exact absurd rfl unopened
  | openedLost _ _ frames => exact absurd rfl unopened
  | loaded open_ => cases closed.symm.trans open_
  | switched session _ => exact .owed closed rfl
  | pointed session open_ => cases closed.symm.trans open_
  | pointedLost session open_ frames => cases closed.symm.trans open_

end Standing

namespace Step

variable {s : Step} {came : Prop}

/-- One input takes what is owed to what is owed after it. -/
theorem owing_next (owing : s.standing.Owing came) (input : Input) (r : Reading) :
    (s.next input r).standing.Owing ((s.client.happening input).loaded came) := by
  cases owing with
  | stopped stopped closed =>
      rw [standing_next_of_stopped stopped]
      exact .stopped stopped closed
  | came running here owed loading =>
      exact (shift_next running input r).owing_of_came running here owed loading
  | owed running due closed owed =>
      exact (shift_next running input r).owing_of_owed running due closed owed
  | asked running due open_ owed loading asked =>
      exact (shift_next running input r).owing_of_asked running due open_ owed loading asked

theorem due_next (due : s.standing.Due) {input : Input}
    (unopened : s.client.happening input ≠ .opening) (r : Reading) :
    (s.next input r).standing.Due := by
  cases running : s.client.isRunning with
  | false =>
      rw [standing_next_of_stopped running]
      exact .stopped running
  | true =>
      cases due with
      | stopped stopped => cases running.symm.trans stopped
      | owed closed owed => exact (shift_next running input r).due closed owed unopened

end Step

/-! ## An opening -/

/-- What an opening is: the attempt of a client that runs succeeds. -/
theorem of_opening {c : Client} {input : Input} (opening : c.happening input = .opening) :
    input = .attempted (.ok ()) ∧ c.isRunning = true ∧ c.isConnecting = true := by
  unfold happening at opening
  split at opening
  · split at opening
    · next both => exact ⟨rfl, Bool.and_eq_true_iff.mp both⟩
    · cases opening
  · split at opening
    · cases opening
    · cases opening
  · cases opening
  · cases opening

/-- What an opening makes a client hand over is what it hands over when the link has opened. -/
theorem offered_opening {c : Client} {input : Input} (opening : c.happening input = .opening)
    (r : Reading) :
    ∃ connection : Connection,
      ((({ client := c } : Step).reached connection).client.connection.isOpen = true) ∧
        (c.step input r).offered =
          (({ client := c } : Step).link (connection, some .opened) r).offered := by
  obtain ⟨rfl, running, connecting⟩ := of_opening opening
  obtain ⟨alive, -⟩ := Bool.and_eq_true_iff.mp connecting
  refine ⟨{ c.connection with phase := .opened, retries := 0 }, ?_, ?_⟩
  · change (c.connection.isAlive && _) = true
    rw [alive]
    rfl
  · have attempted : c.connection.attempted (.ok ()) r =
        ({ c.connection with phase := .opened, retries := 0 }, some .opened) := by
      rw [Connection.attempted]
      exact if_pos connecting
    rw [step, Step.next_of_running running, Step.offered_publish, ← attempted]
    rfl

/-- An opening that finds the history owed asks for it. -/
theorem offered_opening_of_owed {c : Client} {input : Input}
    (opening : c.happening input = .opening) (owed : c.state.session.owed = true) (r : Reading) :
    (c.step input r).offered = [.setSession c.state.session.current] := by
  obtain ⟨connection, open_, opened⟩ := offered_opening opening r
  rw [opened, Step.link_opened_of_owed owed, Step.offered_send_of_open open_]
  rfl

/-- An opening that does not find it owed hands over nothing. -/
theorem offered_opening_of_not_owed {c : Client} {input : Input}
    (opening : c.happening input = .opening) (owed : c.state.session.owed = false) (r : Reading) :
    (c.step input r).offered = [] := by
  obtain ⟨connection, -, opened⟩ := offered_opening opening r
  rw [opened, Step.link_opened_of_not_owed owed]
  rfl

/-! ## Runs -/

variable (c : Client) (inputs : List (Input × Reading))

/-- The history of the current session has come: the wait for a history ended at some input, and the
client was not pointed at a session since. -/
def HistoryCame : Prop :=
  ∃ before input r after, inputs = before ++ (input, r) :: after ∧
    (c.run before).client.happening input = .loading ∧
    ∀ later ∈ after, ∀ session, later.1 ≠ .command (.setSession session)

/-- After a run, the link does not open in any of the inputs that follow. -/
def Unopened (more : List (Input × Reading)) : Prop :=
  ∀ before input r after, more = before ++ (input, r) :: after →
    (c.run (inputs ++ before)).client.happening input ≠ .opening

/-- The next time the link opens, if it ever does, the history of the session that is current then
is asked for; that is the session that is current now unless the client is pointed at another. -/
def NextOpeningAsks : Prop :=
  ∀ more, Unopened c inputs more →
    let s := c.run (inputs ++ more)
    (∀ input r, s.client.happening input = .opening →
      (s.client.step input r).offered = [.setSession s.client.state.session.current]) ∧
    ((∀ later ∈ more, ∀ session, later.1 ≠ .command (.setSession session)) →
      s.client.state.session.current = (c.run inputs).client.state.session.current)

variable {c : Client} {inputs : List (Input × Reading)}

theorem happening_eq_switching {input : Input} {session : String}
    (switching : c.happening input = .switching session) :
    input = .command (.setSession session) := by
  unfold happening at switching
  split at switching
  · split at switching
    · cases switching
    · cases switching
  · split at switching
    · cases switching
    · cases switching
  · cases switching
    rfl
  · cases switching

/-- A history that has come stays so until the client is pointed at a session. -/
theorem HistoryCame.concat (came : HistoryCame c inputs) {input : Input}
    (stays : ∀ session, input ≠ .command (.setSession session)) (r : Reading) :
    HistoryCame c (inputs ++ [(input, r)]) := by
  obtain ⟨before, cause, q, after, rfl, loading, kept⟩ := came
  refine ⟨before, cause, q, after ++ [(input, r)], ?_, loading, ?_⟩
  · rw [List.append_assoc, List.cons_append]
  · intro later member
    rcases List.mem_append.mp member with old | new
    · exact kept later old
    · rw [List.mem_singleton.mp new]
      exact stays

/-- Whether a history has come can be told from the last input and the inputs before it. -/
theorem historyCame_concat (input : Input) (r : Reading) :
    HistoryCame c (inputs ++ [(input, r)]) ↔
      ((c.run inputs).client.happening input).loaded (HistoryCame c inputs) := by
  constructor
  · rintro ⟨before, cause, q, after, cut, loading, kept⟩
    rcases List.eq_nil_or_concat' after with rfl | ⟨rest, last, rfl⟩
    · obtain ⟨rfl, same⟩ := List.append_singleton_inj.mp cut
      cases same
      rw [loading]
      trivial
    · rw [← List.cons_append, ← List.append_assoc] at cut
      obtain ⟨earlier, rfl⟩ := List.append_singleton_inj.mp cut
      have came : HistoryCame c inputs :=
        ⟨before, cause, q, rest, earlier, loading,
          fun later member => kept later (List.mem_append_left _ member)⟩
      have stays := kept (input, r) (List.mem_append_right _ (List.mem_singleton_self _))
      cases what : (c.run inputs).client.happening input with
      | opening => exact came
      | loading => trivial
      | switching session => exact absurd (happening_eq_switching what) (stays session)
      | other => exact came
  · intro loaded
    cases what : (c.run inputs).client.happening input with
    | opening =>
        rw [what] at loaded
        refine HistoryCame.concat loaded ?_ r
        rintro session rfl
        cases what
    | loading => exact ⟨inputs, input, r, [], rfl, what, fun later member => by cases member⟩
    | switching session =>
        rw [what] at loaded
        exact loaded.elim
    | other =>
        rw [what] at loaded
        refine HistoryCame.concat loaded ?_ r
        rintro session rfl
        cases what

theorem owing_run (session mode : String) (interval : Nat) (backoff : Backoff)
    (inputs : List (Input × Reading)) :
    let c := (initial session mode interval backoff).start
    (c.run inputs).standing.Owing (HistoryCame c inputs) := by
  intro c
  induction inputs using List.reverseRecOn with
  | nil =>
      have none : ¬HistoryCame c [] := by
        rintro ⟨before, input, r, after, cut, -⟩
        cases List.append_ne_nil_of_right_ne_nil before (List.cons_ne_nil _ _) cut.symm
      exact .owed rfl none rfl rfl
  | append_singleton inputs input owing =>
      obtain ⟨input, r⟩ := input
      rw [run_concat, propext (historyCame_concat input r)]
      exact Step.owing_next owing input r

theorem Unopened.init {more : List (Input × Reading)} {last : Input × Reading}
    (unopened : Unopened c inputs (more ++ [last])) : Unopened c inputs more := by
  rintro before input r after rfl
  refine unopened before input r (after ++ [last]) ?_
  rw [List.append_assoc, List.cons_append]

theorem due_run {more : List (Input × Reading)} (due : (c.run inputs).standing.Due)
    (unopened : Unopened c inputs more) : (c.run (inputs ++ more)).standing.Due := by
  induction more using List.reverseRecOn with
  | nil =>
      rw [List.append_nil]
      exact due
  | append_singleton more last ih =>
      have closed := unopened more last.1 last.2 [] rfl
      rw [← List.append_assoc, run_concat]
      exact Step.due_next (ih unopened.init) closed last.2

theorem current_run {more : List (Input × Reading)}
    (stays : ∀ later ∈ more, ∀ session, later.1 ≠ .command (.setSession session)) :
    (c.run (inputs ++ more)).client.state.session.current =
      (c.run inputs).client.state.session.current := by
  induction more using List.reverseRecOn with
  | nil => rw [List.append_nil]
  | append_singleton more last ih =>
      have before := ih fun later member => stays later (List.mem_append_left _ member)
      have kept := stays last (List.mem_append_right _ (List.mem_singleton_self _))
      rw [← List.append_assoc, run_concat, ← before]
      generalize c.run (inputs ++ more) = s
      cases running : s.client.isRunning with
      | false =>
          have same := Step.standing_next_of_stopped running last.1 last.2
          exact congrArg (·.session.current) same
      | true =>
          have shift := Step.shift_next running last.1 last.2
          exact shift.current fun session what => kept session (happening_eq_switching what)

theorem nextOpeningAsks_of_due (due : (c.run inputs).standing.Due) :
    NextOpeningAsks c inputs := by
  intro more unopened s
  have later : s.standing.Due := due_run due unopened
  refine ⟨?_, current_run⟩
  intro input r opening
  obtain ⟨-, running, -⟩ := of_opening opening
  cases later with
  | stopped stopped => cases running.symm.trans stopped
  | owed closed owed => exact offered_opening_of_owed opening owed r

/-- The history is asked for exactly as long as it is owed.  After every run, an opening of the link
hands over the request for the history of the current session unless that history has come, and then
it hands over nothing.  And while the history is said to be loading, either the link is not open and
the next one that opens asks for it, or it was asked for on the very link that is open and no other
session was asked for since. -/
theorem history_asked_while_owed (session mode : String) (interval : Nat) (backoff : Backoff)
    (inputs : List (Input × Reading)) :
    let c := (initial session mode interval backoff).start
    let s := c.run inputs
    let current := s.client.state.session.current
    (∀ input r, s.client.happening input = .opening →
      ((s.client.step input r).offered = [.setSession current] ↔ ¬HistoryCame c inputs) ∧
        ((s.client.step input r).offered = [] ↔ HistoryCame c inputs)) ∧
      (s.client.state.snapshot.isLoadingHistory = true →
        (s.client.connection.isOpen = false ∧ NextOpeningAsks c inputs) ∨
          (s.client.connection.isOpen = true ∧ Asked current (onLink s.acts))) := by
  intro c s current
  have owing : s.standing.Owing (HistoryCame c inputs) :=
    owing_run session mode interval backoff inputs
  constructor
  · intro input r opening
    obtain ⟨-, running, connecting⟩ := of_opening opening
    cases owing with
    | stopped stopped closed => cases running.symm.trans stopped
    | came _ here owed loading =>
        rw [offered_opening_of_not_owed opening owed]
        refine ⟨iff_of_false ?_ (not_not_intro here), iff_of_true rfl here⟩
        exact List.cons_ne_nil _ _ ∘ Eq.symm
    | owed _ due closed owed =>
        rw [offered_opening_of_owed opening owed]
        exact ⟨iff_of_true rfl due, iff_of_false (List.cons_ne_nil _ _) due⟩
    | asked _ due open_ owed loading asked =>
        cases (Connection.not_open_of_connecting connecting).symm.trans open_
  · intro waiting
    cases owing with
    | stopped stopped closed => exact .inl ⟨closed, nextOpeningAsks_of_due (.stopped stopped)⟩
    | came _ here owed loading => cases loading.symm.trans waiting
    | owed _ due closed owed => exact .inl ⟨closed, nextOpeningAsks_of_due (.owed closed owed)⟩
    | asked _ due open_ owed loading asked => exact .inr ⟨open_, asked⟩

/-- The link has just opened, and the request for the history was taken. -/
def askedForDefault : List (Input × Reading) :=
  [(.attempted (.ok ()), { now := ⟨0, ⟨0, 0⟩⟩, sample := 0.0, sink := .ok () })]

theorem history_asked_while_owed_of_first_link :
    let c := (initial "default" "chat" 50 ⟨1, 1, 0.0⟩).start
    let r : Reading := { now := ⟨0, ⟨0, 0⟩⟩, sample := 0.0, sink := .ok () }
    c.happening (.attempted (.ok ())) = .opening ∧
      ((c.step (.attempted (.ok ())) r).offered = [.setSession "default"] ↔ ¬HistoryCame c []) ∧
      (c.run askedForDefault).client.state.snapshot.isLoadingHistory = true ∧
      Asked "default" (onLink (c.run askedForDefault).acts) := by
  intro c r
  have first := history_asked_while_owed "default" "chat" 50 ⟨1, 1, 0.0⟩ []
  have second := history_asked_while_owed "default" "chat" 50 ⟨1, 1, 0.0⟩ askedForDefault
  have opening : c.happening (.attempted (.ok ())) = .opening := rfl
  have waiting : (c.run askedForDefault).client.state.snapshot.isLoadingHistory = true := rfl
  refine ⟨opening, (first.1 _ r opening).1, waiting, ?_⟩
  rcases second.2 waiting with ⟨closed, -⟩ | ⟨-, asked⟩
  · cases closed
  · exact asked

end StreamingChat.Client
