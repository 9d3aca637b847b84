import StreamingChat.Link.Run

/-!
# What the acts of a connection tell

A connection holds at most one attempt or one link.  What it holds, and how many timers have fired
since its link was last open, can be read off what it did: every call leaves a connection as its
acts have it.
-/

namespace StreamingChat.Link.Connection

open StreamingChat.Calendar (ceilMilli le_ceilMilli)

/-! ## What is read off the acts -/

/-- A count of timers after one more act. -/
def Act.count (timers : Nat) : Act → Nat
  | told .opened => 0
  | fired => timers + 1
  | _ => timers

/-- The timers that fired since the link was last opened. -/
def timers (acts : List Act) : Nat :=
  acts.foldl Act.count 0

/-- What there is to a connection: at most one attempt or one link. -/
inductive Hold where
  | nothing
  | attempt
  | link
  | closed
  deriving DecidableEq, Repr

/-- What an act leaves.  An attempt begins only where there is nothing, an event comes only of what
there is, only a link takes frames, and after closing every frame is refused. -/
def Hold.after? : Hold → Act → Option Hold
  | closed, .closed => some closed
  | closed, .sent (.error .notConnected) => some closed
  | closed, _ => none
  | _, .closed => some closed
  | nothing, .fired => some nothing
  | nothing, .began => some attempt
  | attempt, .told .opened => some link
  | attempt, .told (.lost _ _) => some nothing
  | link, .told (.frame _) => some link
  | link, .told (.lost _ _) => some nothing
  | link, .sent (.ok ()) => some link
  | link, .sent (.error (.transport _)) => some nothing
  | link, .sent (.error .notConnected) => none
  | hold, .sent (.error .notConnected) => some hold
  | _, _ => none

/-- What there is to a connection, as its phase has it. -/
def held (c : Connection) : Hold :=
  if c.isAlive then
    match c.phase with
    | .idle | .waiting _ => .nothing
    | .connecting => .attempt
    | .opened => .link
  else .closed

/-! ## The pieces of a call -/

variable {c d : Connection} {r : Reading} {call : Call} {answers : Answers}

theorem held_of_dead (dead : c.isAlive = false) : c.held = .closed := by
  rw [held, dead]
  rfl

theorem held_of_connecting (connecting : c.isConnecting = true) : c.held = .attempt := by
  simp only [isConnecting, Bool.and_eq_true, beq_iff_eq] at connecting
  rw [held, connecting.1, connecting.2]
  rfl

theorem held_of_open (open_ : c.isOpen = true) : c.held = .link := by
  simp only [isOpen, Bool.and_eq_true, beq_iff_eq] at open_
  rw [held, open_.1, open_.2]
  rfl

theorem held_of_free (free : c.canConnect = true) : c.held = .nothing := by
  simp only [canConnect, Bool.and_eq_true, bne_iff_ne] at free
  obtain ⟨⟨alive, notConnecting⟩, notOpen⟩ := free
  rw [held, if_pos alive]
  cases phase : c.phase with
  | idle => rfl
  | connecting => exact absurd phase notConnecting
  | opened => exact absurd phase notOpen
  | waiting deadline => rfl

theorem held_schedule (alive : c.isAlive = true) (unarmed : c.deadline = none) (r : Reading) :
    (c.schedule r).1.held = .nothing := by
  rw [schedule_of_unarmed unarmed, held, if_pos alive]

theorem isAlive_of_open (open_ : c.isOpen = true) : c.isAlive = true :=
  (Bool.and_eq_true_iff.mp open_).1

theorem isAlive_of_connecting (connecting : c.isConnecting = true) : c.isAlive = true :=
  (Bool.and_eq_true_iff.mp connecting).1

theorem deadline_schedule (unarmed : c.deadline = none) (r : Reading) :
    (c.schedule r).1.deadline =
      some (r.now.tick + c.backoff.delay (c.schedule r).1.retries r.sample) := by
  rw [schedule_of_unarmed unarmed]
  rfl

theorem phase_of_deadline {deadline : Nat} (armed : c.deadline = some deadline) :
    c.phase = .waiting deadline := by
  unfold Connection.deadline at armed
  split at armed
  · next tick waiting =>
    cases armed
    exact waiting
  · cases armed

/-- A connection after its timer fired. -/
def revived (c : Connection) : Connection :=
  { c with phase := .connecting, retries := min (c.retries + 1) maxRetries }

theorem isAlive_of_isDue {tick : Nat} (due : c.isDue tick = true) : c.isAlive = true :=
  (Bool.and_eq_true_iff.mp due).1

theorem isConnecting_revived (alive : c.isAlive = true) : c.revived.isConnecting = true :=
  Bool.and_eq_true_iff.mpr ⟨alive, rfl⟩

/-- A timer that has expired was armed, and fires. -/
theorem awaken_of_due {tick : Nat} (due : c.isDue tick = true) :
    (∃ deadline, c.deadline = some deadline ∧ deadline ≤ tick) ∧
      c.awaken tick = (c.revived, [.fired, .began]) := by
  obtain ⟨alive, some_⟩ := Bool.and_eq_true_iff.mp due
  obtain ⟨deadline, armed, expired⟩ := (Option.any_eq_true _ _).mp some_
  have fired : c.timerFired = c.revived := by
    simp only [timerFired, alive, phase_of_deadline armed, revived]
  have past := Nat.le_trans (le_ceilMilli deadline) (of_decide_eq_true expired)
  refine ⟨⟨deadline, armed, past⟩, ?_⟩
  rw [awaken, if_pos due, fired]

theorem awaken_of_not_due {tick : Nat} (early : c.isDue tick = false) :
    c.awaken tick = (c, []) := by
  rw [awaken, early, if_neg Bool.false_ne_true]

theorem not_due_of_unarmed (unarmed : c.deadline = none) (tick : Nat) : c.isDue tick = false := by
  rw [isDue, unarmed, Option.any_none, Bool.and_false]

/-- What the transport has to say is that an attempt has ended, or what an open link yields. -/
inductive Heeds (c : Connection) (answers : Answers) (r : Reading) :
    Connection → Option Event → Prop where
  | quiet (noAttempt : c.isConnecting = true → answers.attempt = none)
      (noItem : c.isOpen = true → answers.item = none) : Heeds c answers r c none
  | opened (connecting : c.isConnecting = true) (ended : answers.attempt = some (.ok ())) :
      Heeds c answers r { c with phase := .opened, retries := 0 } (some .opened)
  | unreached (fault : Fault) (connecting : c.isConnecting = true)
      (ended : answers.attempt = some (.error fault)) :
      Heeds c answers r (c.schedule r).1 (some (.lost fault (c.schedule r).2))
  | frame (text : String) (open_ : c.isOpen = true) (yields : answers.item = some (.text text)) :
      Heeds c answers r c (some (.frame text))
  | broken (item : Received) (fault : Fault) (open_ : c.isOpen = true)
      (yields : answers.item = some item) (faulty : item.fault? = some fault) :
      Heeds c answers r (c.schedule r).1 (some (.lost fault (c.schedule r).2))

theorem heeds_heed (c : Connection) (answers : Answers) (r : Reading) :
    Heeds c answers r (c.heed answers r).1 (c.heed answers r).2 := by
  unfold heed
  cases connecting : c.isConnecting with
  | true =>
      rw [if_pos rfl]
      cases ended : answers.attempt with
      | none =>
          -- While an attempt is under way there is no link that could yield anything.
          have closed := not_open_of_connecting connecting
          exact .quiet (fun _ => ended) (fun open_ => by cases closed.symm.trans open_)
      | some result =>
          change Heeds c answers r (c.attempted result r).1 (c.attempted result r).2
          cases result with
          | ok =>
              rw [attempted_ok connecting]
              exact .opened connecting ended
          | error fault =>
              rw [attempted_error connecting]
              exact .unreached fault connecting ended
  | false =>
      rw [if_neg Bool.false_ne_true]
      have idle : c.isConnecting = true → answers.attempt = none := by
        intro busy
        cases connecting.symm.trans busy
      cases yields : answers.item with
      | none => exact .quiet idle (fun _ => yields)
      | some item =>
          change Heeds c answers r (c.received item r).1 (c.received item r).2
          cases open_ : c.isOpen with
          | false =>
              rw [received_of_not_open open_]
              exact .quiet idle (fun busy => by cases open_.symm.trans busy)
          | true =>
              cases item with
              | text text =>
                  rw [received_text open_]
                  exact .frame text open_ yields
              | failed fault =>
                  rw [received_fault open_ rfl]
                  exact .broken (.failed fault) fault open_ yields rfl
              | ended =>
                  rw [received_fault open_ rfl]
                  exact .broken .ended .closed open_ yields rfl

/-- Who looks for an event first lets an expired timer fire. -/
inductive Looks (c : Connection) (answers : Answers) (r : Reading) :
    Connection → List Act → Prop where
  | asleep {d : Connection} {event : Option Event} (early : c.isDue r.now.tick = false)
      (heeds : Heeds c answers r d event) : Looks c answers r d (event.map Act.told).toList
  | woken {d : Connection} {event : Option Event} (due : c.isDue r.now.tick = true)
      (heeds : Heeds c.revived answers r d event) :
      Looks c answers r d ([.fired, .began] ++ (event.map Act.told).toList)

theorem looks_handle (c : Connection) (answers : Answers) (r : Reading) :
    Looks c answers r (c.handle (.look answers) r).1 (c.handle (.look answers) r).2 := by
  unfold handle
  cases due : c.isDue r.now.tick with
  | true =>
      rw [(awaken_of_due due).2]
      exact .woken due (heeds_heed c.revived answers r)
  | false =>
      rw [awaken_of_not_due due]
      exact .asleep due (heeds_heed c answers r)

/-! ## The acts tell what becomes of a connection -/

/-- A connection comes to be as the acts have it. -/
structure Follows (c : Connection) (acts : List Act) (d : Connection) : Prop where
  held : acts.foldlM Hold.after? c.held = some d.held
  retries : ∀ count, c.retries = min count maxRetries →
    d.retries = min (acts.foldl Act.count count) maxRetries
  backoff : d.backoff = c.backoff

theorem follows_refl (c : Connection) : Follows c [] c where
  held := rfl
  retries _ same := same
  backoff := rfl

theorem Follows.trans {e : Connection} {acts more : List Act} (first : Follows c acts d)
    (second : Follows d more e) : Follows c (acts ++ more) e where
  held := by
    rw [List.foldlM_append, first.held]
    exact second.held
  retries count same := by
    rw [List.foldl_append]
    exact second.retries _ (first.retries count same)
  backoff := second.backoff.trans first.backoff

/-- One act that counts no timer. -/
theorem follows_act {act : Act} (held : c.held.after? act = some d.held)
    (kept : d.retries = c.retries) (quiet : ∀ count, act.count count = count)
    (backoff : d.backoff = c.backoff) : Follows c [act] d where
  held := by
    rw [List.foldlM_cons, held]
    rfl
  retries count same := by
    rw [List.foldl_cons, quiet, kept]
    exact same
  backoff := backoff

/-- A loss is told where an attempt or a link was. -/
theorem follows_lost (alive : c.isAlive = true) (unarmed : c.deadline = none) {act : Act}
    (held : c.held.after? act = some .nothing) (quiet : ∀ count, act.count count = count)
    (r : Reading) : Follows c [act] (c.schedule r).1 := by
  have nothing := held.trans (congrArg some (held_schedule alive unarmed r).symm)
  rw [schedule_of_unarmed unarmed] at nothing ⊢
  exact follows_act nothing rfl quiet rfl

theorem follows_connect (c : Connection) :
    Follows c (if c.canConnect then [.began] else []) c.connect := by
  unfold connect
  cases free : c.canConnect with
  | false => exact follows_refl c
  | true =>
      have alive : c.isAlive = true := by
        simp only [canConnect, Bool.and_eq_true] at free
        exact free.1.1
      have connecting : held { c with phase := .connecting } = .attempt := if_pos alive
      refine follows_act ?_ rfl (fun _ => rfl) rfl
      rw [held_of_free free, if_pos rfl, connecting]
      rfl

/-- A frame is refused where there is no link. -/
theorem after_refused (closed : c.isOpen = false) :
    c.held.after? (.sent (.error .notConnected)) = some c.held := by
  cases alive : c.isAlive with
  | false =>
      rw [held_of_dead alive]
      rfl
  | true =>
      rw [held, if_pos alive]
      cases phase : c.phase with
      | idle => rfl
      | connecting => rfl
      | opened =>
          rw [isOpen, alive, phase] at closed
          cases closed
      | waiting deadline => rfl

theorem follows_send (c : Connection) (r : Reading) :
    Follows c [.sent (c.send r).2] (c.send r).1 := by
  unfold send
  cases open_ : c.isOpen with
  | false => exact follows_act (after_refused open_) rfl (fun _ => rfl) rfl
  | true =>
      have link := held_of_open open_
      cases r.sink with
      | ok =>
          refine follows_act ?_ rfl (fun _ => rfl) rfl
          rw [link]
          exact congrArg some link.symm
      | error fault =>
          refine follows_lost (isAlive_of_open open_) (deadline_of_open open_) ?_ (fun _ => rfl) r
          rw [link]
          rfl

theorem follows_revived (due : c.isDue r.now.tick = true) :
    Follows c [.fired, .began] c.revived := by
  obtain ⟨⟨deadline, armed, -⟩, -⟩ := awaken_of_due due
  have alive := isAlive_of_isDue due
  have nothing : c.held = .nothing := by
    rw [held, if_pos alive, phase_of_deadline armed]
  have attempt : c.revived.held = .attempt := if_pos alive
  refine ⟨?_, ?_, rfl⟩
  · rw [nothing, attempt]
    rfl
  · intro count same
    change min (c.retries + 1) maxRetries = min (count + 1) maxRetries
    rw [same]
    omega

theorem follows_heed {event : Option Event} (heeds : Heeds c answers r d event) :
    Follows c (event.map Act.told).toList d := by
  cases heeds with
  | quiet noAttempt noItem => exact follows_refl c
  | opened connecting ended =>
      have link : held { c with phase := .opened, retries := 0 } = .link :=
        if_pos (isAlive_of_connecting connecting)
      refine ⟨?_, ?_, rfl⟩
      · rw [held_of_connecting connecting, link]
        rfl
      · intro count same
        exact (Nat.zero_min maxRetries).symm
  | unreached fault connecting ended =>
      refine follows_lost (isAlive_of_connecting connecting) (deadline_of_connecting connecting) ?_
        (fun _ => rfl) r
      rw [held_of_connecting connecting]
      rfl
  | frame text open_ yields =>
      refine follows_act ?_ rfl (fun _ => rfl) rfl
      rw [held_of_open open_]
      rfl
  | broken item fault open_ yields faulty =>
      refine follows_lost (isAlive_of_open open_) (deadline_of_open open_) ?_ (fun _ => rfl) r
      rw [held_of_open open_]
      rfl

theorem follows_looks {acts : List Act} (looks : Looks c answers r d acts) : Follows c acts d := by
  cases looks with
  | asleep early heeds => exact follows_heed heeds
  | woken due heeds => exact (follows_revived due).trans (follows_heed heeds)

theorem follows_close (c : Connection) : Follows c [.closed] c.close := by
  refine follows_act ?_ rfl (fun _ => rfl) rfl
  cases c.held with
  | nothing => rfl
  | attempt => rfl
  | link => rfl
  | closed => rfl

/-- What a call makes of a connection is what its acts tell. -/
theorem follows_handle (c : Connection) (call : Call) (r : Reading) :
    Follows c (c.handle call r).2 (c.handle call r).1 := by
  cases call with
  | connect => exact follows_connect c
  | send => exact follows_send c r
  | look answers => exact follows_looks (looks_handle c answers r)
  | close => exact follows_close c

end StreamingChat.Link.Connection
