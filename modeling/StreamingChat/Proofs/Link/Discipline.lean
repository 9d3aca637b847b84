import Mathlib.Data.List.Induction
import StreamingChat.Proofs.Link.Acts

/-!
# The discipline of reconnecting

A connection arms its timer when the transport fails, and only then; what was armed stays until it
fires, is given up for an attempt that is asked for, or is cancelled by closing.  An attempt begins
where one is asked for or with a timer that has expired.  After closing nothing happens any more.
-/

namespace StreamingChat.Link.Connection

variable {c d : Connection} {r : Reading} {call : Call} {answers : Answers}

/-! ## Failures -/

/-- The owner is told of a loss, by an event or by the answer to a frame. -/
def Act.isLoss : Act → Bool
  | told (.lost _ _) => true
  | sent (.error (.transport _)) => true
  | _ => false

/-- The transport fails in a call: the attempt that is under way ends badly, or the open link breaks
or ends, or it does not take a frame. -/
inductive Fails (c : Connection) (r : Reading) : Call → Fault → Prop where
  | attempt (answers : Answers) (fault : Fault)
      (underway : c.isConnecting = true ∨ c.isDue r.now.tick = true)
      (ended : answers.attempt = some (.error fault)) : Fails c r (.look answers) fault
  | link (answers : Answers) (item : Received) (fault : Fault) (open_ : c.isOpen = true)
      (yields : answers.item = some item) (faulty : item.fault? = some fault) :
      Fails c r (.look answers) fault
  | frame (fault : Fault) (open_ : c.isOpen = true) (lost : r.sink = .error fault) :
      Fails c r .send fault

/-! ## Timers and attempts -/

theorem heed_unreached {fault : Fault} (connecting : c.isConnecting = true)
    (ended : answers.attempt = some (.error fault)) (r : Reading) :
    c.heed answers r = ((c.schedule r).1, some (.lost fault (c.schedule r).2)) := by
  simp only [heed, connecting, ended, if_true, attempted_error connecting]

theorem heed_broken {item : Received} {fault : Fault} (open_ : c.isOpen = true)
    (yields : answers.item = some item) (faulty : item.fault? = some fault) (r : Reading) :
    c.heed answers r = ((c.schedule r).1, some (.lost fault (c.schedule r).2)) := by
  have idle : c.isConnecting = false := by
    cases connecting : c.isConnecting with
    | false => rfl
    | true => cases (not_open_of_connecting connecting).symm.trans open_
  simp only [heed, idle, yields, if_neg Bool.false_ne_true, received_fault open_ faulty]

/-- A failure of the transport arms the timer, and the owner is told of it. -/
theorem handle_of_fails {fault : Fault} (fails : c.Fails r call fault) :
    ∃ (d : Connection) (acts : List Act) (act : Act),
      c.handle call r = ((d.schedule r).1, acts ++ [act]) ∧ d.deadline = none ∧
        d.backoff = c.backoff ∧ act.isLoss = true := by
  cases fails with
  | attempt answers fault underway ended =>
      rcases underway with connecting | due
      · have unarmed := deadline_of_connecting connecting
        have early := not_due_of_unarmed unarmed r.now.tick
        refine ⟨c, [], .told (.lost fault (c.schedule r).2), ?_, unarmed, rfl, rfl⟩
        simp only [handle, awaken_of_not_due early, heed_unreached connecting ended]
        rfl
      · have connecting := isConnecting_revived (isAlive_of_isDue due)
        refine ⟨c.revived, [.fired, .began], .told (.lost fault (c.revived.schedule r).2), ?_,
          rfl, rfl, rfl⟩
        simp only [handle, (awaken_of_due due).2, heed_unreached connecting ended]
        rfl
  | link answers item fault open_ yields faulty =>
      have unarmed := deadline_of_open open_
      have early := not_due_of_unarmed unarmed r.now.tick
      refine ⟨c, [], .told (.lost fault (c.schedule r).2), ?_, unarmed, rfl, rfl⟩
      simp only [handle, awaken_of_not_due early, heed_broken open_ yields faulty]
      rfl
  | frame fault open_ lost =>
      refine ⟨c, [], .sent (.error (.transport fault)), ?_, deadline_of_open open_, rfl, rfl⟩
      simp only [handle, send, open_, lost, if_true, List.nil_append]

/-- No loss is told, and no timer is armed. -/
structure Calm (c : Connection) (acts : List Act) (d : Connection) : Prop where
  silent : ∀ act ∈ acts, act.isLoss = false
  unarmed : ∀ deadline, d.deadline = some deadline → c.deadline = some deadline

theorem calm_of_deadline {acts : List Act} (silent : ∀ act ∈ acts, act.isLoss = false)
    (unarmed : d.deadline = none) : Calm c acts d where
  silent := silent
  unarmed deadline armed := by cases unarmed.symm.trans armed

theorem calm_same {acts : List Act} (silent : ∀ act ∈ acts, act.isLoss = false) :
    Calm c acts c where
  silent := silent
  unarmed _ armed := armed

theorem silent_cons {act : Act} {acts : List Act} (first : act.isLoss = false)
    (rest : ∀ act ∈ acts, act.isLoss = false) : ∀ other ∈ act :: acts, other.isLoss = false :=
  List.forall_mem_cons.mpr ⟨first, rest⟩

theorem silent_nil : ∀ act ∈ ([] : List Act), act.isLoss = false := by
  intro act member
  cases member

theorem calm_or_fails_of_looks {acts : List Act} (looks : Looks c answers r d acts) :
    Calm c acts d ∨ ∃ fault, c.Fails r (.look answers) fault := by
  cases looks with
  | asleep early heeds =>
      cases heeds with
      | quiet noAttempt noItem => exact .inl (calm_same silent_nil)
      | opened connecting ended =>
          exact .inl (calm_of_deadline (silent_cons rfl silent_nil) rfl)
      | unreached fault connecting ended =>
          exact .inr ⟨fault, .attempt _ _ (.inl connecting) ended⟩
      | frame text open_ yields => exact .inl (calm_same (silent_cons rfl silent_nil))
      | broken item fault open_ yields faulty =>
          exact .inr ⟨fault, .link _ item _ open_ yields faulty⟩
  | woken due heeds =>
      have closed := not_open_of_connecting (isConnecting_revived (isAlive_of_isDue due))
      have started : ∀ act ∈ [Act.fired, Act.began], act.isLoss = false :=
        silent_cons rfl (silent_cons rfl silent_nil)
      cases heeds with
      | quiet noAttempt noItem => exact .inl (calm_of_deadline started rfl)
      | opened connecting ended =>
          have silent : ∀ act ∈ [Act.told .opened], act.isLoss = false :=
            silent_cons rfl silent_nil
          exact .inl (calm_of_deadline (List.forall_mem_append.mpr ⟨started, silent⟩) rfl)
      | unreached fault connecting ended => exact .inr ⟨fault, .attempt _ _ (.inr due) ended⟩
      | frame text open_ yields => cases closed.symm.trans open_
      | broken item fault open_ yields faulty => cases closed.symm.trans open_

/-- What is told of a loss and what arms the timer comes of a failure. -/
theorem calm_or_fails (c : Connection) (call : Call) (r : Reading) :
    Calm c (c.handle call r).2 (c.handle call r).1 ∨ ∃ fault, c.Fails r call fault := by
  cases call with
  | connect =>
      unfold handle connect
      cases c.canConnect with
      | false => exact .inl (calm_same silent_nil)
      | true => exact .inl (calm_of_deadline (silent_cons rfl silent_nil) rfl)
  | send =>
      unfold handle send
      cases open_ : c.isOpen with
      | false => exact .inl (calm_same (silent_cons rfl silent_nil))
      | true =>
          cases answer : r.sink with
          | ok => exact .inl (calm_same (silent_cons rfl silent_nil))
          | error fault => exact .inr ⟨fault, .frame fault open_ answer⟩
  | look answers => exact calm_or_fails_of_looks (looks_handle c answers r)
  | close => exact .inl (calm_of_deadline (silent_cons rfl silent_nil) rfl)

theorem not_busy_of_canConnect (free : c.canConnect = true) :
    c.isConnecting = false ∧ c.isOpen = false := by
  simp only [canConnect, Bool.and_eq_true, bne_iff_ne] at free
  obtain ⟨⟨-, notConnecting⟩, notOpen⟩ := free
  rw [isConnecting, isOpen, beq_false_of_ne notConnecting, beq_false_of_ne notOpen]
  exact ⟨Bool.and_false _, Bool.and_false _⟩

/-- Nothing is heard on a connection that waits. -/
theorem Heeds.of_armed {deadline : Nat} {event : Option Event}
    (heeds : Heeds c answers r d event) (armed : c.deadline = some deadline) :
    d = c ∧ event = none := by
  cases heeds with
  | quiet noAttempt noItem => exact ⟨rfl, rfl⟩
  | opened connecting ended => cases armed.symm.trans (deadline_of_connecting connecting)
  | unreached fault connecting ended =>
      cases armed.symm.trans (deadline_of_connecting connecting)
  | frame text open_ yields => cases armed.symm.trans (deadline_of_open open_)
  | broken item fault open_ yields faulty => cases armed.symm.trans (deadline_of_open open_)

/-- How an armed timer comes to an end. -/
inductive Ends (deadline : Nat) (call : Call) (r : Reading) (d : Connection) (acts : List Act) :
    Prop where
  | superseded (asked : call = .connect) (connecting : d.isConnecting = true)
  | cancelled (asked : call = .close) (dead : d.isAlive = false)
  | expired (past : deadline ≤ r.now.tick) (fired : acts.head? = some .fired)

theorem stays_or_ends {deadline : Nat} (armed : c.deadline = some deadline) (call : Call)
    (r : Reading) :
    (c.handle call r).1.deadline = some deadline ∨
      Ends deadline call r (c.handle call r).1 (c.handle call r).2 := by
  cases call with
  | connect =>
      change c.connect.deadline = some deadline ∨ Ends deadline .connect r c.connect _
      unfold connect
      cases free : c.canConnect with
      | false => exact .inl armed
      | true =>
          simp only [canConnect, Bool.and_eq_true] at free
          exact .inr (.superseded rfl (Bool.and_eq_true_iff.mpr ⟨free.1.1, rfl⟩))
  | send =>
      have closed : c.isOpen = false := by
        cases open_ : c.isOpen with
        | false => rfl
        | true => cases armed.symm.trans (deadline_of_open open_)
      simp only [handle, send, closed]
      exact .inl armed
  | look answers =>
      have looks := looks_handle c answers r
      generalize (c.handle (.look answers) r).1 = d at looks ⊢
      generalize (c.handle (.look answers) r).2 = acts at looks ⊢
      cases looks with
      | asleep early heeds =>
          obtain ⟨rfl, -⟩ := heeds.of_armed armed
          exact .inl armed
      | woken due heeds =>
          obtain ⟨⟨tick, armedToo, past⟩, -⟩ := awaken_of_due due
          cases armed.symm.trans armedToo
          exact .inr (.expired past rfl)
  | close => exact .inr (.cancelled rfl rfl)

/-- Where attempts come from. -/
inductive Starts (c : Connection) (call : Call) (r : Reading) : Prop where
  | asked (asked : call = .connect) (idle : c.isConnecting = false) (closed : c.isOpen = false)
  | retried (deadline : Nat) (armed : c.deadline = some deadline) (past : deadline ≤ r.now.tick)

theorem starts_of_began (began : Act.began ∈ (c.handle call r).2) : Starts c call r := by
  cases call with
  | connect =>
      cases free : c.canConnect with
      | false =>
          simp only [handle, free] at began
          cases began
      | true =>
          obtain ⟨idle, closed⟩ := not_busy_of_canConnect free
          exact .asked rfl idle closed
  | send => cases List.mem_singleton.mp began
  | look answers =>
      have looks := looks_handle c answers r
      generalize (c.handle (.look answers) r).1 = d at looks
      generalize (c.handle (.look answers) r).2 = acts at looks began
      cases looks with
      | asleep early heeds =>
          obtain ⟨event, -, told⟩ := Option.map_eq_some_iff.mp (Option.mem_toList.mp began)
          cases told
      | woken due heeds =>
          obtain ⟨⟨deadline, armed, past⟩, -⟩ := awaken_of_due due
          exact .retried deadline armed past
  | close => cases List.mem_singleton.mp began

/-- What a call keeps to.  When the transport fails, the owner is told and the timer is armed for
the delay of the retries so far, and neither happens otherwise.  An armed timer stays unless it ends
in one of the ways of `Ends`.  An attempt begins in one of the ways of `Starts`. -/
structure Keeps (c : Connection) (call : Call) (r : Reading) : Prop where
  armed : ∀ fault, c.Fails r call fault → (c.handle call r).1.deadline =
    some (r.now.tick + c.backoff.delay (c.handle call r).1.retries r.sample)
  told : (∃ act ∈ (c.handle call r).2, act.isLoss = true) ↔ ∃ fault, c.Fails r call fault
  onlyThen : ∀ deadline, (c.handle call r).1.deadline = some deadline →
    c.deadline = some deadline ∨ ∃ fault, c.Fails r call fault
  stays : ∀ deadline, c.deadline = some deadline →
    (c.handle call r).1.deadline = some deadline ∨
      Ends deadline call r (c.handle call r).1 (c.handle call r).2
  begins : Act.began ∈ (c.handle call r).2 → Starts c call r

theorem keeps_handle (c : Connection) (call : Call) (r : Reading) : c.Keeps call r where
  armed fault fails := by
    obtain ⟨d, acts, act, handled, unarmed, same, -⟩ := handle_of_fails fails
    rw [handled, ← same]
    exact deadline_schedule unarmed r
  told := by
    constructor
    · rintro ⟨act, member, loss⟩
      rcases calm_or_fails c call r with calm | fails
      · cases (calm.silent act member).symm.trans loss
      · exact fails
    · rintro ⟨fault, fails⟩
      obtain ⟨d, acts, act, handled, -, -, loss⟩ := handle_of_fails fails
      refine ⟨act, ?_, loss⟩
      rw [handled]
      exact List.mem_append_right acts (List.mem_singleton.mpr rfl)
  onlyThen deadline armed :=
    (calm_or_fails c call r).imp_left (fun calm => calm.unarmed deadline armed)
  stays deadline armed := stays_or_ends armed call r
  begins := starts_of_began

/-! ## After closing -/

/-- What comes of a call after closing: a frame is refused, and nothing else happens. -/
def Call.whenClosed : Call → List Act
  | send => [.sent (.error .notConnected)]
  | close => [.closed]
  | connect | look _ => []

theorem handle_of_dead (dead : c.isAlive = false) (call : Call) (r : Reading) :
    (c.handle call r).1.isAlive = false ∧ (c.handle call r).2 = call.whenClosed := by
  have closed : c.isOpen = false := by
    rw [isOpen, dead, Bool.false_and]
  cases call with
  | connect =>
      simp only [handle, connect, canConnect, dead, Bool.false_and]
      exact ⟨dead, rfl⟩
  | send =>
      simp only [handle, send, closed]
      exact ⟨dead, rfl⟩
  | look answers =>
      have early : c.isDue r.now.tick = false := by
        rw [isDue, dead, Bool.false_and]
      have idle : c.isConnecting = false := by
        rw [isConnecting, dead, Bool.false_and]
      have deaf : c.heed answers r = (c, none) := by
        simp only [heed, idle]
        cases answers.item with
        | none => rfl
        | some item => exact received_of_not_open closed item r
      simp only [handle, awaken_of_not_due early, deaf]
      exact ⟨dead, rfl⟩
  | close => exact ⟨rfl, rfl⟩

namespace Trace

theorem acts_run_of_dead {t : Trace} (dead : t.connection.isAlive = false)
    (calls : List (Call × Reading)) :
    (t.run calls).acts = t.acts ++ calls.flatMap (·.1.whenClosed) := by
  induction calls generalizing t with
  | nil => exact (List.append_nil _).symm
  | cons call rest ih =>
      obtain ⟨still, acts⟩ := handle_of_dead dead call.1 call.2
      have next : (t.step call.1 call.2).connection.isAlive = false := still
      rw [List.flatMap_cons, ← List.append_assoc, ← acts]
      exact ih next

/-! ## Runs -/

/-- After every run the acts tell what there is to a connection and how often it was retried. -/
theorem follows_run (backoff : Backoff) (calls : List (Call × Reading)) :
    let t := ({ connection := { backoff } } : Trace).run calls
    Follows { backoff } t.acts t.connection := by
  induction calls using List.reverseRecOn with
  | nil => exact follows_refl { backoff }
  | append_singleton calls call follows =>
      intro t
      have after := follows.trans (follows_handle _ call.1 call.2)
      have last : t = (({ connection := { backoff } } : Trace).run calls).step call.1 call.2 :=
        run_concat _ calls call
      rw [last]
      exact after

end Trace

/-- The discipline of reconnecting.  After every run of calls, the retries are the timers that fired
since the link was last opened, up to a bound; the acts tell of one attempt or link at a time; every
call keeps to what `Keeps` says of timers and attempts; and once the connection is closed, all that
ever comes is that frames are refused. -/
theorem reconnect_discipline (backoff : Backoff) (calls : List (Call × Reading)) :
    let t := ({ connection := { backoff } } : Trace).run calls
    t.connection.backoff = backoff ∧
      t.connection.retries = min (timers t.acts) maxRetries ∧
      t.acts.foldlM Hold.after? .nothing = some t.connection.held ∧
      (∀ call r, t.connection.Keeps call r) ∧
      ∀ r more, ((t.step .close r).run more).acts =
        t.acts ++ [.closed] ++ more.flatMap (·.1.whenClosed) := by
  intro t
  have follows : Follows { backoff } t.acts t.connection := Trace.follows_run backoff calls
  refine ⟨follows.backoff, follows.retries 0 (Nat.zero_min _).symm, follows.held, ?_, ?_⟩
  · intro call r
    exact keeps_handle t.connection call r
  · intro r more
    have closed : (t.step .close r).connection.isAlive = false := rfl
    exact Trace.acts_run_of_dead closed more

/-- No time has passed, and every frame is taken. -/
def still : Reading where
  now := ⟨0, ⟨0, 0⟩⟩
  sample := 0.0
  sink := .ok ()

/-- An attempt that is refused arms the timer; one that is closed away is never heard of again. -/
theorem reconnect_discipline_of_refused :
    let backoff : Backoff := ⟨1, 1, 0.0⟩
    let t := ({ connection := { backoff } } : Trace).run [(.connect, still)]
    let refused := Call.look { attempt := some (.error .closed) }
    (t.connection.Fails still refused .closed ∧
      (t.step refused still).connection.deadline = some (0 + backoff.delay 0 0.0)) ∧
      ((t.step .close still).run [(refused, still), (.connect, still), (.send, still)]).acts =
        [.began, .closed, .sent (.error .notConnected)] := by
  intro backoff t refused
  have discipline := reconnect_discipline backoff [(.connect, still)]
  have fails : t.connection.Fails still refused .closed := .attempt _ _ (.inl rfl) rfl
  refine ⟨⟨fails, ?_⟩, ?_⟩
  · exact (discipline.2.2.2.1 refused still).armed .closed fails
  · exact discipline.2.2.2.2 still [(refused, still), (.connect, still), (.send, still)]

end StreamingChat.Link.Connection
