import Mathlib.Data.List.Forall2
import Mathlib.Data.List.Induction
import StreamingChat.Link.Traffic
import StreamingChat.Proofs.Link.Discipline

/-!
# What is told of a link

The owner of a connection is told the story of each attempt in one piece: that it was refused, or
that a link opened, then what was taken off the link, text by text, and then once, by an event or by
the answer to a frame, that the link is lost.  What was taken off a link is the beginning of what
its peer has put on it.
-/

namespace StreamingChat.Link

/-- What the owner is told of an attempt and its link. -/
inductive Report where
  | opened
  | frame (text : String)
  /-- An event tells that the attempt has failed or that the link is lost. -/
  | disconnected (fault : Fault)
  /-- The answer to a frame tells that the link is lost. -/
  | unsent (fault : Fault)
  deriving DecidableEq, Repr

def Connection.Act.report? : Connection.Act → Option Report
  | told .opened => some .opened
  | told (.frame text) => some (.frame text)
  | told (.lost fault _) => some (.disconnected fault)
  | sent (.error (.transport fault)) => some (.unsent fault)
  | sent (.ok ()) | sent (.error .notConnected) | began | fired | closed => none

/-- The reports after one more act, those of the latest attempt first. -/
def Connection.Act.recount (told : List (List Report)) : Connection.Act → List (List Report)
  | .began => [] :: told
  | act => told.modifyHead (· ++ act.report?.toList)

/-- What was told from the beginning of each attempt until the next one, that of the latest attempt
first. -/
def reports (acts : List Connection.Act) : List (List Report) :=
  acts.foldl Connection.Act.recount []

/-- What is to be told of an attempt that came to this, with the texts taken off its link. -/
def Fate.story (taken : List String) : Fate → List Report
  | pending | givenUp => []
  | refused fault => [.disconnected fault]
  | opened | closed => .opened :: taken.map .frame
  | broken fault => .opened :: taken.map .frame ++ [.disconnected fault]
  | unsent fault => .opened :: taken.map .frame ++ [.unsent fault]

/-- The attempt has failed, or its link was lost. -/
def Fate.isLost : Fate → Bool
  | refused _ | broken _ | unsent _ => true
  | pending | opened | givenUp | closed => false

/-- Something may still come over the link. -/
def Fate.isLive : Fate → Bool
  | pending | opened => true
  | refused _ | broken _ | unsent _ | givenUp | closed => false

/-- What is told of an attempt is what happened on its link, and the texts that were taken off it
are the first ones that its peer has put on it. -/
structure Lane.Told (l : Lane) (told : List Report) : Prop where
  story : told = l.fate.story l.taken
  inOrder : l.taken.map .ok <+: l.pushed

/-- The latest attempt stands as the connection has it. -/
structure Connection.Fits (c : Connection) (latest : Option Fate) : Prop where
  connecting : c.isConnecting = true ↔ latest = some .pending
  opened : c.isOpen = true ↔ latest = some .opened
  lost : c.isAlive = true → c.isConnecting = false → c.isOpen = false →
    ∀ fate, latest = some fate → fate.isLost = true

/-! ## On one link -/

namespace Lane

/-- Nothing gets lost on the way: what the peer has put on a live link was taken or is still there,
in the order in which it was put. -/
structure Ordered (l : Lane) (told : List Report) : Prop extends l.Told told where
  untouched : l.fate = .pending → l.taken = []
  rest : l.fate.isLive = true → l.pushed = l.taken.map .ok ++ l.link.inbound

variable {l : Lane} {told : List Report}

theorem ordered_new : ({} : Lane).Ordered [] where
  story := rfl
  inOrder := List.nil_prefix
  untouched _ := rfl
  rest _ := rfl

namespace Ordered

theorem push (ordered : l.Ordered told) (item : Except Fault String) :
    (l.push item).Ordered told := by
  unfold Lane.push MemoryLink.deliver
  cases gone : l.link.inboundClosed || l.link.streamDropped with
  | true => exact ordered
  | false =>
      constructor
      · exact ⟨ordered.story, ordered.inOrder.trans (List.prefix_append _ _)⟩
      · exact ordered.untouched
      · intro live
        simp [ordered.rest live]

theorem hangUp (ordered : l.Ordered told) : l.hangUp.Ordered told :=
  ⟨⟨ordered.story, ordered.inOrder⟩, ordered.untouched, ordered.rest⟩

/-- The client gives up its end, and that is told. -/
theorem leave (ordered : l.Ordered told) {fate : Fate} (gone : fate.isLive = false)
    {more : List Report} (story : l.fate.story l.taken ++ more = fate.story l.taken) :
    (l.leave fate).Ordered (told ++ more) := by
  constructor
  · constructor
    · rw [ordered.story]
      exact story
    · exact ordered.inOrder
  · rintro rfl
    cases gone
  · intro live
    cases gone.symm.trans live

/-- An attempt that succeeds has nothing taken off its link yet. -/
theorem reach (ordered : l.Ordered told) (pending : l.fate = .pending) :
    ({ l with fate := .opened } : Lane).Ordered (told ++ [.opened]) := by
  have nothing := ordered.untouched pending
  constructor
  · constructor
    · rw [ordered.story, pending, nothing]
      rfl
    · exact ordered.inOrder
  · intro still
    cases still
  · intro _
    exact ordered.rest (by rw [pending]; rfl)

theorem take_text {link : MemoryLink} {text : String} (next : link.take.2 = some (.text text)) :
    link.inbound = .ok text :: link.take.1.inbound := by
  unfold MemoryLink.take at next ⊢
  split at next
  · next first rest waiting =>
    cases next
    simp [waiting]
  · cases next
  · simp at next

/-- A text that is taken off an open link is the next one that was put on it. -/
theorem text (ordered : l.Ordered told) (opened : l.fate = .opened) {text : String}
    (next : l.link.take.2 = some (.text text)) :
    (l.yield (.text text)).Ordered (told ++ [.frame text]) := by
  have rest : l.pushed =
      (l.taken ++ [text]).map Except.ok ++ l.link.take.1.inbound := by
    rw [ordered.rest (by rw [opened]; rfl), take_text next]
    simp
  constructor
  · constructor
    · rw [ordered.story]
      simp [yield, opened, Fate.story]
    · exact ⟨l.link.take.1.inbound, rest.symm⟩
  · intro pending
    cases opened.symm.trans pending
  · exact fun _ => rest

end Ordered

variable {sink : Except Fault Unit}

/-- On a link over which nothing comes any more no call comes to anything. -/
theorem meet_of_over (gone : l.fate.isLive = false) (call : Connection.Call) :
    l.meet call sink = l := by
  unfold meet
  cases fate : l.fate with
  | pending => simp [fate, Fate.isLive] at gone
  | opened => simp [fate, Fate.isLive] at gone
  | refused fault => rfl
  | broken fault => rfl
  | unsent fault => rfl
  | givenUp => rfl
  | closed => rfl

theorem meet_connect (l : Lane) : l.meet .connect sink = l := by
  unfold meet
  split <;> simp_all

end Lane

/-! ## The latest attempt and the connection -/

namespace Connection

variable {c : Connection} {latest : Option Fate}

theorem fits_of_connecting (connecting : c.isConnecting = true) : c.Fits (some .pending) where
  connecting := by simp [connecting]
  opened := by simp [not_open_of_connecting connecting]
  lost _ idle := by cases idle.symm.trans connecting

theorem fits_of_open (open_ : c.isOpen = true) : c.Fits (some .opened) where
  connecting := by
    constructor
    · intro connecting
      cases open_.symm.trans (not_open_of_connecting connecting)
    · intro same
      cases same
  opened := by simp [open_]
  lost _ _ closed := by cases closed.symm.trans open_

/-- Where there is neither an attempt nor a link, nothing comes over the latest lane. -/
theorem fits_of_idle (idle : c.isConnecting = false) (closed : c.isOpen = false)
    (gone : ∀ fate, latest = some fate → fate.isLive = false)
    (lost : c.isAlive = true → ∀ fate, latest = some fate → fate.isLost = true) :
    c.Fits latest where
  connecting := by
    rw [idle]
    refine iff_of_false Bool.false_ne_true fun pending => ?_
    cases gone _ pending
  opened := by
    rw [closed]
    refine iff_of_false Bool.false_ne_true fun opened => ?_
    cases gone _ opened
  lost alive _ _ := lost alive

theorem isLive_of_isLost {fate : Fate} (lost : fate.isLost = true) : fate.isLive = false := by
  cases fate <;> simp_all [Fate.isLost, Fate.isLive]

/-- A failure leaves neither an attempt nor a link. -/
theorem fits_schedule (unarmed : c.deadline = none) {fate : Fate} (lost : fate.isLost = true)
    (r : Reading) : (c.schedule r).1.Fits (some fate) := by
  rw [schedule_of_unarmed unarmed]
  apply fits_of_idle
  · simp [isConnecting]
  · simp [isOpen]
  · rintro _ ⟨⟩
    exact isLive_of_isLost lost
  · rintro _ _ ⟨⟩
    exact lost

end Connection

/-! ## Acts, reports and lanes -/

open Connection (Act Answers Call Heeds Looks still)

theorem reports_append (acts more : List Act) :
    reports (acts ++ more) = more.foldl Act.recount (reports acts) :=
  List.foldl_append

theorem reports_began (acts : List Act) : reports (acts ++ [.began]) = [] :: reports acts :=
  reports_append acts [.began]

theorem reports_concat (acts : List Act) {act : Act} (other : act ≠ .began) :
    reports (acts ++ [act]) = (reports acts).modifyHead (· ++ act.report?.toList) := by
  rw [reports_append]
  cases act with
  | began => exact absurd rfl other
  | _ => rfl

/-- The lanes are told as they are, all but the latest are lost, and that one stands as the
connection has it. -/
structure Tallies (c : Connection) (acts : List Act) (lanes : List Lane) : Prop where
  told : List.Forall₂ Lane.Ordered lanes (reports acts)
  earlier : ∀ l ∈ lanes.tail, l.fate.isLost = true
  latest : c.Fits (lanes.head?.map (·.fate))

namespace Tallies

variable {c d : Connection} {acts : List Act} {lanes : List Lane}

/-- An attempt that begins has a lane of its own, and the one before it is lost. -/
theorem began (tallies : Tallies c acts lanes) (alive : c.isAlive = true)
    (idle : c.isConnecting = false) (closed : c.isOpen = false)
    (connecting : d.isConnecting = true) : Tallies d (acts ++ [.began]) ({} :: lanes) where
  told := by
    rw [reports_began]
    exact .cons Lane.ordered_new tallies.told
  earlier := by
    intro l member
    cases lanes with
    | nil => cases member
    | cons first rest =>
        rcases List.mem_cons.mp member with rfl | older
        · exact tallies.latest.lost alive idle closed _ rfl
        · exact tallies.earlier l older
  latest := Connection.fits_of_connecting connecting

/-- An act comes to something on the latest lane, and that is told. -/
theorem concat (tallies : Tallies c acts lanes) {act : Act} (other : act ≠ .began)
    {meet : Lane → Lane}
    (told : ∀ l reports, lanes.head? = some l → l.Ordered reports →
      (meet l).Ordered (reports ++ act.report?.toList))
    (latest : d.Fits (lanes.head?.map fun l => (meet l).fate)) :
    Tallies d (acts ++ [act]) (lanes.modifyHead meet) := by
  obtain ⟨all, earlier, -⟩ := tallies
  constructor
  · rw [reports_concat acts other]
    generalize reports acts = reports at all ⊢
    cases all with
    | nil => exact .nil
    | cons first rest => exact .cons (told _ _ rfl first) rest
  · cases lanes <;> exact earlier
  · cases lanes <;> exact latest

/-- An act of which nothing is told, where the call comes to nothing on the latest lane. -/
theorem quiet (tallies : Tallies c acts lanes) {act : Act} (other : act ≠ .began)
    (silent : act.report? = none) {meet : Lane → Lane}
    (still : ∀ l, lanes.head? = some l → meet l = l)
    (latest : d.Fits (lanes.head?.map (·.fate))) :
    Tallies d (acts ++ [act]) (lanes.modifyHead meet) := by
  apply tallies.concat other
  · intro l reports head ordered
    rw [still l head, silent]
    simpa using ordered
  · cases lanes with
    | nil => exact latest
    | cons first rest => simpa [still first rfl] using latest

/-- The latest attempt and its link stand as the connection has them. -/
theorem fits (tallies : Tallies c acts lanes) {l : Lane} (head : lanes.head? = some l) :
    c.Fits (some l.fate) := by
  have latest := tallies.latest
  rwa [head] at latest

theorem head_of_connecting (tallies : Tallies c acts lanes) (connecting : c.isConnecting = true) :
    ∃ l, lanes.head? = some l ∧ l.fate = .pending :=
  Option.map_eq_some_iff.mp (tallies.latest.connecting.mp connecting)

theorem head_of_open (tallies : Tallies c acts lanes) (open_ : c.isOpen = true) :
    ∃ l, lanes.head? = some l ∧ l.fate = .opened :=
  Option.map_eq_some_iff.mp (tallies.latest.opened.mp open_)

end Tallies

/-! ## The calls of the owner -/

/-- A lane on which a call comes to nothing stays as it is. -/
theorem modifyHead_of_still {lanes : List Lane} {meet : Lane → Lane}
    (still : ∀ l, lanes.head? = some l → meet l = l) : lanes.modifyHead meet = lanes := by
  cases lanes with
  | nil => rfl
  | cons first rest => simp [still first rfl]

namespace Tallies

variable {c d : Connection} {acts : List Act} {lanes : List Lane} {answers : Answers}

theorem send (tallies : Tallies c acts lanes) (r : Reading) :
    Tallies (c.send r).1 (acts ++ [.sent (c.send r).2])
      (lanes.modifyHead (·.meet .send r.sink)) := by
  unfold Connection.send
  cases open_ : c.isOpen with
  | false =>
      refine tallies.quiet (by simp) rfl ?_ tallies.latest
      intro l head
      have closed : l.fate ≠ .opened := by
        intro opened
        have fits := tallies.fits head
        rw [opened] at fits
        cases open_.symm.trans (fits.opened.mpr rfl)
      unfold Lane.meet
      split <;> simp_all
  | true =>
      obtain ⟨l, head, opened⟩ := tallies.head_of_open open_
      cases answer : r.sink with
      | ok =>
          refine tallies.quiet (by simp) rfl ?_ tallies.latest
          intro first same
          cases head.symm.trans same
          simp [Lane.meet, opened]
      | error fault =>
          have met : l.meet .send (.error fault) = l.leave (.unsent fault) := by
            simp [Lane.meet, opened]
          apply tallies.concat (by simp)
          · intro first reports same ordered
            cases head.symm.trans same
            rw [met]
            exact ordered.leave rfl (by rw [opened]; rfl)
          · rw [head, Option.map_some, met]
            exact Connection.fits_schedule (Connection.deadline_of_open open_) rfl r

/-- Of a timer that fires nothing is told. -/
theorem fired (tallies : Tallies c acts lanes) : Tallies c (acts ++ [.fired]) lanes := by
  have quiet : Tallies c (acts ++ [.fired]) (lanes.modifyHead id) :=
    tallies.quiet (by simp) rfl (fun _ _ => rfl) tallies.latest
  rwa [List.modifyHead_id] at quiet

theorem close (tallies : Tallies c acts lanes) (sink : Except Fault Unit) :
    Tallies c.close (acts ++ [.closed]) (lanes.modifyHead (·.meet .close sink)) := by
  apply tallies.concat (by simp)
  · intro l reports head ordered
    cases fate : l.fate with
    | pending =>
        have met : l.meet .close sink = l.leave .givenUp := by simp [Lane.meet, fate]
        rw [met]
        exact ordered.leave rfl (by rw [fate]; rfl)
    | opened =>
        have met : l.meet .close sink = l.leave .closed := by simp [Lane.meet, fate]
        rw [met]
        exact ordered.leave rfl (by rw [fate]; simp [Fate.story, Act.report?])
    | _ =>
        rw [l.meet_of_over (by rw [fate]; rfl)]
        simpa [Act.report?] using ordered
  · apply Connection.fits_of_idle rfl rfl
    · intro fate same
      obtain ⟨l, head, rfl⟩ := Option.map_eq_some_iff.mp same
      unfold Lane.meet
      cases fate : l.fate <;> simp [fate, Lane.leave, Fate.isLive]
    · intro alive
      cases alive

/-- Who looks hears of the latest attempt and its link. -/
theorem heed (tallies : Tallies c acts lanes) {r : Reading} {event : Option Event}
    (heeds : Heeds c answers r d event)
    (yields : ∀ l item, lanes.head? = some l → l.fate = .opened → answers.item = some item →
      l.link.take.2 = some item) (sink : Except Fault Unit) :
    Tallies d (acts ++ (event.map Act.told).toList)
      (lanes.modifyHead (·.meet (.look answers) sink)) := by
  cases heeds with
  | quiet noAttempt noItem =>
      have still : ∀ l, lanes.head? = some l → l.meet (.look answers) sink = l := by
        intro l head
        have fits := tallies.fits head
        cases fate : l.fate with
        | pending =>
            rw [fate] at fits
            simp [Lane.meet, fate, noAttempt (fits.connecting.mpr rfl)]
        | opened =>
            rw [fate] at fits
            simp [Lane.meet, fate, noItem (fits.opened.mpr rfl)]
        | _ => exact l.meet_of_over (by rw [fate]; rfl) _
      rw [modifyHead_of_still still]
      simpa using tallies
  | opened connecting ended =>
      obtain ⟨l, head, pending⟩ := tallies.head_of_connecting connecting
      have met : l.meet (.look answers) sink = { l with fate := .opened } := by
        simp [Lane.meet, pending, ended, Lane.settle]
      apply tallies.concat (by simp)
      · intro first reports same ordered
        cases head.symm.trans same
        rw [met]
        exact ordered.reach pending
      · rw [head, Option.map_some, met]
        apply Connection.fits_of_open
        simp [Connection.isOpen, Connection.isAlive_of_connecting connecting]
  | unreached fault connecting ended =>
      obtain ⟨l, head, pending⟩ := tallies.head_of_connecting connecting
      have met : l.meet (.look answers) sink = l.leave (.refused fault) := by
        simp [Lane.meet, pending, ended, Lane.settle]
      apply tallies.concat (by simp)
      · intro first reports same ordered
        cases head.symm.trans same
        rw [met]
        exact ordered.leave rfl (by rw [pending]; rfl)
      · rw [head, Option.map_some, met]
        exact Connection.fits_schedule (Connection.deadline_of_connecting connecting) rfl r
  | frame text open_ arrives =>
      obtain ⟨l, head, opened⟩ := tallies.head_of_open open_
      have met : l.meet (.look answers) sink = l.yield (.text text) := by
        simp [Lane.meet, opened, arrives]
      apply tallies.concat (by simp)
      · intro first reports same ordered
        cases head.symm.trans same
        rw [met]
        exact ordered.text opened (yields l _ head opened arrives)
      · have fits := tallies.fits head
        rw [head, Option.map_some, met]
        exact fits
  | broken item fault open_ arrives faulty =>
      obtain ⟨l, head, opened⟩ := tallies.head_of_open open_
      have met : l.meet (.look answers) sink = l.leave (.broken fault) := by
        cases item with
        | text text => cases faulty
        | failed other =>
            cases faulty
            simp [Lane.meet, opened, arrives, Lane.yield]
        | ended =>
            cases faulty
            simp [Lane.meet, opened, arrives, Lane.yield]
      apply tallies.concat (by simp)
      · intro first reports same ordered
        cases head.symm.trans same
        rw [met]
        exact ordered.leave rfl (by rw [opened]; rfl)
      · rw [head, Option.map_some, met]
        exact Connection.fits_schedule (Connection.deadline_of_open open_) rfl r

end Tallies

namespace Traffic

variable {t : Traffic}

/-- What was told is what happened. -/
def Sound (t : Traffic) : Prop :=
  Tallies t.trace.connection t.trace.acts t.lanes

theorem sound_connect (sound : t.Sound) (r : Reading) : (t.call .connect r).Sound := by
  unfold Sound call Connection.Trace.step Connection.handle Connection.connect
  rw [modifyHead_of_still (fun l _ => l.meet_connect)]
  cases free : t.trace.connection.canConnect with
  | false =>
      have still := List.append_nil t.trace.acts
      simp only [Bool.false_eq_true, if_false, still]
      exact sound
  | true =>
      have alive : t.trace.connection.isAlive = true := by
        simp only [Connection.canConnect, Bool.and_eq_true] at free
        exact free.1.1
      obtain ⟨idle, closed⟩ := Connection.not_busy_of_canConnect free
      exact Tallies.began sound alive idle closed (Bool.and_eq_true_iff.mpr ⟨alive, rfl⟩)

/-- Events begin no attempt. -/
theorem begin_told (lanes : List Lane) (event : Option Event) :
    (event.map Act.told).toList.foldl begin lanes = lanes := by
  cases event <;> rfl

/-- Who looks hears of the latest link what is next on it. -/
theorem sound_look (sound : t.Sound) {answers : Answers}
    (next : ∀ item, answers.item = some item → t.next? = some item) (r : Reading) :
    (t.call (.look answers) r).Sound := by
  have looks := Connection.looks_handle t.trace.connection answers r
  change Tallies (t.trace.connection.handle (.look answers) r).1
    (t.trace.acts ++ (t.trace.connection.handle (.look answers) r).2)
    (((t.trace.connection.handle (.look answers) r).2.foldl begin t.lanes).modifyHead
      (·.meet (.look answers) r.sink))
  generalize (t.trace.connection.handle (.look answers) r).1 = d at looks ⊢
  generalize (t.trace.connection.handle (.look answers) r).2 = acts at looks ⊢
  cases looks with
  | asleep early heeds =>
      rw [begin_told]
      apply Tallies.heed sound heeds
      intro l item head opened arrives
      simpa [next?, head] using next item arrives
  | woken due heeds =>
      obtain ⟨⟨deadline, armed, -⟩, -⟩ := Connection.awaken_of_due due
      have alive := Connection.isAlive_of_isDue due
      have phase := Connection.phase_of_deadline armed
      have began := sound.fired.began alive (by simp [Connection.isConnecting, phase])
        (by simp [Connection.isOpen, phase]) (Connection.isConnecting_revived alive)
      have heard := began.heed heeds (by rintro l item ⟨⟩ ⟨⟩) r.sink
      rw [List.foldl_append, begin_told, ← List.append_assoc]
      rw [List.append_assoc] at heard
      simpa [begin] using heard

theorem map_fate_modify {deed : Lane → Lane} (fate : ∀ l, (deed l).fate = l.fate)
    (lanes : List Lane) (behind : Nat) :
    (lanes.modify behind deed).map (·.fate) = lanes.map (·.fate) := by
  induction lanes generalizing behind with
  | nil => cases behind <;> rfl
  | cons first rest ih =>
      cases behind with
      | zero => simp [fate]
      | succ behind => simp [ih]

theorem forall₂_modify {deed : Lane → Lane}
    (told : ∀ l reports, l.Ordered reports → (deed l).Ordered reports) {lanes : List Lane}
    {all : List (List Report)} (ordered : List.Forall₂ Lane.Ordered lanes all) (behind : Nat) :
    List.Forall₂ Lane.Ordered (lanes.modify behind deed) all := by
  induction ordered generalizing behind with
  | nil => cases behind <;> exact .nil
  | cons first rest ih =>
      cases behind with
      | zero => exact .cons (told _ _ first) rest
      | succ behind => exact .cons first (ih behind)

/-- What peers do on their links is not told. -/
theorem sound_modify (sound : t.Sound) {deed : Lane → Lane}
    (told : ∀ l reports, l.Ordered reports → (deed l).Ordered reports)
    (fate : ∀ l, (deed l).fate = l.fate) (behind : Nat) :
    Sound { t with lanes := t.lanes.modify behind deed } := by
  obtain ⟨all, earlier, latest⟩ := sound
  have fates := map_fate_modify fate t.lanes behind
  constructor
  · exact forall₂_modify told all behind
  · intro l member
    have here := List.mem_map_of_mem (f := (·.fate)) member
    rw [List.map_tail, fates, ← List.map_tail] at here
    obtain ⟨before, older, same⟩ := List.mem_map.mp here
    rw [← same]
    exact earlier before older
  · rw [← List.head?_map, fates, List.head?_map]
    exact latest

theorem sound_step (sound : t.Sound) (move : Move) : (t.step move).Sound := by
  cases move with
  | connects r => exact sound_connect sound r
  | sends r => exact Tallies.send sound r
  | looks ended arrived r =>
      apply sound_look sound
      intro item
      cases arrived <;> simp
  | closes r => exact Tallies.close sound r.sink
  | pushes behind item =>
      refine sound_modify sound (fun l reports ordered => ordered.push item) ?_ behind
      intro l
      simp only [Lane.push]
      split <;> rfl
  | hangsUp behind =>
      exact sound_modify sound (fun l reports ordered => ordered.hangUp) (fun l => rfl) behind

theorem sound_run (backoff : Backoff) (moves : List Move) :
    (({ trace := { connection := { backoff } } } : Traffic).run moves).Sound := by
  induction moves using List.reverseRecOn with
  | nil =>
      refine ⟨.nil, by simp, ?_⟩
      exact Connection.fits_of_idle rfl rfl (by simp) (by simp)
  | append_singleton moves move sound =>
      rw [run_concat]
      exact sound_step sound move

/-- Links are told faithfully.  After every run of calls and of what peers do, the owner was told of
each attempt, between its beginning and that of the next one, what came of it: that it was refused;
or that its link opened, then the texts that were taken off that link, the first ones that its peer
has put on it, in their order and without a gap, and then, if the link was lost, once that it is
lost, by an event if it broke or ended and by the answer to a frame that it did not take.  All
attempts but the latest have failed or lost their link, and so has the latest one unless it is still
under way, its link is open, or the connection was closed. -/
theorem told_as_it_happened (backoff : Backoff) (moves : List Move) :
    let t := ({ trace := { connection := { backoff } } } : Traffic).run moves
    List.Forall₂ Lane.Told t.lanes (reports t.trace.acts) ∧
      (∀ l ∈ t.lanes.tail, l.fate.isLost = true) ∧
      t.trace.connection.Fits (t.lanes.head?.map (·.fate)) := by
  intro t
  have sound : t.Sound := sound_run backoff moves
  refine ⟨?_, sound.earlier, sound.latest⟩
  exact sound.told.imp fun l reports ordered => ordered.toTold

/-- A link does not take a frame while a text is still on it, and another one is opened. -/
def lostWithText : List Move :=
  [.connects still, .looks (some (.ok ())) false still, .pushes 0 (.ok "a"), .pushes 0 (.ok "b"),
    .looks none true still, .sends { still with sink := .error .closed }, .connects still,
    .pushes 1 (.ok "c"), .looks (some (.ok ())) false still, .looks none true still]

/-- The text that was still on the link is never told, and its loss is told once. -/
theorem told_as_it_happened_of_unsent :
    let t := ({ trace := { connection := { backoff := ⟨1, 1, 0.0⟩ } } } : Traffic).run lostWithText
    ∃ lost latest, t.lanes = [latest, lost] ∧ lost.pushed = [.ok "a", .ok "b"] ∧
      reports t.trace.acts = [[.opened], [.opened, .frame "a", .unsent .closed]] ∧
      lost.Told [.opened, .frame "a", .unsent .closed] ∧ lost.fate.isLost = true := by
  intro t
  obtain ⟨told, earlier, -⟩ := told_as_it_happened ⟨1, 1, 0.0⟩ lostWithText
  refine ⟨_, _, rfl, rfl, rfl, ?_, ?_⟩
  · cases told with
    | cons _ rest =>
        cases rest with
        | cons first _ => exact first
  · exact earlier _ List.mem_cons_self

end Traffic

end StreamingChat.Link
