import StreamingChat.Proofs.Chat.Grouping
import StreamingChat.Proofs.Chat.Matching

/-!
# When gathered text is shown

A feed is followed together with the fragments that were pushed to it: those that went into its
messages, those that are gathered, and those that were dropped.  A deadline is armed just when text
is gathered, and the oldest fragment of it sets the deadline.  So nothing waits longer than the
interval, and two deadlines that showed something lie at least an interval apart.
-/

namespace StreamingChat.Chat

open StreamingChat.Calendar (Instant Moment)
open StreamingChat.Chat.Transcript (Alike)

namespace Feed

/-- Shows the gathered text if its deadline has passed. -/
def flushDue (f : Feed) (now : Moment) : Feed :=
  if f.isDue now.tick then f.flush now.clock else f

/-- What is done to a feed at a moment. -/
inductive Move where
  | push (fragment : Fragment)
  | flushDue
  | close
  | discard

def move (f : Feed) (m : Move) (now : Moment) : Feed :=
  match m with
  | .push fragment => (f.push fragment now).1
  | .flushDue => f.flushDue now
  | .close => f.close now.clock
  | .discard => f.discard

/-- Looking at the deadline changes what a reader sees. -/
def Shows (f : Feed) (now : Moment) : Prop :=
  (f.flushDue now).transcript.visible ≠ f.transcript.visible

instance (f : Feed) (now : Moment) : Decidable (f.Shows now) :=
  inferInstanceAs (Decidable (_ ≠ _))

variable {f : Feed} {now : Moment}

theorem flushDue_of_due (due : f.isDue now.tick = true) : f.flushDue now = f.flush now.clock :=
  if_pos due

theorem flushDue_of_not_due (due : f.isDue now.tick = false) : f.flushDue now = f := by
  rw [flushDue, due, if_neg Bool.false_ne_true]

theorem isDue_of_shows (changes : f.Shows now) : f.isDue now.tick = true := by
  cases due : f.isDue now.tick with
  | true => rfl
  | false => exact absurd (by rw [flushDue_of_not_due due]) changes

theorem interval_push (f : Feed) (fragment : Fragment) (now : Moment) :
    (f.push fragment now).1.interval = f.interval := by
  unfold push
  split
  · rfl
  · split
    · exact interval_flush f now.clock
    · rfl

theorem interval_move (f : Feed) (m : Move) (now : Moment) :
    (f.move m now).interval = f.interval := by
  cases m with
  | push fragment => exact interval_push f fragment now
  | flushDue =>
      change (f.flushDue now).interval = f.interval
      unfold flushDue
      split
      · exact interval_flush f now.clock
      · rfl
  | close => exact interval_flush f now.clock
  | discard => rfl

end Feed

/-- The deadline of a conversation is that of its feed. -/
theorem State.feed_flushDue (s : State) (now : Moment) :
    (s.flushDue now).feed = s.feed.flushDue now := by
  unfold State.flushDue Feed.flushDue
  split
  · rfl
  · rfl

/-- Fragments gathered one after the other: their texts joined, with what is known first of their
origin. -/
def Fragment.joined : List Arrival → Option Fragment
  | [] => none
  | a :: rest => some ⟨String.join ((a :: rest).map (·.fragment.text)), .first (a :: rest)⟩

theorem Fragment.joined_concat (group : List Arrival) (a : Arrival) :
    joined (group ++ [a]) = some
      (match joined group with
        | some g => ⟨g.text ++ a.fragment.text, g.origin.fillFrom a.fragment.origin⟩
        | none => a.fragment) := by
  cases group with
  | nil =>
      rw [List.nil_append, joined, joined, Origin.first_singleton, List.map_singleton,
        String.join_cons, String.join_nil, String.append_empty]
  | cons first rest =>
      have text : String.join (((first :: rest) ++ [a]).map (·.fragment.text)) =
          String.join ((first :: rest).map (·.fragment.text)) ++ a.fragment.text := by
        rw [List.map_append, String.join_append, List.map_singleton, String.join_cons,
          String.join_nil, String.append_empty]
      have origin := Origin.first_concat (first :: rest) a
      rw [List.cons_append] at text origin ⊢
      rw [joined, joined, text, origin]

/-- A fragment with text in it, and when it was pushed. -/
structure Dated extends Arrival where
  tick : Nat

namespace Feed

/-- The fragment that a move brings, if it brings one with text, after some closings of the feed. -/
def Move.entered (closes : Nat) (now : Moment) : Move → List Dated
  | .push fragment =>
    if fragment.text.isEmpty then [] else [{ fragment, closes, tick := now.tick }]
  | _ => []

/-- How many closings there were after a move. -/
def Move.closings (closes : Nat) : Move → Nat
  | .close => closes + 1
  | _ => closes

/-- The fragments with text in the order of their coming. -/
def pushed (closes : Nat) : List (Move × Moment) → List Dated
  | [] => []
  | (m, now) :: rest => m.entered closes now ++ pushed (m.closings closes) rest

theorem entered_flushDue (closes : Nat) (now : Moment) :
    Move.flushDue.entered closes now = [] := rfl

theorem ticks_entered (m : Move) (closes : Nat) (now : Moment) :
    ((m.entered closes now).map (·.tick)).Sublist [now.tick] := by
  cases m with
  | push fragment =>
      rw [Move.entered]
      split
      · exact List.nil_sublist _
      · exact List.Sublist.refl _
  | flushDue => exact List.nil_sublist _
  | close => exact List.nil_sublist _
  | discard => exact List.nil_sublist _

/-- Each fragment came at the moment of the move that brought it. -/
theorem ticks_pushed (closes : Nat) (moves : List (Move × Moment)) :
    ((pushed closes moves).map (·.tick)).Sublist (moves.map (·.2.tick)) := by
  induction moves generalizing closes with
  | nil => exact .slnil
  | cons head rest ih =>
      rw [pushed, List.map_append]
      exact (ticks_entered head.1 closes head.2).append (ih _)

end Feed

/-- A feed with the fragments that were pushed to it. -/
structure Tracked where
  feed : Feed
  /-- Those that went into the messages. -/
  seen : List Dated := []
  /-- Those that are gathered. -/
  waiting : List Dated := []
  /-- Those that were dropped before they were seen. -/
  dropped : List Dated := []
  /-- How many times the feed was closed. -/
  closes : Nat := 0

namespace Tracked

/-- What was gathered has gone into the messages. -/
def shown (t : Tracked) : Tracked :=
  { t with seen := t.seen ++ t.waiting, waiting := [] }

/-- A fragment goes where the feed says that it went. -/
def enter (t : Tracked) (fragment : Fragment) (now : Moment) : Tracked :=
  let new : Dated := { fragment, closes := t.closes, tick := now.tick }
  match (t.feed.push fragment now).2 with
  | .ignored => t
  | .gathered => { t with waiting := t.waiting ++ [new] }
  | .newNode => { t.shown with seen := t.seen ++ t.waiting ++ [new] }

def move (t : Tracked) (m : Feed.Move) (now : Moment) : Tracked :=
  let moved :=
    match m with
    | .push fragment => t.enter fragment now
    | .flushDue => if t.feed.isDue now.tick then t.shown else t
    | .close => { t.shown with closes := t.closes + 1 }
    | .discard => { t with waiting := [], dropped := t.dropped ++ t.waiting }
  { moved with feed := t.feed.move m now }

def run (t : Tracked) (moves : List (Feed.Move × Moment)) : Tracked :=
  moves.foldl (fun t m => t.move m.1 m.2) t

@[simp]
theorem run_nil (t : Tracked) : t.run [] = t := rfl

@[simp]
theorem run_cons (t : Tracked) (m : Feed.Move × Moment) (moves : List (Feed.Move × Moment)) :
    t.run (m :: moves) = (t.move m.1 m.2).run moves := rfl

theorem run_append (t : Tracked) (first second : List (Feed.Move × Moment)) :
    t.run (first ++ second) = (t.run first).run second :=
  List.foldl_append

variable {t : Tracked} {fragment : Fragment} {now : Moment}

theorem interval_run (t : Tracked) (moves : List (Feed.Move × Moment)) :
    (t.run moves).feed.interval = t.feed.interval := by
  induction moves generalizing t with
  | nil => rfl
  | cons head rest ih => exact (ih _).trans (Feed.interval_move t.feed head.1 head.2)

/-! ## What becomes of a fragment -/

/-- What a move does to a feed and to the fragments that were pushed to it. -/
inductive Outcome (t : Tracked) (now : Moment) : Feed.Move → Tracked → Prop where
  /-- There was no text. -/
  | ignored (fragment : Fragment) (text : fragment.text.isEmpty = true) :
      Outcome t now (.push fragment) t
  | gathered (fragment : Fragment) (text : fragment.text.isEmpty = false)
      (same : t.feed.isNewNode fragment = false) :
      Outcome t now (.push fragment)
        { t with
          feed := t.feed.gather fragment now.tick
          waiting := t.waiting ++ [{ fragment, closes := t.closes, tick := now.tick }] }
  /-- The text of another node is shown at once, behind what was gathered. -/
  | newNode (fragment : Fragment) (text : fragment.text.isEmpty = false)
      (differ : t.feed.isNewNode fragment = true) :
      Outcome t now (.push fragment)
        { t.shown with
          feed := (t.feed.push fragment now).1
          seen := t.seen ++ t.waiting ++ [{ fragment, closes := t.closes, tick := now.tick }] }
  | early (due : t.feed.isDue now.tick = false) : Outcome t now .flushDue t
  | due (due : t.feed.isDue now.tick = true) :
      Outcome t now .flushDue { t.shown with feed := t.feed.flush now.clock }
  | closed :
      Outcome t now .close
        { t.shown with feed := t.feed.close now.clock, closes := t.closes + 1 }
  | discarded :
      Outcome t now .discard
        { t with feed := t.feed.discard, waiting := [], dropped := t.dropped ++ t.waiting }

theorem outcome_push (t : Tracked) (fragment : Fragment) (now : Moment) :
    Outcome t now (.push fragment) (t.move (.push fragment) now) := by
  cases text : fragment.text.isEmpty with
  | true =>
      have answer := Feed.push_of_isEmpty (f := t.feed) text now
      simp only [move, enter, Feed.move, answer]
      exact .ignored fragment text
  | false =>
      cases differ : t.feed.isNewNode fragment with
      | true =>
          obtain ⟨-, -, answer⟩ := Feed.push_of_isNewNode text differ now
          simp only [move, enter, Feed.move, answer]
          exact .newNode fragment text differ
      | false =>
          have answer := Feed.push_of_gather text differ now
          simp only [move, enter, Feed.move, answer]
          exact .gathered fragment text differ

theorem outcome_move (t : Tracked) (m : Feed.Move) (now : Moment) :
    Outcome t now m (t.move m now) := by
  cases m with
  | push fragment => exact outcome_push t fragment now
  | flushDue =>
      cases due : t.feed.isDue now.tick with
      | true =>
          simp only [move, Feed.move, due, if_true, Feed.flushDue_of_due due]
          exact .due due
      | false =>
          simp only [move, Feed.move, due, Bool.false_eq_true, if_false,
            Feed.flushDue_of_not_due due]
          exact .early due
  | close => exact .closed
  | discard => exact .discarded

/-- All fragments that were pushed to a feed. -/
def all (t : Tracked) : List Dated :=
  t.seen ++ t.waiting ++ t.dropped

namespace Outcome

variable {t u : Tracked} {m : Feed.Move} {now : Moment}

theorem entered_of_text {fragment : Fragment} (text : fragment.text.isEmpty = false)
    (closes : Nat) (now : Moment) :
    (Feed.Move.push fragment).entered closes now = [{ fragment, closes, tick := now.tick }] := by
  rw [Feed.Move.entered, text, if_neg Bool.false_ne_true]

theorem closes (outcome : Outcome t now m u) : u.closes = m.closings t.closes := by
  cases outcome with
  | ignored fragment text => rfl
  | gathered fragment text same => rfl
  | newNode fragment text differ => rfl
  | early due => rfl
  | due due => rfl
  | closed => rfl
  | discarded => rfl

/-- A move brings a fragment or none, and the others change their places at most. -/
theorem all (outcome : Outcome t now m u) : u.all.Perm (t.all ++ m.entered t.closes now) := by
  cases outcome with
  | ignored fragment text =>
      rw [Feed.Move.entered, if_pos text, List.append_nil]
  | gathered fragment text same =>
      rw [entered_of_text text]
      simp only [Tracked.all, List.append_assoc]
      exact (List.perm_append_comm.append_left _).append_left _
  | newNode fragment text differ =>
      rw [entered_of_text text]
      simp only [Tracked.all, shown, List.append_assoc, List.nil_append]
      exact (List.perm_append_comm.append_left _).append_left _
  | early due => exact .of_eq (List.append_nil _).symm
  | due due =>
      simp only [Tracked.all, shown, Feed.Move.entered, List.append_nil]
      exact .refl _
  | closed =>
      simp only [Tracked.all, shown, Feed.Move.entered, List.append_nil]
      exact .refl _
  | discarded =>
      simp only [Tracked.all, Feed.Move.entered, List.append_nil, List.append_assoc]
      exact List.perm_append_comm.append_left _

/-- What is gathered came last. -/
theorem waiting (outcome : Outcome t now m u) :
    u.waiting <:+ t.waiting ++ m.entered t.closes now := by
  cases outcome with
  | ignored fragment text =>
      have nothing : (Feed.Move.push fragment).entered t.closes now = [] := if_pos text
      exact ⟨[], by rw [nothing, List.append_nil, List.nil_append]⟩
  | gathered fragment text same =>
      exact ⟨[], by rw [entered_of_text text, List.nil_append]⟩
  | early due => exact ⟨[], (List.append_nil _).symm⟩
  | newNode fragment text differ => exact List.nil_suffix
  | due due => exact List.nil_suffix
  | closed => exact List.nil_suffix
  | discarded => exact List.nil_suffix

end Outcome

/-- No fragment is lost track of, and none is counted twice. -/
theorem all_run (t : Tracked) (moves : List (Feed.Move × Moment)) :
    (t.run moves).all.Perm (t.all ++ Feed.pushed t.closes moves) := by
  induction moves generalizing t with
  | nil => exact .of_eq (List.append_nil _).symm
  | cons head rest ih =>
      have outcome := outcome_move t head.1 head.2
      have next := ih (t.move head.1 head.2)
      rw [outcome.closes] at next
      rw [Feed.pushed, ← List.append_assoc]
      exact next.trans (outcome.all.append_right _)

theorem waiting_run (t : Tracked) (moves : List (Feed.Move × Moment)) :
    (t.run moves).waiting <:+ t.waiting ++ Feed.pushed t.closes moves := by
  induction moves generalizing t with
  | nil => exact ⟨[], (List.append_nil _).symm⟩
  | cons head rest ih =>
      have outcome := outcome_move t head.1 head.2
      have next := ih (t.move head.1 head.2)
      rw [outcome.closes] at next
      rw [Feed.pushed, ← List.append_assoc]
      exact next.trans (List.suffix_append_self_iff.mpr outcome.waiting)

/-! ## What a feed holds -/

end Tracked

theorem Transcript.MadeOf.of_alike {t u : Transcript} {closes : Nat} {arrived : List Arrival}
    (made : u.MadeOf closes arrived) (alike : Alike t u) : t.MadeOf closes arrived := by
  obtain ⟨earlier, current, grouped, all⟩ := made
  refine ⟨earlier, current, ⟨?_, ?_, grouped.parted, grouped.seen, grouped.fresh, grouped.past⟩,
    all⟩
  · rw [alike.committed]
    exact grouped.committed
  · rw [alike.inProgress]
    exact grouped.inProgress

namespace Tracked

/-- The fragments, whenever they came. -/
def undated (pieces : List Dated) : List Arrival :=
  pieces.map (·.toArrival)

/-- A feed holds just the fragments that are held to be in it, and its deadline is that of the
oldest that waits. -/
structure Accounts (t : Tracked) : Prop where
  gathered : t.feed.gathered = Fragment.joined (undated t.waiting)
  deadline : t.feed.deadline = t.waiting.head?.map (·.tick + t.feed.interval)
  seen : t.feed.transcript.MadeOf t.closes (undated t.seen)
  /-- With the gathered text written behind them, the messages would be made of both. -/
  ahead : ∃ d, t.feed.Refines d ∧
    d.transcript.MadeOf t.closes (undated t.seen ++ undated t.waiting)

namespace Accounts

variable {t : Tracked} {fragment : Fragment} {now : Moment}

/-- Where nothing is gathered, only the messages have to be accounted for. -/
theorem of_idle (idle : t.feed.gathered = none) (disarmed : t.feed.deadline = none)
    (none_ : t.waiting = []) (seen : t.feed.transcript.MadeOf t.closes (undated t.seen)) :
    Accounts t where
  gathered := by rw [idle, none_]; rfl
  deadline := by rw [disarmed, none_]; rfl
  seen := seen
  ahead := by
    refine ⟨t.feed, .of_alike idle idle (.refl _), ?_⟩
    rw [none_]
    exact (List.append_nil (undated t.seen)).symm ▸ seen

theorem start (interval : Nat) : Accounts { feed := { interval } } :=
  of_idle rfl rfl rfl ⟨[], none, .empty 0, rfl⟩

variable (accounts : Accounts t)

include accounts

/-- A flush puts all that waits into the messages. -/
theorem flush (clock : Instant) :
    (t.feed.flush clock).transcript.MadeOf t.closes (undated (t.seen ++ t.waiting)) := by
  obtain ⟨d, refines, made⟩ := accounts.ahead
  rw [undated, List.map_append]
  exact made.of_alike (refines.alike clock)

theorem gather (text : fragment.text.isEmpty = false)
    (same : t.feed.isNewNode fragment = false) :
    Accounts { t with
      feed := t.feed.gather fragment now.tick
      waiting := t.waiting ++ [{ fragment, closes := t.closes, tick := now.tick }] } := by
  have all : undated (t.waiting ++ [{ fragment, closes := t.closes, tick := now.tick }]) =
      undated t.waiting ++ [⟨fragment, t.closes⟩] := by
    rw [undated, List.map_append]
    rfl
  refine ⟨?_, ?_, accounts.seen, ?_⟩
  · rw [all, Fragment.joined_concat, ← accounts.gathered]
    cases before : t.feed.gathered with
    | none => exact Feed.gathered_gather_of_none before now.tick
    | some g => exact Feed.gathered_gather_of_some before now.tick
  · change some (t.feed.deadline.getD (now.tick + t.feed.interval)) = _
    rw [accounts.deadline]
    cases t.waiting with
    | nil => rfl
    | cons first rest => rfl
  · obtain ⟨d, refines, made⟩ := accounts.ahead
    have next := refines.push fragment now
    rw [Feed.push_of_gather text same] at next
    refine ⟨_, next, ?_⟩
    rw [all, ← List.append_assoc]
    exact made.write (a := ⟨fragment, t.closes⟩) text now.clock

theorem newNode (text : fragment.text.isEmpty = false)
    (differ : t.feed.isNewNode fragment = true) :
    Accounts { t.shown with
      feed := (t.feed.push fragment now).1
      seen := t.seen ++ t.waiting ++ [{ fragment, closes := t.closes, tick := now.tick }] } := by
  obtain ⟨idle, -, -⟩ := Feed.push_of_isNewNode text differ now
  obtain ⟨d, refines, made⟩ := accounts.ahead
  have alike := (refines.push fragment now).alike now.clock
  rw [Feed.transcript_flush_of_none idle] at alike
  have disarmed : (t.feed.push fragment now).1.deadline = none := by
    rw [Feed.push, text, if_neg Bool.false_ne_true, if_pos differ]
    exact Feed.deadline_flush t.feed now.clock
  refine of_idle idle disarmed rfl ?_
  rw [undated, List.map_append, List.map_append]
  exact (made.write (a := ⟨fragment, t.closes⟩) text now.clock).of_alike alike

/-- Whatever is done to a feed keeps it accounted for. -/
theorem after {m : Feed.Move} {u : Tracked} (outcome : Outcome t now m u) : Accounts u := by
  cases outcome with
  | ignored fragment text => exact accounts
  | gathered fragment text same => exact accounts.gather text same
  | newNode fragment text differ => exact accounts.newNode text differ
  | early due => exact accounts
  | due due =>
      exact of_idle (Feed.gathered_flush _ _) (Feed.deadline_flush _ _) rfl
        (accounts.flush now.clock)
  | closed =>
      exact of_idle (Feed.gathered_flush _ _) (Feed.deadline_flush _ _) rfl
        (accounts.flush now.clock).complete
  | discarded => exact of_idle rfl rfl rfl accounts.seen

theorem run (moves : List (Feed.Move × Moment)) : Accounts (t.run moves) := by
  induction moves generalizing t with
  | nil => exact accounts
  | cons head rest ih => exact ih (accounts.after (outcome_move t head.1 head.2))

end Accounts

/-! ## How long text waits -/

/-- What waits is in the order of its coming, if the moves are. -/
theorem ordered_waiting {t : Tracked} (none_ : t.waiting = [])
    {moves : List (Feed.Move × Moment)}
    (ordered : moves.Pairwise fun m n => m.2.tick ≤ n.2.tick) :
    (t.run moves).waiting.Pairwise fun p q => p.tick ≤ q.tick := by
  have last := waiting_run t moves
  rw [none_, List.nil_append] at last
  have ticks : (moves.map (·.2.tick)).Pairwise (· ≤ ·) := List.pairwise_map.mpr ordered
  have pushed := List.pairwise_map.mp (ticks.sublist (Feed.ticks_pushed t.closes moves))
  exact pushed.sublist last.sublist

/-- Of fragments in the order of their coming the first is the oldest. -/
theorem min?_ticks {pieces : List Dated} (ordered : pieces.Pairwise fun p q => p.tick ≤ q.tick) :
    (pieces.map (·.tick)).min? = pieces.head?.map (·.tick) := by
  cases pieces with
  | nil => rfl
  | cons first rest =>
      refine List.min?_eq_some_iff.mpr ⟨List.mem_cons_self, ?_⟩
      intro tick member
      obtain ⟨p, here, rfl⟩ := List.mem_map.mp member
      obtain rfl | later := List.mem_cons.mp here
      · exact Nat.le_refl _
      · exact (List.pairwise_cons.mp ordered).1 p later

namespace Accounts

variable {t : Tracked} {now : Moment} (accounts : Accounts t)

include accounts

/-- Something waits just when a deadline is armed, and just when text is gathered. -/
theorem isSome_deadline : t.feed.deadline.isSome = t.feed.gathered.isSome := by
  rw [accounts.deadline, accounts.gathered]
  cases t.waiting with
  | nil => rfl
  | cons first rest => rfl

/-- A deadline that showed something is that of a fragment that waited. -/
theorem exists_of_shows (changes : t.feed.Shows now) :
    ∃ p ∈ t.waiting, p.tick + t.feed.interval ≤ now.tick := by
  have due := Feed.isDue_of_shows changes
  rw [Feed.isDue, accounts.deadline] at due
  cases waits : t.waiting with
  | nil => rw [waits] at due; cases due
  | cons first rest =>
      rw [waits] at due
      exact ⟨first, List.mem_cons_self, of_decide_eq_true due⟩

/-- Once the deadline was looked at, what still waits came less than an interval ago. -/
theorem lt_of_waits (ordered : t.waiting.Pairwise fun p q => p.tick ≤ q.tick) {u : Tracked}
    (outcome : Outcome t now .flushDue u) {p : Dated} (waits : p ∈ u.waiting) :
    now.tick < p.tick + t.feed.interval := by
  cases outcome with
  | due due => cases waits
  | early due =>
      rw [Feed.isDue, accounts.deadline] at due
      cases all : t.waiting with
      | nil => rw [all] at waits; cases waits
      | cons first rest =>
          rw [all] at due waits ordered
          have young : now.tick < first.tick + t.feed.interval :=
            Nat.lt_of_not_le (of_decide_eq_false due)
          obtain rfl | later := List.mem_cons.mp waits
          · exact young
          · have older := (List.pairwise_cons.mp ordered).1 p later
            omega

/-- Once the deadline was looked at, what came an interval ago is seen, if it was not dropped. -/
theorem seen_of_past (ordered : t.waiting.Pairwise fun p q => p.tick ≤ q.tick) {u : Tracked}
    (outcome : Outcome t now .flushDue u) {p : Dated} (came : p ∈ u.all)
    (past : p.tick + t.feed.interval ≤ now.tick) :
    p ∉ u.waiting ∧ (p ∈ u.seen ∨ p ∈ u.dropped) := by
  have gone : p ∉ u.waiting := fun waits =>
    Nat.not_lt_of_le past (accounts.lt_of_waits ordered outcome waits)
  obtain within | dropped := List.mem_append.mp came
  · obtain seen | waits := List.mem_append.mp within
    · exact ⟨gone, .inl seen⟩
    · exact absurd waits gone
  · exact ⟨gone, .inr dropped⟩

end Accounts

/-- No fragment comes by looking at the deadline. -/
theorem Outcome.perm_all {t u : Tracked} {now : Moment} (outcome : Outcome t now .flushDue u) :
    u.all.Perm t.all := by
  have moved := outcome.all
  rw [Feed.entered_flushDue, List.append_nil] at moved
  exact moved

theorem waiting_of_shows {t : Tracked} {now : Moment} (changes : t.feed.Shows now) :
    (t.move .flushDue now).waiting = [] := by
  have due := Feed.isDue_of_shows changes
  have outcome := outcome_move t .flushDue now
  generalize t.move .flushDue now = u at outcome
  cases outcome with
  | due _ => rfl
  | early early => rw [due] at early; cases early

/-- Of two looks at the deadline that changed the messages, the second saw one that was armed after
the first. -/
theorem interval_le_of_shows (interval : Nat) {before between : List (Feed.Move × Moment)}
    {first second : Moment} (later : ∀ m ∈ between, first.tick ≤ m.2.tick)
    (changes : (Tracked.run { feed := { interval } } before).feed.Shows first)
    (again : (Tracked.run { feed := { interval } }
      (before ++ (.flushDue, first) :: between)).feed.Shows second) :
    first.tick + interval ≤ second.tick := by
  have accounts := (Accounts.start interval).run (before ++ (.flushDue, first) :: between)
  obtain ⟨p, waits, past⟩ := accounts.exists_of_shows again
  rw [interval_run] at past
  change p.tick + interval ≤ second.tick at past
  rw [run_append, run_cons] at waits
  have pushed := (waiting_run _ between).subset waits
  rw [waiting_of_shows changes, List.nil_append] at pushed
  have ticks := (Feed.ticks_pushed _ between).subset (List.mem_map_of_mem pushed)
  obtain ⟨m, within, came⟩ := List.mem_map.mp ticks
  have after := later m within
  omega

/-- Gathering is bounded on both sides.  Whatever is done to a feed in the course of time, a
deadline is armed just when text is gathered, and it is the tick of the oldest gathered fragment
and the interval, whatever came after it.  So when a deadline was looked at, every fragment that
came an interval ago or earlier is in the messages, if it was not dropped, and two looks that
changed the messages are an interval apart. -/
theorem gathered_for_an_interval (interval : Nat) (moves : List (Feed.Move × Moment))
    (ordered : moves.Pairwise fun m n => m.2.tick ≤ n.2.tick) :
    let track := Tracked.run { feed := { interval } }
    let t := track moves
    t.feed.deadline.isSome = t.feed.gathered.isSome ∧
      t.feed.deadline = (t.waiting.map (·.tick)).min?.map (· + interval) ∧
      t.feed.gathered = Fragment.joined (undated t.waiting) ∧
      t.feed.transcript.MadeOf t.closes (undated t.seen) ∧
      (t.seen ++ t.waiting ++ t.dropped).Perm (Feed.pushed 0 moves) ∧
      (∀ now : Moment,
        let next := t.move .flushDue now
        next.feed.transcript.MadeOf next.closes (undated next.seen) ∧
          (next.seen ++ next.waiting ++ next.dropped).Perm (Feed.pushed 0 moves) ∧
          ∀ p ∈ Feed.pushed 0 moves, p.tick + interval ≤ now.tick →
            p ∉ next.waiting ∧ (p ∈ next.seen ∨ p ∈ next.dropped)) ∧
      ∀ before first between second after,
        moves = before ++ (.flushDue, first) :: (between ++ (.flushDue, second) :: after) →
        (track before).feed.Shows first →
        (track (before ++ (.flushDue, first) :: between)).feed.Shows second →
        first.tick + interval ≤ second.tick := by
  intro track t
  have accounts : Accounts t := (Accounts.start interval).run moves
  have same : t.feed.interval = interval := interval_run _ moves
  have waiting : t.waiting.Pairwise fun p q => p.tick ≤ q.tick := ordered_waiting rfl ordered
  have all : t.all.Perm (Feed.pushed 0 moves) := all_run { feed := { interval } } moves
  refine ⟨accounts.isSome_deadline, ?_, accounts.gathered, accounts.seen, all, ?_, ?_⟩
  · rw [accounts.deadline, min?_ticks waiting, same, Option.map_map]
    rfl
  · intro now next
    have outcome : Outcome t now .flushDue next := outcome_move t .flushDue now
    have still : next.all.Perm (Feed.pushed 0 moves) := outcome.perm_all.trans all
    refine ⟨(accounts.after outcome).seen, still, ?_⟩
    intro p came past
    apply accounts.seen_of_past waiting outcome (still.mem_iff.mpr came)
    rw [same]
    exact past
  · rintro before first between second after rfl changes again
    have tail := (List.pairwise_append.mp ordered).2.1
    refine interval_le_of_shows interval ?_ changes again
    intro m member
    exact (List.pairwise_cons.mp tail).1 m (List.mem_append_left _ member)

/-- Two fragments are gathered and shown by a deadline, a third is shown by the text of another
node, a fourth is dropped, and a fifth is shown by a deadline again. -/
def burst : List (Feed.Move × Moment) :=
  [(.push ⟨"a", { node := some "1" }⟩, ⟨0, ⟨0, 0⟩⟩), (.push ⟨"b", {}⟩, ⟨20, ⟨0, 1⟩⟩),
    (.flushDue, ⟨50, ⟨0, 2⟩⟩), (.push ⟨"c", {}⟩, ⟨60, ⟨0, 3⟩⟩),
    (.push ⟨"d", { node := some "2" }⟩, ⟨70, ⟨0, 4⟩⟩), (.push ⟨"e", {}⟩, ⟨80, ⟨0, 5⟩⟩),
    (.discard, ⟨90, ⟨0, 6⟩⟩), (.push ⟨"f", {}⟩, ⟨95, ⟨0, 7⟩⟩), (.flushDue, ⟨145, ⟨0, 8⟩⟩)]

theorem gathered_for_an_interval_of_burst :
    (burst.Pairwise fun m n => m.2.tick ≤ n.2.tick) ∧
      (Tracked.run { feed := { interval := 50 } } (burst.take 2)).feed.Shows ⟨50, ⟨0, 2⟩⟩ ∧
      (Tracked.run { feed := { interval := 50 } } (burst.take 8)).feed.Shows ⟨145, ⟨0, 8⟩⟩ ∧
      50 + 50 ≤ 145 ∧
      (Tracked.run { feed := { interval := 50 } } burst).dropped.map (·.fragment.text) = ["e"] ∧
      (Tracked.run { feed := { interval := 50 } } burst).feed.deadline =
        ((Tracked.run { feed := { interval := 50 } } burst).waiting.map (·.tick)).min?.map
          (· + 50) := by
  have ordered : burst.Pairwise fun m n => m.2.tick ≤ n.2.tick := by decide
  have law := gathered_for_an_interval 50 burst ordered
  have first : (Tracked.run { feed := { interval := 50 } } (burst.take 2)).feed.Shows
      ⟨50, ⟨0, 2⟩⟩ := by decide
  have second : (Tracked.run { feed := { interval := 50 } } (burst.take 8)).feed.Shows
      ⟨145, ⟨0, 8⟩⟩ := by decide
  have apart := law.2.2.2.2.2.2 (burst.take 2) _ ((burst.drop 3).take 5) _ [] rfl first second
  exact ⟨ordered, first, second, apart, rfl, law.2.1⟩

end Tracked

end StreamingChat.Chat
