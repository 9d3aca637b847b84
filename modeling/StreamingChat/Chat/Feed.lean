import StreamingChat.Calendar.Moment
import StreamingChat.Chat.Transcript

/-!
Text on its way into the transcript. Fragments of a few characters are gathered and shown together
when a deadline has passed, when the text of another node begins, or when the answer ends. The
deadline is armed by the first fragment that is gathered and does not move until the next showing,
so that a burst of fragments is shown once.
-/

namespace StreamingChat.Chat

open StreamingChat.Calendar (Moment)

structure Fragment where
  text : String
  origin : Origin := {}
  deriving DecidableEq, Repr

/-- The transcript, the text that is not yet shown, and when it will be. -/
structure Feed where
  transcript : Transcript := {}
  gathered : Option Fragment := none
  deadline : Option Nat := none
  /-- Nanoseconds from the first fragment to its showing. -/
  interval : Nat

namespace Feed

inductive Pushed where
  /-- The text was gathered and nothing visible has changed. -/
  | gathered
  /-- The text of another node began: the message before it is complete and a new one visible. -/
  | newNode
  /-- There was no text. -/
  | ignored
  deriving DecidableEq, Repr

/-- The node that the next fragment is held against: that of the gathered text if it has one, else
that of the message in progress. -/
def node (f : Feed) : Option String :=
  (f.gathered.bind (·.origin.node)) <|> f.transcript.node

/-- A fragment begins the text of another node only if both nodes are known. -/
def isNewNode (f : Feed) (fragment : Fragment) : Bool :=
  match fragment.origin.node, f.node with
  | some new, some current => new != current
  | _, _ => false

/-- Shows the gathered text and disarms the deadline. -/
def flush (f : Feed) (clock : Calendar.Instant) : Feed :=
  match f.gathered with
  | none => { f with deadline := none }
  | some fragment =>
    let transcript :=
      match f.transcript.inProgress with
      | some _ => f.transcript.append fragment.text fragment.origin
      | none => f.transcript.startAnswer fragment.text fragment.origin clock
    { f with transcript, gathered := none, deadline := none }

/-- Whether a flush changes what is visible. -/
def hasGathered (f : Feed) : Bool :=
  f.gathered.isSome

/-- Adds a fragment to the gathered text, which keeps the origin it has. -/
def gather (f : Feed) (fragment : Fragment) (tick : Nat) : Feed :=
  let gathered :=
    match f.gathered with
    | some g => { text := g.text ++ fragment.text, origin := g.origin.fillFrom fragment.origin }
    | none => fragment
  { f with gathered := some gathered, deadline := some (f.deadline.getD (tick + f.interval)) }

def push (f : Feed) (fragment : Fragment) (now : Moment) : Feed × Pushed :=
  if fragment.text.isEmpty then (f, .ignored)
  else if f.isNewNode fragment then
    let shown := f.flush now.clock
    ({ shown with
        transcript := shown.transcript.startAnswer fragment.text fragment.origin now.clock },
      .newNode)
  else (f.gather fragment now.tick, .gathered)

def isDue (f : Feed) (tick : Nat) : Bool :=
  f.deadline.any (· ≤ tick)

/-- Shows the gathered text and completes the message in progress. -/
def close (f : Feed) (clock : Calendar.Instant) : Feed :=
  let shown := f.flush clock
  { shown with transcript := shown.transcript.complete }

/-- Whether closing changes what is visible. -/
def isOpen (f : Feed) : Bool :=
  f.hasGathered || f.transcript.inProgress.isSome

/-- Drops the gathered text. -/
def discard (f : Feed) : Feed :=
  { f with gathered := none, deadline := none }

theorem gathered_flush (f : Feed) (clock : Calendar.Instant) :
    (f.flush clock).gathered = none := by
  unfold flush
  split <;> simp_all

theorem deadline_flush (f : Feed) (clock : Calendar.Instant) :
    (f.flush clock).deadline = none := by
  unfold flush
  split <;> simp_all

theorem inProgress_close (f : Feed) (clock : Calendar.Instant) :
    (f.close clock).transcript.inProgress = none := rfl

theorem isOpen_close (f : Feed) (clock : Calendar.Instant) : (f.close clock).isOpen = false := by
  simp [isOpen, close, hasGathered, gathered_flush, Transcript.complete]

end Feed

end StreamingChat.Chat
