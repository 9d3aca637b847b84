import Mathlib.Data.List.Chain
import Mathlib.Data.List.Forall2
import StreamingChat.Proofs.Chat.Coalescing

/-!
# Which fragments make up a message

Every message of a feed is made of fragments that came one after the other, and of all that came
between its first and its last.  They come from one node as far as their nodes are known, and the
message has the first of whatever is known of their origin.  A message ends where the feed is closed
or where the text of another node begins, and nowhere else: gathering and flushing decide nothing.
-/

namespace StreamingChat.Chat

open StreamingChat.Calendar (Instant Moment)

/-- A fragment with text in it, and how many times the feed had been closed when it came. -/
structure Arrival where
  fragment : Fragment
  closes : Nat
  deriving DecidableEq, Repr

/-- What is done to a feed. -/
inductive Feed.Act where
  | push (fragment : Fragment) (now : Moment)
  | flush (clock : Instant)
  | close (clock : Instant)

namespace Feed

def act (f : Feed) : Act → Feed
  | .push fragment now => (f.push fragment now).1
  | .flush clock => f.flush clock
  | .close clock => f.close clock

def actAll (f : Feed) (acts : List Act) : Feed :=
  acts.foldl act f

/-- The fragments with text in the order of their coming. -/
def arrivals (closes : Nat) : List Act → List Arrival
  | [] => []
  | .push fragment _ :: rest =>
    if fragment.text.isEmpty then arrivals closes rest
    else ⟨fragment, closes⟩ :: arrivals closes rest
  | .flush _ :: rest => arrivals closes rest
  | .close _ :: rest => arrivals (closes + 1) rest

end Feed

/-- What is known first of the origin of some fragments, mode, agent and node each for itself. -/
def Origin.first (group : List Arrival) : Origin where
  mode := group.findSome? (·.fragment.origin.mode)
  agent := group.findSome? (·.fragment.origin.agent)
  node := group.findSome? (·.fragment.origin.node)

/-- A message that is made of the given fragments. -/
structure Message.Body.Gathers (b : Message.Body) (group : List Arrival) : Prop where
  nonempty : group ≠ []
  content : b.content = String.join (group.map (·.fragment.text))
  origin : b.origin = .first group
  node : ∀ a ∈ group, ∀ node, a.fragment.origin.node = some node → b.origin.node = some node
  /-- The feed was not closed between them. -/
  unbroken : ∀ a ∈ group, ∀ other ∈ group, a.closes = other.closes

/-- A fragment that cannot belong to the message of those before it: the feed was closed since they
came, or it is known to come from a node, and they from another. -/
def Arrival.Leaves (a : Arrival) (group : List Arrival) : Prop :=
  (∀ b ∈ group, b.closes < a.closes) ∨
    ∃ new current, a.fragment.origin.node = some new ∧ (Origin.first group).node = some current ∧
      new ≠ current

/-- Two groups of which the later begins with a fragment that leaves the earlier. -/
def Parted (earlier later : List Arrival) : Prop :=
  ∃ a, later.head? = some a ∧ a.Leaves earlier

theorem Origin.first_singleton (a : Arrival) : Origin.first [a] = a.fragment.origin := by
  simp [Origin.first]

theorem Origin.first_concat (group : List Arrival) (a : Arrival) :
    Origin.first (group ++ [a]) = (Origin.first group).fillFrom a.fragment.origin := by
  simp [Origin.first, Origin.fillFrom, List.findSome?_append]

namespace Message.Body.Gathers

variable {group : List Arrival} {a : Arrival}

theorem singleton {b : Body} (content : b.content = a.fragment.text)
    (origin : b.origin = a.fragment.origin) : Gathers b [a] where
  nonempty := List.cons_ne_nil _ _
  content := by
    rw [content, List.map_singleton, String.join_cons, String.join_nil, String.append_empty]
  origin := by rw [origin, Origin.first_singleton]
  node other member node known := by
    obtain rfl := List.mem_singleton.mp member
    rw [origin, known]
  unbroken first left second right := by
    obtain rfl := List.mem_singleton.mp left
    obtain rfl := List.mem_singleton.mp right
    rfl

variable {m : Message} (gathers : m.body.Gathers group)

include gathers

theorem completed : (Transcript.completed m).body.Gathers group :=
  ⟨gathers.nonempty, gathers.content, gathers.origin, gathers.node, gathers.unbroken⟩

/-- A fragment that goes on with a message joins those that it is made of. -/
theorem append (goesOn : Transcript.GoesOn a.fragment m) (same : ∀ b ∈ group, b.closes = a.closes) :
    ({ m with
        content := m.content ++ a.fragment.text
        origin := m.origin.fillFrom a.fragment.origin } : Message).body.Gathers (group ++ [a]) where
  nonempty := List.concat_ne_nil _ _
  content := by
    have content : m.content = String.join (group.map (·.fragment.text)) := gathers.content
    rw [List.map_append, String.join_append, ← content, List.map_singleton, String.join_cons,
      String.join_nil, String.append_empty]
    rfl
  origin := by
    have origin : m.origin = .first group := gathers.origin
    rw [Origin.first_concat, ← origin]
    rfl
  node other member node known := by
    change (m.origin.node <|> a.fragment.origin.node) = some node
    obtain old | new := List.mem_append.mp member
    · have kept : m.origin.node = some node := gathers.node other old node known
      rw [kept]
      rfl
    · obtain rfl := List.mem_singleton.mp new
      cases before : m.origin.node with
      | none => exact known
      | some current => exact congrArg some (goesOn node current known before).symm
  unbroken := by
    have all (b : Arrival) (member : b ∈ group ++ [a]) : b.closes = a.closes := by
      obtain old | new := List.mem_append.mp member
      · exact same b old
      · rw [List.mem_singleton.mp new]
    intro b left c right
    rw [all b left, all c right]

end Message.Body.Gathers

theorem Parted.concat {earlier later : List Arrival} (parted : Parted earlier later) (a : Arrival) :
    Parted earlier (later ++ [a]) := by
  obtain ⟨first, head, leaves⟩ := parted
  exact ⟨first, by rw [List.head?_append, head]; rfl, leaves⟩

namespace Transcript

/-- The groups of fragments that the messages of a transcript are made of, one for each complete
message and one for that in progress, after some closings of the feed. -/
structure Grouped (t : Transcript) (closes : Nat) (earlier : List (List Arrival))
    (current : Option (List Arrival)) : Prop where
  committed : List.Forall₂ Message.Body.Gathers (t.committed.map Message.body) earlier
  inProgress : Option.Rel Message.Body.Gathers (t.inProgress.map Message.body) current
  parted : (earlier ++ current.toList).IsChain Parted
  seen : ∀ group ∈ earlier, ∀ a ∈ group, a.closes ≤ closes
  /-- The feed was not closed since the message in progress began, -/
  fresh : ∀ group ∈ current, ∀ a ∈ group, a.closes = closes
  /-- and was closed since the last message if none is in progress. -/
  past : current = none → ∀ group ∈ earlier, ∀ a ∈ group, a.closes < closes

namespace Grouped

variable {t : Transcript} {closes : Nat} {earlier : List (List Arrival)}
  {current : Option (List Arrival)} {a : Arrival} {group : List Arrival}

theorem empty (issued : Nat) : Grouped { issued } 0 [] none where
  committed := .nil
  inProgress := .none
  parted := .nil
  seen _ member := by cases member
  fresh _ member := by cases member
  past _ _ member := by cases member

theorem seen_all (grouped : Grouped t closes earlier current) :
    ∀ group ∈ earlier ++ current.toList, ∀ a ∈ group, a.closes ≤ closes := by
  intro group member a within
  obtain old | last := List.mem_append.mp member
  · exact grouped.seen group old a within
  · exact Nat.le_of_eq (grouped.fresh group (Option.mem_toList.mp last) a within)

/-- Either no message is in progress, or one is and has a group of its own. -/
theorem inProgress_cases (grouped : Grouped t closes earlier current) :
    (t.inProgress = none ∧ current = none) ∨
      ∃ m group, t.inProgress = some m ∧ current = some group ∧ m.body.Gathers group := by
  have last := grouped.inProgress
  cases open_ : t.inProgress with
  | none =>
      rw [open_] at last
      cases last
      exact .inl ⟨rfl, rfl⟩
  | some m =>
      rw [open_] at last
      cases last with
      | some gathers => exact .inr ⟨m, _, rfl, rfl, gathers⟩

/-- The messages in order, whether complete or not. -/
theorem visible (grouped : Grouped t closes earlier current) :
    List.Forall₂ Message.Body.Gathers (t.visible.map Message.body)
      (earlier ++ current.toList) := by
  rw [Transcript.visible, List.map_append]
  refine List.rel_append grouped.committed ?_
  obtain ⟨open_, none_⟩ | ⟨m, group, open_, some_, gathers⟩ := grouped.inProgress_cases
  · rw [open_, none_]
    exact .nil
  · rw [open_, some_]
    exact .cons gathers .nil

/-- Completing the message in progress keeps its group. -/
theorem committed_complete (grouped : Grouped t closes earlier current) :
    List.Forall₂ Message.Body.Gathers (t.complete.committed.map Message.body)
      (earlier ++ current.toList) := by
  rw [Transcript.complete, List.map_append]
  refine List.rel_append grouped.committed ?_
  obtain ⟨open_, none_⟩ | ⟨m, group, open_, some_, gathers⟩ := grouped.inProgress_cases
  · rw [open_, none_]
    exact .nil
  · rw [open_, some_]
    exact .cons gathers.completed .nil

theorem complete (grouped : Grouped t closes earlier current) :
    Grouped t.complete (closes + 1) (earlier ++ current.toList) none where
  committed := grouped.committed_complete
  inProgress := .none
  parted := by
    rw [Option.toList_none, List.append_nil]
    exact grouped.parted
  seen group member a within := Nat.le_succ_of_le (grouped.seen_all group member a within)
  fresh _ member := by cases member
  past _ group member a within := Nat.lt_succ_of_le (grouped.seen_all group member a within)

/-- A fragment that leaves the last group begins one of its own. -/
theorem startAnswer (grouped : Grouped t a.closes earlier current)
    (leaves : ∀ group ∈ (earlier ++ current.toList).getLast?, a.Leaves group) (clock : Instant) :
    Grouped (t.startAnswer a.fragment.text a.fragment.origin clock) a.closes
      (earlier ++ current.toList) (some [a]) where
  committed := grouped.committed_complete
  inProgress := .some (.singleton rfl rfl)
  parted := by
    refine grouped.parted.append (.singleton _) ?_
    intro group last later head
    obtain rfl := Option.some.inj head
    exact ⟨a, rfl, leaves group last⟩
  seen := grouped.seen_all
  fresh group member other within := by
    obtain rfl := Option.some.inj member
    rw [List.mem_singleton.mp within]
  past impossible := by cases impossible

/-- A fragment that goes on with the message in progress joins its group. -/
theorem append {m : Message} (grouped : Grouped t a.closes earlier (some group))
    (open_ : t.inProgress = some m) (gathers : m.body.Gathers group)
    (goesOn : GoesOn a.fragment m) :
    Grouped (t.append a.fragment.text a.fragment.origin) a.closes earlier
      (some (group ++ [a])) where
  committed := grouped.committed
  inProgress := by
    rw [Transcript.append, open_]
    exact .some (gathers.append goesOn (grouped.fresh group rfl))
  parted := by
    obtain ⟨before, -, border⟩ := List.isChain_append.mp grouped.parted
    refine before.append (.singleton _) ?_
    intro last here later head
    obtain rfl := Option.some.inj head
    exact (border last here group rfl).concat a
  seen := grouped.seen
  fresh longer member other within := by
    obtain rfl := Option.some.inj member
    obtain old | new := List.mem_append.mp within
    · exact grouped.fresh group rfl other old
    · rw [List.mem_singleton.mp new]
  past impossible := by cases impossible

end Grouped

/-- The fragments that came make up the messages, one group of them after the other. -/
def MadeOf (t : Transcript) (closes : Nat) (arrived : List Arrival) : Prop :=
  ∃ earlier current, Grouped t closes earlier current ∧
    (earlier ++ current.toList).flatten = arrived

namespace MadeOf

variable {t : Transcript} {closes : Nat} {arrived : List Arrival} {a : Arrival}

theorem complete (made : MadeOf t closes arrived) : MadeOf t.complete (closes + 1) arrived := by
  obtain ⟨earlier, current, grouped, all⟩ := made
  exact ⟨_, _, grouped.complete, by rw [Option.toList_none, List.append_nil, all]⟩

/-- A fragment that is written goes on with the last group or begins one behind it. -/
theorem write (made : MadeOf t a.closes arrived) (text : a.fragment.text.isEmpty = false)
    (clock : Instant) : MadeOf (t.write a.fragment clock) a.closes (arrived ++ [a]) := by
  obtain ⟨earlier, current, grouped, rfl⟩ := made
  have begun (leaves : ∀ group ∈ (earlier ++ current.toList).getLast?, a.Leaves group) :
      MadeOf (t.startAnswer a.fragment.text a.fragment.origin clock) a.closes
        ((earlier ++ current.toList).flatten ++ [a]) :=
    ⟨_, _, grouped.startAnswer leaves clock, List.flatten_append⟩
  obtain ⟨open_, rfl⟩ | ⟨m, group, open_, rfl, gathers⟩ := grouped.inProgress_cases
  · rw [write_of_none text open_]
    refine begun ?_
    intro group last
    rw [Option.toList_none, List.append_nil] at last
    exact .inl (grouped.past rfl group (List.mem_of_getLast? last))
  · by_cases goesOn : GoesOn a.fragment m
    · rw [write_of_goesOn text open_ goesOn]
      refine ⟨_, _, grouped.append open_ gathers goesOn, ?_⟩
      simp only [Option.toList_some, List.flatten_concat, List.append_assoc]
    · obtain ⟨new, old, left, right, differ⟩ := not_goesOn_iff.mp goesOn
      rw [write_of_ne text open_ left right differ]
      refine begun ?_
      intro other last
      rw [Option.toList_some, List.getLast?_concat] at last
      obtain rfl := Option.some.inj last
      have known : (Origin.first group).node = some old := gathers.origin ▸ right
      exact .inr ⟨new, old, left, known, differ⟩

end MadeOf

end Transcript

namespace Feed

/-- Whatever is done to a feed, the fragments that come go into its messages.  It is shown for a
feed that writes each fragment at once, which the feed that gathers refines. -/
theorem madeOf_actAll {f d : Feed} {closes : Nat} {arrived : List Arrival} (refines : f.Refines d)
    (made : d.transcript.MadeOf closes arrived) (acts : List Act) :
    ∃ e after, (f.actAll acts).Refines e ∧
      e.transcript.MadeOf after (arrived ++ arrivals closes acts) := by
  induction acts generalizing f d closes arrived with
  | nil =>
      rw [arrivals, List.append_nil]
      exact ⟨d, closes, refines, made⟩
  | cons act rest ih =>
      cases act with
      | push fragment now =>
          have next := refines.push fragment now
          cases text : fragment.text.isEmpty with
          | true =>
              rw [Transcript.write_of_isEmpty text] at next
              rw [arrivals, if_pos text]
              exact ih next made
          | false =>
              have written := made.write (a := ⟨fragment, closes⟩) text now.clock
              rw [arrivals, text, if_neg Bool.false_ne_true, List.append_cons]
              exact ih next written
      | flush clock => exact ih (refines.flush clock) made
      | close clock =>
          have closed : (d.close clock).transcript = d.transcript.complete := by
            rw [close, transcript_flush_of_none refines.ungathered]
          refine ih (refines.close clock) ?_
          rw [closed]
          exact made.complete

/-- Fragments are never put down to another message.  Whatever is pushed to a feed, and whenever it
is flushed or closed, the fragments with text are divided, in the order of their coming, among the
messages that a last flush leaves: each message is made of a group of them, one after the other,
and a group ends only where the feed was closed or where the next fragment is known to come from
another node. -/
theorem fragments_make_up_messages (interval : Nat) (acts : List Act) (clock : Instant) :
    ∃ groups : List (List Arrival),
      groups.flatten = arrivals 0 acts ∧
      List.Forall₂ Message.Body.Gathers
        ((({ interval } : Feed).actAll acts).flush clock |>.transcript.visible.map Message.body)
        groups ∧
      groups.IsChain Parted := by
  have start : Refines ({ interval } : Feed) { interval } := .of_alike rfl rfl (.refl _)
  obtain ⟨e, after, refines, earlier, current, grouped, all⟩ :=
    madeOf_actAll start ⟨[], none, .empty 0, rfl⟩ acts
  refine ⟨earlier ++ current.toList, all, ?_, grouped.parted⟩
  rw [(refines.alike clock).visible]
  exact grouped.visible

end Feed

end StreamingChat.Chat
