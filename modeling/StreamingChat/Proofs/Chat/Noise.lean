import Mathlib.Data.List.Forall2
import StreamingChat.Chat.Run
import StreamingChat.Proofs.Chat.Marking

/-!
# Noise on the channel

A run is held against the same run with some of its inputs left out.  Reports that mean nothing to
the conversation, chunks without text and histories of another session leave no trace: the rest of
the run goes on as if they had not come.  A text that cannot be decoded leaves an error and a
revision behind, and nothing that is decided later depends on either.
-/

namespace StreamingChat.Chat.State

open StreamingChat.Calendar (Moment)
open StreamingChat.Wire

/-! ## A run point by point -/

/-- An input of a run: the state that takes it, what the state becomes and what it asks for. -/
structure Point where
  input : Input
  now : Moment
  before : State
  after : State
  effects : List Effect

def Point.given (p : Point) : Input × Moment :=
  (p.input, p.now)

def point (s : State) (given : Input × Moment) : Point where
  input := given.1
  now := given.2
  before := s
  after := (s.step given.1 given.2).1
  effects := (s.step given.1 given.2).2

/-- The points of a run in order. -/
def course (s : State) : List (Input × Moment) → List Point
  | [] => []
  | given :: rest => s.point given :: (s.point given).after.course rest

variable {s t : State}

/-- Every point of a run is that of some state. -/
theorem eq_point_of_mem_course {inputs : List (Input × Moment)} {p : Point}
    (member : p ∈ s.course inputs) : ∃ (t : State) (given : Input × Moment), p = t.point given := by
  induction inputs generalizing s with
  | nil => cases member
  | cons given rest ih =>
      obtain rfl | later := List.mem_cons.mp member
      · exact ⟨s, given, rfl⟩
      · exact ih later

/-! ## Frames that mean nothing -/

/-- Whether a frame means nothing to the conversation: a report, a chunk without text, or a history
of another session. -/
def ignores (s : State) : Inbound → Bool
  | .status | .sessionChanged _ | .downloadProgress _ | .unknown => true
  | .chunk text _ => text.all (·.isEmpty)
  | .history _ session => !s.session.accepts session
  | _ => false

def Point.isNoise (p : Point) : Bool :=
  match p.input with
  | .received text => (Inbound.read? text).any p.before.ignores
  | _ => false

/-- A point that is passed over: the state is as it was, and at most the progress of a download is
told. -/
structure Point.Idle (p : Point) : Prop where
  state : p.after = p.before
  effects : ∀ effect ∈ p.effects, ∃ data, effect = .progress data

theorem pushChunk_of_isEmpty {text : String} (empty : text.isEmpty = true) (origin : Origin)
    (now : Moment) : s.pushChunk text origin now = s := by
  have ignored : s.feed.push ⟨text, origin⟩ now = (s.feed, .ignored) :=
    Feed.push_of_isEmpty empty now
  have unmarked : (s.isDirty || false) = s.isDirty := Bool.or_false _
  rw [pushChunk, ignored]
  exact congrArg (fun isDirty => { s with isDirty }) unmarked

theorem dispatch_of_ignores {frame : Inbound} (ignored : s.ignores frame = true) (now : Moment) :
    (s.dispatch frame now).1 = s ∧
      ∀ effect ∈ (s.dispatch frame now).2, ∃ data, effect = .progress data := by
  have nothing {next : State} (same : next = s) :
      next = s ∧ ∀ effect ∈ ([] : List Effect), ∃ data, effect = .progress data :=
    ⟨same, fun _ member => absurd member List.not_mem_nil⟩
  cases frame with
  | chunk text origin =>
      cases text with
      | none => exact nothing rfl
      | some text => exact nothing (pushChunk_of_isEmpty ignored origin now)
  | history entries session =>
      have other : s.session.accepts session = false := (Bool.not_eq_true' _).mp ignored
      rw [dispatch, other]
      exact nothing rfl
  | downloadProgress data =>
      refine ⟨rfl, ?_⟩
      intro effect member
      exact ⟨data, List.mem_singleton.mp member⟩
  | status => exact nothing rfl
  | sessionChanged session => exact nothing rfl
  | unknown => exact nothing rfl
  | done => cases ignored
  | stopped => cases ignored
  | error message => cases ignored
  | stats data => cases ignored
  | searchResults data => cases ignored
  | activity update => cases ignored
  | confirmation request => cases ignored

theorem idle_of_isNoise {given : Input × Moment} (noise : (s.point given).isNoise = true) :
    (s.point given).Idle := by
  obtain ⟨input, now⟩ := given
  cases input with
  | received text =>
      change (Inbound.read? text).any s.ignores = true at noise
      obtain ⟨frame, read, ignored⟩ := (Option.any_eq_true _ _).mp noise
      have heard : s.step (.received text) now = s.dispatch frame now := by
        rw [step, receive, read]
      obtain ⟨state, effects⟩ := dispatch_of_ignores ignored now
      rw [← heard] at state effects
      exact ⟨state, effects⟩
  | _ => cases noise

/-- The points of a run that are not noise. -/
def heeded (s : State) (inputs : List (Input × Moment)) : List Point :=
  (s.course inputs).filter (!·.isNoise)

section

variable {given : Input × Moment} (rest : List (Input × Moment))

theorem heeded_cons_of_isNoise (noise : (s.point given).isNoise = true) :
    s.heeded (given :: rest) = s.heeded rest := by
  have same : (s.point given).after = s := (idle_of_isNoise noise).state
  rw [heeded, course, List.filter_cons_of_neg (by rw [noise]; decide), same]
  rfl

theorem heeded_cons_of_not_isNoise (heard : (s.point given).isNoise = false) :
    s.heeded (given :: rest) = s.point given :: (s.point given).after.heeded rest := by
  rw [heeded, course, List.filter_cons_of_pos (by rw [heard]; decide)]
  rfl

end

/-- Without the noise a run goes through the points that are left, and nothing else. -/
theorem course_heeded (s : State) (inputs : List (Input × Moment)) :
    s.course ((s.heeded inputs).map Point.given) = s.heeded inputs := by
  induction inputs generalizing s with
  | nil => rfl
  | cons given rest ih =>
      cases noise : (s.point given).isNoise with
      | true =>
          rw [heeded_cons_of_isNoise rest noise]
          exact ih s
      | false =>
          rw [heeded_cons_of_not_isNoise rest noise]
          exact congrArg (s.point given :: ·) (ih (s.point given).after)

theorem run_heeded (s : State) (inputs : List (Input × Moment)) :
    s.run ((s.heeded inputs).map Point.given) = s.run inputs := by
  induction inputs generalizing s with
  | nil => rfl
  | cons given rest ih =>
      change _ = (s.point given).after.run rest
      cases noise : (s.point given).isNoise with
      | true =>
          rw [heeded_cons_of_isNoise rest noise, (idle_of_isNoise noise).state]
          exact ih s
      | false =>
          rw [heeded_cons_of_not_isNoise rest noise]
          exact ih (s.point given).after

/-! ## Texts that cannot be decoded -/

/-- Whether an input is a text that cannot be decoded and does not say that it is a history. -/
def Input.isGarbled : Input → Bool
  | .received text => (Inbound.read? text).isNone && !claimsHistory text
  | _ => false

/-- The state without its error, its count of revisions and its mark. -/
def besidesError (s : State) : State :=
  { s with error := none, revision := 0, isDirty := false }

/-- What the one state may be ahead of the other: the error of a text that cannot be decoded, and
revisions, the one that is marked included. -/
structure Ahead (s t : State) : Prop where
  error : s.error = t.error ∨ s.error = some undecodableMessage
  revision : t.revision ≤ s.revision
  isDirty : t.isDirty = true → s.isDirty = true

/-- Two states that differ in error and revision at most. -/
structure SameButError (s t : State) : Prop extends Ahead s t where
  rest : s.besidesError = t.besidesError

/-- Two points where the same input meets states that differ in error and revision at most, leaves
such states behind and asks for the same effects. -/
structure Point.SameButError (p q : Point) : Prop where
  given : p.given = q.given
  before : p.before.SameButError q.before
  after : p.after.SameButError q.after
  effects : p.effects = q.effects

/-- Neither error nor revision has a part in what becomes of the rest, or in what is asked for. -/
theorem besidesError_dispatch (s : State) (frame : Inbound) (now : Moment) :
    (s.dispatch frame now).1.besidesError = (s.besidesError.dispatch frame now).1.besidesError ∧
      (s.dispatch frame now).2 = (s.besidesError.dispatch frame now).2 := by
  cases frame with
  | chunk text origin =>
      cases text with
      | none => exact ⟨rfl, rfl⟩
      | some text => exact ⟨rfl, rfl⟩
  | confirmation request =>
      have gate : s.besidesError.gate = s.gate := rfl
      simp only [dispatch, offer, gate]
      split
      · exact ⟨rfl, rfl⟩
      · exact ⟨rfl, rfl⟩
  | history entries session =>
      have session : s.besidesError.session = s.session := rfl
      simp only [dispatch, session]
      split
      · exact ⟨rfl, rfl⟩
      · exact ⟨rfl, rfl⟩
  | _ => exact ⟨rfl, rfl⟩

theorem besidesError_takeChanges (s : State) : s.takeChanges.1.besidesError = s.besidesError := by
  unfold takeChanges
  split
  · rfl
  · rfl

theorem besidesError_step (s : State) (input : Input) (now : Moment) :
    (s.step input now).1.besidesError = (s.besidesError.step input now).1.besidesError ∧
      (s.step input now).2 = (s.besidesError.step input now).2 := by
  cases input with
  | received text =>
      simp only [step, receive]
      cases Inbound.read? text with
      | none => exact ⟨rfl, rfl⟩
      | some frame => exact besidesError_dispatch s frame now
  | flushDue =>
      refine ⟨?_, rfl⟩
      have feed : s.besidesError.feed = s.feed := rfl
      simp only [step, flushDue, feed]
      split
      · rfl
      · rfl
  | takeChanges =>
      refine ⟨?_, rfl⟩
      change s.takeChanges.1.besidesError = s.besidesError.takeChanges.1.besidesError
      rw [besidesError_takeChanges, besidesError_takeChanges]
      rfl
  | _ => exact ⟨rfl, rfl⟩

namespace Ahead

theorem touched (error : s.error = t.error ∨ s.error = some undecodableMessage)
    (revision : t.revision ≤ s.revision) : Ahead s.touched t.touched :=
  ⟨error, revision, fun dirty => dirty⟩

theorem touchedIf (ahead : Ahead s t) {here there : Bool} (same : here = there) :
    Ahead (s.touchedIf here) (t.touchedIf there) where
  error := ahead.error
  revision := ahead.revision
  isDirty dirty := by
    subst same
    obtain marked | changed := Bool.or_eq_true_iff.mp dirty
    · exact Bool.or_eq_true_iff.mpr (.inl (ahead.isDirty marked))
    · exact Bool.or_eq_true_iff.mpr (.inr changed)

/-- The state that is ahead takes its changes whenever the other does. -/
theorem takeChanges (ahead : Ahead s t) : Ahead s.takeChanges.1 t.takeChanges.1 := by
  cases there : t.isDirty with
  | true =>
      rw [takeChanges_of_dirty there, takeChanges_of_dirty (ahead.isDirty there)]
      exact ⟨ahead.error, Nat.succ_le_succ ahead.revision, fun dirty => dirty⟩
  | false =>
      rw [takeChanges_of_clean there]
      cases here : s.isDirty with
      | true =>
          rw [takeChanges_of_dirty here]
          refine ⟨ahead.error, Nat.le_succ_of_le ahead.revision, ?_⟩
          intro dirty
          cases there.symm.trans dirty
      | false =>
          rw [takeChanges_of_clean here]
          exact ahead

end Ahead

namespace SameButError

theorem refl (s : State) : SameButError s s :=
  ⟨⟨.inl rfl, Nat.le_refl _, fun dirty => dirty⟩, rfl⟩

variable (both : SameButError s t)

include both

theorem feed : s.feed = t.feed := by
  have same : s.besidesError.feed = t.besidesError.feed := congrArg State.feed both.rest
  exact same

theorem session : s.session = t.session := by
  have same : s.besidesError.session = t.besidesError.session := congrArg State.session both.rest
  exact same

theorem gate : s.gate = t.gate := by
  have same : s.besidesError.gate = t.besidesError.gate := congrArg State.gate both.rest
  exact same

theorem isProcessing : s.isProcessing = t.isProcessing := by
  have same : s.besidesError.isProcessing = t.besidesError.isProcessing :=
    congrArg State.isProcessing both.rest
  exact same

theorem ahead_finish (now : Moment) : Ahead (s.finish now) (t.finish now) := by
  apply Ahead.touchedIf
  · exact ⟨both.error, both.revision, both.isDirty⟩
  · rw [both.feed, both.isProcessing]

theorem ahead_offer (request : Approval.Request) :
    Ahead (s.offer request).1 (t.offer request).1 := by
  unfold offer
  rw [both.gate]
  split
  · exact .touched both.error both.revision
  · exact ⟨both.error, both.revision, both.isDirty⟩

theorem ahead_dispatch (frame : Inbound) (now : Moment) :
    Ahead (s.dispatch frame now).1 (t.dispatch frame now).1 := by
  cases frame with
  | chunk text origin =>
      cases text with
      | none => exact both.toAhead
      | some text =>
          apply Ahead.touchedIf
          · exact ⟨both.error, both.revision, both.isDirty⟩
          · rw [both.feed]
  | done => exact both.ahead_finish now
  | stopped => exact both.ahead_finish now
  | confirmation request => exact both.ahead_offer request
  | history entries session =>
      simp only [dispatch, both.session]
      split
      · exact .touched both.error both.revision
      · exact both.toAhead
  | error message => exact .touched (.inl rfl) both.revision
  | stats data => exact .touched both.error both.revision
  | searchResults data => exact .touched both.error both.revision
  | activity update => exact .touched both.error both.revision
  | status => exact both.toAhead
  | sessionChanged session => exact both.toAhead
  | downloadProgress data => exact both.toAhead
  | unknown => exact both.toAhead

theorem ahead_step (input : Input) (now : Moment) :
    Ahead (s.step input now).1 (t.step input now).1 := by
  cases input with
  | received text =>
      simp only [State.step, receive]
      cases Inbound.read? text with
      | none => exact .touched (.inl rfl) both.revision
      | some frame => exact both.ahead_dispatch frame now
  | flushDue =>
      simp only [State.step, State.flushDue, both.feed]
      split
      · apply Ahead.touchedIf
        · exact ⟨both.error, both.revision, both.isDirty⟩
        · rfl
      · exact both.toAhead
  | opened => exact .touched both.error both.revision
  | disconnected => exact .touched both.error both.revision
  | ended => exact .touched both.error both.revision
  | turn content => exact .touched (.inl rfl) both.revision
  | switched session connected => exact .touched (.inl rfl) both.revision
  | answered request approved remember => exact .touched both.error both.revision
  | takeChanges => exact both.toAhead.takeChanges

/-- One input keeps two states the same but for error and revision. -/
theorem same_point (given : Input × Moment) : (s.point given).SameButError (t.point given) := by
  obtain ⟨here, asked⟩ := besidesError_step s given.1 given.2
  obtain ⟨there, alike⟩ := besidesError_step t given.1 given.2
  refine ⟨rfl, both, ⟨both.ahead_step given.1 given.2, ?_⟩, ?_⟩
  · change (s.step given.1 given.2).1.besidesError = (t.step given.1 given.2).1.besidesError
    rw [here, there, both.rest]
  · change (s.step given.1 given.2).2 = (t.step given.1 given.2).2
    rw [asked, alike, both.rest]

end SameButError

/-- A point where a text cannot be decoded: it leaves an error and a mark behind, and nothing else
comes of it. -/
structure Point.Refused (p : Point) : Prop where
  state : p.after = { p.before with error := some undecodableMessage, isDirty := true }
  effects : p.effects = []

theorem refused_of_isGarbled {given : Input × Moment} (garbled : given.1.isGarbled = true) :
    (s.point given).Refused := by
  obtain ⟨input, now⟩ := given
  cases input with
  | received text =>
      obtain ⟨unread, other⟩ := (Bool.and_eq_true_iff).mp garbled
      have unread : Inbound.read? text = none := Option.isNone_iff_eq_none.mp unread
      have other : claimsHistory text = false := (Bool.not_eq_true' _).mp other
      have heard : s.step (.received text) now = (s.refuse text, []) := by
        rw [step, receive, unread]
      refine ⟨?_, congrArg Prod.snd heard⟩
      change (s.step (.received text) now).1 = _
      rw [heard, refuse, other]
      rfl
  | _ => cases garbled

/-- The inputs without the texts that cannot be decoded. -/
def legible (inputs : List (Input × Moment)) : List (Input × Moment) :=
  inputs.filter (!·.1.isGarbled)

theorem legible_cons_of_isGarbled {given : Input × Moment} (rest : List (Input × Moment))
    (garbled : given.1.isGarbled = true) : legible (given :: rest) = legible rest :=
  List.filter_cons_of_neg (by rw [garbled]; decide)

theorem legible_cons_of_not_isGarbled {given : Input × Moment} (rest : List (Input × Moment))
    (heard : given.1.isGarbled = false) : legible (given :: rest) = given :: legible rest :=
  List.filter_cons_of_pos (by rw [heard]; decide)

namespace SameButError

theorem refused (both : SameButError s t) {given : Input × Moment}
    (refused : (s.point given).Refused) : SameButError (s.point given).after t := by
  rw [refused.state]
  exact ⟨⟨.inr rfl, both.revision, fun _ => rfl⟩, both.rest⟩

theorem course (both : SameButError s t) (inputs : List (Input × Moment)) :
    List.Forall₂ Point.SameButError ((s.course inputs).filter (!·.input.isGarbled))
      (t.course (legible inputs)) := by
  induction inputs generalizing s t with
  | nil => exact .nil
  | cons given rest ih =>
      rw [State.course, List.filter_cons]
      change List.Forall₂ _ (if (!given.1.isGarbled) = true then _ else _) _
      cases garbled : given.1.isGarbled with
      | true =>
          rw [legible_cons_of_isGarbled rest garbled]
          exact ih (both.refused (refused_of_isGarbled garbled))
      | false =>
          rw [legible_cons_of_not_isGarbled rest garbled]
          exact .cons (both.same_point given) (ih (both.same_point given).after)

theorem run (both : SameButError s t) (inputs : List (Input × Moment)) :
    SameButError (s.run inputs) (t.run (legible inputs)) := by
  induction inputs generalizing s t with
  | nil => exact both
  | cons given rest ih =>
      cases garbled : given.1.isGarbled with
      | true =>
          rw [legible_cons_of_isGarbled rest garbled]
          exact ih (both.refused (refused_of_isGarbled garbled))
      | false =>
          rw [legible_cons_of_not_isGarbled rest garbled]
          exact ih (both.same_point given).after

end SameButError

/-- Noise does not disturb a conversation.  Reports, chunks without text and histories of another
session may be left out of a run: it goes through the same points otherwise, with the same states
and effects at each of them, and ends in the same state.  So may texts that cannot be decoded, but
for histories: at every point that is left the states differ in error and revision at most, and the
effects are the same. -/
theorem noise_leaves_no_trace (s : State) (inputs : List (Input × Moment)) :
    (s.course ((s.heeded inputs).map Point.given) = s.heeded inputs ∧
      s.run ((s.heeded inputs).map Point.given) = s.run inputs ∧
      ∀ point ∈ s.course inputs, point.isNoise = true → point.Idle) ∧
    (List.Forall₂ Point.SameButError ((s.course inputs).filter (!·.input.isGarbled))
        (s.course (legible inputs)) ∧
      SameButError (s.run inputs) (s.run (legible inputs)) ∧
      ∀ point ∈ s.course inputs, point.input.isGarbled = true → point.Refused) := by
  have same := SameButError.refl s
  refine ⟨⟨course_heeded s inputs, run_heeded s inputs, ?_⟩,
    same.course inputs, same.run inputs, ?_⟩
  · intro point member noise
    obtain ⟨t, given, rfl⟩ := eq_point_of_mem_course member
    exact idle_of_isNoise noise
  · intro point member garbled
    obtain ⟨t, given, rfl⟩ := eq_point_of_mem_course member
    exact refused_of_isGarbled garbled

example :
    ["\x7b\"type\":\"telemetry\",\"x\":1\x7d",
      "\x7b\"type\":\"chunk\",\"message\":\"\",\"nodeId\":\"2\"\x7d",
      "\x7b\"type\":\"history\",\"messages\":[],\"sessionId\":\"second\"\x7d"].all
    (fun text => ((initial "first" 50).point (.received text, ⟨0, ⟨0, 0⟩⟩)).isNoise) = true := by
  decide +kernel

end StreamingChat.Chat.State
