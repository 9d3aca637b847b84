import StreamingChat.Proofs.Chat.Consent
import StreamingChat.Proofs.Terminal.Printing

/-!
# The request that is shown

A renderer tells requests apart by their ids alone.  So when a request is pending, the one that was
shown last is the first one that was pending under the same id without a break.  It is the pending
one itself as long as the backend gives each request an id of its own.  When a request comes again
under its id for another tool, it takes the place of the first one and is not shown.
-/

namespace StreamingChat.Chat

open StreamingChat.Calendar (Moment)
open StreamingChat.Wire

/-- The id of the pending request. -/
def Snapshot.asks (shown : Snapshot) : Option String :=
  shown.pending.map (·.id)

namespace State

/-- The request that an input brings. -/
def Input.request? : Input → Option Approval.Request
  | .received text =>
    match Inbound.read? text with
    | some (.confirmation request) => some request
    | _ => none
  | _ => none

/-- The requests that the inputs of a run bring. -/
def asked (inputs : List (Input × Moment)) : List Approval.Request :=
  inputs.filterMap (·.1.request?)

theorem request?_of_shown {s : State} {text : String} {r : Approval.Request}
    (shown : s.shown? text = some r) : (Input.received text).request? = some r := by
  unfold shown? at shown
  split at shown
  · next request asks =>
    simp only [Input.request?, asks]
    split at shown
    · exact shown
    · cases shown
  · cases shown

/-- The pending request was pending before, or the input has brought it. -/
theorem pending_step {s : State} {input : Input} {now : Moment} {r : Approval.Request}
    (pending : (s.step input now).1.gate.pending = some r) :
    s.gate.pending = some r ∨ input.request? = some r := by
  rw [gate_step] at pending
  cases input with
  | received text =>
      change ((s.shown? text).map _ |>.elim s.gate s.gate.after).pending = some r at pending
      cases shown : s.shown? text with
      | none =>
          rw [shown] at pending
          exact .inl pending
      | some request =>
          rw [shown] at pending
          obtain rfl : request = r := Option.some.inj pending
          exact .inr (request?_of_shown shown)
  | answered request approved remember => exact .inl (Option.filter_eq_some_iff.mp pending).1
  | switched session connected => cases pending
  | flushDue | opened | disconnected | ended | turn | takeChanges => exact .inl pending

/-- What is pending in a published snapshot was pending at the beginning, or the run has brought
it. -/
theorem pending_published {s : State} {inputs : List (Input × Moment)} {shown : Snapshot}
    {r : Approval.Request} (published : shown ∈ s.published inputs)
    (pending : shown.pending = some r) : s.gate.pending = some r ∨ r ∈ asked inputs := by
  induction inputs generalizing s with
  | nil => cases published
  | cons i rest ih =>
      have next : (s.step i.1 i.2).1.gate.pending = some r ∨ r ∈ asked rest := by
        rcases List.mem_append.mp published with here | later
        · rw [eq_of_mem_yields here i.2] at pending
          exact .inl pending
        · exact ih later
      rcases next with stood | brought
      · rcases pending_step stood with before | brought
        · exact .inl before
        · exact .inr (List.mem_filterMap.mpr ⟨i, List.mem_cons_self, brought⟩)
      · obtain ⟨other, member, brought⟩ := List.mem_filterMap.mp brought
        exact .inr (List.mem_filterMap.mpr ⟨other, List.mem_cons_of_mem i member, brought⟩)

end State

end StreamingChat.Chat

namespace StreamingChat.Terminal.Renderer

open StreamingChat.Calendar (Moment)
open StreamingChat.Chat

/-- A request was pending when its id became the pending one, and its id has been ever since. -/
def FirstUnderId (shown : List Snapshot) (q : Approval.Request) : Prop :=
  ∃ before first since, shown = before ++ first :: since ∧ first.pending = some q ∧
    before.getLast?.bind Snapshot.asks ≠ some q.id ∧ ∀ s ∈ since, s.asks = some q.id

variable {shown : List Snapshot} {next last : Snapshot} {q r : Approval.Request}

theorem FirstUnderId.concat (first : FirstUnderId shown q) (goesOn : next.asks = some q.id) :
    FirstUnderId (shown ++ [next]) q := by
  obtain ⟨before, start, since, rfl, pending, new, kept⟩ := first
  refine ⟨before, start, since ++ [next], ?_, pending, new, ?_⟩
  · rw [List.append_assoc, List.cons_append]
  · intro s member
    rcases List.mem_append.mp member with old | last
    · exact kept s old
    · rw [List.mem_singleton.mp last]
      exact goesOn

theorem firstUnderId_concat (pending : next.pending = some q)
    (new : shown.getLast?.bind Snapshot.asks ≠ some q.id) : FirstUnderId (shown ++ [next]) q :=
  ⟨shown, next, [], rfl, pending, new, fun _ member => by cases member⟩

/-- A renderer remembers the id that was pending last. -/
theorem pending_afterAll (shown : List Snapshot) :
    (({} : Renderer).afterAll shown).pending = shown.getLast?.bind Snapshot.asks := by
  induction shown using List.reverseRecOn with
  | nil => rfl
  | append_singleton before next ih =>
      rw [afterAll_concat, List.getLast?_concat]
      rfl

/-- The request that was told last is the first one under the id of the pending one. -/
theorem last_request_told (ending : shown.getLast? = some last) (pending : last.pending = some r) :
    ∃ q, ((({} : Renderer).tellsAll shown).filterMap Line.request?).getLast? = some q ∧
      q.id = r.id ∧ FirstUnderId shown q := by
  induction shown using List.reverseRecOn generalizing last r with
  | nil => cases ending
  | append_singleton before next ih =>
      rw [List.getLast?_concat] at ending
      obtain rfl := Option.some.inj ending
      have asks : next.asks = some r.id := by rw [Snapshot.asks, pending, Option.map_some]
      have told : (({} : Renderer).tellsAll (before ++ [next])).filterMap Line.request? =
          (({} : Renderer).tellsAll before).filterMap Line.request? ++
            if next.asks = before.getLast?.bind Snapshot.asks then [] else [r] := by
        rw [tellsAll_concat, List.filterMap_append, requests_tells, requests, pending_afterAll,
          asks, pending]
        rfl
      by_cases same : next.asks = before.getLast?.bind Snapshot.asks
      · rw [told, if_pos same, List.append_nil]
        -- The id was pending in the last snapshot but one, so the request before is as good.
        obtain ⟨previous, stood, named⟩ := Option.bind_eq_some_iff.mp (same.symm.trans asks)
        obtain ⟨old, held, alike⟩ := Option.map_eq_some_iff.mp named
        obtain ⟨q, told, like, first⟩ := ih stood held
        have id : q.id = r.id := like.trans alike
        exact ⟨q, told, id, first.concat (asks.trans (congrArg some id.symm))⟩
      · rw [told, if_neg same, List.getLast?_concat]
        exact ⟨r, rfl, rfl, firstUnderId_concat pending fun known => same (asks.trans known.symm)⟩

/-- When a request is pending in the snapshot that was rendered last, the request that was shown
last has its id, and is the first one that was pending under this id without a break.  It is the
pending one itself if the requests of the conversation have ids of their own. -/
theorem shown_request_is_first_under_id (session : String) (interval : Nat)
    (inputs : List (State.Input × Moment)) (p : Palette) (shown : List Snapshot) (last : Snapshot)
    (r : Approval.Request)
    (samples : Samples shown ((State.initial session interval).published inputs))
    (ending : shown.getLast? = some last) (pending : last.pending = some r) :
    let told := ({} : Renderer).tellsAll shown
    (({} : Renderer).renderAll p shown).2 = told.map (Line.text p) ∧
      ∃ q, (told.filterMap Line.request?).getLast? = some q ∧ q.id = r.id ∧
        FirstUnderId shown q ∧
        ((∀ one ∈ State.asked inputs, ∀ other ∈ State.asked inputs,
          one.id = other.id → one = other) → q = r) := by
  intro told
  obtain ⟨q, toldLast, id, first⟩ := last_request_told ending pending
  refine ⟨congrArg Prod.snd (renderAll_eq {} p shown), q, toldLast, id, first, ?_⟩
  intro apart
  have brought : ∀ s ∈ shown, ∀ request, s.pending = some request →
      request ∈ State.asked inputs := by
    intro s seen request held
    rcases State.pending_published (samples.subset seen) held with before | asked
    · cases before
    · exact asked
  obtain ⟨before, start, since, rfl, held, -, -⟩ := first
  have one := brought start (List.mem_append_right before List.mem_cons_self) q held
  have other := brought last (List.mem_of_getLast? ending) r pending
  exact apart q one r other id

def shellAsked : String :=
  "\x7b\"type\":\"tool_confirmation_request\",\"data\":[\"r1\",\"shell\"]\x7d"

/-- A request under an id of its own. -/
def searchAsked : String :=
  "\x7b\"type\":\"tool_confirmation_request\",\"data\":[\"r2\",\"search\"]\x7d"

/-- A request for another tool under the id of the first one. -/
def deleteAsked : String :=
  "\x7b\"type\":\"tool_confirmation_request\",\"data\":[\"r1\",\"delete\"]\x7d"

/-- Two texts come one after the other, and after each the changes are published. -/
def inTurn (one other : String) : List (State.Input × Moment) :=
  [(.received one, ⟨0, ⟨0, 0⟩⟩), (.takeChanges, ⟨0, ⟨0, 0⟩⟩), (.received other, ⟨1, ⟨0, 1⟩⟩),
    (.takeChanges, ⟨1, ⟨0, 1⟩⟩)]

/-- Both snapshots are rendered, and the second request is shown. -/
theorem shown_request_is_first_under_id_of_search :
    let s := State.initial "default" 50
    let inputs := inTurn shellAsked searchAsked
    let one := (s.run (inputs.take 2)).snapshot
    let other := (s.run inputs).snapshot
    let search : Approval.Request := ⟨"r2", "search", .null, none⟩
    Samples [one, other] (s.published inputs) ∧ other.pending = some search ∧
      ((({} : Renderer).tellsAll [one, other]).filterMap Line.request?).getLast? = some search := by
  intro s inputs one other search
  have samples := Samples.again (.skip (.again (.skip .nil one)) other)
  have pending : other.pending = some search := rfl
  have asked : State.asked inputs = [⟨"r1", "shell", .null, none⟩, search] := rfl
  obtain ⟨-, q, told, -, -, same⟩ := shown_request_is_first_under_id "default" 50 inputs .plain
    [one, other] other search samples rfl pending
  have named : q = search := by
    refine same ?_
    rw [asked]
    intro a here b there alike
    simp only [List.mem_cons, List.not_mem_nil, or_false] at here there
    rcases here with rfl | rfl <;> rcases there with rfl | rfl
    · rfl
    · exact absurd (alike : "r1" = "r2") (by decide)
    · exact absurd (alike : "r2" = "r1") (by decide)
    · rfl
  exact ⟨samples, pending, told.trans (congrArg some named)⟩

/-- The request that is pending is to delete, and the one that was shown last is for a shell: its
lines are not those of the pending one. -/
theorem request_not_shown :
    let s := State.initial "default" 50
    let inputs := inTurn shellAsked deleteAsked
    let one := (s.run (inputs.take 2)).snapshot
    let other := (s.run inputs).snapshot
    ∃ shown pending, Samples [one, other] (s.published inputs) ∧ other.pending = some pending ∧
      ((({} : Renderer).tellsAll [one, other]).filterMap Line.request?).getLast? = some shown ∧
      shown.tool = "shell" ∧ pending.tool = "delete" ∧
      confirmationText .plain shown ≠ confirmationText .plain pending := by
  intro s inputs one other
  have samples := Samples.again (.skip (.again (.skip .nil one)) other)
  exact ⟨⟨"r1", "shell", .null, none⟩, ⟨"r1", "delete", .null, none⟩, samples, rfl, rfl, rfl, rfl,
    by decide⟩

end StreamingChat.Terminal.Renderer
