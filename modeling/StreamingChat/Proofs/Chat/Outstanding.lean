import Mathlib.Data.List.Dedup
import Mathlib.Data.List.Perm.Subperm
import StreamingChat.Proofs.Chat.Consent

/-!
# Requests that can still be answered

A gate queues the requests that it has shown.  Whatever was asked of it, the queue is not longer
than its capacity and has each id once, and the visible request is the newest in it, so that it can
always be approved for good.  A request that was shown and not answered stays in the queue until as
many other ids were shown after it as the queue has room for, or until the gate is reset.
-/

namespace StreamingChat.Chat.Approval

/-- What is asked of a gate. -/
inductive Call where
  | offer (request : Request)
  | resolve (id : String) (approved remember : Bool)
  | reset

def Occurrence.shownId? : Occurrence → Option String
  | surfaced request => some request.id
  | _ => none

/-- The ids of the requests that became visible. -/
def shownIds (events : List Occurrence) : List String :=
  events.filterMap Occurrence.shownId?

/-- Whether an occurrence leaves a request under an id as it is: no other is shown under that id, it
is not answered, and the gate is not reset. -/
def Occurrence.Leaves (id : String) : Occurrence → Prop
  | surfaced request => request.id ≠ id
  | answered other _ _ => other ≠ id
  | switched => False

theorem shownIds_append (first second : List Occurrence) :
    shownIds (first ++ second) = shownIds first ++ shownIds second :=
  List.filterMap_append

/-- Different ids among those that were shown are not more than the different ones of them. -/
theorem length_le_dedup {ids all : List String} (distinct : ids.Nodup) (sub : ids ⊆ all) :
    ids.length ≤ all.dedup.length :=
  (List.subperm_of_subset distinct fun _ member => List.mem_dedup.mpr (sub member)).length_le

namespace Gate

def call (g : Gate) : Call → Gate
  | .offer request => (g.offer request).1
  | .resolve id approved remember => g.resolve id approved remember
  | .reset => g.reset

def callAll (g : Gate) (calls : List Call) : Gate :=
  calls.foldl call g

/-- What a call means for the requests of the session.  A request for a remembered tool is not
shown. -/
def occurrence? (g : Gate) : Call → Option Occurrence
  | .offer request => if (g.offer request).2 = .surfaced then some (.surfaced request) else none
  | .resolve id approved remember => some (.answered id approved remember)
  | .reset => some .switched

/-- What has happened to the requests once some calls were made. -/
def history (g : Gate) : List Call → List Occurrence
  | [] => []
  | c :: rest => (g.occurrence? c).toList ++ (g.call c).history rest

def afterAll (g : Gate) (events : List Occurrence) : Gate :=
  events.foldl after g

theorem call_eq (g : Gate) (c : Call) : g.call c = g.afterAll (g.occurrence? c).toList := by
  cases c with
  | offer request =>
      cases remembered : g.isRemembered request.tool with
      | true =>
          have offered := offer_of_remembered remembered
          simp only [call, occurrence?, offered, reduceCtorEq, if_false]
          rfl
      | false =>
          have offered := offer_of_not_remembered remembered
          simp only [call, occurrence?, offered, if_true]
          rfl
  | resolve id approved remember => rfl
  | reset => rfl

/-- A gate is what has happened to its requests. -/
theorem callAll_eq (g : Gate) (calls : List Call) :
    g.callAll calls = g.afterAll (g.history calls) := by
  induction calls generalizing g with
  | nil => rfl
  | cons c rest ih =>
      have next := ih (g.call c)
      rw [call_eq] at next
      rw [history, afterAll, List.foldl_append, call_eq]
      exact (congrArg (·.callAll rest) (call_eq g c)).trans next

/-! ## The queue -/

/-- A queue with each id once keeps so when an id goes to its end. -/
theorem nodup_requeue {queue : List Outstanding} (distinct : (queue.map (·.id)).Nodup)
    (new : Outstanding) : ((queue.filter (·.id != new.id) ++ [new]).map (·.id)).Nodup := by
  rw [List.map_append, List.map_singleton, List.nodup_append]
  refine ⟨distinct.sublist (List.filter_sublist.map _), List.nodup_singleton _, ?_⟩
  intro id old last here
  obtain ⟨o, waits, rfl⟩ := List.mem_map.mp old
  rw [List.mem_singleton.mp here]
  exact bne_iff_ne.mp (List.mem_filter.mp waits).2

/-- The queue is not longer than its capacity and has each id once, and the visible request is the
newest in it. -/
structure Orderly (g : Gate) : Prop where
  bounded : g.outstanding.length ≤ capacity
  distinct : (g.outstanding.map (·.id)).Nodup
  newest : ∀ p, g.pending = some p → g.outstanding.getLast? = some ⟨p.id, p.tool⟩

variable {g : Gate}

theorem orderly_empty : Orderly {} where
  bounded := Nat.zero_le _
  distinct := List.nodup_nil
  newest p visible := by cases visible

namespace Orderly

variable (orderly : g.Orderly)

include orderly

theorem surface (r : Request) : (g.surface r).Orderly where
  bounded := length_enqueue _ _ orderly.bounded
  distinct := by
    obtain ⟨front, shape, others⟩ := sublist_enqueue g.outstanding ⟨r.id, r.tool⟩
    change ((enqueue g.outstanding ⟨r.id, r.tool⟩).map (·.id)).Nodup
    rw [shape]
    exact (nodup_requeue orderly.distinct _).sublist ((others.append_right _).map _)
  newest p visible := by
    obtain ⟨front, shape, -⟩ := sublist_enqueue g.outstanding ⟨r.id, r.tool⟩
    obtain rfl := Option.some.inj visible
    change (enqueue g.outstanding ⟨r.id, r.tool⟩).getLast? = _
    rw [shape]
    exact List.getLast?_concat

theorem resolve (id : String) (approved remember : Bool) :
    (g.resolve id approved remember).Orderly where
  bounded := Nat.le_trans List.length_eraseP_le orderly.bounded
  distinct := orderly.distinct.sublist (List.eraseP_sublist.map _)
  newest p visible := by
    obtain ⟨before, other⟩ := Option.filter_eq_some_iff.mp visible
    obtain ⟨front, shape⟩ := List.getLast?_eq_some_iff.mp (orderly.newest p before)
    have unanswered : (p.id == id) = false := beq_eq_false_iff_ne.mpr (bne_iff_ne.mp other)
    have stays : [(⟨p.id, p.tool⟩ : Outstanding)].eraseP (·.id == id) = [⟨p.id, p.tool⟩] := by
      rw [List.eraseP_cons, unanswered]
      rfl
    change (g.outstanding.eraseP (·.id == id)).getLast? = _
    rw [shape, List.eraseP_append, stays]
    split
    · exact List.getLast?_concat
    · exact List.getLast?_concat

theorem after (event : Occurrence) : (g.after event).Orderly := by
  cases event with
  | surfaced request => exact orderly.surface request
  | answered id approved remember => exact orderly.resolve id approved remember
  | switched => exact orderly_empty

theorem afterAll (events : List Occurrence) : (g.afterAll events).Orderly := by
  induction events generalizing g with
  | nil => exact orderly
  | cons event rest ih => exact ih (orderly.after event)

/-- A queued request is found under its id. -/
theorem toolOf?_of_mem {o : Outstanding} (waits : o ∈ g.outstanding) :
    g.toolOf? o.id = some o.tool := by
  have distinct := orderly.distinct
  unfold toolOf?
  generalize g.outstanding = queue at waits distinct
  induction queue with
  | nil => cases waits
  | cons first rest ih =>
      rw [List.map_cons, List.nodup_cons] at distinct
      obtain rfl | later := List.mem_cons.mp waits
      · simp only [List.find?_cons, beq_self_eq_true, Option.map_some]
      · have passed : (first.id == o.id) = false := by
          refine beq_eq_false_iff_ne.mpr ?_
          intro same
          rw [same] at distinct
          exact distinct.1 (List.mem_map_of_mem later)
        simp only [List.find?_cons, passed]
        exact ih later distinct.2

/-- The visible request can be approved for good. -/
theorem resolve_pending {p : Request} (visible : g.pending = some p) :
    (g.resolve p.id true true).pending = none ∧
      (g.resolve p.id true true).isRemembered p.tool = true := by
  have waits : ⟨p.id, p.tool⟩ ∈ g.outstanding := List.mem_of_getLast? (orderly.newest p visible)
  refine ⟨?_, isRemembered_resolve (orderly.toolOf?_of_mem waits)⟩
  change g.pending.filter (·.id != p.id) = none
  simp only [visible, Option.filter, bne_self_eq_false, Bool.false_eq_true, if_false]

end Orderly

/-! ## How long a request stays in the queue -/

/-- A request waits in the queue, and behind it only requests that were shown since. -/
def Waits (g : Gate) (o : Outstanding) (since : List Occurrence) : Prop :=
  ∃ front back, g.outstanding = front ++ o :: back ∧ ∀ p ∈ back, p.id ∈ shownIds since

theorem waits_surface (g : Gate) (r : Request) : (g.surface r).Waits ⟨r.id, r.tool⟩ [] := by
  obtain ⟨front, shape, -⟩ := sublist_enqueue g.outstanding ⟨r.id, r.tool⟩
  exact ⟨front, [], shape, fun p member => by cases member⟩

/-- A queue that has room behind a request keeps it when another is queued. -/
theorem enqueue_behind {o new : Outstanding} (other : o.id ≠ new.id) (front back : List Outstanding)
    (room : (back.filter (·.id != new.id)).length + 1 < capacity) :
    ∃ rest, enqueue (front ++ o :: back) new =
      rest ++ o :: (back.filter (·.id != new.id) ++ [new]) := by
  have kept : (front ++ o :: back).filter (·.id != new.id) =
      front.filter (·.id != new.id) ++ o :: back.filter (·.id != new.id) := by
    have stays : (o.id != new.id) = true := bne_iff_ne.mpr other
    simp only [List.filter_append, List.filter_cons, stays, if_true]
  rw [enqueue]
  simp only [kept]
  split
  · rename_i full
    cases ahead : front.filter (·.id != new.id) with
    | nil =>
        rw [ahead, List.nil_append, List.length_cons] at full
        omega
    | cons first rest =>
        refine ⟨rest, ?_⟩
        rw [List.cons_append, List.drop_one, List.tail_cons, List.append_assoc, List.cons_append]
  · refine ⟨front.filter (·.id != new.id), ?_⟩
    rw [List.append_assoc, List.cons_append]

namespace Waits

variable {o : Outstanding} {since : List Occurrence}

theorem mem (waits : g.Waits o since) : o ∈ g.outstanding := by
  obtain ⟨front, back, shape, -⟩ := waits
  rw [shape]
  exact List.mem_append_right _ List.mem_cons_self

/-- Another request that is shown queues behind, and drops none but an older one. -/
theorem surface (orderly : g.Orderly) (waits : g.Waits o since) (r : Request) (other : r.id ≠ o.id)
    (room : (shownIds (since ++ [.surfaced r])).dedup.length < capacity) :
    (g.surface r).Waits o (since ++ [.surfaced r]) := by
  obtain ⟨front, back, shape, shown⟩ := waits
  have ids : shownIds (since ++ [.surfaced r]) = shownIds since ++ [r.id] :=
    shownIds_append since [.surfaced r]
  have behind : (back.map (·.id)).Nodup := by
    have distinct := orderly.distinct
    rw [shape, List.map_append, List.map_cons] at distinct
    exact (List.nodup_cons.mp (List.nodup_append.mp distinct).2.1).2
  have still : ∀ p ∈ back.filter (·.id != r.id) ++ [⟨r.id, r.tool⟩],
      p.id ∈ shownIds (since ++ [.surfaced r]) := by
    intro p member
    rw [ids]
    obtain old | new := List.mem_append.mp member
    · exact List.mem_append_left _ (shown p (List.mem_filter.mp old).1)
    · rw [List.mem_singleton.mp new]
      exact List.mem_append_right _ (List.mem_singleton_self r.id)
  have few := length_le_dedup (nodup_requeue behind ⟨r.id, r.tool⟩)
    fun id member => List.forall_mem_map.mpr still id member
  rw [List.length_map, List.length_append, List.length_singleton] at few
  have different : o.id ≠ (⟨r.id, r.tool⟩ : Outstanding).id := Ne.symm other
  obtain ⟨rest, queued⟩ :=
    enqueue_behind different front back (Nat.lt_of_le_of_lt few room)
  refine ⟨rest, back.filter (·.id != r.id) ++ [⟨r.id, r.tool⟩], ?_, still⟩
  change enqueue g.outstanding ⟨r.id, r.tool⟩ = _
  rw [shape, queued]

/-- An answer to another request takes that one away at most. -/
theorem resolve (waits : g.Waits o since) {id : String} (other : id ≠ o.id)
    (approved remember : Bool) :
    (g.resolve id approved remember).Waits o (since ++ [.answered id approved remember]) := by
  obtain ⟨front, back, shape, shown⟩ := waits
  have ids : shownIds (since ++ [.answered id approved remember]) = shownIds since :=
    (shownIds_append since _).trans (List.append_nil _)
  have unanswered : (o.id == id) = false := beq_eq_false_iff_ne.mpr (Ne.symm other)
  unfold Waits
  rw [ids]
  change ∃ front back, g.outstanding.eraseP (·.id == id) = front ++ o :: back ∧ _
  rw [shape, List.eraseP_append]
  split
  · exact ⟨front.eraseP (·.id == id), back, rfl, shown⟩
  · refine ⟨front, back.eraseP (·.id == id), ?_, ?_⟩
    · rw [List.eraseP_cons, unanswered]
      rfl
    · intro p member
      exact shown p (List.mem_of_mem_eraseP member)

theorem after (orderly : g.Orderly) (waits : g.Waits o since) {event : Occurrence}
    (leaves : event.Leaves o.id)
    (room : (shownIds (since ++ [event])).dedup.length < capacity) :
    (g.after event).Waits o (since ++ [event]) := by
  cases event with
  | surfaced request => exact waits.surface orderly request leaves room
  | answered id approved remember => exact waits.resolve leaves approved remember
  | switched => cases leaves

/-- A request waits as long as the queue has room for all that were shown since. -/
theorem afterAll (orderly : g.Orderly) (waits : g.Waits o since) {events : List Occurrence}
    (leave : ∀ event ∈ events, event.Leaves o.id)
    (room : (shownIds (since ++ events)).dedup.length < capacity) :
    (g.afterAll events).Waits o (since ++ events) := by
  induction events generalizing g since with
  | nil =>
      rw [List.append_nil]
      exact waits
  | cons event rest ih =>
      rw [List.append_cons] at room ⊢
      have fewer : (shownIds (since ++ [event])).dedup.length < capacity := by
        refine Nat.lt_of_le_of_lt ?_ room
        refine length_le_dedup (List.nodup_dedup _) ?_
        intro id member
        rw [shownIds_append]
        exact List.mem_append_left _ (List.mem_dedup.mp member)
      have next := waits.after orderly (leave event List.mem_cons_self) fewer
      exact ih (orderly.after event) next
        (fun later member => leave later (List.mem_cons_of_mem _ member)) room

end Waits

/-- The visible request can always be approved for good.  Whatever was asked of a gate, its queue is
not longer than its capacity and has each id once, and the visible request is the newest in it; so
an approval for good makes it go away and its tool a remembered one.  A request that was shown
stays in the queue, for the tool it was last shown with, as long as it is not answered, the gate is
not reset, and fewer other ids were shown since than the queue has room for. -/
theorem visible_request_is_newest (calls : List Call) :
    let g := callAll {} calls
    g.outstanding.length ≤ capacity ∧
      (g.outstanding.map (·.id)).Nodup ∧
      (∀ p, g.pending = some p →
        g.outstanding.getLast? = some ⟨p.id, p.tool⟩ ∧
          (g.resolve p.id true true).pending = none ∧
          (g.resolve p.id true true).isRemembered p.tool = true) ∧
      ∀ before r since, history {} calls = before ++ .surfaced r :: since →
        r.id ∉ shownIds since →
        (∀ approved remember, .answered r.id approved remember ∉ since) →
        .switched ∉ since →
        (shownIds since).dedup.length < capacity →
        ⟨r.id, r.tool⟩ ∈ g.outstanding ∧ g.toolOf? r.id = some r.tool := by
  intro g
  have same : g = afterAll {} (history {} calls) := callAll_eq {} calls
  have orderly : g.Orderly := same ▸ orderly_empty.afterAll (history {} calls)
  refine ⟨orderly.bounded, orderly.distinct, ?_, ?_⟩
  · intro p visible
    exact ⟨orderly.newest p visible, orderly.resolve_pending visible⟩
  · intro before r since happened latest unanswered kept room
    have leave : ∀ event ∈ since, event.Leaves r.id := by
      intro event member
      cases event with
      | surfaced request =>
          intro again
          exact latest (again ▸ List.mem_filterMap.mpr ⟨_, member, rfl⟩)
      | answered id approved remember =>
          intro answer
          exact unanswered approved remember (answer ▸ member)
      | switched => exact kept member
    have shown := orderly_empty.afterAll before
    have waits := (waits_surface (afterAll {} before) r).afterAll (shown.surface r) leave room
    have reached : g = ((afterAll {} before).surface r).afterAll since := by
      rw [same, happened, afterAll, List.foldl_append]
      rfl
    rw [← reached] at waits
    exact ⟨waits.mem, orderly.toolOf?_of_mem waits.mem⟩

def asked (id tool : String) : Request where
  id := id
  tool := tool
  args := .null
  description := none

/-- The fifteen requests after one that was shown twice. -/
def crowd : List Request :=
  ["1", "2", "3", "4", "5", "6", "7", "8", "9", "10", "11", "12", "13", "14", "15"].map
    (asked · "search")

/-- The queue runs full, and its oldest request drops out. -/
def crowded : List Call :=
  .offer (asked "old" "shell") :: .offer (asked "kept" "browser") ::
    .offer (asked "kept" "editor") :: crowd.map .offer

theorem visible_request_is_newest_of_crowded :
    (callAll {} crowded).outstanding.length = capacity ∧
      (callAll {} crowded).toolOf? "old" = none ∧
      (callAll {} crowded).pending = some (asked "15" "search") ∧
      ((callAll {} crowded).resolve "15" true true).isRemembered "search" = true ∧
      (shownIds (crowd.map Occurrence.surfaced)).dedup.length < capacity ∧
      (callAll {} crowded).toolOf? "kept" = some "editor" := by
  have law := visible_request_is_newest crowded
  have happened : history {} crowded =
      [.surfaced (asked "old" "shell"), .surfaced (asked "kept" "browser")] ++
        .surfaced (asked "kept" "editor") :: crowd.map Occurrence.surfaced := rfl
  have visible : (callAll {} crowded).pending = some (asked "15" "search") := rfl
  have room : (shownIds (crowd.map Occurrence.surfaced)).dedup.length < capacity := by decide
  have unanswered (approved remember : Bool) :
      Occurrence.answered "kept" approved remember ∉ crowd.map Occurrence.surfaced := by
    intro member
    obtain ⟨r, -, impossible⟩ := List.mem_map.mp member
    cases impossible
  have kept : Occurrence.switched ∉ crowd.map Occurrence.surfaced := by
    intro member
    obtain ⟨r, -, impossible⟩ := List.mem_map.mp member
    cases impossible
  have waits := law.2.2.2 _ _ _ happened (by decide) unanswered kept room
  exact ⟨rfl, rfl, visible, (law.2.2.1 _ visible).2.2, room, waits.2⟩

/-- That the gate is not reset is needed: a reset drops a request that was not answered, though no
other was shown after it. -/
theorem shown_request_dropped_by_reset :
    ¬ ∀ calls before r since, history {} calls = before ++ .surfaced r :: since →
      r.id ∉ shownIds since →
      (∀ approved remember, .answered r.id approved remember ∉ since) →
      (shownIds since).dedup.length < capacity →
      ⟨r.id, r.tool⟩ ∈ (callAll {} calls).outstanding := by
  intro always
  have unanswered (approved remember : Bool) :
      Occurrence.answered "r1" approved remember ∉ [Occurrence.switched] := by
    intro member
    cases List.mem_singleton.mp member
  have waits := always [.offer (asked "r1" "shell"), .reset] [] (asked "r1" "shell") [.switched]
    rfl (by decide) unanswered (by decide)
  cases waits

end Gate

end StreamingChat.Chat.Approval
