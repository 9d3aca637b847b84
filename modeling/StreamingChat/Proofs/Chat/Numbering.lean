import Mathlib.Data.List.Nodup
import StreamingChat.Proofs.Chat.OpenMessage

/-!
# Ids of messages

Ids are counted, and each new message takes the next one.  So what is written at the end of a
transcript never bears an id that was seen before, and messages that are told apart by their ids
stay so until other messages are put in their place.
-/

namespace StreamingChat.Chat

open StreamingChat.Calendar (Instant Moment)

namespace Transcript

/-- The ids of the messages that are seen. -/
def ids (t : Transcript) : List MessageId :=
  t.visible.map (·.id)

/-- Every generated id that is seen was counted. -/
def IsCounted (t : Transcript) : Prop :=
  ∀ serial, .generated serial ∈ t.ids → serial < t.issued

/-- The second transcript shows what the first one does and then messages with the next ids. -/
def CountsOn (t u : Transcript) : Prop :=
  ∃ count, u.ids = t.ids ++ (List.range' t.issued count).map .generated ∧
    u.issued = t.issued + count

variable {t u v : Transcript}

theorem ids_complete (t : Transcript) : t.complete.ids = t.ids := by
  rw [ids, ids, visible_complete, visible]
  cases t.inProgress with
  | none => rfl
  | some m => simp [completed]

theorem ids_append (t : Transcript) (text : String) (origin : Origin) :
    (t.append text origin).ids = t.ids := by
  rw [ids, ids, visible, visible, append]
  cases t.inProgress with
  | none => rfl
  | some m => simp

theorem ids_startAnswer (t : Transcript) (text : String) (origin : Origin) (clock : Instant) :
    (t.startAnswer text origin clock).ids = t.ids ++ [t.freshId] := by
  rw [← ids_complete t, ids, ids, startAnswer, visible_issue, visible_start, List.map_append]
  rfl

theorem ids_say (idle : t.inProgress = none) (role : Role) (line : String) (clock : Instant) :
    (t.say role line clock).ids = t.ids ++ [t.freshId] := by
  rw [ids, ids, say, visible_issue, visible_push t _ idle, List.map_append]
  rfl

namespace CountsOn

theorem refl (t : Transcript) : t.CountsOn t :=
  ⟨0, (List.append_nil _).symm, rfl⟩

theorem trans (first : t.CountsOn u) (second : u.CountsOn v) : t.CountsOn v := by
  obtain ⟨count, ids, issued⟩ := first
  obtain ⟨more, idsMore, issuedMore⟩ := second
  refine ⟨count + more, ?_, ?_⟩
  · rw [idsMore, ids, issued, List.append_assoc, ← List.map_append, List.range'_append_1]
  · rw [issuedMore, issued, Nat.add_assoc]

/-- The same ids are seen, and none was generated. -/
theorem of_same (ids : u.ids = t.ids) (issued : u.issued = t.issued) : t.CountsOn u :=
  ⟨0, ids.trans (List.append_nil _).symm, issued⟩

/-- One more message is seen, under the next id. -/
theorem of_next (ids : u.ids = t.ids ++ [t.freshId]) (issued : u.issued = t.issued + 1) :
    t.CountsOn u :=
  ⟨1, ids, issued⟩

end CountsOn

/-- What is written at the end bears the next ids. -/
theorem Written.countsOn (written : t.Written u) : t.CountsOn u := by
  induction written with
  | unchanged => exact .refl t
  | appended before text origin counted =>
      exact counted.trans (.of_same (ids_append _ text origin) rfl)
  | completed before counted => exact counted.trans (.of_same (ids_complete _) rfl)
  | started before text origin clock counted =>
      exact counted.trans (.of_next (ids_startAnswer _ text origin clock) rfl)
  | said before idle role line clock counted =>
      exact counted.trans (.of_next (ids_say idle role line clock) rfl)

theorem CountsOn.isCounted (on : t.CountsOn u) (counted : t.IsCounted) : u.IsCounted := by
  obtain ⟨count, ids, issued⟩ := on
  intro serial seen
  rw [ids] at seen
  rcases List.mem_append.mp seen with old | new
  · have := counted serial old
    omega
  · obtain ⟨_, drawn, same⟩ := List.mem_map.mp new
    obtain rfl := MessageId.generated.inj same
    obtain ⟨-, bound⟩ := List.mem_range'_1.mp drawn
    omega

/-- Ids that differ go on to differ. -/
theorem CountsOn.nodup (on : t.CountsOn u) (counted : t.IsCounted) (distinct : t.ids.Nodup) :
    u.ids.Nodup := by
  obtain ⟨count, ids, -⟩ := on
  rw [ids, List.nodup_append]
  refine ⟨distinct, ?_, ?_⟩
  · refine List.Nodup.map ?_ List.nodup_range'
    intro one other same
    exact MessageId.generated.inj same
  · rintro id old _ new rfl
    obtain ⟨serial, drawn, rfl⟩ := List.mem_map.mp new
    have before := counted serial old
    have after := (List.mem_range'_1.mp drawn).1
    omega

/-- An entry without an id of its own takes the next one. -/
theorem isCounted_replay (t : Transcript) (entries : List Entry) (clock : Instant) :
    (t.replay entries clock).IsCounted := by
  intro serial seen
  rw [ids, visible_replay] at seen
  obtain ⟨m, replayed, named⟩ := List.mem_map.mp seen
  obtain ⟨i, inside, rfl⟩ := List.mem_mapIdx.mp replayed
  change (entries[i].id.map MessageId.given).getD (.generated (t.issued + i)) =
    .generated serial at named
  change serial < t.issued + entries.length
  cases given : entries[i].id with
  | none =>
      rw [given] at named
      obtain rfl := MessageId.generated.inj named
      omega
  | some id =>
      rw [given] at named
      cases named

theorem isCounted_clear (t : Transcript) : t.clear.IsCounted := by
  intro serial seen
  rw [ids, visible_clear] at seen
  cases seen

end Transcript

/-- In every reachable state the generated ids that are seen were counted. -/
theorem State.isCounted_run (session : String) (interval : Nat)
    (inputs : List (State.Input × Moment)) :
    ((State.initial session interval).run inputs).feed.transcript.IsCounted := by
  refine run_induction (motive := fun feed => feed.transcript.IsCounted) ?_ ?_ inputs
  · exact Transcript.isCounted_clear {}
  · intro f g now reset counted change
    cases reset with
    | false => exact (Feed.written_of_change change).countsOn.isCounted counted
    | true =>
        cases change with
        | replayed entries => exact Transcript.isCounted_replay _ entries now.clock
        | cleared => exact Transcript.isCounted_clear _

end StreamingChat.Chat
