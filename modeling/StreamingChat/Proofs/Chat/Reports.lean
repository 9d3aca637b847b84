import Mathlib.Data.List.Induction
import Mathlib.Data.List.Nodup
import StreamingChat.Proofs.Chat.Separation

/-!
# One row for each agent, the last report in it

The table of reports is determined by the reports since it was last cleared, by a turn of the user
or a switch of the session.  Its rows are the agents in the order of their first reports, numbered
from one on, and each row shows the last report of its agent.  Reports are told apart by the agent
and not by the step that they name, so that the steps of one agent share a row.
-/

namespace StreamingChat.Chat

open StreamingChat.Calendar (Moment)
open StreamingChat.Wire

namespace Activity

/-- The agent that a report is shown under. -/
def Update.agent (u : Update) : String :=
  agentOf u.id

/-- The last report of an agent. -/
def lastOf? (agent : String) (updates : List Update) : Option Update :=
  (updates.filter (·.agent = agent)).getLast?

/-- The row after a report, which is about another agent or else is shown in it. -/
def Row.after (u : Update) (row : Row) : Row :=
  if row.agent = u.agent then { row with status := u.status, details := u.message } else row

variable {u : Update} {updates : List Update} {row : Row} {rows : List Row} {agent : String}

/-! ## First appearances -/

theorem eraseDups_concat_of_mem {names : List String} {name : String} (known : name ∈ names) :
    (names ++ [name]).eraseDups = names.eraseDups := by
  have none_new : [name].removeAll names = [] := by simp [List.removeAll, known]
  rw [List.eraseDups_append, none_new]
  exact List.append_nil _

theorem eraseDups_concat_of_not_mem {names : List String} {name : String} (new : name ∉ names) :
    (names ++ [name]).eraseDups = names.eraseDups ++ [name] := by
  have one_new : [name].removeAll names = [name] := by simp [List.removeAll, new]
  rw [List.eraseDups_append, one_new]
  rfl

/-! ## Last reports -/

theorem lastOf?_concat_of_eq (same : u.agent = agent) (updates : List Update) :
    lastOf? agent (updates ++ [u]) = some u := by
  rw [lastOf?, List.filter_append, List.filter_singleton, decide_eq_true same]
  exact List.getLast?_concat

theorem lastOf?_concat_of_ne (other : u.agent ≠ agent) (updates : List Update) :
    lastOf? agent (updates ++ [u]) = lastOf? agent updates := by
  rw [lastOf?, List.filter_append, List.filter_singleton, decide_eq_false other]
  exact congrArg List.getLast? (List.append_nil _)

theorem Row.after_of_ne (other : row.agent ≠ u.agent) : row.after u = row :=
  if_neg other

theorem Row.agent_after (u : Update) (row : Row) : (row.after u).agent = row.agent := by
  unfold Row.after
  split
  · rfl
  · rfl

theorem Row.step_after (u : Update) (row : Row) : (row.after u).step = row.step := by
  unfold Row.after
  split
  · rfl
  · rfl

/-! ## One report -/

namespace Log

/-- An agent that has not reported before gets a row at the end. -/
theorem put_of_not_mem (new : u.agent ∉ rows.map (·.agent)) (taken : Nat) :
    put u.agent u.status u.message taken rows =
      rows ++ [{
        agent := u.agent
        status := u.status
        details := u.message
        step := min (taken + rows.length + 1) maxStep }] := by
  induction rows generalizing taken with
  | nil => rfl
  | cons first rest ih =>
      obtain ⟨other, new⟩ := not_or.mp (mt List.mem_cons.mpr new)
      rw [put, if_neg (Ne.symm other), ih new, List.length_cons, Nat.add_assoc taken 1,
        Nat.add_comm 1]
      rfl

/-- With one row for each agent, no row but that of the agent is written to. -/
theorem put_of_mem (known : u.agent ∈ rows.map (·.agent))
    (distinct : (rows.map (·.agent)).Nodup) (taken : Nat) :
    put u.agent u.status u.message taken rows = rows.map (Row.after u) := by
  induction rows generalizing taken with
  | nil => cases known
  | cons first rest ih =>
      rw [List.map_cons, List.nodup_cons] at distinct
      obtain ⟨fresh, distinct⟩ := distinct
      by_cases same : first.agent = u.agent
      · rw [put, if_pos same, List.map_cons, Row.after, if_pos same]
        rw [same] at fresh
        have untouched : rest.map (Row.after u) = rest := by
          apply (List.map_congr_left ?_).trans (List.map_id rest)
          intro row member
          apply Row.after_of_ne
          intro again
          exact fresh (again ▸ List.mem_map_of_mem member)
        rw [untouched]
      · have known := (List.mem_cons.mp known).resolve_left (Ne.symm same)
        rw [put, if_neg same, ih known distinct, List.map_cons, Row.after_of_ne same]

end Log

/-! ## All reports -/

/-- The rows are the agents of the reports in the order of their first ones, numbered in this order,
and each shows the last report of its agent. -/
structure Tabulates (updates : List Update) (rows : List Row) : Prop where
  agents : rows.map (·.agent) = (updates.map (·.agent)).eraseDups
  distinct : (rows.map (·.agent)).Nodup
  steps : rows.map (·.step) = (List.range rows.length).map fun i => min (i + 1) maxStep
  last : ∀ row ∈ rows, ∃ u, lastOf? row.agent updates = some u ∧
    row.status = u.status ∧ row.details = u.message

namespace Tabulates

theorem nil : Tabulates [] [] where
  agents := rfl
  distinct := .nil
  steps := rfl
  last := nofun

/-- The numbers run on until they are used up. -/
theorem step_eq (table : Tabulates updates rows) {i : Nat} (found : rows[i]? = some row) :
    row.step = min (i + 1) maxStep := by
  have inside : i < rows.length := (List.getElem?_eq_some_iff.mp found).1
  have steps := congrArg (·[i]?) table.steps
  rw [List.getElem?_map, found, List.getElem?_map, List.getElem?_range inside] at steps
  exact Option.some.inj steps

theorem mem_agents (table : Tabulates updates rows) :
    agent ∈ rows.map (·.agent) ↔ agent ∈ updates.map (·.agent) := by
  rw [table.agents]
  exact List.mem_eraseDups

/-- An agent that has reported before keeps its place. -/
theorem concat_of_mem (table : Tabulates updates rows) (known : u.agent ∈ rows.map (·.agent)) :
    Tabulates (updates ++ [u]) (rows.map (Row.after u)) := by
  have agents : (rows.map (Row.after u)).map (·.agent) = rows.map (·.agent) := by
    rw [List.map_map]
    exact List.map_congr_left fun row _ => row.agent_after u
  refine ⟨?_, ?_, ?_, ?_⟩
  · rw [agents, table.agents, List.map_append]
    exact (eraseDups_concat_of_mem (table.mem_agents.mp known)).symm
  · rw [agents]
    exact table.distinct
  · rw [List.length_map, ← table.steps, List.map_map]
    exact List.map_congr_left fun row _ => row.step_after u
  · intro next member
    obtain ⟨row, old, rfl⟩ := List.mem_map.mp member
    rw [row.agent_after]
    by_cases same : row.agent = u.agent
    · refine ⟨u, lastOf?_concat_of_eq same.symm updates, ?_⟩
      rw [Row.after, if_pos same]
      exact ⟨rfl, rfl⟩
    · rw [Row.after_of_ne same, lastOf?_concat_of_ne (Ne.symm same)]
      exact table.last row old

/-- An agent that reports for the first time takes the next place. -/
theorem concat_of_not_mem (table : Tabulates updates rows)
    (new : u.agent ∉ rows.map (·.agent)) :
    Tabulates (updates ++ [u]) (rows ++ [{
      agent := u.agent
      status := u.status
      details := u.message
      step := min (rows.length + 1) maxStep }]) := by
  refine ⟨?_, ?_, ?_, ?_⟩
  · rw [List.map_append, table.agents, List.map_append]
    exact (eraseDups_concat_of_not_mem (mt table.mem_agents.mpr new)).symm
  · rw [List.map_append, List.map_singleton, List.nodup_append]
    refine ⟨table.distinct, List.nodup_singleton _, ?_⟩
    rintro agent old _ added rfl
    obtain rfl := List.mem_singleton.mp added
    exact new old
  · rw [List.map_append, table.steps, List.length_append, List.length_singleton, List.range_succ,
      List.map_append]
    rfl
  · intro row member
    rcases List.mem_append.mp member with old | added
    · have other : u.agent ≠ row.agent := by
        intro same
        exact new (same ▸ List.mem_map_of_mem old)
      rw [lastOf?_concat_of_ne other]
      exact table.last row old
    · obtain rfl := List.mem_singleton.mp added
      exact ⟨u, lastOf?_concat_of_eq rfl updates, rfl, rfl⟩

/-- One more report. -/
theorem concat (table : Tabulates updates rows) (u : Update) :
    Tabulates (updates ++ [u]) (Log.upsert ⟨rows⟩ u).rows := by
  change Tabulates (updates ++ [u]) (Log.put u.agent u.status u.message 0 rows)
  by_cases known : u.agent ∈ rows.map (·.agent)
  · rw [Log.put_of_mem known table.distinct]
    exact table.concat_of_mem known
  · rw [Log.put_of_not_mem known, Nat.zero_add]
    exact table.concat_of_not_mem known

end Tabulates

/-- The table holds the reports since it was cleared. -/
theorem tabulates_foldl (log : Log) (updates : List Update) :
    Tabulates updates (updates.foldl Log.upsert log.clear).rows := by
  induction updates using List.reverseRecOn with
  | nil => exact .nil
  | append_singleton updates u ih =>
      rw [List.foldl_concat]
      exact ih.concat u

/-- A step and its agent are shown under one name, as if the agent were a step itself. -/
theorem agentOf_agent :
    ∀ known ∈ agents, agentOf known.1 = known.2 ∧ agentOf known.2 = known.2 := by
  decide

/-- What a table shows after the reports since it was last cleared.  The agents are those of the
reports, each once and in the order of their first reports; the rows are numbered from one on as
long as numbers last; and a row shows the status and the details of the last report of its agent.
All steps of an agent that reported share its one row, and so does a step that is not known and has
the name of the agent. -/
theorem rows_show_last_reports (log : Log) (updates : List Update) :
    let rows := (updates.foldl Log.upsert log.clear).rows
    rows.map (·.agent) = (updates.map (·.agent)).eraseDups ∧
      (rows.map (·.agent)).Nodup ∧
      (∀ i row, rows[i]? = some row →
        row.step = min (i + 1) maxStep ∧ (rows.length ≤ maxStep → row.step = i + 1)) ∧
      (∀ row ∈ rows, ∃ u, lastOf? row.agent updates = some u ∧
        row.status = u.status ∧ row.details = u.message) ∧
      (∀ u ∈ updates, (rows.map (·.agent)).count u.agent = 1) ∧
      ∀ known ∈ agents, agentOf known.1 = known.2 ∧ agentOf known.2 = known.2 := by
  intro rows
  have table : Tabulates updates rows := tabulates_foldl log updates
  refine ⟨table.agents, table.distinct, ?_, table.last, ?_, agentOf_agent⟩
  · intro i row found
    have inside : i < rows.length := (List.getElem?_eq_some_iff.mp found).1
    have step := table.step_eq found
    refine ⟨step, fun few => ?_⟩
    omega
  · intro u told
    apply List.count_eq_one_of_mem table.distinct
    exact table.mem_agents.mpr (List.mem_map_of_mem told)

/-- Two steps of one agent, another agent, and a step that is not known. -/
def reportsOfMemory : List Update :=
  [⟨"memory_retrieval", .processing, ""⟩, ⟨"planner", .pending, "queued"⟩,
    ⟨"memory_update", .processing, "writing"⟩, ⟨"Memory", .completed, "saved"⟩]

theorem rows_show_last_reports_of_memory :
    let rows := (reportsOfMemory.foldl Log.upsert {}).rows
    rows = [⟨"Memory", .completed, "saved", 1⟩, ⟨"Planner", .pending, "queued", 2⟩] ∧
      rows.length ≤ maxStep ∧ (∀ i row, rows[i]? = some row → row.step = i + 1) ∧
      (rows.map (·.agent)).count (agentOf "memory_update") = 1 := by
  intro rows
  have shown : rows =
      [⟨"Memory", .completed, "saved", 1⟩, ⟨"Planner", .pending, "queued", 2⟩] := rfl
  have few : rows.length ≤ maxStep := by
    rw [shown]
    decide
  obtain ⟨-, -, steps, -, once, -⟩ := rows_show_last_reports {} reportsOfMemory
  refine ⟨shown, few, fun i row found => (steps i row found).2 few, ?_⟩
  exact once ⟨"memory_update", .processing, "writing"⟩ (by decide)

end Activity

/-! ## The table of a conversation -/

namespace State

/-- The report that a text brings, if it is one. -/
def report? (text : String) : Option Activity.Update :=
  (Inbound.read? text).bind fun
    | .activity update => some update
    | _ => none

/-- The reports since the table was last cleared, once an input was given. -/
def Input.reported (told : List Activity.Update) : Input → List Activity.Update
  | .received text => told ++ (report? text).toList
  | .turn _ | .switched _ _ => []
  | _ => told

/-- The reports that a conversation has received since the last turn and the last switch. -/
def reports (inputs : List (Input × Moment)) : List Activity.Update :=
  inputs.foldl (fun told i => i.1.reported told) []

variable {s : State} {told : List Activity.Update}

theorem activity_offer (s : State) (request : Approval.Request) :
    (s.offer request).1.activity = s.activity := by
  unfold offer
  split
  · rfl
  · rfl

theorem tabulates_receive (table : Activity.Tabulates told s.activity.rows) (text : String)
    (now : Moment) :
    Activity.Tabulates (told ++ (report? text).toList) (s.receive text now).1.activity.rows := by
  unfold receive report?
  cases Inbound.read? text with
  | none => exact (List.append_nil told).symm ▸ table
  | some frame =>
      have kept : Activity.Tabulates (told ++ []) s.activity.rows :=
        (List.append_nil told).symm ▸ table
      cases frame with
      | activity update => exact table.concat update
      | chunk text origin =>
          cases text with
          | none => exact kept
          | some text => exact kept
      | confirmation request => exact (s.activity_offer request).symm ▸ kept
      | history entries session =>
          simp only [dispatch]
          split
          · exact kept
          · exact kept
      | done => exact kept
      | stopped => exact kept
      | error message => exact kept
      | stats data => exact kept
      | searchResults data => exact kept
      | status => exact kept
      | sessionChanged session => exact kept
      | downloadProgress data => exact kept
      | unknown => exact kept

theorem tabulates_step (table : Activity.Tabulates told s.activity.rows) (input : Input)
    (now : Moment) :
    Activity.Tabulates (input.reported told) (s.step input now).1.activity.rows := by
  cases input with
  | received text => exact tabulates_receive table text now
  | flushDue =>
      have same : (s.flushDue now).activity = s.activity :=
        ((aside_eq_iff _ s).mp (s.aside_flushDue now)).2.2.1
      exact same.symm ▸ table
  | takeChanges =>
      have same : s.takeChanges.1.activity = s.activity :=
        ((aside_eq_iff _ s).mp s.aside_takeChanges).2.2.1
      exact same.symm ▸ table
  | turn content => exact .nil
  | switched session connected => exact .nil
  | opened => exact table
  | disconnected => exact table
  | ended => exact table
  | answered request approved remember => exact table

/-- In every reachable state the table holds the reports since the last turn and the last switch. -/
theorem tabulates_run (session : String) (interval : Nat) (inputs : List (Input × Moment)) :
    Activity.Tabulates (reports inputs)
      ((initial session interval).run inputs).snapshot.activity := by
  induction inputs using List.reverseRecOn with
  | nil => exact .nil
  | append_singleton inputs input ih =>
      rw [run_concat, reports, List.foldl_concat]
      exact tabulates_step ih input.1 input.2

end State

end StreamingChat.Chat
