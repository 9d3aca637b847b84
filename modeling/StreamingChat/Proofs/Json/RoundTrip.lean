import StreamingChat.Json.Reader
import StreamingChat.Proofs.Json.Scanning

/-!
# Reading what was written

A document without doubles is read back from its text if it does not nest too deep, and no document
that is read nests deeper than that.
-/

namespace StreamingChat.Json

namespace Reader

/-! ## The tokens of a document -/

/-- No document begins with a closing bracket, so that the first item of an array is read as any
value is. -/
theorem run_firstItem_tokens (outer : List Open) (j : Json) (ts : List Token) :
    run (.firstItem outer) (j.tokens ++ ts) =
      run (.value (.array [] :: outer)) (j.tokens ++ ts) := by
  cases j <;> rfl

theorem run_openArray {outer : List Open} (room : outer.length < maxDepth) (ts : List Token) :
    run (.value outer) (.openArray :: ts) = run (.firstItem outer) ts := by
  have opened : step (.value outer) .openArray = some (.firstItem outer) := if_pos room
  rw [run_cons, opened]
  rfl

theorem run_openObject {outer : List Open} (room : outer.length < maxDepth) (ts : List Token) :
    run (.value outer) (.openObject :: ts) = run (.firstName outer) ts := by
  have opened : step (.value outer) .openObject = some (.firstName outer) := if_pos room
  rw [run_cons, opened]
  rfl

mutual

/-- The tokens of a document deliver it to the container that waits for it. -/
theorem run_tokens : (j : Json) → (outer : List Open) → outer.length + j.depth ≤ maxDepth →
    (ts : List Token) → run (.value outer) (j.tokens ++ ts) = run (deliver j outer) ts
  | .null, _, _, _ => rfl
  | .bool _, _, _, _ => rfl
  | .number _, _, _, _ => rfl
  | .string _, _, _, _ => rfl
  | .array items, outer, fits, ts => by
    rw [depth] at fits
    rw [tokens, List.cons_append, run_openArray (by omega)]
    cases items with
    | nil => rfl
    | cons j rest =>
        rw [depthItems] at fits
        rw [itemTokens, List.append_assoc, run_firstItem_tokens,
          run_tokens j (.array [] :: outer) (by rw [List.length_cons]; omega)]
        exact run_laterItemTokens rest [j] outer (by omega) ts
  | .object members, outer, fits, ts => by
    rw [depth] at fits
    rw [tokens, List.cons_append, run_openObject (by omega)]
    cases members with
    | nil => rfl
    | cons m rest =>
        obtain ⟨name, j⟩ := m
        rw [depthMembers] at fits
        change run (.value (.object [] name :: outer))
          ((j.tokens ++ laterMemberTokens rest) ++ ts) = _
        rw [List.append_assoc,
          run_tokens j (.object [] name :: outer) (by rw [List.length_cons]; omega)]
        exact run_laterMemberTokens rest [(name, j)] outer (by omega) ts

theorem run_laterItemTokens : (rest : List Json) → (items : List Json) → (outer : List Open) →
    outer.length + 1 + depthItems rest ≤ maxDepth → (ts : List Token) →
    run (.afterItem items outer) (laterItemTokens rest ++ ts) =
      run (deliver (.array (items.reverse ++ rest)) outer) ts
  | [], items, outer, _, ts => by
    rw [List.append_nil]
    rfl
  | j :: later, items, outer, fits, ts => by
    rw [depthItems] at fits
    change run (.value (.array items :: outer)) ((j.tokens ++ laterItemTokens later) ++ ts) = _
    rw [List.append_assoc,
      run_tokens j (.array items :: outer) (by rw [List.length_cons]; omega)]
    change run (.afterItem (j :: items) outer) (laterItemTokens later ++ ts) = _
    rw [run_laterItemTokens later (j :: items) outer (by omega), List.reverse_cons,
      List.append_assoc]
    rfl

theorem run_laterMemberTokens : (rest : List (String × Json)) → (members : List (String × Json)) →
    (outer : List Open) → outer.length + 1 + depthMembers rest ≤ maxDepth → (ts : List Token) →
    run (.afterMember members outer) (laterMemberTokens rest ++ ts) =
      run (deliver (.object (members.reverse ++ rest)) outer) ts
  | [], members, outer, _, ts => by
    rw [List.append_nil]
    rfl
  | (name, j) :: later, members, outer, fits, ts => by
    rw [depthMembers] at fits
    change run (.value (.object members name :: outer))
      ((j.tokens ++ laterMemberTokens later) ++ ts) = _
    rw [List.append_assoc,
      run_tokens j (.object members name :: outer) (by rw [List.length_cons]; omega)]
    change run (.afterMember ((name, j) :: members) outer) (laterMemberTokens later ++ ts) = _
    rw [run_laterMemberTokens later ((name, j) :: members) outer (by omega), List.reverse_cons,
      List.append_assoc]
    rfl

end

end Reader

/-- A document without doubles is read back from its text if it does not nest too deep. -/
theorem read?_render {j : Json} (integral : j.Integral) (nested : j.depth ≤ maxDepth) :
    read? j.render = some j := by
  have delivered := Reader.run_tokens j [] (by rw [List.length_nil, Nat.zero_add]; exact nested) []
  rw [List.append_nil] at delivered
  rw [read?, render, String.toList_ofList, ofChars?, scan_chars integral, Option.bind_some,
    delivered]
  rfl

/-! ## The depth of what is read -/

/-- The documents that an open container already holds. -/
def Open.held : Open → List Json
  | .array items => items
  | .object members _ => members.map Prod.snd

namespace Reader

/-- Containers are open, and hold documents, no deeper than they may. -/
def Bounded : List Open → Prop
  | [] => True
  | o :: outer =>
    outer.length < maxDepth ∧ (∀ j ∈ o.held, outer.length + 1 + j.depth ≤ maxDepth) ∧
      Bounded outer

/-- All that has been read nests no deeper than it may. -/
def Within : State → Prop
  | .value outer => Bounded outer
  | .firstItem outer => Bounded (.array [] :: outer)
  | .afterItem items outer => Bounded (.array items :: outer)
  | .firstName outer => Bounded (.object [] "" :: outer)
  | .name members outer => Bounded (.object members "" :: outer)
  | .afterName members name outer => Bounded (.object members name :: outer)
  | .afterMember members outer => Bounded (.object members "" :: outer)
  | .complete j => j.depth ≤ maxDepth

variable {s s' : State} {outer : List Open} {j : Json} {t : Token}

theorem Bounded.length_le (bounded : Bounded outer) : outer.length ≤ maxDepth := by
  cases outer with
  | nil => exact Nat.zero_le _
  | cons o outer => exact bounded.1

theorem within_deliver (bounded : Bounded outer) (fits : outer.length + j.depth ≤ maxDepth) :
    Within (deliver j outer) := by
  cases outer with
  | nil => simpa only [deliver, Within, List.length_nil, Nat.zero_add] using fits
  | cons o outer =>
      obtain ⟨room, held, rest⟩ := bounded
      rw [List.length_cons] at fits
      cases o with
      | array items => exact ⟨room, List.forall_mem_cons.mpr ⟨fits, held⟩, rest⟩
      | object members name => exact ⟨room, List.forall_mem_cons.mpr ⟨fits, held⟩, rest⟩

theorem within_begin (bounded : Bounded outer) (begun : begin outer t = some s) : Within s := by
  have scalar {j : Json} (flat : j.depth = 0) : Within (deliver j outer) :=
    within_deliver bounded (by rw [flat]; exact bounded.length_le)
  cases t with
  | null => cases begun; exact scalar rfl
  | bool b => cases begun; exact scalar rfl
  | number n => cases begun; exact scalar rfl
  | text s => cases begun; exact scalar rfl
  | openArray =>
      rw [begin] at begun
      split at begun
      · next room => cases begun; exact ⟨room, List.forall_mem_nil _, bounded⟩
      · cases begun
  | openObject =>
      rw [begin] at begun
      split at begun
      · next room => cases begun; exact ⟨room, List.forall_mem_nil _, bounded⟩
      · cases begun
  | closeArray => cases begun
  | closeObject => cases begun
  | comma => cases begun
  | colon => cases begun

theorem within_closeArray {items : List Json} (within : Bounded (.array items :: outer)) :
    Within (deliver (.array items.reverse) outer) := by
  obtain ⟨room, held, rest⟩ := within
  have shallow : (Json.array items.reverse).depth ≤ (maxDepth - outer.length - 1) + 1 := by
    refine depth_array_le.mpr fun j member => ?_
    have := held j (List.mem_reverse.mp member)
    omega
  exact within_deliver rest (by omega)

theorem within_closeObject {members : List (String × Json)} {name : String}
    (within : Bounded (.object members name :: outer)) :
    Within (deliver (.object members.reverse) outer) := by
  obtain ⟨room, held, rest⟩ := within
  have shallow : (Json.object members.reverse).depth ≤ (maxDepth - outer.length - 1) + 1 := by
    refine depth_object_le.mpr fun m member => ?_
    have := held m.2 (List.mem_map_of_mem (List.mem_reverse.mp member))
    omega
  exact within_deliver rest (by omega)

theorem step_firstItem (other : t ≠ .closeArray) :
    step (.firstItem outer) t = begin (.array [] :: outer) t := by
  cases t with
  | closeArray => exact absurd rfl other
  | _ => rfl

/-- No token takes the reader deeper than it may go. -/
theorem within_step (within : Within s) (stepped : step s t = some s') : Within s' := by
  cases s with
  | value outer => exact within_begin within stepped
  | firstItem outer =>
      by_cases closing : t = .closeArray
      · subst closing
        cases stepped
        exact within_closeArray within
      · rw [step_firstItem closing] at stepped
        exact within_begin within stepped
  | afterItem items outer =>
      cases t with
      | comma => cases stepped; exact within
      | closeArray => cases stepped; exact within_closeArray within
      | _ => cases stepped
  | firstName outer =>
      cases t with
      | closeObject => cases stepped; exact within_closeObject within
      | text name => cases stepped; exact within
      | _ => cases stepped
  | name members outer =>
      cases t with
      | text name => cases stepped; exact within
      | _ => cases stepped
  | afterName members name outer =>
      cases t with
      | colon => cases stepped; exact within
      | _ => cases stepped
  | afterMember members outer =>
      cases t with
      | comma => cases stepped; exact within
      | closeObject => cases stepped; exact within_closeObject within
      | _ => cases stepped
  | complete j => cases t <;> cases stepped

theorem within_run {ts : List Token} (within : Within s) (ran : run s ts = some s') :
    Within s' := by
  induction ts generalizing s with
  | nil => cases ran; exact within
  | cons t rest ih =>
      rw [run_cons] at ran
      obtain ⟨next, stepped, ran⟩ := Option.bind_eq_some_iff.mp ran
      exact ih (within_step within stepped) ran

end Reader

/-- No document that is read nests too deep. -/
theorem depth_le_of_read? {text : String} {j : Json} (document : read? text = some j) :
    j.depth ≤ maxDepth := by
  unfold read? ofChars? at document
  split at document
  · next k scanned =>
    cases document
    obtain ⟨ts, -, ran⟩ := Option.bind_eq_some_iff.mp scanned
    exact Reader.within_run (s := .value []) trivial ran
  · cases document

end StreamingChat.Json
