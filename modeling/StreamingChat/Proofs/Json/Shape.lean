import StreamingChat.Json.Record

/-!
# The shape of a document

How deep a document nests, and whether all its numbers are integers.  A document that is already in
canonical form is its own normal form, and no normal form nests deeper than what it comes from.
-/

namespace StreamingChat.Json

mutual

/-- How many containers are open at the innermost place of a document. -/
def depth : Json → Nat
  | .array items => depthItems items + 1
  | .object members => depthMembers members + 1
  | .null | .bool _ | .number _ | .string _ => 0

def depthItems : List Json → Nat
  | [] => 0
  | j :: rest => max j.depth (depthItems rest)

def depthMembers : List (String × Json) → Nat
  | [] => 0
  | (_, j) :: rest => max j.depth (depthMembers rest)

end

mutual

/-- Every number in a document is an integer. -/
def Integral : Json → Prop
  | .array items => IntegralItems items
  | .object members => IntegralMembers members
  | .number (.decimal ..) => False
  | .null | .bool _ | .number (.integer ..) | .string _ => True

def IntegralItems : List Json → Prop
  | [] => True
  | j :: rest => j.Integral ∧ IntegralItems rest

def IntegralMembers : List (String × Json) → Prop
  | [] => True
  | (_, j) :: rest => j.Integral ∧ IntegralMembers rest

end

variable {items : List Json} {members : List (String × Json)} {n : Nat}

theorem depthItems_le : depthItems items ≤ n ↔ ∀ j ∈ items, j.depth ≤ n := by
  induction items with
  | nil => simp [depthItems]
  | cons j rest ih => rw [depthItems, Nat.max_le, ih, List.forall_mem_cons]

theorem depthMembers_le : depthMembers members ≤ n ↔ ∀ m ∈ members, m.2.depth ≤ n := by
  induction members with
  | nil => simp [depthMembers]
  | cons m rest ih => rw [depthMembers, Nat.max_le, ih, List.forall_mem_cons]

theorem depth_array_le : (array items).depth ≤ n + 1 ↔ ∀ j ∈ items, j.depth ≤ n := by
  rw [depth, Nat.succ_le_succ_iff, depthItems_le]

theorem depth_object_le : (object members).depth ≤ n + 1 ↔ ∀ m ∈ members, m.2.depth ≤ n := by
  rw [depth, Nat.succ_le_succ_iff, depthMembers_le]

theorem depth_item_lt {j : Json} (member : j ∈ items) : j.depth < (array items).depth :=
  Nat.lt_succ_of_le (depthItems_le.mp (Nat.le_refl _) j member)

theorem depth_member_lt {m : String × Json} (member : m ∈ members) :
    m.2.depth < (object members).depth :=
  Nat.lt_succ_of_le (depthMembers_le.mp (Nat.le_refl _) m member)

theorem integral_array : (array items).Integral ↔ ∀ j ∈ items, j.Integral := by
  rw [Integral]
  induction items with
  | nil => simp [IntegralItems]
  | cons j rest ih => simp [IntegralItems, ih]

theorem integral_object : (object members).Integral ↔ ∀ m ∈ members, m.2.Integral := by
  rw [Integral]
  induction members with
  | nil => simp [IntegralMembers]
  | cons m rest ih => simp [IntegralMembers, ih]

/-! ## Normal forms -/

theorem depthMembers_place_le {name : String} {j : Json} :
    depthMembers (place name j members) ≤ max j.depth (depthMembers members) := by
  rw [depthMembers_le]
  intro m member
  rcases mem_place.mp member with rfl | old
  · exact Nat.le_max_left _ _
  · exact Nat.le_trans (depthMembers_le.mp (Nat.le_refl _) m old) (Nat.le_max_right _ _)

mutual

/-- A normal form nests no deeper than the document it comes from. -/
theorem depth_normal_le : (j : Json) → j.normal.depth ≤ j.depth
  | .array items => by
    simpa only [normal, depth] using Nat.succ_le_succ (depthItems_normalItems_le items)
  | .object members => by
    simpa only [normal, depth] using Nat.succ_le_succ (depthMembers_normalMembers_le members)
  | .null => Nat.le_refl _
  | .bool _ => Nat.le_refl _
  | .number _ => Nat.le_refl _
  | .string _ => Nat.le_refl _

theorem depthItems_normalItems_le :
    (items : List Json) → depthItems (normalItems items) ≤ depthItems items
  | [] => Nat.le_refl _
  | j :: rest => by
    have first := depth_normal_le j
    have later := depthItems_normalItems_le rest
    simp only [normalItems, depthItems]
    omega

theorem depthMembers_normalMembers_le :
    (members : List (String × Json)) → depthMembers (normalMembers members) ≤ depthMembers members
  | [] => Nat.le_refl _
  | (name, j) :: rest => by
    have first := depth_normal_le j
    have later := depthMembers_normalMembers_le rest
    have placed : depthMembers (place name j.normal (normalMembers rest)) ≤
        max j.normal.depth (depthMembers (normalMembers rest)) := depthMembers_place_le
    simp only [normalMembers, depthMembers]
    split <;> omega

end

/-- A member whose name is before all others is put first. -/
theorem place_of_sorted {name : String} {j : Json} (sorted : Sorted ((name, j) :: members)) :
    place name j members = (name, j) :: members := by
  cases members with
  | nil => rfl
  | cons m rest =>
      have before : name < m.1 := (List.pairwise_cons.mp sorted).1 m List.mem_cons_self
      rw [place, if_pos before]

theorem not_named_of_sorted {name : String} {j : Json} (sorted : Sorted ((name, j) :: members)) :
    ¬members.any (·.1 == name) = true := by
  intro again
  obtain ⟨m, member, same⟩ := List.any_eq_true.mp again
  have before : name < m.1 := (List.pairwise_cons.mp sorted).1 m member
  rw [eq_of_beq same] at before
  exact String.lt_irrefl _ before

mutual

/-- A document in canonical form is its own normal form. -/
theorem normal_of_canonical : (j : Json) → j.Canonical → j.normal = j
  | .array items, canonical => by
    rw [normal, normalItems_of_canonical items (by simpa only [Canonical] using canonical)]
  | .object members, canonical => by
    obtain ⟨sorted, inner⟩ : Sorted members ∧ CanonicalMembers members := by
      simpa only [Canonical] using canonical
    rw [normal, normalMembers_of_canonical members sorted inner]
  | .null, _ => rfl
  | .bool _, _ => rfl
  | .number _, _ => rfl
  | .string _, _ => rfl

theorem normalItems_of_canonical :
    (items : List Json) → CanonicalItems items → normalItems items = items
  | [], _ => rfl
  | j :: rest, canonical => by
    rw [normalItems, normal_of_canonical j canonical.1, normalItems_of_canonical rest canonical.2]

theorem normalMembers_of_canonical : (members : List (String × Json)) → Sorted members →
    CanonicalMembers members → normalMembers members = members
  | [], _, _ => rfl
  | (name, j) :: rest, sorted, canonical => by
    have later := normalMembers_of_canonical rest (List.pairwise_cons.mp sorted).2 canonical.2
    rw [normalMembers, later, normal_of_canonical j canonical.1]
    simp only [if_neg (not_named_of_sorted sorted), place_of_sorted sorted]

end

end StreamingChat.Json

namespace StreamingChat.Value

/-- A free-form value is read from its own document. -/
@[simp]
theorem ofJson_json (v : Value) : ofJson v.json = v :=
  ext (Json.normal_of_canonical v.json v.canonical)

theorem map_ofJson_json (values : List Value) : (values.map json).map ofJson = values := by
  induction values with
  | nil => rfl
  | cons v rest ih => rw [List.map_cons, List.map_cons, ofJson_json, ih]

end StreamingChat.Value
