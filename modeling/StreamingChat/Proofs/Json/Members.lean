import StreamingChat.Json.Record

/-!
# Members of an object

An object names a member before and after it is sorted.  As long as it names none twice, the strict
reading, which finds members in the order they were written, and the free-form reading, which sorts
them and lets the last of one name count, find the same.
-/

namespace StreamingChat.Json

theorem mem_of_lookup {α : Type} {name : String} {value : α} {members : List (String × α)}
    (found : members.lookup name = some value) : (name, value) ∈ members := by
  obtain ⟨before, after, shape, -⟩ := List.lookup_eq_some_iff.mp found
  rw [shape]
  exact List.mem_append_right before List.mem_cons_self

/-- A member whose name no other member has is the one that is found. -/
theorem lookup_of_mem {α : Type} {name : String} {value : α} {members : List (String × α)}
    (once : (members.map Prod.fst).Nodup) (member : (name, value) ∈ members) :
    members.lookup name = some value := by
  obtain ⟨before, after, shape⟩ := List.append_of_mem member
  refine List.lookup_eq_some_iff.mpr ⟨before, after, shape, ?_⟩
  intro other earlier
  rw [shape, List.map_append, List.nodup_append] at once
  have differs : other.1 ≠ name :=
    once.2.2 other.1 (List.mem_map_of_mem earlier) name List.mem_cons_self
  exact bne_iff_ne.mpr differs.symm

/-- A member of a sorted object was a member before it was sorted. -/
theorem mem_of_mem_normalMembers {name : String} {k : Json} {members : List (String × Json)}
    (member : (name, k) ∈ normalMembers members) : ∃ j, (name, j) ∈ members ∧ j.normal = k := by
  induction members with
  | nil => cases member
  | cons first rest ih =>
      obtain ⟨other, held⟩ := first
      have later : (name, k) ∈ normalMembers rest →
          ∃ j, (name, j) ∈ (other, held) :: rest ∧ j.normal = k := by
        intro old
        obtain ⟨j, written, sorted⟩ := ih old
        exact ⟨j, List.mem_cons_of_mem _ written, sorted⟩
      rw [normalMembers] at member
      split at member
      · exact later member
      · rcases mem_place.mp member with same | old
        · cases same
          exact ⟨held, List.mem_cons_self, rfl⟩
        · exact later old

/-- A member whose name no other member has is there after sorting. -/
theorem mem_normalMembers {name : String} {j : Json} {members : List (String × Json)}
    (once : (members.map Prod.fst).Nodup) (member : (name, j) ∈ members) :
    (name, j.normal) ∈ normalMembers members := by
  induction members with
  | nil => cases member
  | cons first rest ih =>
      obtain ⟨other, held⟩ := first
      obtain ⟨fresh, onceRest⟩ := List.nodup_cons.mp once
      have unnamed : ¬(normalMembers rest).any (·.1 == other) = true := by
        intro again
        obtain ⟨⟨same, k⟩, later, named⟩ := List.any_eq_true.mp again
        obtain ⟨written, earlier, -⟩ := mem_of_mem_normalMembers later
        exact fresh (List.mem_map.mpr ⟨_, earlier, eq_of_beq named⟩)
      rw [normalMembers]
      simp only [if_neg unnamed]
      rcases List.mem_cons.mp member with same | later
      · cases same
        exact mem_place.mpr (.inl rfl)
      · exact mem_place.mpr (.inr (ih onceRest later))

theorem nodup_of_sorted {members : List (String × Json)} (sorted : Sorted members) :
    (members.map Prod.fst).Nodup := by
  refine List.pairwise_map.mpr (sorted.imp ?_)
  intro first second before same
  rw [same] at before
  exact String.lt_irrefl _ before

/-- The free-form reading finds a member whose name no other member has. -/
theorem lookup_normalMembers {name : String} {j : Json} {members : List (String × Json)}
    (once : (members.map Prod.fst).Nodup) (member : (name, j) ∈ members) :
    (normalMembers members).lookup name = some j.normal :=
  lookup_of_mem (nodup_of_sorted (normalMembers_canonical members).1)
    (mem_normalMembers once member)

/-- In either reading a name finds the same member, up to sorting. -/
theorem lookup_normalMembers_eq {members : List (String × Json)}
    (once : (members.map Prod.fst).Nodup) (name : String) :
    (normalMembers members).lookup name = (members.lookup name).map normal := by
  cases written : members.lookup name with
  | some j => exact lookup_normalMembers once (mem_of_lookup written)
  | none =>
      cases sorted : (normalMembers members).lookup name with
      | none => rfl
      | some k =>
          obtain ⟨j, member, -⟩ := mem_of_mem_normalMembers (mem_of_lookup sorted)
          rw [lookup_of_mem once member] at written
          cases written

theorem eq_string_of_normal {j : Json} {s : String} (sorted : j.normal = .string s) :
    j = .string s := by
  cases j with
  | string text => exact sorted
  | null => cases sorted
  | bool b => cases sorted
  | number n => cases sorted
  | array items => cases sorted
  | object members => cases sorted

/-- A string that the free-form reading finds under a name was written under that name. -/
theorem mem_of_lookup_normalMembers {name s : String} {members : List (String × Json)}
    (found : (normalMembers members).lookup name = some (.string s)) :
    (name, .string s) ∈ members := by
  obtain ⟨j, written, sorted⟩ := mem_of_mem_normalMembers (mem_of_lookup found)
  rw [eq_string_of_normal sorted] at written
  exact written

theorem object_of_normal {j : Json} {members : List (String × Json)}
    (sorted : j.normal = .object members) :
    ∃ written, j = .object written ∧ normalMembers written = members := by
  cases j with
  | object written =>
      cases sorted
      exact ⟨written, rfl, rfl⟩
  | null => cases sorted
  | bool b => cases sorted
  | number n => cases sorted
  | string text => cases sorted
  | array items => cases sorted

/-- The tag of a tagged object is the only member with the name of the tag. -/
theorem tagged?_object {tag : String} {members : List (String × Json)} {j value body : Json}
    (split_ : tagged? tag (.object members) = some (j, body)) (member : (tag, value) ∈ members) :
    j = value ∧ body = .object (members.filter (·.1 != tag)) := by
  have kept : (tag, value) ∈ members.filter (·.1 == tag) :=
    List.mem_filter.mpr ⟨member, beq_self_eq_true tag⟩
  unfold tagged? at split_
  simp only at split_
  split at split_
  · next only =>
    rw [only] at kept
    cases List.mem_singleton.mp kept
    cases split_
    exact ⟨rfl, rfl⟩
  · cases split_

/-- A field of a record that is an object is the only member with the name of the field. -/
theorem get?_fields {names : List String} {name : String} {value : Json}
    {members : List (String × Json)} {f : Fields}
    (record : fields? names (.object members) = some f)
    (known : names.contains name = true) (member : (name, value) ∈ members) :
    f.get? name = some value := by
  have kept : (name, value) ∈ members.filter fun m => names.contains m.1 :=
    List.mem_filter.mpr ⟨member, known⟩
  unfold fields? at record
  simp only at record
  split at record
  · next once =>
    cases record
    exact lookup_of_mem once kept
  · cases record

end StreamingChat.Json
