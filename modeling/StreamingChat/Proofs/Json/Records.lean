import StreamingChat.Proofs.Json.Members
import StreamingChat.Proofs.Json.Shape

/-!
# Records read back

A record that is written as an object with some of its fields, in their order, is read back field
by field.  A field that is left out has no value, or its default.  What is read from a field nests
less deep than the record it stands in.
-/

namespace StreamingChat.Json

/-! ## Members in the order of fields -/

/-- Members that are named after some of the given names, in their order. -/
def Lists (names : List String) (members : List (String × Json)) : Prop :=
  (members.map Prod.fst).Sublist names

namespace Lists

variable {names more : List String} {members later : List (String × Json)}

theorem member (name : String) (j : Json) : Lists [name] [(name, j)] :=
  List.Sublist.refl [name]

theorem optional {α : Type} (name : String) (write : α → Json) (a : Option α) :
    Lists [name] (optionalMember name write a) := by
  cases a with
  | none => exact List.nil_sublist _
  | some x => exact member name (write x)

theorem append (first : Lists names members) (second : Lists more later) :
    Lists (names ++ more) (members ++ later) := by
  rw [Lists, List.map_append]
  exact List.Sublist.append first second

theorem known (lists : Lists names members) {m : String × Json} (member : m ∈ members) :
    m.1 ∈ names :=
  lists.subset (List.mem_map_of_mem member)

/-- A record written as an object holds the members it was written with. -/
theorem fields? (lists : Lists names members) (once : names.Nodup) :
    Json.fields? names (.object members) = some ⟨members⟩ := by
  have all : (members.filter fun m => names.contains m.1) = members := by
    refine List.filter_eq_self.mpr fun m member => ?_
    exact List.contains_iff_mem.mpr (lists.known member)
  unfold Json.fields?
  simp only [all]
  rw [if_pos (List.Nodup.sublist lists once)]

/-- The normal form of a record that was written as an object holds the normal forms of its
members. -/
theorem fields?_normal (lists : Lists names members) (once : names.Nodup) :
    ∃ f, Json.fields? names (Json.object members).normal = some f ∧
      ∀ name, f.get? name = (members.lookup name).map normal := by
  have unique : (members.map Prod.fst).Nodup := List.Nodup.sublist lists once
  have all : ((normalMembers members).filter fun m => names.contains m.1) =
      normalMembers members := by
    refine List.filter_eq_self.mpr fun m member => ?_
    obtain ⟨j, written, -⟩ := mem_of_mem_normalMembers member
    exact List.contains_iff_mem.mpr (lists.known (m := (m.1, j)) written)
  refine ⟨⟨normalMembers members⟩, ?_, fun name => lookup_normalMembers_eq unique name⟩
  rw [normal]
  unfold Json.fields?
  simp only [all]
  rw [if_pos (nodup_of_sorted (normalMembers_canonical members).1)]

/-- A tag in front of members of other names is split from them. -/
theorem tagged? (lists : Lists names members) {tag : String} (fresh : tag ∉ names) (j : Json) :
    Json.tagged? tag (.object ((tag, j) :: members)) = some (j, .object members) := by
  have other {m : String × Json} (member : m ∈ members) : m.1 ≠ tag := by
    rintro rfl
    exact fresh (lists.known member)
  have tags : ((tag, j) :: members).filter (·.1 == tag) = [(tag, j)] := by
    rw [List.filter_cons_of_pos (by simp),
      List.filter_eq_nil_iff.mpr fun m member => by simpa using other member]
  have rest : ((tag, j) :: members).filter (·.1 != tag) = members := by
    rw [List.filter_cons_of_neg (by simp),
      List.filter_eq_self.mpr fun m member => by simpa using other member]
  unfold Json.tagged?
  simp only [tags, rest]

end Lists

/-- An object without a member of the name of the tag is not tagged. -/
theorem tagged?_of_untagged {names : List String} {members : List (String × Json)}
    (lists : Lists names members) {tag : String} (absent : tag ∉ names) :
    tagged? tag (.object members) = none := by
  have none_ : members.filter (·.1 == tag) = [] := by
    refine List.filter_eq_nil_iff.mpr fun m member same => ?_
    exact absent (eq_of_beq same ▸ lists.known member)
  unfold tagged?
  simp only [none_]

/-! ## Fields -/

@[simp]
theorem lookup_optionalMember {α : Type} (name other : String) (write : α → Json) (a : Option α) :
    (optionalMember name write a).lookup other = if other == name then a.map write else none := by
  cases a with
  | none => cases other == name <;> rfl
  | some x =>
      rw [optionalMember, List.lookup_cons]
      cases other == name <;> rfl

theorem forall_mem_optionalMember {α : Type} {name : String} {write : α → Json} {a : Option α}
    {p : Json → Prop} :
    (∀ m ∈ optionalMember name write a, p m.2) ↔ ∀ x, a = some x → p (write x) := by
  cases a with
  | none => simp [optionalMember]
  | some x => simp [optionalMember]

namespace Fields

variable {α : Type} {f : Fields} {name : String} {j : Json} {read : Json → Option α}

theorem required_of_get? (found : f.get? name = some j) : f.required name read = read j := by
  rw [required, found, Option.bind_some]

theorem withDefault_of_get? (found : f.get? name = some j) (default : α) :
    f.withDefault name default read = read j := by
  rw [withDefault, found]

/-- A field that is written only if it has a value has its default otherwise. -/
theorem withDefault_map {write : α → Json} {a : Option α} (found : f.get? name = a.map write)
    (default : α) (reads : ∀ x, a = some x → read (write x) = some x) :
    f.withDefault name default read = some (a.getD default) := by
  rw [withDefault, found]
  cases a with
  | none => rfl
  | some x => exact reads x rfl

/-- An optional field is read back if nothing is written as null. -/
theorem optional_of_get? {write : α → Json} {a : Option α} (found : f.get? name = a.map write)
    (reads : ∀ x, a = some x → write x ≠ .null ∧ read (write x) = some x) :
    f.optional name read = some a := by
  rw [optional, found]
  cases a with
  | none => rfl
  | some x =>
      obtain ⟨present, back⟩ := reads x rfl
      rw [Option.map_some]
      split
      · next absent => cases absent
      · next null => exact absurd (Option.some.inj null) present
      · next k found => rw [← Option.some.inj found, back]; rfl

theorem optional_string {a : Option String} (found : f.get? name = a.map .string) :
    f.optional name string? = some a :=
  optional_of_get? found fun _ _ => ⟨nofun, rfl⟩

theorem optional_bool {a : Option Bool} (found : f.get? name = a.map .bool) :
    f.optional name bool? = some a :=
  optional_of_get? found fun _ _ => ⟨nofun, rfl⟩

theorem withDefault_eq_some {default a : α} (given : f.withDefault name default read = some a) :
    a = default ∨ ∃ k, f.get? name = some k ∧ read k = some a := by
  unfold withDefault at given
  split at given
  · exact .inl (Option.some.inj given).symm
  · next k found => exact .inr ⟨k, found, given⟩

theorem required_eq_some {a : α} (given : f.required name read = some a) :
    ∃ k, f.get? name = some k ∧ read k = some a :=
  Option.bind_eq_some_iff.mp given

/-- An optional field that has a value was not null. -/
theorem optional_eq_some {a : α} (given : f.optional name read = some (some a)) :
    ∃ k, f.get? name = some k ∧ k ≠ .null ∧ read k = some a := by
  unfold optional at given
  split at given
  · cases given
  · cases given
  · next k present found =>
    obtain ⟨b, back, same⟩ := Option.map_eq_some_iff.mp given
    cases same
    exact ⟨k, found, present, back⟩

end Fields

/-! ## Depth -/

theorem depth_get?_lt {names : List String} {name : String} {j k : Json} {f : Fields}
    (record : fields? names j = some f) (found : f.get? name = some k) : k.depth < j.depth := by
  obtain ⟨before, after, shape, -⟩ := List.lookup_eq_some_iff.mp found
  have member : (name, k) ∈ f.present := by
    rw [shape]
    exact List.mem_append_right before List.mem_cons_self
  unfold fields? at record
  split at record
  · next members =>
    simp only at record
    split at record
    · cases record
      exact depth_member_lt (List.mem_filter.mp member).1
    · cases record
  · next items =>
    split at record
    · cases record
      exact depth_item_lt (List.of_mem_zip member).2
    · cases record
  · cases record

theorem depth_tagged?_le {tag : String} {j value body : Json}
    (tagged : tagged? tag j = some (value, body)) : body.depth ≤ j.depth := by
  unfold tagged? at tagged
  split at tagged
  · next members =>
    split at tagged
    · cases tagged
      refine depth_object_le.mpr fun m member => ?_
      exact depthMembers_le.mp (Nat.le_refl _) m (List.mem_filter.mp member).1
    · cases tagged
  · next first rest =>
    cases tagged
    refine depth_array_le.mpr fun j member => ?_
    exact depthItems_le.mp (Nat.le_refl _) j (List.mem_cons_of_mem _ member)
  · cases tagged

theorem depth_value?_le {k : Json} {v : Value} (free : value? k = some v) :
    v.json.depth ≤ k.depth := by
  cases free
  exact depth_normal_le k

theorem depth_values?_lt {k : Json} {values : List Value} (free : values? k = some values) :
    ∀ v ∈ values, v.json.depth < k.depth := by
  cases k with
  | array items =>
      cases free
      refine List.forall_mem_map.mpr fun j member => ?_
      exact Nat.lt_of_le_of_lt (depth_normal_le j) (depth_item_lt member)
  | null => cases free
  | bool b => cases free
  | number n => cases free
  | string s => cases free
  | object members => cases free

variable {names : List String} {name : String} {j : Json} {f : Fields}

/-- A free-form field nests less deep than its record, and has no depth if it was left out. -/
theorem depth_free_le (record : j.fields? names = some f) {v : Value}
    (given : f.withDefault name .null value? = some v) :
    v.json.depth + 1 ≤ max j.depth 1 := by
  rcases Fields.withDefault_eq_some given with rfl | ⟨k, found, free⟩
  · exact Nat.le_max_right _ _
  · have inner := depth_get?_lt record found
    have normal := depth_value?_le free
    omega

/-- The values of a field that is a list nest two levels less deep than the record. -/
theorem depth_listed_le (record : j.fields? names = some f) {values : List Value}
    (given : f.withDefault name [] values? = some values) :
    ∀ v ∈ values, v.json.depth + 2 ≤ j.depth := by
  rcases Fields.withDefault_eq_some given with rfl | ⟨k, found, free⟩
  · exact List.forall_mem_nil _
  · intro v member
    have inner := depth_get?_lt record found
    have item := depth_values?_lt free v member
    omega

theorem depth_ofValues_le {values : List Value} {n : Nat}
    (shallow : ∀ v ∈ values, v.json.depth ≤ n) : (ofValues values).depth ≤ n + 1 :=
  depth_array_le.mpr (List.forall_mem_map.mpr shallow)

/-! ## Free-form values -/

theorem values?_ofValues (values : List Value) : values? (ofValues values) = some values :=
  congrArg some (Value.map_ofJson_json values)

theorem integral_ofValues {values : List Value} (integral : ∀ v ∈ values, v.json.Integral) :
    (ofValues values).Integral :=
  integral_array.mpr (List.forall_mem_map.mpr integral)

theorem value?_json (v : Value) : value? v.json = some v :=
  congrArg some v.ofJson_json

end StreamingChat.Json
