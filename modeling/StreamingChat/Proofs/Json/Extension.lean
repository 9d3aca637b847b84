import StreamingChat.Proofs.Json.Records

/-!
# Objects with more members

An object may hold the members of another in a different order, and others besides.  As long as none
of the others is named after a field, a record finds the same in both objects.  It does so in their
normal forms too, if the smaller object names no member twice.
-/

namespace StreamingChat.Json

/-- The second list holds the members of the first, in any order, and besides them members whose
names are not among the known ones. -/
def Extends (known : List String) (fewer more : List (String × Json)) : Prop :=
  ∃ added, more.Perm (fewer ++ added) ∧ ∀ m ∈ added, m.1 ∉ known

/-- A record of the given names finds the same under each name in two documents, or neither of them
is such a record. -/
def Alike (names : List String) (j k : Json) : Prop :=
  Option.Rel (fun f g => ∀ name, f.get? name = g.get? name) (j.fields? names) (k.fields? names)

variable {names : List String} {name : String} {members fewer more : List (String × Json)}

/-! ## What is found under a name -/

theorem lookup_cons_eq_ite (other : String) (j : Json) (rest : List (String × Json))
    (name : String) :
    ((other, j) :: rest).lookup name = if name = other then some j else rest.lookup name := by
  rw [List.lookup_cons]
  split
  · next same => rw [if_pos (eq_of_beq same)]
  · next differs => rw [if_neg (ne_of_beq_false differs)]

/-- Members that are named once each are found in any order. -/
theorem lookup_of_perm (moved : more.Perm fewer) (once : (fewer.map Prod.fst).Nodup)
    (name : String) : more.lookup name = fewer.lookup name := by
  have onceMoved : (more.map Prod.fst).Nodup := (moved.map Prod.fst).nodup_iff.mpr once
  refine Option.ext fun j => ⟨fun found => ?_, fun found => ?_⟩
  · exact lookup_of_mem once (moved.mem_iff.mp (mem_of_lookup found))
  · exact lookup_of_mem onceMoved (moved.mem_iff.mpr (mem_of_lookup found))

/-- Members of other names do not hide one of a known name. -/
theorem lookup_filter_known (members : List (String × Json)) (name : String) :
    (members.filter fun m => names.contains m.1).lookup name =
      if names.contains name then members.lookup name else none := by
  induction members with
  | nil => exact (ite_self none).symm
  | cons first rest ih =>
      obtain ⟨other, j⟩ := first
      rw [lookup_cons_eq_ite, List.filter_cons]
      by_cases same : name = other
      · subst same
        rw [if_pos rfl]
        cases known : names.contains name with
        | true => rw [if_pos rfl, if_pos rfl, lookup_cons_eq_ite, if_pos rfl]
        | false => rw [if_neg nofun, ih, known]; rfl
      · rw [if_neg same, ← ih]
        split
        · rw [lookup_cons_eq_ite, if_neg same]
        · rfl

theorem lookup_place {j : Json} (fresh : ∀ m ∈ members, m.1 ≠ name) (other : String) :
    (place name j members).lookup other =
      if other = name then some j else members.lookup other := by
  induction members with
  | nil => exact lookup_cons_eq_ite name j [] other
  | cons first rest ih =>
      obtain ⟨earlier, k⟩ := first
      have differs : earlier ≠ name := fresh (earlier, k) List.mem_cons_self
      have later := ih fun m member => fresh m (List.mem_cons_of_mem _ member)
      rw [place]
      split
      · exact lookup_cons_eq_ite name j _ other
      · rw [lookup_cons_eq_ite, lookup_cons_eq_ite, later]
        by_cases same : other = earlier
        · rw [if_pos same, if_pos same, if_neg (same ▸ differs)]
        · rw [if_neg same, if_neg same]

/-- Of members with one name the free-form reading finds the last. -/
theorem lookup_normalMembers_last (members : List (String × Json)) (name : String) :
    (normalMembers members).lookup name = (members.reverse.lookup name).map normal := by
  induction members with
  | nil => rfl
  | cons first rest ih =>
      obtain ⟨other, j⟩ := first
      have one : (List.lookup name [(other, j)]).map normal =
          if name = other then some j.normal else none := by
        rw [lookup_cons_eq_ite]
        split <;> rfl
      rw [List.reverse_cons, List.lookup_append, Option.map_or, ← ih, one, normalMembers]
      split
      · next again =>
        by_cases same : name = other
        · obtain ⟨m, later, named⟩ := List.any_eq_true.mp again
          have named : name = m.1 := same.trans (eq_of_beq named).symm
          have found : ((normalMembers rest).lookup name).isSome = true :=
            List.lookup_isSome_iff.mpr ⟨m, later, beq_iff_eq.mpr named⟩
          rw [Option.or_of_isSome found]
        · rw [if_neg same, Option.or_none]
      · next unnamed =>
        have fresh : ∀ m ∈ normalMembers rest, m.1 ≠ other := fun m later same =>
          unnamed (List.any_eq_true.mpr ⟨m, later, beq_iff_eq.mpr same⟩)
        rw [lookup_place fresh]
        by_cases same : name = other
        · have absent : (normalMembers rest).lookup name = none :=
            List.lookup_eq_none_iff.mpr fun m later =>
              bne_iff_ne.mpr (same ▸ (fresh m later).symm)
          rw [absent, Option.none_or, if_pos same]
        · rw [if_neg same, if_neg same, Option.or_none]

/-! ## Additions -/

namespace Extends

variable {known : List String}

/-- The members that are chosen by a known name are the same. -/
theorem filter {p : String × Json → Bool} (extends_ : Extends known fewer more)
    (chosen : ∀ m, p m = true → m.1 ∈ known) : (more.filter p).Perm (fewer.filter p) := by
  obtain ⟨added, moved, others⟩ := extends_
  have none_ : added.filter p = [] :=
    List.filter_eq_nil_iff.mpr fun m member keeps => others m member (chosen m keeps)
  have kept := moved.filter p
  rwa [List.filter_append, none_, List.append_nil] at kept

/-- What is left when the tags are taken out. -/
theorem untagged {tag : String} (extends_ : Extends (tag :: known) fewer more) :
    Extends known (fewer.filter (·.1 != tag)) (more.filter (·.1 != tag)) := by
  obtain ⟨added, moved, others⟩ := extends_
  refine ⟨added.filter (·.1 != tag), ?_, fun m member listed => ?_⟩
  · rw [← List.filter_append]
    exact moved.filter _
  · exact others m (List.mem_filter.mp member).1 (List.mem_cons_of_mem tag listed)

theorem mem (extends_ : Extends known fewer more) {m : String × Json} (member : m ∈ fewer) :
    m ∈ more := by
  obtain ⟨added, moved, -⟩ := extends_
  exact moved.mem_iff.mpr (List.mem_append_left added member)

theorem known_filter (extends_ : Extends names fewer more) :
    (more.filter fun m => names.contains m.1).Perm (fewer.filter fun m => names.contains m.1) :=
  extends_.filter fun _ listed => List.contains_iff_mem.mp listed

theorem reverse (extends_ : Extends known fewer more) :
    Extends known fewer.reverse more.reverse := by
  obtain ⟨added, moved, others⟩ := extends_
  have reversed : (fewer ++ added).Perm (fewer.reverse ++ added) :=
    (List.reverse_perm fewer).symm.append_right added
  exact ⟨added, ((List.reverse_perm more).trans moved).trans reversed, others⟩

/-- Additions do not change what a known name finds. -/
theorem lookup (extends_ : Extends names fewer more) (known : names.contains name = true)
    (once : (fewer.map Prod.fst).Nodup) : more.lookup name = fewer.lookup name := by
  have onceKnown : ((fewer.filter fun m => names.contains m.1).map Prod.fst).Nodup :=
    (List.filter_sublist.map Prod.fst).nodup once
  have found (members : List (String × Json)) :
      members.lookup name = (members.filter fun m => names.contains m.1).lookup name := by
    rw [lookup_filter_known, if_pos known]
  rw [found more, found fewer, lookup_of_perm extends_.known_filter onceKnown]

/-- A record finds the same in an object with more members. -/
theorem alike (extends_ : Extends names fewer more) :
    Alike names (.object more) (.object fewer) := by
  have moved := extends_.known_filter
  unfold Alike fields?
  simp only
  by_cases once : ((fewer.filter fun m => names.contains m.1).map Prod.fst).Nodup
  · rw [if_pos once, if_pos ((moved.map Prod.fst).nodup_iff.mpr once)]
    exact .some (lookup_of_perm moved once)
  · rw [if_neg once, if_neg (mt (moved.map Prod.fst).nodup_iff.mp once)]
    exact .none

end Extends

/-- The normal form of an object is a record of any names; what it finds under one of them is the
last member with the name. -/
theorem fields?_normal (names : List String) (members : List (String × Json)) :
    ∃ f, fields? names (Json.object members).normal = some f ∧
      ∀ name, f.get? name =
        if names.contains name then (members.reverse.lookup name).map normal else none := by
  have once : (((normalMembers members).filter fun m => names.contains m.1).map Prod.fst).Nodup :=
    (List.filter_sublist.map Prod.fst).nodup (nodup_of_sorted (normalMembers_canonical members).1)
  refine ⟨⟨(normalMembers members).filter fun m => names.contains m.1⟩, ?_, fun name => ?_⟩
  · rw [normal]
    unfold fields?
    exact if_pos once
  · rw [Fields.get?, lookup_filter_known, lookup_normalMembers_last]

/-- A record finds the same in the normal form of an object with more members, if the smaller
object names none twice; the additions may name each other's. -/
theorem Extends.alike_normal (extends_ : Extends names fewer more)
    (once : (fewer.map Prod.fst).Nodup) :
    Alike names (Json.object more).normal (Json.object fewer).normal := by
  obtain ⟨f, finds, values⟩ := fields?_normal names more
  obtain ⟨g, found, others⟩ := fields?_normal names fewer
  unfold Alike
  rw [finds, found]
  refine .some fun name => ?_
  rw [values, others]
  split
  · next known =>
    have onceReversed : (fewer.reverse.map Prod.fst).Nodup :=
      ((List.reverse_perm fewer).map Prod.fst).nodup_iff.mpr once
    rw [extends_.reverse.lookup known onceReversed]
  · rfl

/-! ## What is read from a record -/

section

variable {α : Type}

/-- What is read from a record by the names of its fields is read from another that finds the same
under each name. -/
theorem Alike.bind {j k : Json} {read : Fields → Option α} (alike : Alike names j k)
    (byName : ∀ f g : Fields, (∀ name, f.get? name = g.get? name) → read f = read g) :
    (j.fields? names).bind read = (k.fields? names).bind read := by
  unfold Alike at alike
  generalize j.fields? names = left at alike ⊢
  generalize k.fields? names = right at alike ⊢
  cases alike with
  | none => rfl
  | some same => exact byName _ _ same

/-- A required field is read from its member, unless there is a field that is there twice; which of
the two it is depends on the names of the members only. -/
theorem bind_required_object {read : Json → Option α} {before after : List (String × Json)}
    {j : Json} (known : names.contains name = true) :
    ((fields? names (.object (before ++ (name, j) :: after))).bind (·.required name read)) =
      if ((before.map Prod.fst ++ name :: after.map Prod.fst).filter names.contains).Nodup then
        read j
      else none := by
  have all : (before ++ (name, j) :: after).map Prod.fst =
      before.map Prod.fst ++ name :: after.map Prod.fst := by
    rw [List.map_append, List.map_cons]
  have named : ((before ++ (name, j) :: after).filter fun m => names.contains m.1).map Prod.fst =
      (before.map Prod.fst ++ name :: after.map Prod.fst).filter names.contains := by
    rw [← all, List.filter_map]
    rfl
  unfold fields?
  simp only [named]
  split
  · next once =>
    have member : (name, j) ∈ (before ++ (name, j) :: after).filter fun m => names.contains m.1 :=
      List.mem_filter.mpr ⟨List.mem_append_right before List.mem_cons_self, known⟩
    exact Fields.required_of_get? (lookup_of_mem (named ▸ once) member)
  · rfl

end

end StreamingChat.Json
