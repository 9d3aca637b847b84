/-!
JSON documents. An object keeps its members as they were written, in order and with repeated
names; `Value` is the free-form JSON that the program passes on, in which every object is sorted
by name and names each member once.
-/

namespace StreamingChat

/-- The integers of 64 bits, signed or unsigned. -/
def Json.Number.Fits (n : Int) : Prop :=
  -9223372036854775808 ≤ n ∧ n < 18446744073709551616

instance (n : Int) : Decidable (Json.Number.Fits n) :=
  inferInstanceAs (Decidable (_ ∧ _))

/-- A number is an integer when it fits 64 bits, and a double otherwise. -/
inductive Json.Number where
  | integer (n : Int) (fits : Json.Number.Fits n)
  | decimal (x : Float) (finite : x.isFinite = true)

inductive Json where
  | null
  | bool (b : Bool)
  | number (n : Json.Number)
  | string (s : String)
  | array (items : List Json)
  | object (members : List (String × Json))

namespace Json

/-- Puts a member where its name belongs in a sorted list that does not have the name. -/
def place (name : String) (j : Json) : List (String × Json) → List (String × Json)
  | [] => [(name, j)]
  | (other, k) :: rest =>
    if name < other then (name, j) :: (other, k) :: rest else (other, k) :: place name j rest

mutual

/-- The document with every object sorted by name; of members with one name the last counts. -/
def normal : Json → Json
  | .array items => .array (normalItems items)
  | .object members => .object (normalMembers members)
  | .null => .null
  | .bool b => .bool b
  | .number n => .number n
  | .string s => .string s

def normalItems : List Json → List Json
  | [] => []
  | j :: rest => j.normal :: normalItems rest

def normalMembers : List (String × Json) → List (String × Json)
  | [] => []
  | (name, j) :: rest =>
    let later := normalMembers rest
    if later.any (·.1 == name) then later else place name j.normal later

end

/-- The names of the members increase strictly. -/
def Sorted (members : List (String × Json)) : Prop :=
  members.Pairwise fun a b => a.1 < b.1

mutual

/-- Every object in the document is sorted by name and names each member once. -/
def Canonical : Json → Prop
  | .array items => CanonicalItems items
  | .object members => Sorted members ∧ CanonicalMembers members
  | .null | .bool _ | .number _ | .string _ => True

def CanonicalItems : List Json → Prop
  | [] => True
  | j :: rest => j.Canonical ∧ CanonicalItems rest

def CanonicalMembers : List (String × Json) → Prop
  | [] => True
  | (_, j) :: rest => j.Canonical ∧ CanonicalMembers rest

end

theorem mem_place {name : String} {j : Json} {members : List (String × Json)} {m : String × Json} :
    m ∈ place name j members ↔ m = (name, j) ∨ m ∈ members := by
  induction members with
  | nil => simp [place]
  | cons first rest ih =>
    unfold place
    split
    · simp
    · simp only [List.mem_cons, ih]
      grind

theorem sorted_place {name : String} {j : Json} {members : List (String × Json)}
    (sorted : Sorted members) (fresh : ∀ m ∈ members, m.1 ≠ name) :
    Sorted (place name j members) := by
  induction members with
  | nil => simp [place, Sorted]
  | cons first rest ih =>
    have hrest := List.pairwise_cons.1 sorted
    unfold place
    split
    · next h =>
      refine List.pairwise_cons.2 ⟨fun m hm => ?_, sorted⟩
      rcases List.mem_cons.1 hm with rfl | hm
      · exact h
      · have := hrest.1 m hm
        grind
    · next h =>
      have hne : first.1 ≠ name := fresh first (by simp)
      refine List.pairwise_cons.2 ⟨fun m hm => ?_, ih hrest.2 fun m hm => fresh m (by simp [hm])⟩
      rcases mem_place.1 hm with rfl | hm
      · grind
      · exact hrest.1 m hm

theorem canonicalMembers_place {name : String} {j : Json} {members : List (String × Json)}
    (hj : j.Canonical) (h : CanonicalMembers members) :
    CanonicalMembers (place name j members) := by
  induction members with
  | nil => simp [place, CanonicalMembers, hj]
  | cons first rest ih =>
    simp only [CanonicalMembers] at h
    unfold place
    split <;> simp [CanonicalMembers, hj, h, ih h.2]

mutual

theorem canonical_normal : (j : Json) → j.normal.Canonical
  | .array items => by
    simpa [normal, Canonical] using canonicalItems_normalItems items
  | .object members => by
    simpa [normal, Canonical] using normalMembers_canonical members
  | .null => by simp [normal, Canonical]
  | .bool _ => by simp [normal, Canonical]
  | .number _ => by simp [normal, Canonical]
  | .string _ => by simp [normal, Canonical]

theorem canonicalItems_normalItems : (items : List Json) → CanonicalItems (normalItems items)
  | [] => by simp [normalItems, CanonicalItems]
  | j :: rest => by
    simpa [normalItems, CanonicalItems] using
      ⟨canonical_normal j, canonicalItems_normalItems rest⟩

theorem normalMembers_canonical : (members : List (String × Json)) →
    Sorted (normalMembers members) ∧ CanonicalMembers (normalMembers members)
  | [] => by simp [normalMembers, CanonicalMembers, Sorted]
  | (name, j) :: rest => by
    have hrest := normalMembers_canonical rest
    have hj := canonical_normal j
    simp only [normalMembers]
    split
    · exact hrest
    · next h =>
      refine ⟨sorted_place hrest.1 fun m hm hname => h ?_, canonicalMembers_place hj hrest.2⟩
      exact List.any_eq_true.2 ⟨m, hm, by simp [hname]⟩

end

end Json

/-- Free-form JSON in canonical form. -/
structure Value where
  json : Json
  canonical : json.Canonical

namespace Value

def ofJson (j : Json) : Value :=
  ⟨j.normal, j.canonical_normal⟩

def null : Value :=
  ⟨.null, by simp [Json.Canonical]⟩

def string (s : String) : Value :=
  ⟨.string s, by simp [Json.Canonical]⟩

@[ext] theorem ext {a b : Value} (h : a.json = b.json) : a = b := by
  cases a
  cases b
  cases h
  rfl

end Value

end StreamingChat
