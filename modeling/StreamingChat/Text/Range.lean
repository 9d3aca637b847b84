/-!
Classes of characters given by the ranges of their codes.
-/

namespace StreamingChat.Text

/-- Whether a character lies in one of some ranges, both ends included. -/
def isWithin (ranges : List (Nat × Nat)) (c : Char) : Bool :=
  ranges.any fun range => range.1 ≤ c.toNat && c.toNat ≤ range.2

theorem isWithin_of_mem {ranges : List (Nat × Nat)} {low high : Nat} {c : Char}
    (hmem : (low, high) ∈ ranges) (hlow : low ≤ c.toNat) (hhigh : c.toNat ≤ high) :
    isWithin ranges c = true :=
  List.any_eq_true.2 ⟨(low, high), hmem, by simp [hlow, hhigh]⟩

end StreamingChat.Text
