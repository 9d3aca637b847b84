/-!
Cuts of a text at places that are counted in bytes. A place inside a character is no place to cut.
-/

namespace StreamingChat.Text

/-- The text from a place on. -/
def dropBytes? : Nat → List Char → Option (List Char)
  | 0, text => some text
  | _ + 1, [] => none
  | n + 1, c :: rest => if c.utf8Size ≤ n + 1 then dropBytes? (n + 1 - c.utf8Size) rest else none

/-- The text up to a place. -/
def takeBytes? : Nat → List Char → Option (List Char)
  | 0, _ => some []
  | _ + 1, [] => none
  | n + 1, c :: rest =>
    if c.utf8Size ≤ n + 1 then (c :: ·) <$> takeBytes? (n + 1 - c.utf8Size) rest else none

/-- The text between two places. -/
def cut? (start stop : Nat) (text : List Char) : Option (List Char) :=
  (dropBytes? start text).bind (takeBytes? (stop - start))

/-- The two parts at a place make up the text. -/
theorem takeBytes?_append_dropBytes? {n : Nat} {text first rest : List Char}
    (hfirst : takeBytes? n text = some first) (hrest : dropBytes? n text = some rest) :
    first ++ rest = text := by
  induction text generalizing n first with
  | nil => cases n <;> simp_all [takeBytes?, dropBytes?]
  | cons c text ih =>
    cases n with
    | zero => simp_all [takeBytes?, dropBytes?]
    | succ n =>
      by_cases hc : c.utf8Size ≤ n + 1
      · simp only [takeBytes?, hc, if_true, Option.map_eq_map, Option.map_eq_some_iff] at hfirst
        obtain ⟨tail, htail, rfl⟩ := hfirst
        simp only [dropBytes?, hc, if_true] at hrest
        rw [List.cons_append, ih htail hrest]
      · simp [takeBytes?, hc] at hfirst

end StreamingChat.Text
