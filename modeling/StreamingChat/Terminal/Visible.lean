/-!
What is left of a text when everything is taken out of it that a terminal would not show: control
characters other than blanks, and escape sequences. The bytes are read as a terminal reads them; a
sequence that is not ended goes on to the end of the text.
-/

namespace StreamingChat.Terminal

/-- What the bytes belong to. -/
inductive Sequence where
  | ground
  /-- A character of several bytes. -/
  | character
  | escape
  /-- An escape with marks before its final letter. -/
  | escapeMarks
  | control
  | device
  /-- Behind the first of the numbers for a device. -/
  | deviceNumbers
  /-- Behind the marks that follow those numbers. -/
  | deviceMarks
  /-- Text for a device, up to its own end. -/
  | data
  | command
  deriving DecidableEq, Repr

namespace Sequence

inductive Effect where
  | shown
  /-- A control character takes effect. -/
  | executed
  | hidden
  deriving DecidableEq, Repr

def isBetween (low high : Nat) (b : UInt8) : Bool :=
  low ≤ b.toNat && b.toNat ≤ high

def isControl (b : UInt8) : Bool :=
  b.toNat < 0x20

/-- What a byte in some sequence does, and the sequence it changes to. -/
def react (s : Sequence) (b : UInt8) : Option Sequence × Effect :=
  if b = 0x18 || b = 0x1A then (some ground, .executed)
  else if b = 0x1B then (some escape, .hidden)
  else
    match s with
    | ground | character =>
      if isControl b then (none, .executed)
      else if isBetween 0x20 0x7F b then (none, .shown)
      else if isBetween 0xC2 0xF4 b then (some character, .shown)
      else (none, .hidden)
    | escape =>
      if isControl b then (none, .executed)
      else if isBetween 0x20 0x2F b then (some escapeMarks, .hidden)
      else if b = 0x50 then (some device, .hidden)
      else if b = 0x58 || b = 0x5E || b = 0x5F then (some data, .hidden)
      else if b = 0x5B then (some control, .hidden)
      else if b = 0x5D then (some command, .hidden)
      else if isBetween 0x30 0x7E b then (some ground, .hidden)
      else (none, .hidden)
    | escapeMarks =>
      if isControl b then (none, .executed)
      else if isBetween 0x30 0x7E b then (some ground, .hidden)
      else (none, .hidden)
    | control =>
      if isControl b then (none, .executed)
      else if isBetween 0x40 0x7E b then (some ground, .hidden)
      else (none, .hidden)
    | device =>
      if isBetween 0x20 0x2F b then (some deviceMarks, .hidden)
      else if isBetween 0x30 0x3F b then (some deviceNumbers, .hidden)
      else (if isBetween 0x40 0x7E b then some data else none, .hidden)
    | deviceNumbers =>
      if isBetween 0x20 0x2F b then (some deviceMarks, .hidden)
      else (if isBetween 0x3C 0x7E b then some data else none, .hidden)
    | deviceMarks => (if isBetween 0x30 0x7E b then some data else none, .hidden)
    | data => (if b = 0x9C then some ground else none, .hidden)
    | command => (if b = 0x07 then some ground else none, .hidden)

/-- Blanks are left, as is all that is shown but the delete character. -/
def isLeft (e : Effect) (b : UInt8) : Bool :=
  match e with
  | .shown => b != 0x7F
  | .executed => [0x09, 0x0A, 0x0C, 0x0D].contains b
  | .hidden => false

/-- How many bytes follow the first one of a character. -/
def following (b : UInt8) : Nat :=
  if b < 0xE0 then 1 else if b < 0xF0 then 2 else 3

/-- The bytes that are left. While they are hidden the sequence decides about each of them; from
the first that is left on they are taken as they come, until one is not. A sequence that a blank
interrupts is taken up again only then. -/
def visible : Sequence → Bool → Nat → List UInt8 → List UInt8
  | _, _, _, [] => []
  | _, _, missing + 1, b :: rest => b :: visible .ground true missing rest
  | s, isShowing, 0, b :: rest =>
    let first := s.react b
    let later := first.1.getD s
    if isShowing then
      let plain := ground.react b
      let later := plain.1.getD s
      if later = character then b :: visible .ground true (following b) rest
      else if isLeft plain.2 b then b :: visible later true 0 rest
      else visible ((later.react b).1.getD later) false 0 rest
    else if isLeft first.2 b then
      if later = character then b :: visible .ground true (following b) rest
      else b :: visible later true 0 rest
    else visible later false 0 rest

theorem react_ground {b : UInt8} (h : isBetween 0x20 0x7E b) :
    ground.react b = (none, .shown) := by
  have hb : 0x20 ≤ b.toNat ∧ b.toNat ≤ 0x7E := by simpa [isBetween] using h
  have h18 : b ≠ 0x18 := by rintro rfl; revert hb; decide
  have h1a : b ≠ 0x1A := by rintro rfl; revert hb; decide
  have h1b : b ≠ 0x1B := by rintro rfl; revert hb; decide
  have hc : isControl b = false := by
    simp only [isControl, decide_eq_false_iff_not]
    omega
  have hp : isBetween 0x20 0x7F b = true := by
    simp only [isBetween, Bool.and_eq_true, decide_eq_true_eq]
    omega
  simp [react, h18, h1a, h1b, hc, hp]

/-- Nothing is taken out of plain text. -/
theorem visible_of_plain (isShowing : Bool) {bytes : List UInt8}
    (h : ∀ b ∈ bytes, isBetween 0x20 0x7E b) : visible .ground isShowing 0 bytes = bytes := by
  induction bytes generalizing isShowing with
  | nil => simp [visible]
  | cons b rest ih =>
    have hb := react_ground (h b List.mem_cons_self)
    have hl : isLeft .shown b = true := by
      have : b ≠ 0x7F := by
        rintro rfl
        exact absurd (h _ List.mem_cons_self) (by decide)
      simpa [isLeft] using this
    have ih := ih true fun c hc => h c (List.mem_cons_of_mem b hc)
    cases isShowing <;> simp [visible, hb, hl, ih]

end Sequence

/-- A text without what a terminal would not show. -/
def visible (text : String) : String :=
  (String.fromUTF8? ⟨(Sequence.visible .ground false 0 text.toUTF8.toList).toArray⟩).getD ""

end StreamingChat.Terminal
