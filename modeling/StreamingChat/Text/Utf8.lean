/-!
Reading UTF-8 bytes as text. Where the bytes go wrong is reported with the position and the length
of the longest piece that cannot be the beginning of a character.
-/

namespace StreamingChat.Text.Utf8

inductive Fault where
  | invalid (length index : Nat)
  /-- The bytes end within a character. -/
  | incomplete (index : Nat)
  deriving DecidableEq, Repr

def Fault.message : Fault → String
  | invalid length index =>
    "invalid utf-8 sequence of " ++ toString length ++ " bytes from index " ++ toString index
  | incomplete index => "incomplete utf-8 byte sequence from index " ++ toString index

/-- The first byte of a character says how many follow, and what the first of them may be. -/
structure Lead where
  /-- The bits of the character in the first byte. -/
  bits : Nat
  following : Nat
  low : Nat := 0x80
  high : Nat := 0xBF

def lead? (b : UInt8) : Option Lead :=
  let n := b.toNat
  if n < 0x80 then some { bits := n, following := 0 }
  else if 0xC2 ≤ n ∧ n ≤ 0xDF then some { bits := n - 0xC0, following := 1 }
  else if n = 0xE0 then some { bits := 0, following := 2, low := 0xA0 }
  else if n = 0xED then some { bits := 0x0D, following := 2, high := 0x9F }
  else if 0xE1 ≤ n ∧ n ≤ 0xEF then some { bits := n - 0xE0, following := 2 }
  else if n = 0xF0 then some { bits := 0, following := 3, low := 0x90 }
  else if n = 0xF4 then some { bits := 4, following := 3, high := 0x8F }
  else if 0xF1 ≤ n ∧ n ≤ 0xF3 then some { bits := n - 0xF0, following := 3 }
  else none

/-- A character of which `taken` bytes have been read. -/
structure Partial where
  bits : Nat
  taken : Nat
  missing : Nat
  low : Nat
  high : Nat

/-- Reads on at an index, in the middle of a character or between two. -/
def decodeFrom : Nat → Option Partial → List UInt8 → Except Fault (List Char)
  | _, none, [] => .ok []
  | index, some p, [] => .error (.incomplete (index - p.taken))
  | index, none, b :: rest =>
    match lead? b with
    | none => .error (.invalid 1 index)
    | some l =>
      if l.following = 0 then (Char.ofNat l.bits :: ·) <$> decodeFrom (index + 1) none rest
      else decodeFrom (index + 1) (some ⟨l.bits, 1, l.following, l.low, l.high⟩) rest
  | index, some p, b :: rest =>
    let n := b.toNat
    if p.low ≤ n ∧ n ≤ p.high then
      let bits := p.bits * 64 + (n - 0x80)
      if p.missing = 1 then (Char.ofNat bits :: ·) <$> decodeFrom (index + 1) none rest
      else decodeFrom (index + 1) (some ⟨bits, p.taken + 1, p.missing - 1, 0x80, 0xBF⟩) rest
    else .error (.invalid p.taken (index - p.taken))

/-- The text of some bytes. -/
def decode (bytes : List UInt8) : Except Fault String :=
  String.ofList <$> decodeFrom 0 none bytes

end StreamingChat.Text.Utf8
