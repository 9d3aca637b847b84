import StreamingChat.Text.Digits

/-!
The body of a JSON string. A quote, a backslash and the control characters are escaped and all
else stands for itself; reading accepts every escape of the format and refuses raw control
characters and surrogates that do not form a pair.
-/

namespace StreamingChat.Json.Escape

open StreamingChat.Text (hexDigit hexValue?)

/-- The escapes with a letter of their own come first; a control character without one is written
with four hexadecimal digits. -/
def encodeChar (c : Char) : List Char :=
  if c = '"' then ['\\', '"']
  else if c = '\\' then ['\\', '\\']
  else if c = '\x08' then ['\\', 'b']
  else if c = '\t' then ['\\', 't']
  else if c = '\n' then ['\\', 'n']
  else if c = '\x0c' then ['\\', 'f']
  else if c = '\r' then ['\\', 'r']
  else if c.toNat < 0x20 then
    ['\\', 'u', '0', '0', hexDigit (c.toNat / 16), hexDigit (c.toNat % 16)]
  else [c]

def encode (text : List Char) : List Char :=
  text.flatMap encodeChar

/-- Four hexadecimal digits as one 16-bit unit. -/
def unit? (a b c d : Char) : Option Nat :=
  match hexValue? a, hexValue? b, hexValue? c, hexValue? d with
  | some a, some b, some c, some d => some (((a * 16 + b) * 16 + c) * 16 + d)
  | _, _, _, _ => none

def isHighSurrogate (unit : Nat) : Bool :=
  0xD800 ≤ unit && unit < 0xDC00

def isLowSurrogate (unit : Nat) : Bool :=
  0xDC00 ≤ unit && unit < 0xE000

def joinSurrogates (high low : Nat) : Char :=
  Char.ofNat (0x10000 + (high - 0xD800) * 0x400 + (low - 0xDC00))

/-- The character a one-letter escape stands for. -/
def letter? (c : Char) : Option Char :=
  if c = '"' then some '"'
  else if c = '\\' then some '\\'
  else if c = '/' then some '/'
  else if c = 'b' then some '\x08'
  else if c = 'f' then some '\x0c'
  else if c = 'n' then some '\n'
  else if c = 'r' then some '\r'
  else if c = 't' then some '\t'
  else none

/-- A high surrogate waits for the low one that must follow it. -/
def decodeAfter : Option Nat → List Char → Option (List Char)
  | none, [] => some []
  | some _, [] => none
  | high, '\\' :: 'u' :: a :: b :: c :: d :: rest =>
    match unit? a b c d, high with
    | none, _ => none
    | some unit, some high =>
      if isLowSurrogate unit then (joinSurrogates high unit :: ·) <$> decodeAfter none rest
      else none
    | some unit, none =>
      if isHighSurrogate unit then decodeAfter (some unit) rest
      else if isLowSurrogate unit then none
      else (Char.ofNat unit :: ·) <$> decodeAfter none rest
  | none, '\\' :: c :: rest =>
    match letter? c with
    | some decoded => (decoded :: ·) <$> decodeAfter none rest
    | none => none
  | none, c :: rest =>
    if c = '\\' || c = '"' || c.toNat < 0x20 then none else (c :: ·) <$> decodeAfter none rest
  | some _, _ :: _ => none

/-- The text a string body stands for. -/
def decode (body : List Char) : Option (List Char) :=
  decodeAfter none body

end StreamingChat.Json.Escape
