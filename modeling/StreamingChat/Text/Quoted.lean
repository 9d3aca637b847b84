import StreamingChat.Text.Digits
import StreamingChat.Text.Unmarked

/-!
Text between quotes for readers of a log. Quotes and backslashes are escaped, common controls have
a letter, and any other character without a mark of its own is given by its code.
-/

namespace StreamingChat.Text.Quoted

/-- The hexadecimal digits of a number. -/
def hexChars (n : Nat) : List Char :=
  (Nat.toDigits 16 n)

def encodeChar (c : Char) : List Char :=
  if c = '"' then ['\\', '"']
  else if c = '\\' then ['\\', '\\']
  else if c = '\t' then ['\\', 't']
  else if c = '\n' then ['\\', 'n']
  else if c = '\r' then ['\\', 'r']
  else if c = '\x00' then ['\\', '0']
  else if isUnmarked c then ['\\', 'u', '\x7b'] ++ hexChars c.toNat ++ ['\x7d']
  else [c]

def encode (text : String) : String :=
  String.ofList ('"' :: text.toList.flatMap encodeChar ++ ['"'])

end StreamingChat.Text.Quoted
