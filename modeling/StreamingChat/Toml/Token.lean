import StreamingChat.Text.Blank
import StreamingChat.Text.Digits

/-!
The tokens of TOML text. Words are runs of the characters that keys without quotes and values
without quotes are made of; comments are dropped; a line ends with a line feed, before which a
carriage return does not count.
-/

namespace StreamingChat.Toml

inductive Token where
  | blank
  | newline
  | equals
  | dot
  | comma
  | openBracket
  | closeBracket
  | openBrace
  | closeBrace
  | word (chars : List Char)
  /-- A quoted text on one line, which may be a key. -/
  | quoted (s : String)
  /-- A text in triple quotes. -/
  | lines (s : String)

namespace Token

/-- Line ends of two characters become one. -/
def joinLineEnds : List Char → List Char
  | '\r' :: '\n' :: rest => '\n' :: joinLineEnds rest
  | c :: rest => c :: joinLineEnds rest
  | [] => []

/-- The characters of comments and quoted texts: no control character but the tab. -/
def isPrintable (c : Char) : Bool :=
  c == '\t' || (0x20 ≤ c.toNat && c.toNat != 0x7F)

def isWordChar (c : Char) : Bool :=
  c.isAlphanum || c == '_' || c == '-' || c == '+' || c == ':'

def isBareChar (c : Char) : Bool :=
  c.isAlphanum || c == '_' || c == '-'

/-- The character a one-letter escape stands for. -/
def letter? (c : Char) : Option Char :=
  match c with
  | '"' => some '"'
  | '\\' => some '\\'
  | 'b' => some '\x08'
  | 'f' => some '\x0c'
  | 'n' => some '\n'
  | 'r' => some '\r'
  | 't' => some '\t'
  | _ => none

/-- The character with a code that is given in hexadecimal digits. -/
def coded? (digits : List Char) : Option Char :=
  let n := Text.valueOf 16 digits
  if h : digits.all (Text.isDigitOf 16) = true ∧ n.isValidChar then
    some (Char.ofNatAux n h.2)
  else none

/-- Drops the blanks up to the end of a line and all blanks and line ends after it. -/
def skipLineEnd? (text : List Char) : Option (List Char) :=
  match text.dropWhile fun c => c == ' ' || c == '\t' with
  | '\n' :: rest => some (rest.dropWhile fun c => c == ' ' || c == '\t' || c == '\n')
  | _ => none

theorem length_skipLineEnd? {text rest : List Char} (h : skipLineEnd? text = some rest) :
    rest.length < text.length := by
  unfold skipLineEnd? at h
  split at h
  · next tail heq =>
    cases h
    have outer := (List.dropWhile_sublist (l := text) fun c => c == ' ' || c == '\t').length_le
    have inner := (List.dropWhile_sublist (l := tail) fun c =>
      c == ' ' || c == '\t' || c == '\n').length_le
    rw [heq] at outer
    simp only [List.length_cons] at outer
    omega
  · cases h

/-- What follows an escaped line end, where lines may be joined. -/
def joined? (joins : Bool) (text : List Char) : Option (List Char) :=
  if joins then skipLineEnd? text else none

theorem length_joined? {joins : Bool} {text rest : List Char} (h : joined? joins text = some rest) :
    rest.length < text.length := by
  unfold joined? at h
  split at h
  · exact length_skipLineEnd? h
  · cases h

/-- The text that the body of a quoted text stands for. Where lines may be joined, an escaped line
end and the blanks around it are dropped. -/
def unescape? (joins : Bool) : List Char → Option (List Char)
  | [] => some []
  | '\\' :: 'u' :: a :: b :: c :: d :: rest => do
    let decoded ← coded? [a, b, c, d]
    return decoded :: (← unescape? joins rest)
  | '\\' :: 'U' :: a :: b :: c :: d :: e :: f :: g :: h :: rest => do
    let decoded ← coded? [a, b, c, d, e, f, g, h]
    return decoded :: (← unescape? joins rest)
  | '\\' :: c :: rest =>
    match _joined : joined? joins (c :: rest) with
    | some rest => unescape? joins rest
    | none => do
      let decoded ← letter? c
      return decoded :: (← unescape? joins rest)
  | c :: rest => if c = '\\' then none else (c :: ·) <$> unescape? joins rest
termination_by text => text.length
decreasing_by
  all_goals simp_wf
  all_goals try omega
  have := length_joined? _joined
  simp only [List.length_cons] at this
  omega

/-- Where the scan stands, with what has been read of a word or a quoted text, newest first. -/
inductive Scan where
  | plain (read : List Char)
  | comment
  | basic (body : List Char)
  | literal (body : List Char)
  | basicLines (body : List Char)
  | literalLines (body : List Char)

/-- The token of a character that is one by itself. -/
def mark? (c : Char) : Option Token :=
  match c with
  | ' ' | '\t' => some blank
  | '\n' => some newline
  | '=' => some equals
  | '.' => some dot
  | ',' => some comma
  | '[' => some openBracket
  | ']' => some closeBracket
  | '\x7b' => some openBrace
  | '\x7d' => some closeBrace
  | _ => none

/-- Whether a word has the shape of a date without a time. -/
def isDate (read : List Char) : Bool :=
  match read.reverse with
  | [a, b, c, d, '-', e, f, '-', g, h] => [a, b, c, d, e, f, g, h].all Char.isDigit
  | _ => false

/-- Puts the word that has just ended before the later tokens. -/
def endWord (read : List Char) (later : Option (List Token)) : Option (List Token) :=
  if read.isEmpty then later else (word read.reverse :: ·) <$> later

/-- A line end right after the opening quotes does not belong to the text. -/
def dropFirstLineEnd (body : List Char) : List Char :=
  match body with
  | '\n' :: rest => rest
  | _ => body

def basicToken? (body : List Char) : Option Token :=
  (unescape? false body.reverse).map (quoted <| String.ofList ·)

def basicLinesToken? (body : List Char) : Option Token :=
  (unescape? true (dropFirstLineEnd body.reverse)).map (lines <| String.ofList ·)

def literalToken (body : List Char) : Token :=
  quoted (String.ofList body.reverse)

def literalLinesToken (body : List Char) : Token :=
  lines (String.ofList (dropFirstLineEnd body.reverse))

/-- Puts a token that may be ill-formed before the later ones. -/
def before (t : Option Token) (later : Option (List Token)) : Option (List Token) := do
  let t ← t
  let ts ← later
  return t :: ts

/-- Up to two quotes may stand right before the three that end a text. The blank between a date and
a time belongs to the word. -/
def scanFrom : Scan → List Char → Option (List Token)
  | .plain read, [] => endWord read (some [])
  | .plain read, '"' :: '"' :: '"' :: rest => endWord read (scanFrom (.basicLines []) rest)
  | .plain read, '\'' :: '\'' :: '\'' :: rest => endWord read (scanFrom (.literalLines []) rest)
  | .plain read, ' ' :: c :: rest =>
    if isDate read && c.isDigit then scanFrom (.plain (c :: ' ' :: read)) rest
    else endWord read ((blank :: ·) <$> scanFrom (.plain []) (c :: rest))
  | .plain read, c :: rest =>
    if isWordChar c then scanFrom (.plain (c :: read)) rest
    else if c = '"' then endWord read (scanFrom (.basic []) rest)
    else if c = '\'' then endWord read (scanFrom (.literal []) rest)
    else if c = '#' then endWord read (scanFrom .comment rest)
    else endWord read (before (mark? c) (scanFrom (.plain []) rest))
  | .comment, [] => some []
  | .comment, c :: rest =>
    if c = '\n' then (newline :: ·) <$> scanFrom (.plain []) rest
    else if isPrintable c then scanFrom .comment rest
    else none
  | .basic body, '\\' :: c :: rest =>
    if isPrintable c then scanFrom (.basic (c :: '\\' :: body)) rest else none
  | .basic body, c :: rest =>
    if c = '"' then before (basicToken? body) (scanFrom (.plain []) rest)
    else if isPrintable c then scanFrom (.basic (c :: body)) rest
    else none
  | .literal body, c :: rest =>
    if c = '\'' then (literalToken body :: ·) <$> scanFrom (.plain []) rest
    else if isPrintable c then scanFrom (.literal (c :: body)) rest
    else none
  | .basicLines body, '"' :: '"' :: '"' :: '"' :: '"' :: rest =>
    before (basicLinesToken? ('"' :: '"' :: body)) (scanFrom (.plain []) rest)
  | .basicLines body, '"' :: '"' :: '"' :: '"' :: rest =>
    before (basicLinesToken? ('"' :: body)) (scanFrom (.plain []) rest)
  | .basicLines body, '"' :: '"' :: '"' :: rest =>
    before (basicLinesToken? body) (scanFrom (.plain []) rest)
  | .basicLines body, '\\' :: c :: rest =>
    if isPrintable c || c == '\n' then scanFrom (.basicLines (c :: '\\' :: body)) rest else none
  | .basicLines body, c :: rest =>
    if isPrintable c || c == '\n' then scanFrom (.basicLines (c :: body)) rest else none
  | .literalLines body, '\'' :: '\'' :: '\'' :: '\'' :: '\'' :: rest =>
    (literalLinesToken ('\'' :: '\'' :: body) :: ·) <$> scanFrom (.plain []) rest
  | .literalLines body, '\'' :: '\'' :: '\'' :: '\'' :: rest =>
    (literalLinesToken ('\'' :: body) :: ·) <$> scanFrom (.plain []) rest
  | .literalLines body, '\'' :: '\'' :: '\'' :: rest =>
    (literalLinesToken body :: ·) <$> scanFrom (.plain []) rest
  | .literalLines body, c :: rest =>
    if isPrintable c || c == '\n' then scanFrom (.literalLines (c :: body)) rest else none
  | .basic _, [] | .literal _, [] | .basicLines _, [] | .literalLines _, [] => none

/-- The tokens of a text; a byte order mark may come first. -/
def scan (text : List Char) : Option (List Token) :=
  scanFrom (.plain []) <| joinLineEnds <|
    match text with
    | '\uFEFF' :: rest => rest
    | _ => text

end Token

end StreamingChat.Toml
