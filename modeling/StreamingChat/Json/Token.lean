import StreamingChat.Json.Escape
import StreamingChat.Json.Number

/-!
The tokens of JSON text. A document is written as its tokens with nothing between them; reading
cuts a text at spaces, punctuation and quotes, so that a number or a keyword is a maximal run of
other characters.
-/

namespace StreamingChat.Json

inductive Token where
  | openArray
  | closeArray
  | openObject
  | closeObject
  | comma
  | colon
  | null
  | bool (b : Bool)
  | number (n : Number)
  | text (s : String)

namespace Token

def trueChars : List Char := ['t', 'r', 'u', 'e']

def falseChars : List Char := ['f', 'a', 'l', 's', 'e']

def nullChars : List Char := ['n', 'u', 'l', 'l']

def quote (s : String) : List Char :=
  '"' :: Escape.encode s.toList ++ ['"']

def chars : Token → List Char
  | openArray => ['[']
  | closeArray => [']']
  | openObject => ['\x7b']
  | closeObject => ['\x7d']
  | comma => [',']
  | colon => [':']
  | null => nullChars
  | bool true => trueChars
  | bool false => falseChars
  | number n => n.chars
  | text s => quote s

/-- A maximal run of characters that are no space, punctuation or quote. -/
def ofWord? (word : List Char) : Option Token :=
  if word = nullChars then some null
  else if word = trueChars then some (bool true)
  else if word = falseChars then some (bool false)
  else (Number.ofChars? word).map number

/-- What a character is to the scan. -/
inductive Role where
  | space
  | quote
  | mark (t : Token)
  | other

def Role.of (c : Char) : Role :=
  if c = ' ' || c = '\n' || c = '\t' || c = '\r' then space
  else if c = '"' then quote
  else if c = '[' then mark openArray
  else if c = ']' then mark closeArray
  else if c = '\x7b' then mark openObject
  else if c = '\x7d' then mark closeObject
  else if c = ',' then mark comma
  else if c = ':' then mark colon
  else other

/-- Where the scan stands, with what has been read of a word or a quoted text, newest first. -/
inductive Scan where
  | plain (word : List Char)
  | quoted (body : List Char)

/-- Puts the token of the word that has just ended before the later ones. -/
def endWord (word : List Char) (later : Option (List Token)) : Option (List Token) :=
  match word with
  | [] => later
  | _ => do
    let t ← ofWord? word.reverse
    let ts ← later
    return t :: ts

def scanFrom : Scan → List Char → Option (List Token)
  | .plain word, [] => endWord word (some [])
  | .plain word, c :: rest =>
    match Role.of c with
    | .space => endWord word (scanFrom (.plain []) rest)
    | .quote => endWord word (scanFrom (.quoted []) rest)
    | .mark t => endWord word ((t :: ·) <$> scanFrom (.plain []) rest)
    | .other => scanFrom (.plain (c :: word)) rest
  | .quoted _, [] => none
  | .quoted body, '\\' :: c :: rest => scanFrom (.quoted (c :: '\\' :: body)) rest
  | .quoted body, c :: rest =>
    if c = '"' then do
      let s ← Escape.decode body.reverse
      let later ← scanFrom (.plain []) rest
      return .text (String.ofList s) :: later
    else scanFrom (.quoted (c :: body)) rest

/-- The tokens of a text. -/
def scan (text : List Char) : Option (List Token) :=
  scanFrom (.plain []) text

end Token

mutual

/-- The tokens a document is written with. -/
def tokens : Json → List Token
  | .null => [.null]
  | .bool b => [.bool b]
  | .number n => [.number n]
  | .string s => [.text s]
  | .array items => .openArray :: itemTokens items
  | .object members => .openObject :: memberTokens members

/-- The items of an array and its closing bracket. -/
def itemTokens : List Json → List Token
  | [] => [.closeArray]
  | j :: rest => j.tokens ++ laterItemTokens rest

/-- The items after the first one, each with the comma before it. -/
def laterItemTokens : List Json → List Token
  | [] => [.closeArray]
  | j :: rest => .comma :: j.tokens ++ laterItemTokens rest

/-- The members of an object and its closing brace. -/
def memberTokens : List (String × Json) → List Token
  | [] => [.closeObject]
  | (name, j) :: rest => .text name :: .colon :: j.tokens ++ laterMemberTokens rest

/-- The members after the first one, each with the comma before it. -/
def laterMemberTokens : List (String × Json) → List Token
  | [] => [.closeObject]
  | (name, j) :: rest => .comma :: .text name :: .colon :: j.tokens ++ laterMemberTokens rest

end

/-- The compact text of a document: no spaces, members in their order. -/
def chars (j : Json) : List Char :=
  j.tokens.flatMap Token.chars

def render (j : Json) : String :=
  String.ofList j.chars

end StreamingChat.Json
