import StreamingChat.Text.Blank

/-!
The address of a backend, as far as it has to be one to ask for a WebSocket there: a scheme, an
authority, which names the host, and a path with a query. Only a host alone needs no scheme.
-/

namespace StreamingChat.Link.Address

inductive Problem where
  | empty
  | tooLong
  | schemeTooLong
  | character
  | authority
  | format
  | noHost
  deriving DecidableEq, Repr

def Problem.message : Problem → String
  | empty => "HTTP format error: empty string"
  | tooLong => "HTTP format error: uri too long"
  | schemeTooLong => "HTTP format error: scheme too long"
  | character => "HTTP format error: invalid uri character"
  | authority => "HTTP format error: invalid authority"
  | format => "HTTP format error: invalid format"
  | noHost => "URL error: No host name in the URL"

/-- The bytes that an address may have. -/
def sizeLimit : Nat := 65534

def schemeLimit : Nat := 64

/-- The characters of an authority that need no escape. -/
def isAuthorityChar (c : Char) : Bool :=
  c.isAlphanum || ['!', '$', '&', '\'', '(', ')', '*', '+', ',', '-', '.', ':', ';', '=', '@',
    '[', ']', '_', '~'].contains c

def isSchemeChar (c : Char) : Bool :=
  c.isAlphanum || c == '+' || c == '-' || c == '.' || c == '~'

/-- The mark between two of the parts behind the scheme. -/
def isPartMark (c : Char) : Bool :=
  c == '/' || c == '?' || c == '#'

/-- What follows the scheme and two slashes, if there is a scheme. -/
def afterScheme? (text : List Char) : Except Problem (Option (List Char)) :=
  let scheme := text.takeWhile isSchemeChar
  match text.drop scheme.length with
  | ':' :: '/' :: '/' :: rest =>
    if scheme.isEmpty && rest.isEmpty then .ok none
    else if schemeLimit < scheme.length then .error .schemeTooLong
    else .ok (some rest)
  | _ => .ok none

/-! ## The authority -/

/-- What has been seen of an authority. -/
structure Scan where
  /-- Colons outside brackets and behind the user. -/
  colons : Nat := 0
  isOpened : Bool := false
  isClosed : Bool := false
  hasPercent : Bool := false
  endsUser : Bool := false

/-- An address between brackets has at most this many colons, its port included. -/
def colonLimit : Nat := 8

def Scan.step (s : Scan) (c : Char) : Except Problem Scan :=
  let s := { s with endsUser := c == '@' }
  if c = ':' then
    if s.colons < colonLimit then .ok { s with colons := s.colons + 1 } else .error .authority
  else if c = '[' then
    if s.hasPercent || s.isOpened then .error .authority else .ok { s with isOpened := true }
  else if c = ']' then
    if !s.isOpened || s.isClosed then .error .authority
    else .ok { s with isClosed := true, colons := 0, hasPercent := false }
  else if c = '@' then .ok { s with colons := 0, hasPercent := false }
  else if c = '%' then .ok { s with hasPercent := true }
  else if isAuthorityChar c then .ok s
  else .error .character

/-- Whether an authority may end: its brackets are paired, it has at most one port, something
follows the user, and only the user is escaped. -/
def Scan.isComplete (s : Scan) : Bool :=
  s.isOpened == s.isClosed && s.colons ≤ 1 && !s.endsUser && !s.hasPercent

/-- Splits off the authority. -/
def authority (text : List Char) : Except Problem (List Char × List Char) := do
  let name := text.takeWhile (!isPartMark ·)
  let scan ← name.foldlM Scan.step {}
  if scan.isComplete then return (name, text.drop name.length) else throw .authority

/-! ## Path and query -/

def isPathChar (c : Char) : Bool :=
  0x21 ≤ c.toNat && c != '<' && c != '>' && c != '\x60'

def isQueryChar (c : Char) : Bool :=
  0x21 ≤ c.toNat && c != '"' && c != '<' && c != '>'

/-- Nothing is asked of the fragment. -/
def checkPath (text : List Char) : Except Problem Unit :=
  let text := text.takeWhile (· != '#')
  let path := text.takeWhile (· != '?')
  let query := text.drop (path.length + 1)
  if path.all isPathChar && query.all isQueryChar then .ok () else .error .character

/-! ## The whole -/

def checkChars (text : List Char) : Except Problem Unit := do
  if text = ['/'] || text = ['*'] then throw .noHost
  else if text.head? = some '/' then
    checkPath text
    throw .noHost
  else
    match ← afterScheme? text with
    | some [] => throw .empty
    | some rest =>
      let (name, rest) ← authority rest
      if name.isEmpty then throw .format
      checkPath rest
    | none =>
      let (_, rest) ← authority text
      if !rest.isEmpty then throw (if text.length = 1 then .character else .format)

/-- The first problem of an address. -/
def problem? (text : String) : Option Problem :=
  if sizeLimit < text.utf8ByteSize then some .tooLong
  else if text.isEmpty then some .empty
  else
    match checkChars text.toList with
    | .ok () => none
    | .error p => some p

end StreamingChat.Link.Address
