import StreamingChat.Text.Alphanumeric
import StreamingChat.Text.Blank
import StreamingChat.Text.Digits

/-!
Which texts are patterns for the value of a field: literals, choices, repetitions, groups and
classes of characters. A brace closes the list of fields, so no pattern has counted repetitions.
Whatever would need a table of properties of characters is refused: classes of words, digits and
blanks, edges of words and the ignoring of case, unless a flag restricts the pattern to bytes. So is
a pattern whose parts are nested too deeply.
-/

namespace StreamingChat.Log.Pattern

/-- What the flags before a part of a pattern ask for. -/
structure Mode where
  caseless : Bool := false
  /-- Blanks and comments stand for nothing. -/
  spaced : Bool := false
  /-- The pattern is restricted to bytes. -/
  bytewise : Bool := false

/-- Drops the blanks and comments that stand for nothing. -/
def Mode.skip (m : Mode) (text : List Char) : List Char :=
  if m.spaced then outside text else text
where
  outside : List Char → List Char
    | [] => []
    | c :: rest =>
      if Text.isBlank c then outside rest else if c = '#' then comment rest else c :: rest
  comment : List Char → List Char
    | [] => []
    | c :: rest => if c = '\n' then outside rest else comment rest

/-- What a character or a class of them would need: the table of capitals and small letters. -/
def Mode.folds (m : Mode) : Bool :=
  m.caseless && !m.bytewise

/-! ## Nesting -/

/-- How deep the parts of a pattern may be nested. -/
def depthLimit : Nat := 250

/-- How deep what has been read of a group or a class is nested. Two or more parts in a row are
one level deeper than they are by themselves, and so are two or more choices. -/
structure Nest where
  /-- The parts of the choice that is being read. -/
  parts : Nat := 0
  last : Nat := 0
  deepest : Nat := 0
  /-- The depth of the choices before it. -/
  before : Option Nat := none

namespace Nest

def add (n : Nest) (depth : Nat) : Nest :=
  { n with parts := n.parts + 1, last := depth, deepest := max n.deepest depth }

/-- The last part is repeated. -/
def repeated (n : Nest) : Nest :=
  { n with last := n.last + 1, deepest := max n.deepest (n.last + 1) }

/-- The depth of the choice that is being read. -/
def choice (n : Nest) : Nat :=
  if n.parts ≤ 1 then n.deepest else n.deepest + 1

/-- The depth of everything. -/
def depth (n : Nest) : Nat :=
  match n.before with
  | none => n.choice
  | some d => max d n.choice + 1

/-- Another choice begins. -/
def alternate (n : Nest) : Nest where
  before := some (max (n.before.getD 0) n.choice)

/-- Another operand begins; what is before it is one operand. -/
def operate (n : Nest) : Nest where
  before := some n.depth

end Nest

/-! ## Flags -/

def flagLetters : List Char := ['i', 'm', 's', 'U', 'u', 'R', 'x']

/-- Each flag may be given once; those behind the minus sign are turned off. -/
def areFlags (flags : List Char) : Bool :=
  flags.all (fun c => c == '-' || flagLetters.contains c) &&
    flags.eraseDups.length == flags.length && flags.getLast? != some '-'

def Mode.set (m : Mode) (flags : List Char) : Mode :=
  let on := flags.takeWhile (· != '-')
  let value := fun (flag : Char) (before : Bool) =>
    if on.contains flag then true else if flags.contains flag then false else before
  { caseless := value 'i' m.caseless
    spaced := value 'x' m.spaced
    bytewise := !value 'u' (!m.bytewise) }

/-! ## Single characters -/

/-- What one character or one escape stands for. -/
inductive Atom where
  | literal (code : Nat)
  /-- One byte, given by its code. -/
  | byte (code : Nat)
  /-- A class by its letter; a capital one means all other characters. -/
  | category (isComplement : Bool)
  | wordEdge
  | textEdge
  deriving DecidableEq, Repr

def Atom.code? : Atom → Option Nat
  | .literal code | .byte code => some code
  | _ => none

/-- Whether a mode allows an atom by itself. -/
def Mode.allows (m : Mode) : Atom → Bool
  | .literal code => !m.caseless || (m.bytewise && code < 128)
  | .byte code => if m.bytewise then code < 128 else !m.caseless
  | .category isComplement => m.bytewise && !isComplement
  | .wordEdge => m.bytewise
  | .textEdge => true

/-- Whether a mode allows an atom between brackets. -/
def Mode.allowsMember (m : Mode) : Atom → Bool
  | .literal code | .byte code => !m.folds && (!m.bytewise || code < 128)
  | .category isComplement => m.bytewise && !isComplement
  | .wordEdge | .textEdge => false

/-- Reads as many digits of base sixteen as asked for. -/
def Mode.hex? (m : Mode) : Nat → Nat → List Char → Option (Nat × List Char)
  | value, 0, text => some (value, text)
  | value, count + 1, text =>
    match m.skip text with
    | [] => none
    | c :: rest => (Text.hexValue? c).bind fun digit => m.hex? (16 * value + digit) count rest

def isCode (n : Nat) : Bool :=
  n < 0xD800 || (0xDFFF < n && n < 0x110000)

/-- A character by the number of its digits. -/
def Mode.coded? (m : Mode) (count : Nat) (text : List Char) : Option (Atom × List Char) := do
  let (code, rest) ← m.hex? 0 count text
  if !isCode code then none
  else if count = 2 then return (.byte code, rest)
  else return (.literal code, rest)

/-- The letters that stand for a control character. -/
def controlCodes : List (Char × Nat) :=
  [('a', 7), ('t', 9), ('n', 10), ('v', 11), ('f', 12), ('r', 13)]

/-- Only marks can be escaped, besides the letters that have a meaning of their own. -/
def Mode.escape? (m : Mode) : List Char → Option (Atom × List Char)
  | [] => none
  | c :: rest =>
    match controlCodes.lookup c with
    | some code => some (.literal code, rest)
    | none =>
      if c = 'x' then m.coded? 2 rest
      else if c = 'u' then m.coded? 4 rest
      else if c = 'U' then m.coded? 8 rest
      else if ['d', 's', 'w'].contains c then some (.category false, rest)
      else if ['D', 'S', 'W'].contains c then some (.category true, rest)
      else if c = 'A' || c = 'z' then some (.textEdge, rest)
      else if c = 'b' && rest.head? = some '\x7b' then none
      else if ['b', 'B', '<', '>'].contains c then some (.wordEdge, rest)
      else if c.isAlphanum || 128 ≤ c.toNat then none
      else some (.literal c.toNat, rest)

/-! ## Classes between brackets -/

def classNames : List String :=
  ["alnum", "alpha", "ascii", "blank", "cntrl", "digit", "graph", "lower", "print", "punct",
    "space", "upper", "word", "xdigit"]

/-- A class by its name between colons; whether all other characters are meant. -/
def named? : List Char → Option (Bool × List Char)
  | '[' :: ':' :: text =>
    let isComplement := text.head? = some '^'
    let text := if isComplement then text.drop 1 else text
    let name := text.takeWhile (· != ':')
    match text.drop name.length with
    | ':' :: ']' :: rest =>
      if classNames.contains (String.ofList name) then some (isComplement, rest) else none
    | _ => none
  | _ => none

/-- Drops dashes, at most `fuel` of them, and counts them. -/
def Mode.dropDashes (m : Mode) : Nat → Nat → List Char → Nat × List Char
  | fuel + 1, count, '-' :: rest => m.dropDashes fuel (count + 1) (m.skip rest)
  | _, count, text => (count, text)

/-- Begins a class behind its bracket. Dashes at the beginning are literal, and so is a bracket that
would close the class at once. -/
def Mode.enter? (m : Mode) (text : List Char) : Option (Nest × List Char) :=
  let text := m.skip text
  let isComplement := text.head? = some '^'
  let text := if isComplement then m.skip (text.drop 1) else text
  let (literals, inner) :=
    match text with
    | ']' :: rest => (1, m.skip rest)
    | _ => m.dropDashes text.length 0 text
  if inner.isEmpty || (isComplement && m.bytewise) || (m.folds && 0 < literals) then none
  else some ({ parts := literals }, inner)

/-- One character of a class. -/
def Mode.member? (m : Mode) : List Char → Option (Atom × List Char)
  | [] => none
  | '\\' :: rest => m.escape? rest
  | c :: rest => some (.literal c.toNat, rest)

/-- The character that decides what a dash is: the next one but blanks, and but the mark of a
comment. -/
def Mode.peek? (m : Mode) (text : List Char) : Option Char :=
  if m.spaced then
    match text.dropWhile Text.isBlank with
    | '#' :: rest => (rest.dropWhile Text.isBlank).head?
    | text => text.head?
  else text.head?

/-- One character of a class or a range of them. A dash before the closing bracket is literal, and
two dashes are an operation. -/
def Mode.range? (m : Mode) (text : List Char) : Option (List Char) := do
  let (first, rest) ← m.member? text
  let rest := m.skip rest
  let isRange := rest.head? = some '-' &&
    !([some ']', some '-'].contains (m.peek? (rest.drop 1)))
  if isRange then
    let (last, rest) ← m.member? (m.skip (rest.drop 1))
    let low ← first.code?
    let high ← last.code?
    if low ≤ high && m.allowsMember first && m.allowsMember last then some rest else none
  else if m.allowsMember first then some rest else none

/-- Reads a class to its end, with the classes around it. -/
def Mode.bracket? (m : Mode) : Nat → Nest → List Nest → List Char → Option (Nat × List Char)
  | 0, _, _, _ => none
  | fuel + 1, nest, outer, text =>
    match m.skip text with
    | [] => none
    | '[' :: rest =>
      match named? ('[' :: rest) with
      | some (isComplement, rest) =>
        if m.folds || (isComplement && m.bytewise) then none
        else m.bracket? fuel (nest.add 0) outer rest
      | none => (m.enter? rest).bind fun inner => m.bracket? fuel inner.1 (nest :: outer) inner.2
    | ']' :: rest =>
      match outer with
      | [] => some (nest.depth + 1, rest)
      | around :: outer => m.bracket? fuel (around.add (nest.depth + 1)) outer rest
    | '&' :: '&' :: rest | '-' :: '-' :: rest | '~' :: '~' :: rest =>
      m.bracket? fuel nest.operate outer rest
    | text => (m.range? text).bind (m.bracket? fuel (nest.add 0) outer)

/-! ## The whole -/

/-- Where the reading of a pattern stands. -/
structure Scan where
  mode : Mode := {}
  nest : Nest := {}
  /-- What to return to where the open groups end. -/
  outer : List (Mode × Nest) := []
  /-- Whether there is something that a repetition can repeat. -/
  isRepeatable : Bool := false
  /-- The names of groups. -/
  names : List (List Char) := []

namespace Scan

/-- Adds a part that can be repeated. -/
def add (s : Scan) (depth : Nat) : Scan :=
  { s with nest := s.nest.add depth, isRepeatable := true }

def atom? (s : Scan) (a : Atom) (rest : List Char) : Option (Scan × List Char) :=
  if s.mode.allows a then some (s.add 0, rest) else none

/-- Enters a group in which a mode holds. -/
def enter (s : Scan) (m : Mode) : Scan :=
  { s with mode := m, nest := {}, outer := (s.mode, s.nest) :: s.outer, isRepeatable := false }

/-- Leaves a group. -/
def leave? (s : Scan) : Option Scan :=
  match s.outer with
  | [] => none
  | (mode, nest) :: outer => some ({ s with mode, nest, outer }.add (s.nest.depth + 1))

def isName (s : Scan) (name : List Char) : Bool :=
  name.head?.any (fun c => c == '_' || Text.isAlphabetic c) &&
    name.all (fun c => ['_', '.', '[', ']'].contains c || Text.isAlphanumeric c) &&
    !s.names.contains name

/-- A group with a name, which ends at an angle. -/
def named? (s : Scan) (text : List Char) : Option (Scan × List Char) :=
  let name := text.takeWhile (· != '>')
  if s.isName name && name.length < text.length then
    some ({ s.enter s.mode with names := name :: s.names }, text.drop (name.length + 1))
  else none

/-- Flags for a group, or for the rest of the group around them. -/
def flags? (s : Scan) (text : List Char) : Option (Scan × List Char) :=
  let flags := text.takeWhile fun c => c != ':' && c != ')'
  let mode := s.mode.set flags
  match text.drop flags.length with
  | ':' :: rest => if areFlags flags then some (s.enter mode, rest) else none
  | _ :: rest =>
    if areFlags flags && !flags.isEmpty then
      some ({ s with mode, nest := s.nest.add 0, isRepeatable := false }, rest)
    else none
  | [] => none

/-- What follows the parenthesis that opens a group. There is no looking ahead or back. -/
def group? (s : Scan) (text : List Char) : Option (Scan × List Char) :=
  match s.mode.skip text with
  | '?' :: '=' :: _ | '?' :: '!' :: _ | '?' :: '<' :: '=' :: _ | '?' :: '<' :: '!' :: _ => none
  | '?' :: 'P' :: '<' :: rest | '?' :: '<' :: rest => s.named? rest
  | '?' :: rest => s.flags? rest
  | rest => some (s.enter s.mode, rest)

/-- Reads on; `text` does not begin with what stands for nothing. -/
def step? (s : Scan) : List Char → Option (Scan × List Char)
  | [] => none
  | '(' :: rest => s.group? rest
  | ')' :: rest => s.leave?.map (·, rest)
  | '|' :: rest => some ({ s with nest := s.nest.alternate, isRepeatable := false }, rest)
  | '[' :: rest =>
    (s.mode.enter? rest).bind fun inner =>
      (s.mode.bracket? (rest.length + 1) inner.1 [] inner.2).map fun c => (s.add c.1, c.2)
  | '\\' :: rest => (s.mode.escape? rest).bind fun atom => s.atom? atom.1 atom.2
  | '.' :: rest => if s.mode.bytewise then none else some (s.add 0, rest)
  | '^' :: rest | '$' :: rest => s.atom? .textEdge rest
  | c :: rest =>
    if c = '\x7b' then none
    else if c = '?' || c = '*' || c = '+' then
      if s.isRepeatable then
        some ({ s with nest := s.nest.repeated },
          if rest.head? = some '?' then rest.drop 1 else rest)
      else none
    else s.atom? (.literal c.toNat) rest

/-- Reads to the end, where no group may be open. -/
def isComplete : Nat → Scan → List Char → Bool
  | 0, _, _ => false
  | fuel + 1, s, text =>
    match s.mode.skip text with
    | [] => s.outer.isEmpty && s.nest.depth ≤ depthLimit
    | text =>
      match s.step? text with
      | some (s, rest) => isComplete fuel s rest
      | none => false

end Scan

/-- Whether a text is a pattern. Every step reads at least one character. -/
def isPattern (text : List Char) : Bool :=
  Scan.isComplete (text.length + 1) {} text

end StreamingChat.Log.Pattern
