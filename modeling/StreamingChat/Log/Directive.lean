import StreamingChat.Decimal.Shortest
import StreamingChat.Log.Level
import StreamingChat.Log.Pattern
import StreamingChat.Text.Cut

/-!
The directives of a filter. A directive gives a level to the targets that begin with a text, and may
ask besides for a span with a name and for fields with certain values:
`target[span{field=value}]=level`, where every part may be missing.
-/

namespace StreamingChat.Log

/-- What the value of a field is compared with. -/
inductive Operand where
  | bool (b : Bool)
  | decimal (x : Float)
  | notANumber
  | unsigned (n : Nat)
  | signed (n : Int)
  | pattern (text : String)

namespace Operand

/-- The sign of a number, whether it is a minus, and what follows it. -/
def signed? : List Char → Bool × List Char
  | '-' :: rest => (true, rest)
  | '+' :: rest => (false, rest)
  | text => (false, text)

def natural? (digits : List Char) : Option Nat :=
  if digits.isEmpty || !digits.all Char.isDigit then none
  else some (Nat.ofDigitChars 10 digits 0)

/-- Whole numbers have 64 bits. -/
def integer? (text : List Char) : Option Operand :=
  let parts := signed? text
  (natural? parts.2).bind fun n =>
    if parts.1 then if n ≤ 9223372036854775808 then some (.signed (-n)) else none
    else if n < 18446744073709551616 then some (.unsigned n)
    else none

/-- A decimal without its sign: digits with a point anywhere among them, and an exponent. -/
def positive? (text : List Char) : Option Float :=
  let isMark := fun c => c == 'e' || c == 'E'
  let mantissa := text.takeWhile fun c => !isMark c
  let whole := mantissa.takeWhile (· != '.')
  let fraction := (mantissa.drop whole.length).drop 1
  let power :=
    match text.drop mantissa.length with
    | [] => some 0
    | _ :: exponent =>
      let parts := signed? exponent
      (natural? parts.2).map fun n => if parts.1 then -(n : Int) else n
  match natural? (whole ++ fraction), power with
  | some digits, some power => some (Decimal.nearestDecimal digits (power - fraction.length))
  | _, _ => none

def decimal? (text : List Char) : Option Operand :=
  let parts := signed? text
  let name := parts.2.map Char.toLower
  let signed := fun x : Float => if parts.1 then -x else x
  if name = ['n', 'a', 'n'] then some .notANumber
  else if name = ['i', 'n', 'f'] || name = ['i', 'n', 'f', 'i', 'n', 'i', 't', 'y'] then
    some (.decimal (signed (1.0 / 0.0)))
  else (positive? parts.2).map fun x => .decimal (signed x)

def pattern? (text : List Char) : Option Operand :=
  if Pattern.isPattern text then some (.pattern (String.ofList text)) else none

/-- The first reading that fits. -/
def ofText? (text : List Char) : Option Operand :=
  if text = ['t', 'r', 'u', 'e'] then some (.bool true)
  else if text = ['f', 'a', 'l', 's', 'e'] then some (.bool false)
  else integer? text <|> decimal? text <|> pattern? text

/-- Decimals are written without an exponent. -/
def plainDigits (digits : List Char) (exponent : Int) : List Char :=
  let point : Int := digits.length + exponent
  let zeros := fun n : Int => List.replicate n.toNat '0'
  if 0 ≤ exponent then digits ++ zeros exponent
  else if 0 < point then digits.take point.toNat ++ '.' :: digits.drop point.toNat
  else '0' :: '.' :: zeros (-point) ++ digits

def decimalText (x : Float) : String :=
  let b := Decimal.Binary.ofFloat x
  let size :=
    if x.isInf then ['i', 'n', 'f']
    else if b.mantissa = 0 then ['0']
    else plainDigits b.shortest.1 b.shortest.2
  String.ofList (if b.negative then '-' :: size else size)

def text : Operand → String
  | bool b => if b then "true" else "false"
  | decimal x => decimalText x
  | notANumber => "NaN"
  | unsigned n => toString n
  | signed n => toString n
  | pattern text => text

/-- Operands of different kinds are in the order of the kinds. -/
def kind : Operand → Nat
  | bool _ => 0
  | decimal _ => 1
  | notANumber => 2
  | unsigned _ => 3
  | signed _ => 4
  | pattern _ => 5

def order : Operand → Operand → Ordering
  | bool a, bool b => compare a b
  | decimal x, decimal y => if x < y then .lt else if y < x then .gt else .eq
  | unsigned m, unsigned n => compare m n
  | signed m, signed n => compare m n
  | pattern s, pattern t => compare s t
  | a, b => compare a.kind b.kind

instance : Ord Operand := ⟨order⟩

end Operand

/-- A field that a directive asks for, and perhaps its value. -/
structure FieldTest where
  name : String
  operand : Option Operand := none

namespace FieldTest

/-- The value stands between the first sign of equality and the second. -/
def ofText? (text : List Char) : Option FieldTest :=
  match Text.splitAt '=' text with
  | name :: value :: _ =>
    (Operand.ofText? value).map fun operand => ⟨String.ofList name, some operand⟩
  | _ => some ⟨String.ofList text, none⟩

def text (f : FieldTest) : String :=
  match f.operand with
  | some operand => f.name ++ "=" ++ operand.text
  | none => f.name

instance : Ord FieldTest where
  compare a b :=
    (compare a.operand.isSome b.operand.isSome).then <|
      (compare a.name b.name).then (compare a.operand b.operand)

end FieldTest

/-- A level for the events that a target, a span and fields select. -/
structure Directive where
  target : Option String := none
  span : Option String := none
  fields : List FieldTest := []
  level : Level := .trace

namespace Directive

/-- Why a text is no directive. -/
inductive Fault where
  | malformed
  /-- A part would have to be cut inside a character. -/
  | torn
  deriving DecidableEq, Repr

/-- The part of a directive that is being read, with the place where it begins. -/
inductive Part where
  | start
  /-- A target, or a level without one. -/
  | target (since : Nat)
  | span (since : Nat)
  | field (since : Nat)
  /-- Behind the fields. -/
  | fields
  /-- Behind the brackets. -/
  | condition
  | level (since : Nat)

structure Draft where
  directive : Directive := {}
  part : Part := .start

/-- The first character of a directive. -/
def isStart (c : Char) : Bool :=
  c == '-' || c == ':' || c == '_' || Text.isAlphanumeric c

def cut (text : List Char) (start stop : Nat) : Except Fault (List Char) :=
  match Text.cut? start stop text with
  | some piece => .ok piece
  | none => .error .torn

/-- Reads one character. The places are those of the text without the blanks around it, but the
parts are cut out of the text with them. -/
def Draft.step (text : List Char) (d : Draft) (place : Nat) (c : Char) : Except Fault Draft :=
  match d.part with
  | .start =>
    if c = '[' then .ok { d with part := .span (place + 1) }
    else if isStart c then .ok { d with part := .target place }
    else .error .malformed
  | .target since =>
    if c = '=' || c = '[' then do
      let target ← cut text since place
      let part := if c = '=' then Part.level (place + 1) else Part.span (place + 1)
      return ⟨{ d.directive with target := some (String.ofList target) }, part⟩
    else .ok d
  | .span since =>
    if c = ']' then do
      let span ← cut text since place
      return ⟨{ d.directive with span := some (String.ofList span) }, .condition⟩
    else if c = '\x7b' then do
      let span ← cut text since place
      let span := if span.isEmpty then none else some (String.ofList span)
      return ⟨{ d.directive with span }, .field (place + 1)⟩
    else .ok d
  | .field since =>
    if c = '\x7d' then do
      let field ← cut text since place
      if field.isEmpty then throw .malformed
      match FieldTest.ofText? field with
      | some test =>
        return ⟨{ d.directive with fields := d.directive.fields ++ [test] }, .fields⟩
      | none => throw .malformed
    else .ok d
  | .fields => if c = ']' then .ok { d with part := .condition } else .error .malformed
  | .condition =>
    if c = '=' then .ok { d with part := .level (place + 1) } else .error .malformed
  | .level _ => .ok d

/-- Ends a directive. A level without a target is for all targets; where there is no level, all is
let through. -/
def Draft.finish (text : List Char) (d : Draft) : Except Fault Directive :=
  let size := (String.ofList text).utf8ByteSize
  match d.part with
  | .target since => do
    let word := String.ofList (← cut text since size)
    match Level.ofText? word with
    | some level => return { d.directive with target := none, level }
    | none => return { d.directive with target := some word }
  | .level since => do
    let word ← cut text since size
    if word.isEmpty then return d.directive
    match Level.ofText? (String.ofList word) with
    | some level => return { d.directive with level }
    | none => throw .malformed
  | .condition => .ok d.directive
  | _ => .error .malformed

def Draft.run (text : List Char) : Draft → Nat → List Char → Except Fault Draft
  | d, _, [] => .ok d
  | d, place, c :: rest => do
    let d ← d.step text place c
    Draft.run text d (place + c.utf8Size) rest

def ofText (text : String) : Except Fault Directive := do
  let chars := text.toList
  let d ← Draft.run chars {} 0 (Text.trimChars chars)
  d.finish chars

/-- What a directive asks for besides the target, in brackets. -/
def conditionText (span : Option String) (fields : List String) : String :=
  let braced := if fields.isEmpty then "" else "\x7b" ++ String.intercalate "," fields ++ "\x7d"
  if span.isNone && fields.isEmpty then "" else "[" ++ span.getD "" ++ braced ++ "]"

/-- A level with what selects the events for it, if anything does. -/
def levelText (target : Option String) (condition : String) (level : Level) : String :=
  if target.isNone && condition.isEmpty then level.name
  else target.getD "" ++ condition ++ "=" ++ level.name

def text (d : Directive) : String :=
  levelText d.target (conditionText d.span (d.fields.map FieldTest.text)) d.level

/-- The more a directive asks for, the earlier it comes; of two that ask for as much the later in
the alphabet. -/
def precedence (a b : Directive) : Ordering :=
  let size := fun d : Directive => d.target.map String.utf8ByteSize
  Ordering.swap <|
    (compare (size a) (size b)).then <|
      (compare a.span.isSome b.span.isSome).then <|
        (compare a.fields.length b.fields.length).then <|
          (compare a.target b.target).then <|
            (compare a.span b.span).then (compare a.fields b.fields)

end Directive

end StreamingChat.Log
