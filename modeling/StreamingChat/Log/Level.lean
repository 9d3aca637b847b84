/-!
How grave an event is, and how much of it a log lets through.
-/

namespace StreamingChat.Log

inductive Level where
  | off
  | error
  | warn
  | info
  | debug
  | trace
  deriving DecidableEq, Repr

namespace Level

/-- How much a level lets through. -/
def rank : Level → Nat
  | off => 0
  | error => 1
  | warn => 2
  | info => 3
  | debug => 4
  | trace => 5

def name : Level → String
  | off => "off"
  | error => "error"
  | warn => "warn"
  | info => "info"
  | debug => "debug"
  | trace => "trace"

def all : List Level := [off, error, warn, info, debug, trace]

def lowerCase (text : String) : String :=
  String.ofList (text.toList.map Char.toLower)

/-- A whole number, with a plus sign if one likes. -/
def number? (text : List Char) : Option Nat :=
  let digits := match text with
    | '+' :: rest => rest
    | _ => text
  if digits.isEmpty || !digits.all Char.isDigit then none else some (Nat.ofDigitChars 10 digits 0)

/-- A level by its name in any case or by its number. -/
def ofText? (text : String) : Option Level :=
  match number? text.toList with
  | some n => all.find? (·.rank == n)
  | none => all.find? (·.name == lowerCase text)

theorem ofText?_name (l : Level) : ofText? l.name = some l := by
  cases l <;> decide +kernel

end Level

end StreamingChat.Log
