/-!
Coloured text for terminals. Each property of a style is switched on by an escape sequence of its
own before the text, and one sequence after it switches all of them off.
-/

namespace StreamingChat.Terminal

inductive Colour where
  | red
  | green
  | yellow
  | magenta
  | cyan
  deriving DecidableEq, Repr

inductive Weight where
  | bold
  | dim
  deriving DecidableEq, Repr

structure Style where
  colour : Option Colour := none
  weight : Option Weight := none
  isUnderlined : Bool := false
  deriving DecidableEq, Repr

/-- Whether the terminal understands escape sequences. -/
inductive Palette where
  | plain
  | coloured
  deriving DecidableEq, Repr

/-- Colours may be forced; else a terminal has them unless its kind or a wish against them says
otherwise. -/
def Palette.choose (env : String → Option String) (isTerminal : Bool) : Palette :=
  let forced := (env "CLICOLOR_FORCE").any (· != "0")
  let wanted := (env "CLICOLOR").all (· != "0") && (env "NO_COLOR").isNone
  if forced || (isTerminal && (env "TERM").any (· != "dumb") && wanted) then .coloured
  else .plain

def Colour.code : Colour → String
  | red => "31"
  | green => "32"
  | yellow => "33"
  | magenta => "35"
  | cyan => "36"

def Weight.code : Weight → String
  | bold => "1"
  | dim => "2"

/-- The escape sequence with a code. -/
def escape (code : String) : String :=
  "\x1b[" ++ code ++ "m"

namespace Style

def dim : Style := { weight := some .dim }

def of (c : Colour) : Style := { colour := some c }

def bold (c : Colour) : Style := { colour := some c, weight := some .bold }

/-- The sequences that switch a style on, the colour first. -/
def opening (s : Style) : String :=
  ((s.colour.map Colour.code).map escape).getD "" ++
    ((s.weight.map Weight.code).map escape).getD "" ++
    (if s.isUnderlined then escape "4" else "")

def paint (s : Style) (p : Palette) (text : String) : String :=
  match p with
  | .plain => text
  | .coloured => s.opening ++ text ++ escape "0"

theorem paint_plain (s : Style) (text : String) : s.paint .plain text = text := rfl

end Style

end StreamingChat.Terminal
