import StreamingChat.Simulation.ClientRun
import StreamingChat.Terminal.Prompt
import StreamingChat.Terminal.Watch
import StreamingChat.Text.Utf8

/-!
A conversation at a terminal with a scripted keyboard. After every input the client works until it
is idle, and then whatever it has told is rendered; what a command makes visible is printed before
the command's own error.
-/

namespace StreamingChat.Simulation

open StreamingChat.Client (Heard)
open StreamingChat.Terminal
open StreamingChat.Text (Utf8.Fault)

/-- How a conversation ended. -/
inductive Ending where
  | left
  | unreadable (fault : Utf8.Fault)
  deriving DecidableEq, Repr

structure TerminalRun where
  client : ClientRun
  palette : Palette := .plain
  renderer : Renderer := {}
  ending : Option Ending := none
  /-- The lines printed since the last report. -/
  printed : List String := []

namespace TerminalRun

def isOver (r : TerminalRun) : Bool :=
  r.ending.isSome

/-- Prints a text, which may have several lines. -/
def print (r : TerminalRun) (text : String) : TerminalRun :=
  { r with printed := r.printed ++ Text.split '\n' text }

def printAll (r : TerminalRun) (texts : List String) : TerminalRun :=
  texts.foldl print r

/-- Renders the snapshot that is published now. -/
def render (r : TerminalRun) : TerminalRun :=
  let next := r.renderer.render r.palette r.client.client.published
  { r with renderer := next.1 }.printAll next.2

def hear (r : TerminalRun) (heard : Heard) : TerminalRun :=
  match responseTo r.palette heard with
  | .render => r.render
  | .print line => r.print line

/-- Renders all that the client has told, unless the conversation was left. One that ended by
unreadable bytes is still shown. -/
def listen (r : TerminalRun) : TerminalRun :=
  let told := r.client.heard.drain
  let r := { r with client := { r.client with heard := {} } }
  if r.ending = some .left then r else told.foldl hear r

/-- The terminal opens: the hint comes first, then what the client shows once it is idle. -/
def start (client : ClientRun) (palette : Palette) : TerminalRun :=
  let r : TerminalRun := { client := { client with heard := {} }, palette }
  (r.print (hint palette)).render

/-- Carries out one line. -/
def line (r : TerminalRun) (text : String) : TerminalRun :=
  match reactionTo r.palette text with
  | .nothing => r
  | .print text => r.print text
  | .leave => { r with ending := some .left }
  | .perform c =>
    let given := r.client.command c
    let r := { r with client := given.1 }.listen
    match given.2 with
    | some (.error refusal) => r.print (refusalLine r.palette refusal)
    | _ => r

/-- The bytes of a line without its end, which is a line feed with or without a carriage return. -/
def content (line : List UInt8) : List UInt8 :=
  if line.getLast? = some 0x0A then
    let inner := line.dropLast
    if inner.getLast? = some 0x0D then inner.dropLast else inner
  else line

/-- Carries out one line of bytes, unless the conversation is over. -/
def bytes (r : TerminalRun) (line : List UInt8) : TerminalRun :=
  if r.isOver then r
  else
    match Text.Utf8.decode (content line) with
    | .ok text => r.line text
    | .error fault => { r with ending := some (.unreadable fault) }

/-- Cuts bytes after every line end. -/
def cutLines : List UInt8 → List (List UInt8)
  | [] => []
  | b :: rest =>
    if b = 0x0A then [b] :: cutLines rest
    else
      match cutLines rest with
      | [] => [[b]]
      | line :: later => (b :: line) :: later

/-- The bytes are typed and the line is ended. -/
def typeLine (r : TerminalRun) (typed : List UInt8) : TerminalRun :=
  (cutLines (typed ++ [0x0A])).foldl bytes r

/-- The bytes are typed and the input ends. -/
def typeEnd (r : TerminalRun) (typed : List UInt8) : TerminalRun :=
  let r := (cutLines typed).foldl bytes r
  if r.isOver then r else { r with ending := some .left }

def peer (r : TerminalRun) (step : PeerStep) : TerminalRun × PeerAnswer :=
  let next := r.client.peer step
  ({ r with client := next.1 }.listen, next.2)

def advance (r : TerminalRun) (millis : Nat) : TerminalRun :=
  { r with client := r.client.advance millis }.listen

/-- Forgets what was reported. -/
def reported (r : TerminalRun) : TerminalRun :=
  { r with
    client := { r.client with world := r.client.world.reported }
    printed := [] }

end TerminalRun

end StreamingChat.Simulation
