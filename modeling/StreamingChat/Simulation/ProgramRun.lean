import StreamingChat.Link.Handshake
import StreamingChat.Program.Launch
import StreamingChat.Simulation.TerminalRun

/-!
A run of the whole program with the lines that are typed into it, up to its end.
-/

namespace StreamingChat.Simulation

open StreamingChat.Calendar (nanosPerMilli)
open StreamingChat.Program

/-- The client of a configuration before it has done anything. -/
def clientOf (c : Config) : Client :=
  .initial c.session c.mode (c.flushInterval * nanosPerMilli) c.backoff

/-- A world without a backend: the handshake of a configuration fails for its own reason, or there
is nobody to answer it. -/
def worldWithout (w : World) (c : Config) : World :=
  let fault :=
    match Link.Handshake.problem? c.url c.headers with
    | some p => p.fault
    | none => .refused "no backend"
  { w with connector := .refusing fault }

structure ProgramRun where
  terminal : TerminalRun
  log : Log

namespace ProgramRun

def start (w : World) (c : Config) (log : Log) (palette : Terminal.Palette) : ProgramRun where
  terminal := .start (.start (worldWithout w c) (clientOf c)) palette
  log := log

/-- Logs a line that parses. -/
def logLine (log : Log) (text : String) : Log :=
  match Terminal.Command.ofLine text with
  | .ok c => log.write (Launch.commandEvent c)
  | .error _ => log

/-- Logs a line of bytes and carries it out, unless the run is over; bytes that are no text end
it. -/
def bytes (r : ProgramRun) (line : List UInt8) : ProgramRun :=
  if r.terminal.isOver then r
  else
    { log :=
        match Text.Utf8.decode (TerminalRun.content line) with
        | .ok text => logLine r.log text
        | .error _ => r.log
      terminal := r.terminal.bytes line }

/-- A text is typed and its last line is ended. -/
def typeLine (r : ProgramRun) (text : String) : ProgramRun :=
  (TerminalRun.cutLines (text.toUTF8.toList ++ [0x0A])).foldl bytes r

def advance (r : ProgramRun) (millis : Nat) : ProgramRun :=
  { r with terminal := r.terminal.advance millis }

/-- Forgets what was reported. -/
def reported (r : ProgramRun) : ProgramRun :=
  { r with terminal := r.terminal.reported }

/-- The lines that are printed for each typed text, up to the text that ends the run. -/
def lines (r : ProgramRun) : List String → ProgramRun × List (List String)
  | [] => (r, [])
  | text :: rest =>
    if r.terminal.isOver then (r, [])
    else
      let next := r.reported.typeLine text
      let later := next.lines rest
      (later.1, next.terminal.printed :: later.2)

/-- The program ends. -/
def finish (r : ProgramRun) : Log :=
  r.log.write Launch.leaving

end ProgramRun

end StreamingChat.Simulation
