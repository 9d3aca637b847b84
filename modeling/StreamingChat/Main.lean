import Std.Time.DateTime.Timestamp
import StreamingChat.Log.Line
import StreamingChat.Program.Completion
import StreamingChat.Simulation.ProgramRun

/-!
The program at a terminal: reads arguments, variables and files, types every line of the standard
input into a run, and writes what the run prints and logs. It has no socket, so every attempt to
connect fails. What the client does between two lines is printed with the later one.
-/

namespace StreamingChat.Main

open StreamingChat.Calendar (Instant)
open StreamingChat.Program
open StreamingChat.Simulation (Ending ProgramRun)

def now : IO Instant := do
  let millis := (← Std.Time.Timestamp.now).toMillisecondsSinceUnixEpoch.val
  return (Instant.ofMillis? millis).getD ⟨0, 0⟩

def environment : IO Environment := do
  let found ← Launch.variableNames.filterMapM fun name => do
    return (← IO.getEnv name).map fun value => (name, value)
  return fun name => found.lookup name

/-- The text of a file if there is one. Bytes that are no text cannot be a configuration, and
neither can the text that stands in for them. -/
def readText? (path : String) : IO (Option String) := do
  match ← (IO.FS.readBinFile path).toBaseIO with
  | .ok bytes => return some ((String.fromUTF8? bytes).getD "=")
  | .error _ => return none

def readFiles (paths : List String) : IO Files := do
  let found ← paths.filterMapM fun path => do
    return (← readText? path).map fun text => (path, text)
  return found.foldl (fun files entry => files.withText entry.1 entry.2) {}

/-- Makes the directories of a run; tells whether they are there. -/
def makeDirectories (d : DataDir) : IO Bool := do
  match ← (IO.FS.createDirAll d.logs).toBaseIO with
  | .ok _ => return true
  | .error _ => return false

/-- Writes the events of a log after the first `written`. -/
def writeLog (log : Log) (written : Nat) : IO Unit := do
  let time ← now
  IO.FS.withFile log.path .append fun file => do
    for e in log.events.drop written do
      file.putStrLn (e.text log.format time)

def exitWith (s : Status) : IO UInt32 :=
  return s.code.toUInt32

def fail (message : String) : IO UInt32 := do
  (← IO.getStderr).putStrLn ("Error: " ++ message)
  exitWith .failure

/-- Reads bytes up to the end of a line or of the input. -/
partial def readLine (input : IO.FS.Stream) (taken : List UInt8) : IO (List UInt8) := do
  match (← input.read 1).toList with
  | [] => return taken.reverse
  | b :: _ => if b == 0x0A then return (b :: taken).reverse else readLine input (b :: taken)

def printAll (lines : List String) : IO Unit := do
  let output ← IO.getStdout
  lines.forM output.putStrLn
  output.flush

/-- Carries out line after line until the run is over or the input ends. -/
partial def converse (input : IO.FS.Stream) (r : ProgramRun) (millis : Nat) : IO ProgramRun := do
  printAll r.terminal.printed
  let written := r.log.events.length
  if r.terminal.isOver then return r.reported
  let line ← readLine input []
  let later ← IO.monoMsNow
  if line.isEmpty then return r.reported
  let r := (r.reported.advance (later - millis)).bytes line
  writeLog r.log written
  converse input r later

def run (l : Launch) (c : Config) (log : Log) : IO UInt32 := do
  writeLog log 0
  let palette := Terminal.Palette.choose l.environment l.isTerminal
  let started := ProgramRun.start { clock := ← now } c log palette
  let ended ← converse (← IO.getStdin) started (← IO.monoMsNow)
  writeLog ended.finish ended.log.events.length
  match ended.terminal.ending with
  | some (.unreadable fault) => fail fault.message
  | some .left | none => exitWith .success

def begin (l : Launch) : Beginning → IO UInt32
  | .shown text => do
    (← IO.getStdout).putStr text
    exitWith .success
  | .misused m => do
    (← IO.getStderr).putStrLn ("error: " ++ m.message ++ ", try --help")
    exitWith .misuse
  | .script shell => do
    printAll [shell.script]
    exitWith .success
  | .failed message log => do
    log.forM (writeLog · 0)
    fail message
  | .broken => exitWith .broken
  | .ready c log => run l c log

/-- Makes the directories, reads what the arguments point to, and begins. -/
def launch (arguments : List String) : IO UInt32 := do
  let env ← environment
  let places := Launch.places arguments env
  if let some (d, _) := places then
    if !(← makeDirectories d) then
      return ← fail d.unmadeText
  let files ← readFiles ((places.map Prod.snd).getD [])
  let runId := "run-" ++ toString (← Std.Time.Timestamp.now).toMillisecondsSinceUnixEpoch.val
  let isTerminal ← (← IO.getStdout).isTty
  let l : Launch := { arguments, environment := env, files, isTerminal, runId }
  begin l l.start

end StreamingChat.Main

def main (arguments : List String) : IO UInt32 :=
  StreamingChat.Main.launch arguments
