import StreamingChat.Chat.State
import StreamingChat.Terminal.Style

/-!
Turning snapshots into lines for the terminal. Only what has changed since the last snapshot is
printed: the link going up or down, another session, messages that have been completed, a new error
and a new request for consent.
-/

namespace StreamingChat.Terminal

open StreamingChat.Chat

/-- What the last snapshot showed, and the messages that were printed in its session. -/
structure Renderer where
  printed : List MessageId := []
  isConnected : Option Bool := none
  session : Option String := none
  isLoading : Bool := false
  error : Option String := none
  /-- The id of the request that was shown. -/
  pending : Option String := none

def labelOf (p : Palette) (m : Message) : String :=
  match m.role with
  | .user => (Style.bold .cyan).paint p "you"
  | .assistant => (Style.bold .green).paint p (m.origin.agent.getD "assistant")
  | .system => (Style.bold .red).paint p "system"

def messageLine (p : Palette) (m : Message) : String :=
  labelOf p m ++ "> " ++ m.content

def confirmationText (p : Palette) (r : Approval.Request) : String :=
  (Style.bold .magenta).paint p "confirm" ++ " " ++ r.tool ++ " wants to run with " ++
    r.args.render ++
    ((r.description.map fun d => " (" ++ d ++ ")").getD "") ++
    "\n  /approve " ++ r.id ++ " [--remember]  or  /deny " ++ r.id

def progressLine (p : Palette) (data : Value) : String :=
  Style.dim.paint p ("download " ++ data.render)

def errorLine (p : Palette) (text : String) : String :=
  (Style.of .red).paint p ("error: " ++ text)

def linkLine (p : Palette) (isConnected : Bool) : String :=
  if isConnected then (Style.of .green).paint p "● connected"
  else (Style.of .yellow).paint p "○ disconnected, reconnecting"

def sessionLine (p : Palette) (session : String) : String :=
  Style.dim.paint p ("session " ++ session)

def loadingLine (p : Palette) : String :=
  Style.dim.paint p "loading history..."

/-- The complete messages whose ids are not known, each id once. -/
def freshMessages (known : List MessageId) : List Message → List Message
  | [] => []
  | m :: rest =>
    if m.isComplete && !known.contains m.id then m :: freshMessages (m.id :: known) rest
    else freshMessages known rest

namespace Renderer

/-- The messages that count as printed when a snapshot arrives: those of its session. -/
def known (r : Renderer) (s : Snapshot) : List MessageId :=
  if r.session = some s.session then r.printed else []

def fresh (r : Renderer) (s : Snapshot) : List Message :=
  freshMessages (r.known s) s.messages

/-- The renderer after a snapshot. -/
def after (r : Renderer) (s : Snapshot) : Renderer where
  printed := r.known s ++ (r.fresh s).map (·.id)
  isConnected := some s.isConnected
  session := some s.session
  isLoading := s.isLoadingHistory
  error := s.error
  pending := s.pending.map (·.id)

/-- A line if a condition holds. -/
def lineIf (condition : Bool) (line : String) : List String :=
  if condition then [line] else []

def errorLines (r : Renderer) (p : Palette) (s : Snapshot) : List String :=
  if s.error = r.error then [] else (s.error.map (errorLine p)).toList

/-- Requests are told apart by their ids. -/
def confirmationLines (r : Renderer) (p : Palette) (s : Snapshot) : List String :=
  if s.pending.map (·.id) = r.pending then [] else (s.pending.map (confirmationText p)).toList

def messageLines (r : Renderer) (p : Palette) (s : Snapshot) : List String :=
  (r.fresh s).map (messageLine p)

/-- The lines for a snapshot. -/
def lines (r : Renderer) (p : Palette) (s : Snapshot) : List String :=
  lineIf (r.isConnected != some s.isConnected) (linkLine p s.isConnected) ++
    lineIf (r.session != some s.session) (sessionLine p s.session) ++
    lineIf (s.isLoadingHistory && !r.isLoading) (loadingLine p) ++
    r.messageLines p s ++ r.errorLines p s ++ r.confirmationLines p s

def render (r : Renderer) (p : Palette) (s : Snapshot) : Renderer × List String :=
  (r.after s, r.lines p s)

end Renderer

end StreamingChat.Terminal
