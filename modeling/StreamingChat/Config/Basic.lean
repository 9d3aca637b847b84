import StreamingChat.Chat.Session
import StreamingChat.Link.Backoff
import StreamingChat.Text.Blank

/-!
What the program is configured with, and what makes a configuration valid. Durations are in whole
milliseconds.
-/

namespace StreamingChat

open StreamingChat.Calendar (nanosPerMilli)
open StreamingChat.Link (Backoff)

structure Config.Reconnect where
  baseDelay : Nat := 1000
  maxDelay : Nat := 30000
  /-- The part of a delay by which chance may change it. -/
  jitter : Float := 0.1

structure Config where
  url : String := "ws://127.0.0.1:8000/ws"
  session : String := "default"
  mode : String := "chat"
  flushInterval : Nat := 50
  reconnect : Config.Reconnect := {}
  /-- Sorted by name, each name once. -/
  headers : List (String × String) := []

namespace Config

/-- Why a configuration is not valid. -/
inductive Problem where
  | noUrl
  | urlScheme (url : String)
  | noSession
  | zeroFlushInterval
  | zeroBaseDelay
  | maxBelowBase
  | jitterRange
  deriving DecidableEq, Repr

def Problem.reason : Problem → String
  | noUrl => "url must not be empty"
  | urlScheme url => "url must use ws:// or wss://, got " ++ url
  | noSession => "session_id must not be empty"
  | zeroFlushInterval => "flush_interval_ms must be greater than zero"
  | zeroBaseDelay => "reconnect.base_delay_ms must be greater than zero"
  | maxBelowBase => "reconnect.max_delay_ms must be >= reconnect.base_delay_ms"
  | jitterRange => "reconnect.jitter must be in [0, 1)"

def Problem.message (p : Problem) : String :=
  "Invalid config: " ++ p.reason

/-- Whether an address is one of a WebSocket. -/
def hasScheme (url : String) : Bool :=
  Text.startsWith "ws://".toList url.toList || Text.startsWith "wss://".toList url.toList

/-- The first problem of a configuration. Blanks around the address do not count. -/
def problem? (c : Config) : Option Problem :=
  let url := Text.trim c.url
  if url.isEmpty then some .noUrl
  else if !hasScheme url then some (.urlScheme url)
  else if (Text.trim c.session).isEmpty then some .noSession
  else if c.flushInterval = 0 then some .zeroFlushInterval
  else if c.reconnect.baseDelay = 0 then some .zeroBaseDelay
  else if c.reconnect.maxDelay < c.reconnect.baseDelay then some .maxBelowBase
  else if 0.0 ≤ c.reconnect.jitter ∧ c.reconnect.jitter < 1.0 then none
  else some .jitterRange

/-- A text without the blanks at its ends; one of blanks only counts as absent. -/
def unlessBlank (text : Option String) : Option String :=
  (text.map Text.trim).filter (!·.isEmpty)

/-- The environment overrides address and session with what is not blank. -/
def overriddenBy (c : Config) (url session : Option String) : Config :=
  { c with url := (unlessBlank url).getD c.url, session := (unlessBlank session).getD c.session }

/-- The delays between attempts to connect. -/
def backoff (c : Config) : Backoff :=
  .make (c.reconnect.baseDelay * nanosPerMilli) (c.reconnect.maxDelay * nanosPerMilli)
    c.reconnect.jitter

end Config

end StreamingChat
