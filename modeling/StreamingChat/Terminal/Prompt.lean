import StreamingChat.Client.Basic
import StreamingChat.Terminal.Command
import StreamingChat.Terminal.Style

/-!
What the terminal does with a line: most commands are handed to the client, some only print, and
one ends the conversation.
-/

namespace StreamingChat.Terminal

/-- What a line asks for. -/
inductive Reaction where
  | nothing
  | print (text : String)
  | perform (c : Client.Command)
  | leave

def hint (p : Palette) : String :=
  Style.dim.paint p "type a message, or /help"

def misuseLine (p : Palette) (m : Command.Misuse) : String :=
  (Style.of .red).paint p m.message

def refusalLine (p : Palette) (r : Client.Refusal) : String :=
  (Style.of .red).paint p ("error: " ++ r.message)

def Command.reaction : Command → Reaction
  | .nothing => .nothing
  | .say text => .perform (.say { message := text })
  | .stop => .perform .stop
  | .stats => .perform .stats
  | .session id => .perform (.setSession id)
  | .approve id remember => .perform (.answer id true remember)
  | .deny id => .perform (.answer id false false)
  | .help => .print Command.helpText
  | .quit => .leave

def reactionTo (p : Palette) (line : String) : Reaction :=
  match Command.ofLine line with
  | .ok c => c.reaction
  | .error m => .print (misuseLine p m)

end StreamingChat.Terminal
