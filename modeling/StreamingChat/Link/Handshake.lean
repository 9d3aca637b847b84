import StreamingChat.Link.Address
import StreamingChat.Link.Connection

/-!
What is checked of a request for a WebSocket before a socket is opened: the address names a host,
and every header can be written into an HTTP message.
-/

namespace StreamingChat.Link.Handshake

/-- The characters of an HTTP token. -/
def isTokenChar (c : Char) : Bool :=
  c.isAlphanum || c == '!' || c == '#' || c == '$' || c == '%' || c == '&' || c == '\'' ||
    c == '*' || c == '+' || c == '-' || c == '.' || c == '^' || c == '_' || c == '\x60' ||
    c == '|' || c == '~'

/-- The characters that the name of a header may have. -/
def nameLimit : Nat := 65535

def isHeaderName (name : String) : Bool :=
  !name.isEmpty && name.length ≤ nameLimit && name.toList.all isTokenChar

/-- A tab is the only control character of a header value. -/
def isHeaderValue (value : String) : Bool :=
  value.toList.all fun c => c == '\t' || (0x20 ≤ c.toNat && c.toNat != 0x7F)

inductive Problem where
  | address (p : Address.Problem)
  | headerName
  | headerValue
  deriving DecidableEq, Repr

def Problem.message : Problem → String
  | address p => p.message
  | headerName => "invalid header name: invalid HTTP header name"
  | headerValue => "invalid header value: failed to parse header value"

def Problem.fault (p : Problem) : Fault :=
  .refused p.message

/-- The first header that cannot be written; of one header the name comes before the value. -/
def headerProblem? (headers : List (String × String)) : Option Problem :=
  headers.findSome? fun h =>
    if !isHeaderName h.1 then some .headerName
    else if !isHeaderValue h.2 then some .headerValue
    else none

def problem? (address : String) (headers : List (String × String)) : Option Problem :=
  ((Address.problem? address).map Problem.address) <|> headerProblem? headers

end StreamingChat.Link.Handshake
