import PingPost.Buyer.Auth
import PingPost.Buyer.Settings

/-! Calls to buyers: what is sent, what comes back, and what goes wrong before an answer comes. -/

namespace PingPost

/-- The two calls of the protocol. -/
inductive CallKind where
  | ping
  | post
  deriving DecidableEq, Repr

/-- A call to a buyer. -/
structure Request where
  buyerId : String
  kind : CallKind
  url : String
  auth : Auth
  settings : Settings
  timeoutMs : Nat
  body : Fields

/-- A buyer's answer as it came. -/
structure Reply where
  code : Nat
  body : String
  elapsedMs : Nat
  deriving DecidableEq, Repr

/-- Why no answer came. -/
inductive TransportError where
  | timeout (ms : Nat)
  | connection (text : String)
  | circuitOpen (buyerId : String)
  | invalidRequest (text : String)
  deriving DecidableEq, Repr

/-- Name of a call. -/
def CallKind.name : CallKind → String
  | .ping => "ping"
  | .post => "post"

/-- Calls as documents. -/
def CallKind.codec : Codec CallKind := .names [("ping", .ping), ("post", .post)]

namespace TransportError

/-- Wording of an error. -/
def message : TransportError → String
  | timeout ms => s!"request timed out after {ms} ms"
  | connection text => s!"connection failed: {text}"
  | circuitOpen buyerId => s!"circuit open for buyer {buyerId}"
  | invalidRequest text => s!"invalid request: {text}"

/-- Whether no answer came in time. -/
def isTimeout : TransportError → Bool
  | timeout _ => true
  | _ => false

end TransportError

end PingPost
