import PingPost.Exchange.Auction
import PingPost.Exchange.Script

/-!
A market of one lead and one buyer, or two, on which statements with conditions are tried out.
-/

namespace PingPost.Sample

/-- A service with a policy. -/
def service (policy : RetryPolicy) : Service where
  serviceType := "roofing"
  active := true
  priority := 1
  pricing := .standard
  pingTemplate := ⟨[], [], none⟩
  postTemplate := ⟨[], [], none⟩
  endpoints := ⟨"https://alpha.example/ping", "https://alpha.example/post", 3000, 10000, policy⟩
  restrictions := none

/-- A buyer of the service. -/
def buyer (policy : RetryPolicy) : Buyer where
  id := "alpha"
  name := "Alpha"
  baseUrl := "https://alpha.example"
  active := true
  auth := .none
  settings := .standard
  aliases := .standard
  vocabulary := none
  services := [service policy]

/-- A lead for the service. -/
def lead : Lead where
  id := "lead-1"
  serviceType := "roofing"
  answers := []
  zipCode := "12345"
  ownsHome := true
  timeframe := ""
  status := none
  createdAt := ⟨0, 0⟩
  compliance := none

/-- An answer without delay. -/
def answer (code : Nat) (body : String) : ScriptedAnswer := ⟨0, [], [], [], [], .ok ⟨code, body, 0⟩⟩

/-- A market of the buyer, who bids five and whose system then fails. -/
def exchange (policy : RetryPolicy) : Exchange ScriptedWorld :=
  .fresh .standard (.ofBuyers [buyer policy]) []
    (.ofScripts [("alpha", ⟨[answer 200 "\x7b\"bid\": 5\x7d"], [answer 503 ""]⟩)])

/-- A policy that admits no retry. -/
def noRetries : RetryPolicy := { RetryPolicy.standard with maxAttempts := 0 }

/-- The auction of the lead in the market. -/
def auction (policy : RetryPolicy) : AuctionResult × Exchange ScriptedWorld :=
  (exchange policy).runAuction lead ⟨5, 0⟩

/-- A second buyer of the service. -/
def rival (priority : Nat) : Buyer :=
  { buyer .standard with
    id := "beta"
    name := "Beta"
    services := [{ service .standard with priority }] }

/-- A market of both buyers, in which the second one has a hook and a script. -/
def rivalry (priority : Nat) (hook : Hook) (script : Script) : Exchange ScriptedWorld :=
  let x := exchange .standard
  { x with
    engine := { x.engine with hooks := x.engine.hooks.put "beta" hook }
    registry := x.registry.upsert (rival priority)
    world := { x.world with scripts := x.world.scripts.put "beta" script } }

/-- The market in which the second buyer bids more than the first. -/
def outbidding : Exchange ScriptedWorld :=
  rivalry 1 ⟨.ok, .ok⟩ ⟨[answer 200 "\x7b\"bid\": 9\x7d"], []⟩

/-- The market in which the second buyer's hook refuses all leads and its system fails. -/
def failing : Exchange ScriptedWorld :=
  rivalry 2 ⟨fun _ => .error "broken", .ok⟩ ⟨[answer 503 ""], []⟩

end PingPost.Sample
