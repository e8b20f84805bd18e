import PingPost.Transport.World

/-!
A world that answers from a script. The answers of each buyer to each kind of call are used in
order; the last one stays. All calls are kept on record.
-/

namespace PingPost

/-- An answer in a script. -/
structure ScriptedAnswer where
  delayMs : Nat
  setUnavailable : List String
  setAvailable : List String
  removeBuyers : List String
  putBuyers : List Buyer
  outcome : Except TransportError Reply

/-- The answers of a buyer. -/
structure Script where
  ping : List ScriptedAnswer
  post : List ScriptedAnswer

/-- A world that answers from scripts. -/
structure ScriptedWorld where
  scripts : Table String Script
  unavailable : List String
  /-- The calls that were made, the latest last. -/
  sent : List Request
  /-- The buyers that were forgotten, the latest last. -/
  resets : List String

namespace Script

/-- A script without answers. -/
def empty : Script := ⟨[], []⟩

/-- The answers to a kind of call. -/
def of (s : Script) : CallKind → List ScriptedAnswer
  | .ping => s.ping
  | .post => s.post

/-- Replaces the answers to a kind of call. -/
def set (s : Script) (kind : CallKind) (answers : List ScriptedAnswer) : Script :=
  match kind with
  | .ping => { s with ping := answers }
  | .post => { s with post := answers }

end Script

namespace ScriptedWorld

/-- A world with some scripts, in which nothing has happened. -/
def ofScripts (scripts : Table String Script) : ScriptedWorld := ⟨scripts, [], [], []⟩

/-- Replaces the answers of a buyer. -/
def setAnswers (w : ScriptedWorld) (buyerId : String) (kind : CallKind)
    (answers : List ScriptedAnswer) : ScriptedWorld :=
  let script := (w.scripts.get? buyerId).getD .empty
  { w with scripts := w.scripts.put buyerId (script.set kind answers) }

/-- Makes a buyer available or not. -/
def setAvailable (w : ScriptedWorld) (buyerId : String) (available : Bool) : ScriptedWorld :=
  let others := w.unavailable.filter (· ≠ buyerId)
  { w with unavailable := if available then others else buyerId :: others }

/-- What happens before an answer arrives. -/
def effect (a : ScriptedAnswer) (registry : Registry) (w : ScriptedWorld) :
    Registry × ScriptedWorld :=
  let w := a.setUnavailable.foldl (fun w id => w.setAvailable id false) w
  let w := a.setAvailable.foldl (fun w id => w.setAvailable id true) w
  let registry := a.removeBuyers.foldl Registry.erase registry
  (a.putBuyers.foldl Registry.upsert registry, w)

/-- A call for which the script has no answer. -/
def unscripted : Flight ScriptedWorld :=
  ⟨0, 0, fun registry w => (registry, w), .error (.connection "no script")⟩

/-- Takes the next answer of the script. -/
def send (w : ScriptedWorld) (r : Request) : Flight ScriptedWorld × ScriptedWorld :=
  let w := { w with sent := w.sent ++ [r] }
  match (((w.scripts.get? r.buyerId).map fun s => s.of r.kind).getD []) with
  | [] => (unscripted, w)
  | [a] => (⟨a.delayMs, 0, effect a, a.outcome⟩, w)
  | a :: rest => (⟨a.delayMs, 0, effect a, a.outcome⟩, w.setAnswers r.buyerId r.kind rest)

/-- Forgets a buyer: it is available again. -/
def reset (w : ScriptedWorld) (buyerId : String) : ScriptedWorld :=
  { w.setAvailable buyerId true with resets := w.resets ++ [buyerId] }

instance : Transport ScriptedWorld where
  send := send
  isAvailable w buyerId := !w.unavailable.contains buyerId
  reset := reset

end ScriptedWorld

end PingPost
