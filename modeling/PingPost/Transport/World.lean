import PingPost.Buyer.Registry
import PingPost.Transport.Basic

/-!
The world of the buyers, as far as the exchange sees it. A world may be in any state and change
with every call; an answer takes its time, and before it arrives the world and the registry may
have been changed by others. Others may also act between two steps of the exchange without a call.
-/

namespace PingPost

/-- A call on its way. -/
structure Flight (ω : Type) where
  /-- When the answer arrives, counted from the call. -/
  delayMs : Nat
  /-- How long the answer took by the exchange's own clock. -/
  measuredMs : Nat
  /-- What happens up to the arrival; it does not happen when the call times out. -/
  effect : Registry → ω → Registry × ω
  outcome : Except TransportError Reply

/-- A world of buyers. -/
class Transport (ω : Type) where
  send : ω → Request → Flight ω × ω
  /-- Whether a buyer may be called now. -/
  isAvailable : ω → String → Bool
  /-- Forgets what is known of a buyer. -/
  reset : ω → String → ω
  /-- What others do between two steps of the exchange. -/
  meanwhile : Registry → ω → Registry × ω := fun registry world => (registry, world)

end PingPost
