import ArcdpsHealing.Arcdps.EventType

namespace ArcdpsHealing.Networking

open Arcdps

/-- The filter of `evtc_rpc_client::ProcessLocalEvent`. -/
def sendsEvent (c : Enums) (budgetMode : Bool) (e : CbtEvent) : Prop :=
  budgetMode = true →
    getEventType c e true = .healing ∨ e.isStatechange = c.enterCombat ∨
      e.isStatechange = c.exitCombat

instance (c : Enums) (budgetMode : Bool) (e : CbtEvent) : Decidable (sendsEvent c budgetMode e) :=
  inferInstanceAs (Decidable (_ → _))

end ArcdpsHealing.Networking
