import Settlement.Proofs.Engine.Credit
import Settlement.Proofs.Engine.Journal
import Settlement.Proofs.Engine.Standing
import Settlement.Proofs.Payment.Agreement

/-! What a merchant is credited for. The observed amount may differ from the expected one by the
tolerance of the settings, so tokens have been observed whenever more of them were expected than that. -/
namespace Settlement
namespace Payment

variable {p next : Payment} {policy : ConfirmationPolicy} {event : ChainEvent} {now : Instant}
  {source : PaymentStatus}

end Payment

namespace Engine

variable {config : SettlementConfig} {e : Engine} {moment : Moment} {op : Operation}

end Engine
end Settlement
