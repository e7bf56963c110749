import Settlement.Decimal.Basic
import Settlement.Identifier

/-! What is observed on the chain. -/
namespace Settlement

structure ChainEvent where
  reference : PaymentReference
  txHash : Option String
  senderAddress : String
  observedAmount : Decimal
  confirmationDepth : UInt32
  finalized : Bool
  /-- Set if the chain reports the transaction as invalid or reverted. -/
  error : Option String
  deriving DecidableEq

structure ConfirmationPolicy where
  requiredConfirmations : UInt32
  amountTolerance : Decimal
  deriving DecidableEq

end Settlement
