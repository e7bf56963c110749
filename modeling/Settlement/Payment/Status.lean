/-! The stages of a payment. -/
namespace Settlement

inductive PaymentStatus
  | created | pending | confirming | completed | expired | failed
  deriving DecidableEq

namespace PaymentStatus

def all : List PaymentStatus := [created, pending, confirming, completed, expired, failed]

theorem mem_all (s : PaymentStatus) : s ∈ all := by cases s <;> decide

def isTerminal : PaymentStatus → Bool
  | completed | expired | failed => true
  | created | pending | confirming => false

/-- Only a payment whose transaction is not yet on the chain can expire. -/
def canExpire : PaymentStatus → Bool
  | created | pending => true
  | confirming | completed | expired | failed => false

/-- How far a payment has come on the way to completion; the other endings come before it. -/
def progress : PaymentStatus → Nat
  | created => 1
  | pending => 2
  | confirming => 3
  | completed => 4
  | expired | failed => 0

def name : PaymentStatus → String
  | created => "created"
  | pending => "pending"
  | confirming => "confirming"
  | completed => "completed"
  | expired => "expired"
  | failed => "failed"

instance : ToString PaymentStatus := ⟨name⟩

end PaymentStatus

inductive PaymentTransition
  | applied (source target : PaymentStatus)
  | unchanged (status : PaymentStatus)
  deriving DecidableEq

namespace PaymentTransition

def completed : PaymentTransition → Bool
  | applied _ .completed => true
  | _ => false

end PaymentTransition
end Settlement
