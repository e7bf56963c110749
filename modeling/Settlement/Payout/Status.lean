/-! The stages of a payout. -/
namespace Settlement

inductive PayoutStatus
  | requested | approved | processing | completed | rejected | failed
  deriving DecidableEq

namespace PayoutStatus

def all : List PayoutStatus := [requested, approved, processing, completed, rejected, failed]

theorem mem_all (s : PayoutStatus) : s ∈ all := by cases s <;> decide

def isTerminal : PayoutStatus → Bool
  | completed | rejected | failed => true
  | requested | approved | processing => false

def name : PayoutStatus → String
  | requested => "requested"
  | approved => "approved"
  | processing => "processing"
  | completed => "completed"
  | rejected => "rejected"
  | failed => "failed"

instance : ToString PayoutStatus := ⟨name⟩

end PayoutStatus
end Settlement
