import Settlement.Decimal.Basic
import Settlement.Error
import Settlement.Identifier
import Settlement.Payout.Status
import Settlement.Text.Blank
import Settlement.Time.Instant

/-! A payout and its life: requested, approved, processed, and completed, rejected
or failed. -/
namespace Settlement

structure BankDetails where
  bankName : String
  accountNumber : String
  accountHolder : String
  branch : Option String
  deriving DecidableEq

namespace BankDetails

def isAccountNumber (s : String) : Bool :=
  decide (6 ≤ s.toList.length) && decide (s.toList.length ≤ 20) && s.toList.all Text.isDigit

def validate (b : BankDetails) : Except Fault Unit := do
  check (Text.isBlankString b.bankName = false) (.invalidBankDetails "bank name is required")
  check (Text.isBlankString b.accountHolder = false)
    (.invalidBankDetails "account holder is required")
  check (isAccountNumber b.accountNumber)
    (.invalidBankDetails "account number must be 6 to 20 digits")

end BankDetails

structure Payout where
  id : PayoutId
  merchantId : MerchantId
  /-- What is reserved from the balance, fee included. -/
  amount : Decimal
  fee : Decimal
  netAmount : Decimal
  bank : BankDetails
  status : PayoutStatus
  requestedBy : ActorId
  requestedAt : Instant
  approvedBy : Option ActorId
  approvedAt : Option Instant
  processedBy : Option ActorId
  processedAt : Option Instant
  completedAt : Option Instant
  rejectedBy : Option ActorId
  rejectedAt : Option Instant
  failedAt : Option Instant
  bankReference : Option String
  rejectionReason : Option String
  failureReason : Option String
  retryCount : UInt32
  retryOf : Option PayoutId
  resubmittedAs : Option PayoutId
  updatedAt : Instant
  deriving DecidableEq

inductive PayoutTransition
  | applied (source target : PayoutStatus)
  | unchanged (status : PayoutStatus)
  deriving DecidableEq

inductive PayoutAction
  | approve
  | startProcessing
  | complete (bankReference : String)
  | reject (reason : String)
  | fail (reason : String)
  deriving DecidableEq

namespace Payout

/-- The text without white space around it, which must not be empty. -/
def requireText (text : String) (missing : SettlementError) : Except Fault String := do
  check (Text.isBlankString text = false) missing
  return Text.trimString text

def move (p : Payout) (status : PayoutStatus) (now : Instant) : Payout × PayoutTransition :=
  ({ p with status, updatedAt := now }, .applied p.status status)

def processing (p : Payout) (actor : ActorId) (now : Instant) : Payout :=
  { p with processedBy := some actor, processedAt := some now }

/-- Only a requested payout can be approved, and only once. -/
def approve (p : Payout) (actor : ActorId) (now : Instant) : Except Fault (Payout × PayoutTransition) :=
  match p.status with
  | .requested => .ok ({ p with approvedBy := some actor, approvedAt := some now }.move .approved now)
  | status => .error (.refused (.cannotApprove status))

def startProcessing (p : Payout) (actor : ActorId) (now : Instant) :
    Except Fault (Payout × PayoutTransition) :=
  match p.status with
  | .approved => .ok ((p.processing actor now).move .processing now)
  | status => .error (.refused (.invalidPayoutStatus status))

/-- Completes a payout, which an approved one skips processing for. -/
def complete (p : Payout) (actor : ActorId) (bankReference : String) (now : Instant) :
    Except Fault (Payout × PayoutTransition) :=
  match p.status with
  | .completed => .ok (p, .unchanged .completed)
  | .approved => do
    let reference ← requireText bankReference .missingBankReference
    return { p.processing actor now with
      bankReference := some reference, completedAt := some now }.move .completed now
  | .processing => do
    let reference ← requireText bankReference .missingBankReference
    return { p with bankReference := some reference, completedAt := some now }.move .completed now
  | status => .error (.refused (.invalidPayoutStatus status))

def reject (p : Payout) (actor : ActorId) (reason : String) (now : Instant) :
    Except Fault (Payout × PayoutTransition) :=
  match p.status with
  | .rejected => .ok (p, .unchanged .rejected)
  | .requested => do
    let reason ← requireText reason .missingReason
    return { p with
      rejectedBy := some actor, rejectedAt := some now, rejectionReason := some reason }.move .rejected now
  | status => .error (.refused (.invalidPayoutStatus status))

/-- Ends an approved payout as failed, and counts the failure. -/
def fail (p : Payout) (actor : ActorId) (reason : String) (now : Instant) :
    Except Fault (Payout × PayoutTransition) :=
  match p.status with
  | .failed => .ok (p, .unchanged .failed)
  | .approved | .processing => do
    let reason ← requireText reason .missingReason
    return { p with
      processedBy := p.processedBy.or (some actor)
      failedAt := some now
      failureReason := some reason
      retryCount := p.retryCount + 1 }.move .failed now
  | status => .error (.refused (.invalidPayoutStatus status))

def linked (p : Payout) (retry : PayoutId) (now : Instant) : Payout :=
  { p with resubmittedAs := some retry, updatedAt := now }

def act (p : Payout) (actor : ActorId) (now : Instant) :
    PayoutAction → Except Fault (Payout × PayoutTransition)
  | .approve => p.approve actor now
  | .startProcessing => p.startProcessing actor now
  | .complete bankReference => p.complete actor bankReference now
  | .reject reason => p.reject actor reason now
  | .fail reason => p.fail actor reason now

end Payout
end Settlement
