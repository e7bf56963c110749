import Settlement.Decimal.Printer
import Settlement.Payout.Status

/-! Why an operation is refused, how the reason is worded, and how callers are to
treat it. -/
namespace Settlement

inductive SettlementError
  | invalidAmount
  | invalidRate
  | invalidFeePercent
  | invalidInvoice (reason : String)
  | invalidBankDetails (reason : String)
  | invalidPayerIdentity (reason : String)
  | belowMinimum (minimum : Decimal)
  | amountMismatch (expected observed : Decimal)
  | duplicateReference
  | missingBankReference
  | missingReason
  | paymentNotFound
  | payoutNotFound
  | merchantNotFound
  | cannotApprove (status : PayoutStatus)
  | invalidPayoutStatus (status : PayoutStatus)
  | insufficientFunds
  | kycLimitExceeded (remaining : Decimal)
  | travelRuleDataRequired
  | timeout
  | rateUnavailable (pair : String)
  | ledgerInvariantViolation (reason : String)
  deriving DecidableEq

inductive ErrorKind
  | validation | stateConflict | businessRule | transient | invariantViolation
  deriving DecidableEq

namespace SettlementError

def message : SettlementError → String
  | invalidAmount => "invalid amount (must be positive)"
  | invalidRate => "invalid exchange rate (must be positive)"
  | invalidFeePercent => "invalid fee percentage"
  | invalidInvoice reason => s!"invalid invoice: {reason}"
  | invalidBankDetails reason => s!"invalid bank details: {reason}"
  | invalidPayerIdentity reason => s!"invalid payer identity: {reason}"
  | belowMinimum minimum => s!"payout amount below minimum of {minimum}"
  | amountMismatch expected observed =>
    s!"observed amount {observed} does not match expected {expected}"
  | duplicateReference => "duplicate payment reference"
  | missingBankReference => "missing bank reference"
  | missingReason => "missing reason"
  | paymentNotFound => "payment not found"
  | payoutNotFound => "payout not found"
  | merchantNotFound => "merchant not found"
  | cannotApprove status => s!"cannot approve payout in status {status}"
  | invalidPayoutStatus status => s!"invalid payout status: {status}"
  | insufficientFunds => "insufficient available funds"
  | kycLimitExceeded remaining => s!"kyc limit exceeded (remaining {remaining})"
  | travelRuleDataRequired => "travel rule payer data required"
  | timeout => "operation timed out"
  | rateUnavailable pair => s!"exchange rate unavailable for {pair}"
  | ledgerInvariantViolation reason => s!"ledger invariant violation: {reason}"

def kind : SettlementError → ErrorKind
  | invalidAmount | invalidRate | invalidFeePercent | invalidInvoice _ | invalidBankDetails _
  | invalidPayerIdentity _ | belowMinimum _ | amountMismatch _ _ | duplicateReference
  | missingBankReference | missingReason | paymentNotFound | payoutNotFound | merchantNotFound =>
    .validation
  | cannotApprove _ | invalidPayoutStatus _ => .stateConflict
  | insufficientFunds | kycLimitExceeded _ | travelRuleDataRequired => .businessRule
  | timeout | rateUnavailable _ => .transient
  | ledgerInvariantViolation _ => .invariantViolation

def isRetryable (e : SettlementError) : Bool := e.kind = .transient

end SettlementError

/-- How an operation ends without a result: refused for a reason, or because a number left the
range of decimals. -/
inductive Fault
  | refused (error : SettlementError)
  | overflow
  deriving DecidableEq

def require {α : Type} (value : Option α) (error : SettlementError) : Except Fault α :=
  match value with
  | some a => .ok a
  | none => .error (.refused error)

def unguarded {α : Type} (value : Option α) : Except Fault α :=
  match value with
  | some a => .ok a
  | none => .error .overflow

def check (condition : Prop) [Decidable condition] (error : SettlementError) : Except Fault Unit :=
  if condition then .ok () else .error (.refused error)

/-- Takes a record for itself, unless it is one of those `held` by others. -/
def lock {α ι : Type} [DecidableEq ι] (record : Option α) (missing : SettlementError) (held : List ι) (id : ι) :
    Except Fault α := do
  let a ← require record missing
  check (id ∉ held) .timeout
  return a

@[simp] theorem require_some {α : Type} (a : α) (e : SettlementError) : require (some a) e = .ok a := rfl

@[simp] theorem require_none {α : Type} (e : SettlementError) :
    require (none : Option α) e = .error (.refused e) := rfl

@[simp] theorem unguarded_some {α : Type} (a : α) : unguarded (some a) = .ok a := rfl

@[simp] theorem unguarded_none {α : Type} : unguarded (none : Option α) = .error .overflow := rfl

theorem require_eq_ok {α : Type} {value : Option α} {e : SettlementError} {a : α} :
    require value e = .ok a ↔ value = some a := by cases value <;> simp [require]

theorem unguarded_eq_ok {α : Type} {value : Option α} {a : α} :
    unguarded value = .ok a ↔ value = some a := by cases value <;> simp [unguarded]

theorem check_eq_ok {p : Prop} [Decidable p] {e : SettlementError} {u : Unit} : check p e = .ok u ↔ p := by
  unfold check
  split <;> simp_all

theorem bind_eq_ok {α β : Type} {first : Except Fault α} {next : α → Except Fault β} {b : β} :
    first >>= next = .ok b ↔ ∃ a, first = .ok a ∧ next a = .ok b := by
  cases first with
  | error fault => simp [bind, Except.bind]
  | ok a => simp [bind, Except.bind]

theorem check_of {p : Prop} [Decidable p] (h : p) (e : SettlementError) : check p e = .ok () :=
  if_pos h

theorem check_of_not {p : Prop} [Decidable p] (h : ¬ p) (e : SettlementError) :
    check p e = .error (.refused e) := if_neg h

theorem bind_ne_error {α β : Type} {first : Except Fault α} {next : α → Except Fault β} {fault : Fault}
    (hfirst : first ≠ .error fault) (hnext : ∀ a, next a ≠ .error fault) : first >>= next ≠ .error fault := by
  cases first with
  | error other => exact fun h => hfirst (by cases h; rfl)
  | ok a => exact hnext a

theorem require_ne_error {α : Type} {value : Option α} {e : SettlementError} {fault : Fault}
    (h : fault ≠ .refused e) : require value e ≠ .error fault := by
  cases value with
  | some a => exact nofun
  | none => exact fun he => h (by cases he; rfl)

theorem unguarded_ne_error {α : Type} {value : Option α} {fault : Fault} (h : fault ≠ .overflow) :
    unguarded value ≠ .error fault := by
  cases value with
  | some a => exact nofun
  | none => exact fun he => h (by cases he; rfl)

theorem check_ne_error {p : Prop} [Decidable p] {e : SettlementError} {fault : Fault} (h : fault ≠ .refused e) :
    check p e ≠ .error fault := by
  unfold check
  split
  case isTrue => exact nofun
  case isFalse => exact fun he => h (by cases he; rfl)

section Lock

variable {α ι : Type} [DecidableEq ι] {record : Option α} {missing : SettlementError} {held : List ι} {id : ι}

theorem lock_eq_ok {a : α} : lock record missing held id = .ok a ↔ record = some a ∧ id ∉ held := by
  simp only [lock, bind_eq_ok, require_eq_ok, check_eq_ok, pure, Except.pure, Except.ok.injEq]
  constructor
  · rintro ⟨a, ha, _, hfree, rfl⟩
    exact ⟨ha, hfree⟩
  · rintro ⟨ha, hfree⟩
    exact ⟨a, ha, (), hfree, rfl⟩

theorem lock_of_none (h : record = none) : lock record missing held id = .error (.refused missing) := by
  rw [lock, h]
  rfl

theorem lock_of_some {a : α} (h : record = some a) :
    lock record missing held id = if id ∈ held then .error (.refused .timeout) else .ok a := by
  rw [lock, h, require_some]
  by_cases hid : id ∈ held
  · rw [if_pos hid, check_of_not (not_not_intro hid)]
    rfl
  · rw [if_neg hid, check_of hid]
    rfl

theorem lock_ne_error {fault : Fault} (hmissing : fault ≠ .refused missing) (hbusy : fault ≠ .refused .timeout) :
    lock record missing held id ≠ .error fault :=
  bind_ne_error (require_ne_error hmissing) fun _ => bind_ne_error (check_ne_error hbusy) fun _ => nofun

end Lock

end Settlement
