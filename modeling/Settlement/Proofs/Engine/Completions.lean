import Mathlib.Data.List.Nodup
import Settlement.Proofs.Engine.Records
import Settlement.Proofs.Table

/-! The completed payments, in the order in which they completed. A step completes at most one
payment, and a completed payment stays as it is. -/
namespace Settlement
namespace Engine

def isCompleted (e : Engine) (id : PaymentId) : Bool := (e.payment? id).any fun p => p.status = .completed

def completedSince (e before : Engine) : List PaymentId :=
  e.payments.records.keys.filter fun id => e.isCompleted id && !before.isCompleted id

/-- The payments that a series of steps completes, in the order in which it does. -/
def completions (e : Engine) : List (Moment × Operation) → List PaymentId
  | [] => []
  | (moment, op) :: rest =>
    let next := (e.perform moment op).1
    next.completedSince e ++ next.completions rest

/-- The list names the completed payments, each of them once. -/
structure Listed (e : Engine) (order : List PaymentId) : Prop where
  nodup : order.Nodup
  mem_iff : ∀ id, id ∈ order ↔ ∃ p, e.payment? id = some p ∧ p.status = .completed

theorem isCompleted_iff {e : Engine} {id : PaymentId} :
    e.isCompleted id = true ↔ ∃ p, e.payment? id = some p ∧ p.status = .completed := by
  simp [isCompleted, Option.any_eq_true]

/-! ## What becomes of payments -/

theorem isCompleted_storePayment (e : Engine) (id other : PaymentId) (p : Payment) :
    (e.storePayment id p).isCompleted other =
      if other = id then decide (p.status = .completed) else e.isCompleted other := by
  unfold isCompleted
  rw [payment?_storePayment]
  split <;> rfl

/-- Replacing a payment by one that is completed just if it was completes no payment. -/
theorem isCompleted_storePayment_of_iff {e : Engine} {id : PaymentId} {p next : Payment}
    (stored : e.payment? id = some p) (h : next.status = .completed ↔ p.status = .completed) (other : PaymentId) :
    (e.storePayment id next).isCompleted other = e.isCompleted other := by
  rw [isCompleted_storePayment]
  split
  case isTrue ho =>
    rw [ho, isCompleted, stored]
    exact decide_eq_decide.mpr h
  case isFalse => rfl

theorem isCompleted_of_short {e : Engine} {id : PaymentId} {p next : Payment} {event : ChainEvent}
    {policy : ConfirmationPolicy} {source target : PaymentStatus} {now : Instant} (stored : e.payment? id = some p)
    (applied : p.applyEvent policy event now = .ok (next, .applied source target)) (short : target ≠ .completed)
    (other : PaymentId) : (e.storePayment id next).isCompleted other = e.isCompleted other := by
  obtain ⟨hopen, -, hs⟩ := Payment.applyEvent_applied applied
  refine isCompleted_storePayment_of_iff stored ?_ other
  rw [hs]
  exact ⟨fun h => absurd h short, fun h => absurd h (Payment.not_completed_of_open hopen)⟩

theorem isCompleted_invoice {e : Engine} {fresh : FreshPayment} {invoice : NewInvoice} {now : Instant} {p : Payment}
    (drafted : e.draftPayment fresh invoice now = .ok p) (hfresh : e.payment? fresh.id = none) (id : PaymentId) :
    ((e.storePayment p.id p).indexPayment p.reference p.id).isCompleted id = e.isCompleted id := by
  have hp := drafted_of_ok drafted
  have hstored : e.isCompleted p.id = false := by
    rw [hp.id_eq, isCompleted, hfresh]
    rfl
  show (e.storePayment p.id p).isCompleted id = _
  rw [isCompleted_storePayment]
  split
  case isTrue ho => simp [ho, hp.status_eq, hstored]
  case isFalse => rfl

theorem isCompleted_sweepExpired (e : Engine) (moment : Moment) (id : PaymentId) :
    (e.sweepExpired moment).1.isCompleted id = e.isCompleted id := by
  unfold isCompleted
  rw [payment?_sweepExpired, Option.any_map]
  refine congrArg (fun f => (e.payment? id).any f) (funext fun p => ?_)
  exact decide_eq_decide.mpr (swept_completed moment id p)

structure Finishes (e next : Engine) (id : PaymentId) (p : Payment) : Prop where
  before : e.isCompleted id = false
  stored : next.payment? id = some p
  status : p.status = .completed
  others : ∀ other, other ≠ id → next.isCompleted other = e.isCompleted other

theorem finishes_of_applied {e : Engine} {id : PaymentId} {p next : Payment} {event : ChainEvent}
    {policy : ConfirmationPolicy} {source : PaymentStatus} {now : Instant} (stored : e.payment? id = some p)
    (applied : p.applyEvent policy event now = .ok (next, .applied source .completed)) (balance : Balance) :
    Finishes e (((e.storeBalance next.merchantId balance).storePayment id next).countVolume next.merchantId
      next.invoiceAmount now) id next := by
  obtain ⟨hopen, -, hs⟩ := Payment.applyEvent_applied applied
  refine ⟨?_, ?_, hs, ?_⟩
  · rw [isCompleted, stored]
    exact decide_eq_false (Payment.not_completed_of_open hopen)
  · rw [payment?_countVolume, payment?_storePayment, if_pos rfl]
  · intro other hne
    exact ((e.storeBalance _ _).isCompleted_storePayment id other next).trans (if_neg hne)

/-! ## The list of completed payments -/

theorem completedSince_of_same {e next : Engine} (h : ∀ id, next.isCompleted id = e.isCompleted id) :
    next.completedSince e = [] := by
  refine List.filter_eq_nil_iff.mpr fun id _ => ?_
  rw [h id]
  simp

theorem completedSince_of_finishes {e next : Engine} {id : PaymentId} {p : Payment} (h : Finishes e next id p) :
    next.completedSince e = [id] := by
  have hdone : next.isCompleted id = true := isCompleted_iff.mpr ⟨p, h.stored, h.status⟩
  have hkey : id ∈ next.payments.records.keys := Table.mem_keys_iff.mpr (Option.isSome_of_eq_some h.stored)
  have hkeys : next.payments.records.keys.Nodup := next.payments.records.nodup
  have hfilter : next.completedSince e = next.payments.records.keys.filter (· = id) := by
    refine List.filter_congr fun other _ => ?_
    by_cases ho : other = id
    · simp [ho, hdone, h.before]
    · simp [ho, h.others other ho]
  rw [hfilter, List.filter_eq, hkeys.count, if_pos hkey]
  rfl

section

variable {e next : Engine} {order : List PaymentId} (he : e.Listed order)
include he

theorem Listed.mem_iff_isCompleted (id : PaymentId) : id ∈ order ↔ e.isCompleted id = true := by
  rw [he.mem_iff, isCompleted_iff]

theorem Listed.kept {moment : Moment} {op : Operation} (h : Step e moment op next) (hfresh : op.Fresh e) :
    ∀ id ∈ order, next.payment? id = e.payment? id := by
  intro id hid
  obtain ⟨p, hp, hc⟩ := (he.mem_iff id).mp hid
  rw [hp, h.completed_persists hfresh hp hc]

theorem Listed.of_same (h : ∀ id, next.isCompleted id = e.isCompleted id) : next.Listed order := by
  refine ⟨he.nodup, fun id => ?_⟩
  rw [he.mem_iff_isCompleted, ← isCompleted_iff, h]

theorem Listed.of_finishes {id : PaymentId} {p : Payment} (h : Finishes e next id p) :
    next.Listed (order ++ [id]) := by
  have hnew : id ∉ order := by
    rw [he.mem_iff_isCompleted, h.before]
    exact Bool.false_ne_true
  refine ⟨?_, fun other => ?_⟩
  · rw [← List.concat_eq_append]
    exact List.Nodup.concat hnew he.nodup
  · rw [List.mem_append, List.mem_singleton, he.mem_iff_isCompleted, ← isCompleted_iff]
    by_cases ho : other = id
    · have hc := isCompleted_iff.mpr ⟨p, h.stored, h.status⟩
      simp [ho, hc]
    · simp [ho, h.others other ho]

end

theorem listed_opened (config : SettlementConfig) : (opened config).Listed [] := by
  refine ⟨List.nodup_nil, fun id => ?_⟩
  constructor
  · exact nofun
  · rintro ⟨p, hp, -⟩
    cases hp

def paymentsTo (e : Engine) (merchant : MerchantId) (ids : List PaymentId) : List Payment :=
  (ids.filterMap e.payment?).filter fun p => p.merchantId = merchant

theorem paymentsTo_congr {e next : Engine} {order : List PaymentId}
    (h : ∀ id ∈ order, next.payment? id = e.payment? id) (merchant : MerchantId) :
    next.paymentsTo merchant order = e.paymentsTo merchant order := by
  unfold paymentsTo
  rw [List.filterMap_congr h]

theorem paymentsTo_concat {e : Engine} {id : PaymentId} {p : Payment} (hp : e.payment? id = some p)
    (merchant : MerchantId) (order : List PaymentId) :
    e.paymentsTo merchant (order ++ [id]) =
      e.paymentsTo merchant order ++ if p.merchantId = merchant then [p] else [] := by
  by_cases h : p.merchantId = merchant <;> simp [paymentsTo, hp, h]

end Engine
end Settlement
