import Settlement.Proofs.Engine.Completion
import Settlement.Proofs.Payment.Furthest

/-! Honest deliveries. The record of a payment depends on the order in which events arrive,
but its status and the sender and hash that it can have do not: the payment gets as far
as the furthest event takes it, however the events are ordered or repeated. -/
namespace Settlement

/-- The event is of a transaction with the sender and, if it names one, with the hash, and it is sound. -/
structure Payment.Honest (p : Payment) (policy : ConfirmationPolicy) (sender hash : String) (event : ChainEvent) :
    Prop where
  reference : event.reference = p.reference
  sound : p.Sound policy event
  sender : event.senderAddress = sender
  hash : ∀ seen, event.txHash = some seen → seen = hash

namespace Payment

variable {p q : Payment} {policy : ConfirmationPolicy} {event : ChainEvent} {now : Instant} {sender hash : String}

/-- Nothing was observed of the payment yet, or the transaction with the sender and the hash was. -/
def Traces (q : Payment) (sender hash : String) : Prop :=
  q.status = .created ∨ q.senderAddress = some sender ∧ ∀ known, q.txHash = some known → known = hash

theorem Honest.sameTransaction (h : p.Honest policy sender hash event) (hq : q.Traces sender hash) :
    q.status = .created ∨ q.SameTransaction event := by
  refine hq.imp_right fun ⟨hsender, hhash⟩ => ⟨?_, ?_⟩
  · intro known hk
    cases hsender.symm.trans hk
    exact h.sender.symm
  · intro known seen hk hs
    rw [hhash known hk, h.hash seen hs]

theorem Honest.traces_noted (h : p.Honest policy sender hash event) (hq : q.Traces sender hash)
    (status : PaymentStatus) :
    (q.noted event status now).senderAddress = some sender ∧
      ∀ known, (q.noted event status now).txHash = some known → known = hash := by
  have hnoted : (q.noted event status now).senderAddress = (q.observed event now).senderAddress ∧
      (q.noted event status now).txHash = (q.observed event now).txHash := by
    unfold noted
    split
    · exact ⟨rfl, rfl⟩
    · exact ⟨rfl, rfl⟩
  rw [hnoted.1, hnoted.2, observed]
  split
  case isTrue => exact ⟨congrArg some h.sender, h.hash⟩
  case isFalse hc =>
    obtain ⟨hsender, hhash⟩ := hq.resolve_left hc
    refine ⟨hsender, fun known hk => ?_⟩
    cases ht : q.txHash with
    | none =>
      rw [ht] at hk
      exact h.hash known hk
    | some first =>
      rw [ht] at hk
      cases hk
      exact hhash known ht

theorem isOverdue_of_le (h : now ≤ p.expiresAt) : p.isOverdue now = false := by
  rw [isOverdue, decide_eq_false (Instant.not_lt.mpr h), Bool.and_false]

theorem Honest.applyEvent_eq (h : p.Honest policy sender hash event) (same : q.draft = p.draft)
    (alive : q.status.isTerminal = false) (hq : q.Traces sender hash) (due : now ≤ p.expiresAt) :
    q.applyEvent policy event now = .ok (q.advance policy event now) := by
  have hexpires : q.draft.expiresAt = p.draft.expiresAt := congrArg expiresAt same
  have htoken : q.draft.tokenAmount = p.draft.tokenAmount := congrArg tokenAmount same
  simp only [draft] at hexpires htoken
  have hsound : q.Sound policy event := ⟨h.sound.error, htoken ▸ h.sound.close⟩
  exact applyEvent_of_sound alive (isOverdue_of_le (hexpires ▸ due)) hsound (h.sameTransaction hq)

theorem Honest.advance_of_lt (h : p.Honest policy sender hash event) (now : Instant) (same : q.draft = p.draft)
    (hq : q.Traces sender hash) (hlt : q.status.progress < (target policy event).progress) :
    ∃ next, q.advance policy event now = (next, .applied q.status (target policy event)) ∧ next.draft = p.draft ∧
      next.status = target policy event ∧ next.Traces sender hash := by
  refine ⟨((q.noted event (target policy event) now).move (target policy event) now).1, ?_, ?_, rfl, ?_⟩
  · rw [Payment.advance_of_lt now hlt, move, status_noted]
  · rw [draft_move, draft_noted, same]
  · exact .inr (h.traces_noted hq (target policy event))

end Payment

namespace Engine

open Payment PaymentStatus

variable {config : SettlementConfig} {e next : Engine} {moment : Moment} {event : ChainEvent} {id : PaymentId}
  {p : Payment} {row : Balance} {sender hash : String} {reached : List PaymentStatus}

/-- The merchant of a payment is credited with its net amount once, and no other balance moves. -/
def CreditedOnce (e : Engine) (p : Payment) (row : Balance) (next : Engine) : Prop :=
  ∃ now balance, row.apply (.credit p.netAmount) now = .ok balance ∧
    ∀ merchant, next.balance? merchant = if merchant = p.merchantId then some balance else e.balance? merchant

/-- The engine after honest deliveries that asked for some statuses: the payment is as far as the furthest
of them, and its merchant is credited just if that is completion. -/
structure Delivered (e : Engine) (id : PaymentId) (p : Payment) (row : Balance) (sender hash : String)
    (reached : List PaymentStatus) (next : Engine) : Prop where
  policy_eq : next.policy = e.policy
  located : next.payments.references.get? p.reference = some id
  record : ∃ q, next.payment? id = some q ∧ q.draft = p.draft ∧ q.status = furthest reached ∧ q.Traces sender hash
  credited : furthest reached = .completed → e.CreditedOnce p row next
  unpaid : furthest reached ≠ .completed → ∀ merchant, next.balance? merchant = e.balance? merchant

theorem Delivered.cons_of_le (h : Delivered e id p row sender hash reached next) {status : PaymentStatus}
    (hle : status.progress ≤ (furthest reached).progress) :
    Delivered e id p row sender hash (status :: reached) next := by
  obtain ⟨hpolicy, hlocated, hrecord, hcredited, hunpaid⟩ := h
  rw [← furthest_cons_of_le hle] at hrecord hcredited hunpaid
  exact ⟨hpolicy, hlocated, hrecord, hcredited, hunpaid⟩

theorem Delivered.cons_of_short (h : Delivered e id p row sender hash reached next) {q' : Payment}
    (hdraft : q'.draft = p.draft) (htraces : q'.Traces sender hash)
    (hlt : (furthest reached).progress < q'.status.progress) (short : q'.status ≠ .completed) :
    Delivered e id p row sender hash (q'.status :: reached) (next.storePayment id q') := by
  have hfurthest : furthest (q'.status :: reached) = q'.status := furthest_cons_of_lt hlt
  refine ⟨h.policy_eq, h.located, ⟨q', ?_, hdraft, hfurthest.symm, htraces⟩, fun hc => ?_, fun _ => ?_⟩
  · rw [payment?_storePayment, if_pos rfl]
  · exact absurd (hfurthest.symm.trans hc) short
  · refine h.unpaid fun hc => ?_
    rw [hc] at hlt
    exact absurd hlt (by cases q'.status <;> decide)

theorem Delivered.cons_of_completed (h : Delivered e id p row sender hash reached next) {q' : Payment} {now : Instant}
    {balance : Balance} (hdraft : q'.draft = p.draft) (htraces : q'.Traces sender hash)
    (hstatus : q'.status = .completed) (hshort : furthest reached ≠ .completed)
    (hb : row.apply (.credit p.netAmount) now = .ok balance) :
    Delivered e id p row sender hash (.completed :: reached) (next.completed id q' balance now) := by
  have hfurthest : furthest (.completed :: reached) = .completed := furthest_eq_completed_iff.mpr List.mem_cons_self
  refine ⟨h.policy_eq, h.located, ⟨q', ?_, hdraft, hstatus.trans hfurthest.symm, htraces⟩, fun _ => ?_, fun hc => ?_⟩
  · rw [payment?_completed, if_pos rfl]
  · refine ⟨now, balance, hb, fun merchant => ?_⟩
    rw [balance?_completed, merchantId_eq_of_draft hdraft, h.unpaid hshort]
  · exact absurd hfurthest hc

/-- An event that takes the payment further: if that is to completion, the row of the merchant decides whether
it counts. -/
theorem Delivered.perform_of_lt (h : Delivered e id p row sender hash reached next)
    (hrow : e.balance? p.merchantId = some row) (free : p.merchantId ∉ moment.held.balances) {q q' : Payment}
    (located : next.payments.references.get? event.reference = some id)
    (taken : next.lockPayment moment.held.payments id = .ok q)
    (applied : q.applyEvent next.policy event moment.now = .ok (q', .applied q.status q'.status))
    (hdraft : q'.draft = p.draft) (htraces : q'.Traces sender hash)
    (hlt : (furthest reached).progress < q'.status.progress) :
    ((q'.status = .completed → row.Accepts (.credit p.netAmount)) →
      Delivered e id p row sender hash (q'.status :: reached) (next.perform moment (.handleEvent event)).1) ∧
    (¬ (q'.status = .completed → row.Accepts (.credit p.netAmount)) →
      Delivered e id p row sender hash reached (next.perform moment (.handleEvent event)).1) := by
  by_cases hc : q'.status = .completed
  · rw [hc] at applied hlt ⊢
    have hshort : furthest reached ≠ .completed := fun hf => absurd (hf ▸ hlt) (Nat.lt_irrefl _)
    have hmerchant : q'.merchantId = p.merchantId := merchantId_eq_of_draft hdraft
    have hnet : q'.netAmount = p.netAmount := netAmount_eq_of_draft hdraft
    have hbalance : next.balance? q'.merchantId = some row := by rw [hmerchant, h.unpaid hshort, hrow]
    constructor
    · intro haccepts
      obtain ⟨balance, hb⟩ := (Balance.accepts_iff moment.now).mp (haccepts rfl)
      rw [(perform_handleEvent_of_credited located taken hbalance (hmerchant ▸ free) applied (hnet ▸ hb)).1]
      exact h.cons_of_completed hdraft htraces hc hshort hb
    · intro hrefused
      have hr : ¬ row.Accepts (.credit p.netAmount) := fun ha => hrefused fun _ => ha
      obtain ⟨fault, hf⟩ := Balance.exists_error_of_not_accepts moment.now hr
      rw [perform_handleEvent_of_refused located taken hbalance (hmerchant ▸ free) applied (hnet ▸ hf)]
      exact h
  · rw [perform_handleEvent_of_short located taken applied hc]
    exact ⟨fun _ => h.cons_of_short hdraft htraces hlt hc, fun hn => absurd (fun hs => absurd hs hc) hn⟩

/-- One honest event counts, unless it asks for completion and the row of the merchant refuses. -/
theorem Delivered.step (h : Delivered e id p row sender hash reached next)
    (hrow : e.balance? p.merchantId = some row) (free : p.merchantId ∉ moment.held.balances)
    (alone : id ∉ moment.held.payments) (honest : p.Honest e.policy sender hash event)
    (due : moment.now ≤ p.expiresAt) :
    ((target e.policy event = .completed → row.Accepts (.credit p.netAmount)) →
      Delivered e id p row sender hash (target e.policy event :: reached)
        (next.perform moment (.handleEvent event)).1) ∧
    (¬ (target e.policy event = .completed → row.Accepts (.credit p.netAmount)) →
      Delivered e id p row sender hash reached (next.perform moment (.handleEvent event)).1) := by
  obtain ⟨q, hq, hdraft, hstatus, htraces⟩ := h.record
  have hlocated : next.payments.references.get? event.reference = some id := honest.reference ▸ h.located
  have htaken := lockPayment_eq_ok.mpr ⟨hq, alone⟩
  rcases Nat.lt_or_ge q.status.progress (target e.policy event).progress with hlt | hle
  · have halive : q.status.isTerminal = false :=
      isTerminal_of_progress_lt (hstatus ▸ one_le_progress_furthest reached) hlt
    obtain ⟨q', hadvance, hdraft', hstatus', htraces'⟩ := honest.advance_of_lt moment.now hdraft htraces hlt
    have happlied : q.applyEvent next.policy event moment.now = .ok (q', .applied q.status q'.status) := by
      rw [h.policy_eq, honest.applyEvent_eq hdraft halive htraces due, hadvance, hstatus']
    rw [← hstatus', hstatus] at hlt
    rw [← hstatus']
    exact h.perform_of_lt hrow free hlocated htaken happlied hdraft' htraces' hlt
  · have happlied : q.applyEvent next.policy event moment.now = .ok (q, .unchanged q.status) := by
      cases hterminal : q.status.isTerminal with
      | true => exact applyEvent_of_terminal hterminal
      | false => rw [h.policy_eq, honest.applyEvent_eq hdraft hterminal htraces due, advance_of_le moment.now hle]
    rw [perform_handleEvent_of_unchanged hlocated htaken happlied]
    exact ⟨fun _ => h.cons_of_le (hstatus ▸ hle), fun _ => h⟩

theorem Delivered.congr (h : Delivered e id p row sender hash reached next) {reached' : List PaymentStatus}
    (same : ∀ status, status ∈ reached ↔ status ∈ reached') : Delivered e id p row sender hash reached' next := by
  obtain ⟨hpolicy, hlocated, hrecord, hcredited, hunpaid⟩ := h
  rw [furthest_congr same] at hrecord hcredited hunpaid
  exact ⟨hpolicy, hlocated, hrecord, hcredited, hunpaid⟩

/-- One honest event leaves behind what was asked for before, and what it asks for unless that is refused. -/
theorem Delivered.counted (h : Delivered e id p row sender hash reached next)
    (hrow : e.balance? p.merchantId = some row) (free : p.merchantId ∉ moment.held.balances)
    (alone : id ∉ moment.held.payments) (honest : p.Honest e.policy sender hash event)
    (due : moment.now ≤ p.expiresAt) :
    ∃ reached', (∀ status, status ∈ reached' ↔ status ∈ reached ∨
        status = target e.policy event ∧ (status = .completed → row.Accepts (.credit p.netAmount))) ∧
      Delivered e id p row sender hash reached' (next.perform moment (.handleEvent event)).1 := by
  obtain ⟨hcounts, hrefused⟩ := h.step hrow free alone honest due
  by_cases hc : target e.policy event = .completed → row.Accepts (.credit p.netAmount)
  · refine ⟨target e.policy event :: reached, fun status => ?_, hcounts hc⟩
    rw [List.mem_cons, or_comm]
    exact or_congr_right ⟨fun hs => ⟨hs, hs ▸ hc⟩, And.left⟩
  · refine ⟨reached, fun status => ⟨.inl, fun hor => hor.resolve_right ?_⟩, hrefused hc⟩
    rintro ⟨rfl, hs⟩
    exact hc hs

/-- The handling of one event after the other. -/
def deliver (delivery : List (Moment × ChainEvent)) : List (Moment × Operation) :=
  delivery.map fun step => (step.1, .handleEvent step.2)

theorem Delivered.run (h : Delivered e id p row sender hash reached next) (hrow : e.balance? p.merchantId = some row)
    {delivery : List (Moment × ChainEvent)}
    (honest : ∀ step ∈ delivery, p.Honest e.policy sender hash step.2)
    (timely : ∀ step ∈ delivery, step.1.now ≤ p.expiresAt ∧ p.merchantId ∉ step.1.held.balances ∧
      id ∉ step.1.held.payments) :
    ∃ reached', (∀ status, status ∈ reached' ↔ status ∈ reached ∨
        status ∈ (delivery.map Prod.snd).map (target e.policy) ∧
          (status = .completed → row.Accepts (.credit p.netAmount))) ∧
      Delivered e id p row sender hash reached' (next.run (deliver delivery)) := by
  induction delivery generalizing next reached with
  | nil => exact ⟨reached, by simp, h⟩
  | cons step rest ih =>
    obtain ⟨moment, event⟩ := step
    obtain ⟨hevent, hrest⟩ := List.forall_mem_cons.mp honest
    obtain ⟨⟨hdue, hfree, halone⟩, htimely⟩ := List.forall_mem_cons.mp timely
    obtain ⟨between, hbetween, hstep⟩ := h.counted hrow hfree halone hevent hdue
    obtain ⟨reached', hmem, hrun⟩ := ih hstep hrest htimely
    refine ⟨reached', fun status => ?_, hrun⟩
    rw [hmem, hbetween, List.map_cons, List.map_cons, List.mem_cons, or_and_right, or_assoc]

/-- Honest events, delivered in any order and each any number of times before the payment expires, while nobody else
holds it or the balance of its merchant, take it as far as the furthest of them does, and its merchant is credited once
if that is completion, and else not at all. So it is if the row of the merchant accepts the credit; a row that refuses
it keeps the payment from completion, and nothing else. A row without slips accepts each positive amount whose sums
decimals can hold. -/
theorem honest_deliveries_reach_furthest (h : Reachable config e) (stored : e.payment? id = some p)
    (created : p.status = .created) (events : List ChainEvent)
    (honest : ∀ event ∈ events, p.Honest e.policy sender hash event) :
    ∃ row, e.balance? p.merchantId = some row ∧
      (∀ delivery : List (Moment × ChainEvent), (∀ event, event ∈ delivery.map Prod.snd ↔ event ∈ events) →
        (∀ step ∈ delivery, step.1.now ≤ p.expiresAt ∧ p.merchantId ∉ step.1.held.balances ∧
          id ∉ step.1.held.payments) →
        (row.Accepts (.credit p.netAmount) →
          Delivered e id p row sender hash (events.map (target e.policy)) (e.run (deliver delivery))) ∧
        (¬ row.Accepts (.credit p.netAmount) →
          Delivered e id p row sender hash ((events.map (target e.policy)).filter (· ≠ .completed))
            (e.run (deliver delivery)))) ∧
      (p.netAmount.Positive → row.Conserving →
        Decimal.Representable (row.available.toRat + p.netAmount.toRat) →
        Decimal.Representable (row.totalReceived.toRat + p.netAmount.toRat) → row.Accepts (.credit p.netAmount)) := by
  have hstanding : e.Standing config := h.standing
  obtain ⟨row, hrow⟩ := Option.isSome_iff_exists.mp (hstanding.account id p stored)
  refine ⟨row, hrow, fun delivery same timely => ?_, fun positive conserving available received =>
    h.accepts_credit hrow conserving positive available received⟩
  have hstart : Delivered e id p row sender hash [] e :=
    ⟨rfl, hstanding.located id p stored, ⟨p, stored, rfl, created, .inl created⟩, nofun, fun _ _ => rfl⟩
  have hhonest : ∀ step ∈ delivery, p.Honest e.policy sender hash step.2 := fun step hstep =>
    honest step.2 ((same step.2).mp (List.mem_map_of_mem hstep))
  have htargets (status : PaymentStatus) : status ∈ (delivery.map Prod.snd).map (target e.policy) ↔
      status ∈ events.map (target e.policy) := by
    rw [List.mem_map, List.mem_map]
    simp only [same]
  obtain ⟨reached, hmem, hrun⟩ := hstart.run hrow hhonest timely
  constructor
  · intro haccepts
    refine hrun.congr fun status => ?_
    rw [hmem, htargets]
    simp [haccepts]
  · intro hrefuses
    refine hrun.congr fun status => ?_
    rw [hmem, htargets]
    simp [hrefuses, and_comm]

def firstSight : ChainEvent := ⟨⟨"PAY-7"⟩, none, "payer", whole 100, 0, false, none⟩

/-- The invoice completes and is credited once, though its transaction is seen first when it is final. -/
theorem late_first_sight_changes_nothing :
    let e := (opened .default).run invoiced
    let next := e.run (deliver [(opening, finalPayment), (opening, firstSight), (opening, finalPayment)])
    ∃ p row, e.payment? ⟨7⟩ = some p ∧ e.balance? ⟨1⟩ = some row ∧ e.CreditedOnce p row next ∧
      ∃ q, next.payment? ⟨7⟩ = some q ∧ q.status = .completed := by
  intro e next
  have hreachable : Reachable .default e := reachable_run .opened invoiced
  obtain ⟨p, hp, href, hamount, hstatus, hmerchant, hexpires, haccepts⟩ :
      ∃ p, e.payment? ⟨7⟩ = some p ∧ p.reference = ⟨"PAY-7"⟩ ∧ p.tokenAmount = whole 100 ∧ p.status = .created ∧
        p.merchantId = ⟨1⟩ ∧ opening.now ≤ p.expiresAt ∧
        ∃ next, (Balance.opened ⟨1⟩ .epoch).apply (.credit p.netAmount) .epoch = .ok next :=
    ⟨_, rfl, rfl, rfl, rfl, rfl, by decide, _, rfl⟩
  have honest : ∀ event ∈ [firstSight, finalPayment], p.Honest e.policy "payer" "tx" event := by
    have hsound (event : ChainEvent) (herror : event.error = none) (hobserved : event.observedAmount = whole 100) :
        p.Sound e.policy event := sound_of_sameValue herror (by rw [hobserved, hamount]; rfl) (by decide)
    rw [List.forall_mem_cons, List.forall_mem_singleton]
    exact ⟨⟨href.symm, hsound _ rfl rfl, rfl, nofun⟩, ⟨href.symm, hsound _ rfl rfl, rfl, fun _ h => by cases h; rfl⟩⟩
  obtain ⟨row, hrow, hdelivered, -⟩ := honest_deliveries_reach_furthest hreachable hp hstatus _ honest
  obtain ⟨haccepted, -⟩ := hdelivered [(opening, finalPayment), (opening, firstSight), (opening, finalPayment)]
    (by simp [or_comm]) (by simpa [opening] using hexpires)
  rw [hmerchant] at hrow
  have hrun := haccepted (by cases hrow; exact (Balance.accepts_iff .epoch).mpr haccepts)
  have hfurthest : furthest ([firstSight, finalPayment].map (target e.policy)) = .completed := rfl
  obtain ⟨q, hq, -, hstatus', -⟩ := hrun.record
  exact ⟨p, row, hp, hrow, hrun.credited hfurthest, q, hq, hstatus'.trans hfurthest⟩

def feeless : SettlementConfig := { SettlementConfig.default with paymentFeePercent := .zero, minimumPayout := .zero }

/-- A merchant receives 7 * 10^28 dong and withdraws half a dong, which its balance is too large to show. Then it
writes an invoice of one dong. -/
def slipped : List (Moment × Operation) :=
  let rate := whole 25000
  let payer : PayerIdentity := ⟨"Payer", "payer", "VN", none⟩
  let bank : BankDetails := ⟨"Bank", "123456", "Shop", none⟩
  [(opening, .registerMerchant ⟨1⟩ .enhanced),
    (opening, .setRate ⟨"USDT", "VND"⟩ rate),
    (opening, .setRate ⟨"USD", "VND"⟩ rate),
    (opening, .createInvoice ⟨⟨6⟩, ⟨"PAY-6"⟩⟩
      ⟨⟨1⟩, .ofNat 70000000000000000000000000000, none, "tron", "T-shop", some payer⟩),
    (opening, .handleEvent ⟨⟨"PAY-6"⟩, none, "payer", .ofNat 2800000000000000000000000, 20, true, none⟩),
    (opening, .requestPayout ⟨9⟩ ⟨⟨1⟩, .ofParts 5 1, bank, ⟨"shop"⟩⟩),
    (opening, .actOnPayout ⟨9⟩ ⟨"desk"⟩ .approve),
    (opening, .actOnPayout ⟨9⟩ ⟨"desk"⟩ (.complete "FT1")),
    (opening, .createInvoice ⟨⟨8⟩, ⟨"PAY-8"⟩⟩ ⟨⟨1⟩, whole 1, none, "tron", "T-shop", none⟩)]

def oneDong (depth : UInt32) : ChainEvent := ⟨⟨"PAY-8"⟩, none, "payer", .ofParts 4 5, depth, false, none⟩

/-- Honest events that ask for completion leave the payment pending and uncredited, though both sums of the credit
are exact. -/
theorem completion_refused_after_slip :
    let e := (opened feeless).run slipped
    let delivery := [(opening, oneDong 0), (opening, oneDong 12)]
    let next := e.run (deliver delivery)
    ∃ p row q, e.payment? ⟨8⟩ = some p ∧ p.status = .created ∧ p.netAmount = whole 1 ∧
      (∀ step ∈ delivery, step.1.now ≤ p.expiresAt ∧ p.Honest e.policy "payer" "tx" step.2) ∧
      furthest (delivery.map fun step => target e.policy step.2) = .completed ∧
      e.balance? ⟨1⟩ = some row ∧
      row.available.add? p.netAmount = some (.ofNat 70000000000000000000000000001) ∧
      row.totalReceived.add? p.netAmount = some (.ofNat 70000000000000000000000000001) ∧
      next.payment? ⟨8⟩ = some q ∧ q.status = .pending ∧ next.balance? ⟨1⟩ = some row := by
  intro e delivery next
  obtain ⟨⟨p, hp, hstatus, hnet, href, hamount, hexpires⟩, ⟨row, hrow, havailable, hreceived⟩, ⟨q, hq, hpending⟩,
      hsame⟩ :
      (∃ p ∈ e.payment? ⟨8⟩, p.status = .created ∧ p.netAmount = whole 1 ∧ p.reference = ⟨"PAY-8"⟩ ∧
        (Decimal.ofParts 4 5).SameValue p.tokenAmount ∧ opening.now ≤ p.expiresAt) ∧
      (∃ row ∈ e.balance? ⟨1⟩, row.available.add? (whole 1) = some (.ofNat 70000000000000000000000000001) ∧
        row.totalReceived.add? (whole 1) = some (.ofNat 70000000000000000000000000001)) ∧
      (∃ q ∈ next.payment? ⟨8⟩, q.status = .pending) ∧
      next.balance? ⟨1⟩ = e.balance? ⟨1⟩ := by decide +kernel
  have honest (depth : UInt32) : p.Honest e.policy "payer" "tx" (oneDong depth) :=
    ⟨href.symm, sound_of_sameValue rfl hamount (by decide +kernel), rfl, nofun⟩
  refine ⟨p, row, q, hp, hstatus, hnet, ?_, by decide +kernel, hrow, hnet ▸ havailable, hnet ▸ hreceived, hq, hpending,
    hsame.trans hrow⟩
  rw [List.forall_mem_cons, List.forall_mem_singleton]
  exact ⟨⟨hexpires, honest 0⟩, ⟨hexpires, honest 12⟩⟩

end Engine
end Settlement
