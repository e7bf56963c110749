import Settlement.Proofs.Engine.Lapse
import Settlement.Proofs.Engine.Separation
import Settlement.Proofs.Engine.Volume

/-! References and payments. A reference leads to the one payment that was created with it, and the merchant
of a payment is known wherever its completion is booked. -/
namespace Settlement

variable {now : Instant}

theorem Payment.applyEvent_refused {p : Payment} {policy : ConfirmationPolicy} {event : ChainEvent}
    {error : SettlementError} (h : p.applyEvent policy event now = .error (.refused error)) :
    error = .amountMismatch p.tokenAmount event.observedAmount := by
  unfold applyEvent at h
  by_cases ht : p.status.isTerminal = true
  · simp [ht] at h
  by_cases ho : p.isOverdue now = true
  · simp [ht, ho] at h
  cases he : event.error with
  | some reason => by_cases hc : p.status = .created <;> simp [ht, ho, he, hc] at h
  | none =>
    cases hd : event.observedAmount.sub? p.tokenAmount with
    | none => simp [ht, ho, he, hd, bind, Except.bind] at h
    | some difference =>
      simp only [ht, ho, he, hd, unguarded_some, bind, Except.bind, Bool.false_eq_true, if_false] at h
      by_cases ha : policy.amountTolerance < difference.abs
      · by_cases hc : p.status = .created <;> simp [ha, hc] at h
        exact h.symm
      · simp only [ha, if_false] at h
        revert h
        cases (if p.status = .created then none else p.conflict? event) <;> exact nofun

theorem Balance.apply_ne_error (b : Balance) {fault : Fault} (hinvalid : fault ≠ .refused .invalidAmount)
    (hfunds : fault ≠ .refused .insufficientFunds)
    (hviolation : ∀ reason, fault ≠ .refused (.ledgerInvariantViolation reason)) (hoverflow : fault ≠ .overflow)
    (op : LedgerOp) (now : Instant) : b.apply op now ≠ .error fault := by
  have hsum {α : Type} (sum : Option α) : unguarded sum ≠ .error fault := unguarded_ne_error hoverflow
  have hmoved : b.moved op ≠ .error fault := by
    cases op with
    | credit | release | settle => exact bind_ne_error (hsum _) fun _ => bind_ne_error (hsum _) fun _ => nofun
    | reserve =>
      exact bind_ne_error (check_ne_error hfunds) fun _ => bind_ne_error (hsum _) fun _ =>
        bind_ne_error (hsum _) fun _ => nofun
  have hsums (next : Balance) : next.checkSums ≠ .error fault :=
    bind_ne_error (check_ne_error (hviolation _)) fun _ => bind_ne_error (check_ne_error (hviolation _)) fun _ =>
      bind_ne_error (hsum _) fun _ => bind_ne_error (hsum _) fun _ => check_ne_error (hviolation _)
  exact bind_ne_error (check_ne_error hinvalid) fun _ => bind_ne_error hmoved fun next =>
    bind_ne_error (hsums next) fun _ => nofun

namespace Engine

open Engine.Action

variable {config : SettlementConfig} {e next : Engine} {moment : Moment} {op : Operation} {id : PaymentId} {p : Payment}

/-- The identifier of a payment that the operation hands out is not in use. -/
def Operation.FreshPaymentId (e : Engine) : Operation → Prop
  | createInvoice fresh _ => e.payment? fresh.id = none
  | _ => True

theorem Step.payment_persists_of_fresh (h : Step e moment op next) (fresh : op.FreshPaymentId e)
    (hp : e.payment? id = some p) : ∃ q, next.payment? id = some q ∧ q.draft = p.draft := by
  cases op with
  | requestPayout | resubmit =>
    cases h with
    | lapse read => exact read.elim
    | _ => exact ⟨p, hp, rfl⟩
  | _ => exact h.payment_persists fresh hp

/-- What a step does to a payment: nothing, it expires it, or an event with its reference changes it. -/
theorem Step.payment_cases (h : Step e moment op next) (fresh : op.FreshPaymentId e) (hp : e.payment? id = some p) :
    ∃ q, next.payment? id = some q ∧ (q = p ∨ q = (p.expire moment.now).1 ∨
      ∃ event source target, op = .handleEvent event ∧ e.payments.references.get? event.reference = some id ∧
        p.applyEvent e.policy event moment.now = .ok (q, .applied source target)) := by
  obtain ⟨q, hq, -⟩ := h.payment_persists_of_fresh fresh hp
  obtain ⟨p', hp', hcases⟩ | ⟨fresh', invoice, drafted, hid, -, rfl⟩ := h.payment_source hq
  · cases hp.symm.trans hp'
    exact ⟨q, hq, hcases⟩
  · rw [← hid, (drafted_of_ok drafted).id_eq, show e.payment? fresh'.id = none from fresh] at hp
    cases hp

/-- References and payments belong together one by one, and each merchant that is to be paid has a balance and
a profile. -/
structure Referenced (e : Engine) : Prop where
  leads_iff : ∀ reference id, e.payments.references.get? reference = some id ↔
    ∃ p, e.payment? id = some p ∧ p.reference = reference
  account : ∀ id p, e.payment? id = some p → (e.balance? p.merchantId).isSome
  profile : ∀ id p, e.payment? id = some p → (e.gate.profile? p.merchantId).isSome

/-- A reference that leads somewhere leads to a payment that carries it. -/
def Leads (e : Engine) : Prop :=
  ∀ reference id, e.payments.references.get? reference = some id → ∃ p, e.payment? id = some p ∧ p.reference = reference

theorem Leads.step (he : e.Leads) (h : Step e moment op next) (fresh : op.FreshPaymentId e) : next.Leads := by
  intro reference id hr
  obtain hbefore | hnew := h.reference_origin hr
  · obtain ⟨p, hp, rfl⟩ := he reference id hbefore
    obtain ⟨q, hq, hdraft⟩ := h.payment_persists_of_fresh fresh hp
    have hreference : q.draft.reference = p.draft.reference := congrArg Payment.reference hdraft
    exact ⟨q, hq, hreference⟩
  · exact hnew

theorem Leads.referenced (he : e.Leads) (reachable : Reachable config e) : e.Referenced where
  leads_iff reference id := by
    refine ⟨he reference id, ?_⟩
    rintro ⟨p, hp, rfl⟩
    exact reachable.standing.located id p hp
  account := reachable.standing.account
  profile _ _ := reachable.profiled

/-! ## Events -/

/-- The event reaches the payment `p` and no other one. What it makes of the payment is stored and answered, unless it
is refused and changes nothing; neither the payment nor its merchant is missing then. -/
structure Hits (e : Engine) (moment : Moment) (event : ChainEvent) (id : PaymentId) (p : Payment) : Prop where
  others : ∀ other, other ≠ id → (e.perform moment (.handleEvent event)).1.payment? other = e.payment? other
  answered : ∀ answer, (e.perform moment (.handleEvent event)).2 = .ok answer →
    ∃ q transition, p.applyEvent e.policy event moment.now = .ok (q, transition) ∧ answer = .transition transition ∧
      (e.perform moment (.handleEvent event)).1.payment? id = some q
  refused : ∀ error, (e.perform moment (.handleEvent event)).2 = .error (.refused error) →
    (e.perform moment (.handleEvent event)).1 = e ∧ error ≠ .paymentNotFound ∧ error ≠ .merchantNotFound

section

variable {event : ChainEvent} (located : e.payments.references.get? event.reference = some id)
include located

theorem payment?_of_other {other : PaymentId} (hne : other ≠ id) :
    (e.perform moment (.handleEvent event)).1.payment? other = e.payment? other := by
  have hstep := e.perform_step moment (.handleEvent event) trivial
  generalize (e.perform moment (.handleEvent event)).1 = next at hstep
  cases hstep with
  | idle => rfl
  | advance located' =>
    cases located.symm.trans located'
    rw [payment?_storePayment, if_neg hne]
  | complete located' =>
    cases located.symm.trans located'
    exact (payment?_completed ..).trans (if_neg hne)
  | lapse read => exact read.elim

/-- The handling of an event that can take its payment ends as the payment or its completion does. -/
theorem handleEvent_cases (taken : e.lockPayment moment.held.payments id = .ok p) :
    (∃ q transition, p.applyEvent e.policy event moment.now = .ok (q, transition) ∧
      (e.perform moment (.handleEvent event)).1.payment? id = some q ∧
      (e.perform moment (.handleEvent event)).2 = .ok (.transition transition)) ∨
    ∃ fault, (e.perform moment (.handleEvent event)).2 = .error fault ∧
      (p.applyEvent e.policy event moment.now = .error fault ∨
        ∃ q source, p.applyEvent e.policy event moment.now = .ok (q, .applied source .completed) ∧
          ((completePayment moment id q).on e).2 = .error fault) := by
  cases applied : p.applyEvent e.policy event moment.now with
  | error fault =>
    refine .inr ⟨fault, ?_, .inl rfl⟩
    simp only [perform, Operation.action, on_map, Engine.handleEvent, on_bind, on_get, on_lift, locate, located, taken,
      applied, require_some]
    rfl
  | ok moved =>
    obtain ⟨q, transition⟩ := moved
    cases transition with
    | unchanged status =>
      obtain ⟨rfl, -⟩ := Payment.applyEvent_unchanged applied
      rw [perform_handleEvent_of_unchanged located taken applied]
      exact .inl ⟨q, _, rfl, (lockPayment_eq_ok.mp taken).1, rfl⟩
    | applied source target =>
      by_cases short : target = .completed
      · subst short
        have hresult : (e.perform moment (.handleEvent event)).2 =
            ((completePayment moment id q).on e).2.map fun _ => .transition (.applied source .completed) := by
          simp only [perform, Operation.action, on_map, Engine.handleEvent, on_bind, on_get, on_lift, locate, located,
            taken, applied, require_some]
          rcases (completePayment moment id q).on e with ⟨_, _ | _⟩ <;> rfl
        obtain ⟨balance, ⟨row, hrow, free, credited⟩, -⟩ | ⟨fault, ho⟩ := e.completePayment_cases moment id q
        · obtain ⟨hnext, -⟩ := perform_handleEvent_of_credited located taken hrow free applied credited
          cases hcompleted : ((completePayment moment id q).on e).2 with
          | ok u =>
            rw [hcompleted] at hresult
            exact .inl ⟨q, _, rfl, by rw [hnext, payment?_completed, if_pos rfl], hresult⟩
          | error fault =>
            rw [hcompleted] at hresult
            exact .inr ⟨fault, hresult, .inr ⟨q, source, rfl, hcompleted⟩⟩
        · rw [ho] at hresult
          exact .inr ⟨fault, hresult, .inr ⟨q, source, rfl, by rw [ho]⟩⟩
      · rw [perform_handleEvent_of_short located taken applied short]
        exact .inl ⟨q, _, rfl, by rw [payment?_storePayment, if_pos rfl], rfl⟩

end

/-- The completion of a payment fails only as its credit does, or with an overflow. -/
theorem completePayment_ne_error {fault : Fault}
    (missing : e.balance? p.merchantId = none → fault ≠ .refused .merchantNotFound) (held : fault ≠ .refused .timeout)
    (hinvalid : fault ≠ .refused .invalidAmount) (hfunds : fault ≠ .refused .insufficientFunds)
    (hviolation : ∀ reason, fault ≠ .refused (.ledgerInvariantViolation reason)) (hoverflow : fault ≠ .overflow) :
    ((completePayment moment id p).on e).2 ≠ .error fault := by
  have hcredit : ((moveMoney moment p.merchantId (.credit p.netAmount)).on e).2 ≠ .error fault :=
    moveMoney_ne_error missing held fun row _ => row.apply_ne_error hinvalid hfunds hviolation hoverflow _ _
  refine on_bind_ne_error hcredit fun next _ => ?_
  simp only [on_bind, on_modify, on_attempt]
  rcases (recordVolume p.merchantId p.invoiceAmount moment.now).on (next.storePayment id p) with ⟨_, (_ | _) | _⟩
  · exact nofun
  · rintro ⟨⟩
    exact hoverflow rfl
  · exact nofun

theorem completePayment_ne_missing {error : SettlementError} (account : (e.balance? p.merchantId).isSome)
    (missing : error = .paymentNotFound ∨ error = .merchantNotFound) :
    ((completePayment moment id p).on e).2 ≠ .error (.refused error) := by
  have hother : ∀ other, other ≠ .paymentNotFound → other ≠ .merchantNotFound →
      Fault.refused error ≠ .refused other := by
    rintro other hpayment hmerchant ⟨⟩
    exact missing.elim hpayment hmerchant
  refine completePayment_ne_error (fun hnone => ?_) (hother _ nofun nofun) (hother _ nofun nofun) (hother _ nofun nofun)
    (fun _ => hother _ nofun nofun) nofun
  rw [hnone] at account
  cases account

theorem Referenced.hits (he : e.Referenced) (moment : Moment) (stored : e.payment? id = some p) {event : ChainEvent}
    (carries : event.reference = p.reference) : e.Hits moment event id p := by
  have located : e.payments.references.get? event.reference = some id :=
    (he.leads_iff _ _).mpr ⟨p, stored, carries.symm⟩
  have hlock := lockPayment_of_stored stored moment.held.payments
  by_cases held : id ∈ moment.held.payments
  · rw [if_pos held] at hlock
    have htimeout := perform_handleEvent_of_locked located hlock
    refine ⟨fun _ _ => by rw [htimeout], fun _ hanswer => ?_, fun _ hrefused => ?_⟩
    · cases (congrArg Prod.snd htimeout).symm.trans hanswer
    · cases (congrArg Prod.snd htimeout).symm.trans hrefused
      exact ⟨congrArg Prod.fst htimeout, nofun, nofun⟩
  rw [if_neg held] at hlock
  refine ⟨fun other hne => payment?_of_other located hne, fun answer hanswer => ?_, fun error hrefused => ?_⟩
  · obtain ⟨q, transition, applied, hq, hok⟩ | ⟨fault, hfault, -⟩ := handleEvent_cases located hlock
    · cases hok.symm.trans hanswer
      exact ⟨q, transition, applied, rfl, hq⟩
    · cases hfault.symm.trans hanswer
  · refine ⟨Operation.action_atomic moment (.handleEvent event) e (.refused error) trivial hrefused, ?_⟩
    obtain ⟨q, transition, -, -, hok⟩ | ⟨fault, hfault, hcause⟩ := handleEvent_cases located hlock
    · cases hok.symm.trans hrefused
    · cases hfault.symm.trans hrefused
      obtain applied | ⟨q, source, applied, hcompletion⟩ := hcause
      · cases Payment.applyEvent_refused applied
        exact ⟨nofun, nofun⟩
      · obtain ⟨-, hdraft, -⟩ := Payment.applyEvent_applied applied
        have account : (e.balance? q.merchantId).isSome := by
          rw [Payment.merchantId_eq_of_draft hdraft]
          exact he.account id p stored
        exact ⟨fun h => completePayment_ne_missing account (.inl h) hcompletion,
          fun h => completePayment_ne_missing account (.inr h) hcompletion⟩

theorem Reachable.counts_of_completed (reachable : Reachable config e) {event : ChainEvent}
    {source : PaymentStatus}
    (completed : (e.perform moment (.handleEvent event)).2 = .ok (.transition (.applied source .completed))) :
    ∃ id p, e.payments.references.get? event.reference = some id ∧
      Counts e (e.perform moment (.handleEvent event)).1 moment.now id p := by
  cases located : e.payments.references.get? event.reference with
  | none =>
    rw [perform_handleEvent_of_unused located] at completed
    cases completed
  | some id =>
    cases taken : e.lockPayment moment.held.payments id with
    | error fault =>
      rw [perform_handleEvent_of_locked located taken] at completed
      cases completed
    | ok p =>
      obtain ⟨stored, alone⟩ := lockPayment_eq_ok.mp taken
      obtain ⟨q, transition, applied, hq, hok⟩ | ⟨fault, hfault, -⟩ := handleEvent_cases located taken
      · cases hok.symm.trans completed
        obtain ⟨alive, -, hstatus⟩ := Payment.applyEvent_applied applied
        have sound : (e.perform moment (.handleEvent event)).2 ≠ .error .overflow := by
          intro hoverflow
          cases completed.symm.trans hoverflow
        have hstep := e.perform_step moment (.handleEvent event) trivial
        generalize (e.perform moment (.handleEvent event)).1 = next at hstep hq
        refine ⟨id, q, rfl, ?_⟩
        cases hstep with
        | idle =>
          cases hq.symm.trans stored
          exact absurd hstatus (Payment.not_completed_of_open alive)
        | advance located' stored' applied' short =>
          cases located.symm.trans located'
          cases stored.symm.trans stored'
          cases applied.symm.trans applied'
          exact absurd rfl short
        | complete located' stored' applied' credited =>
          cases located.symm.trans located'
          cases stored.symm.trans stored'
          cases applied.symm.trans applied'
          exact Engine.counts_of_completed reachable located stored applied credited alone sound
        | lapse read => exact read.elim
      · cases hfault.symm.trans completed

/-! ## Invoices -/

theorem createInvoice_of_used {fresh : FreshPayment} {invoice : NewInvoice}
    (used : (e.payments.references.get? (invoice.reference.getD fresh.reference)).isSome) :
    ∃ fault, e.perform moment (.createInvoice fresh invoice) = (e, .error fault) ∧
      ∀ p, e.draftPayment fresh invoice moment.now = .ok p → fault = .refused .duplicateReference := by
  simp only [perform, Operation.action, on_map, Engine.createInvoice, recordPayment, on_bind, on_get, on_lift]
  cases drafted : e.draftPayment fresh invoice moment.now with
  | error fault => exact ⟨fault, rfl, fun _ h => by cases h⟩
  | ok p =>
    have hused : ¬ (e.payments.references.get? p.reference).isNone = true := by
      rw [(drafted_of_ok drafted).reference_eq, Option.isNone_iff_eq_none]
      exact Option.isSome_iff_ne_none.mp used
    simp only [check_of_not hused]
    exact ⟨_, rfl, fun _ _ => rfl⟩

theorem payment?_of_created {fresh : FreshPayment} {invoice : NewInvoice}
    (created : (e.perform moment (.createInvoice fresh invoice)).2 = .ok (.payment p)) :
    (e.perform moment (.createInvoice fresh invoice)).1.payment? p.id = some p := by
  simp only [perform, Operation.action, on_map, Engine.createInvoice, recordPayment, on_bind, on_get,
    on_lift] at created ⊢
  cases drafted : e.draftPayment fresh invoice moment.now with
  | error fault =>
    rw [drafted] at created
    cases created
  | ok q =>
    by_cases unused : (e.payments.references.get? q.reference).isNone = true
    · simp only [drafted, check_of unused, on_modify, on_pure] at created ⊢
      cases created
      rw [payment?_indexPayment, payment?_storePayment, if_pos rfl]
    · simp only [drafted, check_of_not unused] at created
      cases created

/-! ## References that are looked up -/

theorem perform_findPayment {reference : PaymentReference}
    (located : e.payments.references.get? reference = some id) (stored : e.payment? id = some p) :
    e.perform moment (.findPayment reference) =
      if id ∈ moment.held.payments then (e, .error (.refused .timeout))
      else (e.storePayment id (p.expire moment.now).1, .ok (.payment (p.expire moment.now).1)) := by
  simp only [perform, Operation.action, on_map, Engine.findPayment, on_bind, on_get, on_lift, locate, located,
    require_some, on_readPayment, lockPayment_of_stored stored]
  by_cases held : id ∈ moment.held.payments
  · rw [if_pos held, if_pos held]
    rfl
  · rw [if_neg held, if_neg held]
    rfl

theorem perform_findPayment_of_unused {reference : PaymentReference}
    (unused : e.payments.references.get? reference = none) :
    e.perform moment (.findPayment reference) = (e, .error (.refused .paymentNotFound)) := by
  simp only [perform, Operation.action, on_map, Engine.findPayment, on_bind, on_get, on_lift, locate, unused,
    require_none]
  rfl

theorem Leads.unused (he : e.Leads) {reference : PaymentReference}
    (h : ∀ id p, e.payment? id = some p → p.reference ≠ reference) : e.payments.references.get? reference = none := by
  rw [← Option.not_isSome_iff_eq_none]
  intro hsome
  obtain ⟨id, hid⟩ := Option.isSome_iff_exists.mp hsome
  obtain ⟨p, hp, href⟩ := he reference id hid
  exact h id p hp href

theorem Referenced.handleEvent_ne_merchantNotFound (he : e.Referenced) (moment : Moment) (event : ChainEvent) :
    (e.perform moment (.handleEvent event)).2 ≠ .error (.refused .merchantNotFound) := by
  intro hrefused
  cases located : e.payments.references.get? event.reference with
  | none =>
    rw [perform_handleEvent_of_unused located] at hrefused
    cases hrefused
  | some id =>
    obtain ⟨p, hp, href⟩ := (he.leads_iff _ _).mp located
    obtain ⟨-, -, hfound⟩ := (he.hits moment hp href.symm).refused _ hrefused
    exact hfound rfl

/-! ## Runs -/

/-- Every identifier that the run hands out to a payment is fresh. -/
def FreshPaymentIds (e : Engine) (ops : List (Moment × Operation)) : Prop :=
  e.Along (fun e _ op => op.FreshPaymentId e) ops

theorem FreshPaymentIds.leads {ops : List (Moment × Operation)} (h : (opened config).FreshPaymentIds ops) :
    ((opened config).run ops).Leads :=
  h.preserved (fun _ _ => trivial) (fun hstep hfresh he => he.step hstep hfresh) (fun _ _ => nofun)

theorem FreshPaymentIds.payment_persists {ops : List (Moment × Operation)} (h : e.FreshPaymentIds ops)
    (hp : e.payment? id = some p) : ∃ q, (e.run ops).payment? id = some q ∧ q.draft = p.draft := by
  refine h.preserved (P := fun e => ∃ q, e.payment? id = some q ∧ q.draft = p.draft) (fun _ _ => trivial) ?_
    ⟨p, hp, rfl⟩
  rintro e next moment op hstep hfresh ⟨q, hq, hdraft⟩
  obtain ⟨r, hr, hsame⟩ := hstep.payment_persists_of_fresh hfresh hq
  exact ⟨r, hr, hsame.trans hdraft⟩

/-- After every run with fresh payment identifiers, a reference leads to an identifier exactly if a payment with both is
stored. So no two payments share a reference, an invoice with one that is in use is refused and changes nothing, and
lookups and events reach the payment that was created with the reference, however long ago. The merchant of each payment
has a balance and a profile: no event fails for want of a merchant, and what completes is counted. -/
theorem references_lead_to_their_payments (config : SettlementConfig) (ops : List (Moment × Operation))
    (fresh : (opened config).FreshPaymentIds ops) :
    let e := (opened config).run ops
    e.Referenced ∧
    (∀ id p id' p', e.payment? id = some p → e.payment? id' = some p' → p.reference = p'.reference → id = id') ∧
    (∀ moment fresh invoice, (e.payments.references.get? (invoice.reference.getD fresh.reference)).isSome →
      ∃ fault, e.perform moment (.createInvoice fresh invoice) = (e, .error fault) ∧
        ∀ p, e.draftPayment fresh invoice moment.now = .ok p → fault = .refused .duplicateReference) ∧
    (∀ before moment fresh invoice after p, ops = before ++ (moment, .createInvoice fresh invoice) :: after →
      (((opened config).run before).perform moment (.createInvoice fresh invoice)).2 = .ok (.payment p) →
      e.payments.references.get? p.reference = some p.id ∧ ∃ q, e.payment? p.id = some q ∧ q.draft = p.draft) ∧
    (∀ id p, e.payment? id = some p → ∀ moment,
      (e.perform moment (.findPayment p.reference) =
        if id ∈ moment.held.payments then (e, .error (.refused .timeout))
        else (e.storePayment id (p.expire moment.now).1, .ok (.payment (p.expire moment.now).1))) ∧
      ∀ event, event.reference = p.reference → e.Hits moment event id p) ∧
    (∀ reference, (∀ id p, e.payment? id = some p → p.reference ≠ reference) → ∀ moment,
      e.perform moment (.findPayment reference) = (e, .error (.refused .paymentNotFound)) ∧
      ∀ event, event.reference = reference →
        e.perform moment (.handleEvent event) = (e, .error (.refused .paymentNotFound))) ∧
    (∀ moment event, (e.perform moment (.handleEvent event)).2 ≠ .error (.refused .merchantNotFound)) ∧
    ∀ moment event source,
      (e.perform moment (.handleEvent event)).2 = .ok (.transition (.applied source .completed)) →
      ∃ id p, e.payments.references.get? event.reference = some id ∧
        Counts e (e.perform moment (.handleEvent event)).1 moment.now id p := by
  intro e
  have hreachable : Reachable config e := reachable_run .opened ops
  have hleads : e.Leads := fresh.leads
  have he : e.Referenced := hleads.referenced hreachable
  refine ⟨he, ?_, fun _ _ _ => createInvoice_of_used, ?_, ?_, ?_, he.handleEvent_ne_merchantNotFound,
    fun _ _ _ => hreachable.counts_of_completed⟩
  · intro id p id' p' hp hp' href
    have hid := (he.leads_iff p.reference id).mpr ⟨p, hp, rfl⟩
    have hid' := (he.leads_iff p.reference id').mpr ⟨p', hp', href.symm⟩
    exact Option.some.inj (hid.symm.trans hid')
  · rintro before moment fresh' invoice after p rfl created
    obtain ⟨-, hafter⟩ := along_append.mp fresh
    obtain ⟨q, hq, hdraft⟩ := FreshPaymentIds.payment_persists hafter.2 (payment?_of_created created)
    have hend : (((opened config).run before).perform moment (.createInvoice fresh' invoice)).1.run after = e := by
      show _ = (opened config).run _
      rw [run_append]
      rfl
    rw [hend] at hq
    have hreference : q.draft.reference = p.draft.reference := congrArg Payment.reference hdraft
    exact ⟨(he.leads_iff _ _).mpr ⟨q, hq, hreference⟩, q, hq, hdraft⟩
  · intro id p hp moment
    exact ⟨perform_findPayment ((he.leads_iff p.reference id).mpr ⟨p, hp, rfl⟩) hp, fun event => he.hits _ hp⟩
  · intro reference h moment
    have hunused := hleads.unused h
    exact ⟨perform_findPayment_of_unused hunused,
      fun _ carries => perform_handleEvent_of_unused (carries ▸ hunused)⟩

/-- Another merchant quotes the reference of the sample invoice. -/
def copied : NewInvoice := ⟨⟨2⟩, whole 50000, some ⟨"PAY-7"⟩, "tron", "T-stall", none⟩

/-- The copy is refused, and the payment of the first merchant completes and is counted. -/
theorem copied_reference_is_refused :
    let ops := invoiced ++ [(⟨.epoch, {}⟩, .registerMerchant ⟨2⟩ .basic)]
    let e := (opened .default).run ops
    (opened .default).FreshPaymentIds ops ∧
      e.perform ⟨.epoch, {}⟩ (.createInvoice ⟨⟨8⟩, ⟨"PAY-8"⟩⟩ copied) = (e, .error (.refused .duplicateReference)) ∧
      ∃ id p, e.payments.references.get? ⟨"PAY-7"⟩ = some id ∧
        Counts e (e.perform ⟨.epoch, {}⟩ paid).1 .epoch id p := by
  intro ops e
  have hfresh : (opened .default).FreshPaymentIds ops :=
    ⟨trivial, trivial, trivial, rfl, trivial, trivial⟩
  obtain ⟨-, -, hused, -, -, -, -, hcounted⟩ := references_lead_to_their_payments .default ops hfresh
  have hdrafted : (e.draftPayment ⟨⟨8⟩, ⟨"PAY-8"⟩⟩ copied .epoch).toOption.isSome := by decide +kernel
  obtain ⟨fault, hrefused, hfault⟩ := hused ⟨.epoch, {}⟩ ⟨⟨8⟩, ⟨"PAY-8"⟩⟩ copied rfl
  cases hp : e.draftPayment ⟨⟨8⟩, ⟨"PAY-8"⟩⟩ copied .epoch with
  | error fault =>
    rw [hp] at hdrafted
    cases hdrafted
  | ok p =>
    rw [hfault p hp] at hrefused
    exact ⟨hfresh, hrefused, hcounted ⟨.epoch, {}⟩
      ⟨⟨"PAY-7"⟩, some "tx", "payer", whole 100, 20, true, none⟩ .created rfl⟩

end Engine
end Settlement
