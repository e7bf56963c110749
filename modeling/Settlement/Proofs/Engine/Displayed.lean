import Settlement.Proofs.Decimal.Places
import Settlement.Proofs.Engine.Coherence
import Settlement.Proofs.Engine.References
import Settlement.Proofs.Payment.Agreement

/-! Payers who send the amount that they are shown. It is cut to the places of the token, so it falls short of what
the invoice asks for by less than a unit of the last place, which a tolerance of such a unit covers. -/
namespace Settlement

theorem append_ne_append {s t u v : String} {a b : Char} (hs : s.toList.head? = some a) (ht : t.toList.head? = some b)
    (hne : a ≠ b) : s ++ u ≠ t ++ v := by
  intro heq
  have hhead : (s ++ u).toList.head? = (t ++ v).toList.head? := by rw [heq]
  rw [String.toList_append, String.toList_append, List.head?_append, List.head?_append, hs, ht] at hhead
  exact hne (Option.some.inj hhead)

namespace Payment

variable {p : Payment} {policy : ConfirmationPolicy} {event : ChainEvent} {now : Instant} {reason : String}

theorem conflict?_ne_amount (conflict : p.conflict? event = some reason) (expected observed : Decimal) :
    reason ≠ s!"amount mismatch: expected {expected}, observed {observed}" := by
  have hhash (h : conflict?.hashConflict? p event = some reason) :
      reason ≠ s!"amount mismatch: expected {expected}, observed {observed}" := by
    unfold conflict?.hashConflict? at h
    split at h
    · split at h
      · cases h
      · cases h
        simp only [String.append_assoc]
        exact append_ne_append (a := 't') (b := 'a') rfl rfl (by decide)
    · cases h
  unfold conflict? at conflict
  split at conflict
  · split at conflict
    · exact hhash conflict
    · cases conflict
      simp only [String.append_assoc]
      exact append_ne_append (a := 's') (b := 'a') rfl rfl (by decide)
  · exact hhash conflict

/-- A sound event moves a payment on unless it is in conflict with what was observed before. -/
theorem Sound.applyEvent (sound : p.Sound policy event) (alive : p.status.isTerminal = false)
    (due : p.isOverdue now = false) :
    p.applyEvent policy event now = .ok (
      match if p.status = .created then none else p.conflict? event with
      | some reason => p.fail reason now
      | none => p.advance policy event now) := by
  obtain ⟨difference, measured, close⟩ := sound.measured
  exact applyEvent_of_within alive due sound.error measured close

theorem advance_status_ne_failed (alive : p.status.isTerminal = false) :
    (p.advance policy event now).1.status ≠ .failed := by
  rcases Nat.lt_or_ge p.status.progress (target policy event).progress with hlt | hle
  · rw [advance_of_lt now hlt]
    show target policy event ≠ .failed
    obtain htarget | ⟨-, ⟨htarget, -⟩ | ⟨htarget, -⟩⟩ := target_cases policy event <;> rw [htarget] <;> decide
  · rw [advance_of_le now hle]
    intro hs
    rw [hs] at alive
    cases alive

theorem Sound.failed_or {q : Payment} {transition : PaymentTransition} (sound : p.Sound policy event)
    (alive : p.status.isTerminal = false) (due : p.isOverdue now = false)
    (applied : p.applyEvent policy event now = .ok (q, transition)) :
    q.status ≠ .failed ∨
      ∃ reason, q.failureReason = some reason ∧ p.status ≠ .created ∧ p.conflict? event = some reason := by
  rw [sound.applyEvent alive due] at applied
  cases hconflict : (if p.status = .created then none else p.conflict? event) with
  | none =>
    rw [hconflict] at applied
    have hq : (p.advance policy event now).1 = q := congrArg Prod.fst (Except.ok.inj applied)
    exact .inl (hq ▸ advance_status_ne_failed alive)
  | some reason =>
    rw [hconflict] at applied
    cases applied
    split at hconflict
    case isTrue => cases hconflict
    case isFalse late => exact .inr ⟨reason, rfl, late, hconflict⟩

theorem Sound.applyEvent_eq {amount : Decimal} (sound : p.Sound policy event)
    (other : p.Sound policy { event with observedAmount := amount }) (alive : p.status.isTerminal = false)
    (due : p.isOverdue now = false) :
    p.applyEvent policy event now = p.applyEvent policy { event with observedAmount := amount } now := by
  rw [sound.applyEvent alive due, other.applyEvent alive due]
  rfl

theorem abs_displayed_sub_lt (p : Payment) :
    |p.tokenMoney.displayed.toRat - p.tokenAmount.toRat| < 1 / 10 ^ p.tokenCurrency.scale.toNat :=
  p.tokenAmount.abs_truncated_sub_lt _

theorem sound_of_displayed (error : event.error = none) (shown : event.observedAmount.SameValue p.tokenMoney.displayed)
    (tolerant : 1 / 10 ^ p.tokenCurrency.scale.toNat ≤ policy.amountTolerance.toRat) : p.Sound policy event := by
  refine ⟨error, ?_⟩
  rw [Decimal.sameValue_iff_toRat.mp shown]
  exact p.abs_displayed_sub_lt.le.trans tolerant

end Payment

namespace Engine

open Engine.Action

variable {config : SettlementConfig} {e : Engine} {id : PaymentId} {p : Payment} {event : ChainEvent}

theorem Reachable.tokenCurrency_eq (h : Reachable config e) (stored : e.payment? id = some p) :
    p.tokenCurrency = config.tokenCurrency := by
  refine h.payment_preserved (P := (·.tokenCurrency = config.tokenCurrency)) ?_ ?_ ?_ stored
  · rintro e fresh invoice now p rfl drafted
    exact (draft_of_drafted drafted).2.2
  · intro p now hp
    have hsame := congrArg Payment.tokenCurrency (p.draft_expire now)
    exact hsame.trans hp
  · intro e event now p q transition _ applied hp
    have hsame := congrArg Payment.tokenCurrency (Payment.continues_applyEvent applied).draft
    exact hsame.trans hp

theorem perform_handleEvent_congr {amount : Decimal} {moment : Moment}
    (located : e.payments.references.get? event.reference = some id) (stored : e.payment? id = some p)
    (alike : p.applyEvent e.policy event moment.now =
      p.applyEvent e.policy { event with observedAmount := amount } moment.now) :
    e.perform moment (.handleEvent event) =
      e.perform moment (.handleEvent { event with observedAmount := amount }) := by
  rcases hlock : e.lockPayment moment.held.payments id with fault | q
  · have located' : e.payments.references.get? { event with observedAmount := amount }.reference = some id := located
    rw [perform_handleEvent_of_locked located hlock, perform_handleEvent_of_locked located' hlock]
  · obtain ⟨hq, -⟩ := lockPayment_eq_ok.mp hlock
    cases stored.symm.trans hq
    simp only [perform, Operation.action, on_map, Engine.handleEvent, on_bind, on_get, on_lift, locate, located, hlock,
      require_some, alike]

/-- Whoever sends the amount that is shown for an open payment is not refused for the amount, and the payment does not
fail for it, whatever quotient the conversion has produced, if the tolerance is a unit of the last place that is
shown or more. The event is taken as if the exact amount had been sent, and fails the payment only if it is of
another transaction than the one that was observed before. -/
theorem displayed_amount_is_accepted (h : Reachable config e) (moment : Moment)
    (tolerant : 1 / 10 ^ config.tokenCurrency.scale.toNat ≤ config.amountTolerance.toRat)
    (stored : e.payment? id = some p) (alive : p.status.isTerminal = false) (due : p.isOverdue moment.now = false)
    (carries : event.reference = p.reference) (sound : event.error = none)
    (shown : event.observedAmount.SameValue p.tokenMoney.displayed) :
    let handled := e.perform moment (.handleEvent event)
    handled = e.perform moment (.handleEvent { event with observedAmount := p.tokenAmount }) ∧
    (∀ expected observed, handled.2 ≠ .error (.refused (.amountMismatch expected observed))) ∧
    ∃ q, handled.1.payment? id = some q ∧
      (∀ expected observed : Decimal,
        q.failureReason ≠ some s!"amount mismatch: expected {expected}, observed {observed}") ∧
      (q.status = .failed → p.status ≠ .created ∧ ¬ p.SameTransaction event) := by
  intro handled
  have hstanding := h.standing
  have located : e.payments.references.get? event.reference = some id := carries ▸ hstanding.located id p stored
  have hpolicy : e.policy.amountTolerance = config.amountTolerance := by rw [policy, hstanding.config_eq]
  have hsound : p.Sound e.policy event :=
    Payment.sound_of_displayed sound shown (by rw [h.tokenCurrency_eq stored, hpolicy]; exact tolerant)
  have hexact : p.Sound e.policy { event with observedAmount := p.tokenAmount } := by
    refine ⟨sound, ?_⟩
    rw [sub_self, abs_zero, hpolicy]
    exact le_trans (by positivity) tolerant
  refine ⟨perform_handleEvent_congr located stored (hsound.applyEvent_eq hexact alive due),
    fun expected observed => ?_, ?_⟩
  · intro hmismatch
    have taken : e.lockPayment moment.held.payments id = .ok p := by
      rw [lockPayment_of_stored stored, if_neg]
      intro hheld
      have busy := (lockPayment_of_stored stored moment.held.payments).trans (if_pos hheld)
      cases (congrArg Prod.snd (perform_handleEvent_of_locked located busy)).symm.trans hmismatch
    obtain ⟨q, transition, -, -, hok⟩ | ⟨fault, hfault, applied | ⟨q, source, -, hcompletion⟩⟩ :=
      handleEvent_cases located taken
    · cases hok.symm.trans hmismatch
    · rw [hsound.applyEvent alive due] at applied
      cases applied
    · cases hfault.symm.trans hmismatch
      exact absurd hcompletion (completePayment_ne_error (fun _ => nofun) nofun nofun nofun (fun _ => nofun) nofun)
  · have hstep := e.perform_step moment (.handleEvent event) trivial
    obtain ⟨q, hq, hcases⟩ := hstep.payment_cases trivial stored
    have hcoherent := (Reachable.step moment (.handleEvent event) h).coherent hq
    refine ⟨q, hq, ?_⟩
    have hopen : p.status ≠ .failed := by
      intro hs
      rw [hs] at alive
      cases alive
    obtain unfailed | ⟨reason, hreason, late, conflict⟩ : q.status ≠ .failed ∨
        ∃ reason, q.failureReason = some reason ∧ p.status ≠ .created ∧ p.conflict? event = some reason := by
      obtain rfl | rfl | ⟨_, _, _, hop, -, applied⟩ := hcases
      · exact .inl hopen
      · rw [Payment.expire_of_not_overdue due]
        exact .inl hopen
      · cases hop
        exact hsound.failed_or alive due applied
    · have hnone : q.failureReason = none := by rwa [← Option.not_isSome_iff_eq_none, hcoherent.reason_iff]
      rw [hnone]
      exact ⟨fun _ _ => nofun, fun failed => absurd failed unfailed⟩
    · rw [hreason]
      refine ⟨fun expected observed htext => ?_, fun _ => ⟨late, fun same => ?_⟩⟩
      · exact Payment.conflict?_ne_amount conflict expected observed (Option.some.inj htext)
      · rw [Payment.conflict?_eq_none_iff.mpr same] at conflict
        cases conflict

def unitTolerance : SettlementConfig :=
  { SettlementConfig.default with amountTolerance := (Decimal.ofParts? 1 9).getD .zero }

/-- An invoice of 100,000 dong at 30,000 dong for a token, which is a periodic quotient. -/
def periodic : List (Moment × Operation) :=
  let now : Moment := ⟨.epoch, {}⟩
  [(now, .registerMerchant ⟨1⟩ .verified), (now, .setRate ⟨"USDT", "VND"⟩ (whole 30000)),
    (now, .setRate ⟨"USD", "VND"⟩ (whole 30000)),
    (now, .createInvoice ⟨⟨7⟩, ⟨"PAY-7"⟩⟩ ⟨⟨1⟩, whole 100000, none, "tron", "T-shop", none⟩)]

def ninePlaces : ChainEvent :=
  ⟨⟨"PAY-7"⟩, some "tx", "payer", (Decimal.ofParts? 3333333333 9).getD .zero, 20, true, none⟩

/-- They complete the payment as the whole quotient would. -/
theorem nine_places_pay_periodic_quotient :
    let now : Moment := ⟨.epoch, {}⟩
    let e := (opened unitTolerance).run periodic
    (1 / 10 ^ 9 : ℚ) ≤ unitTolerance.amountTolerance.toRat ∧
      (e.perform now (.handleEvent ninePlaces)).2 = .ok (.transition (.applied .created .completed)) ∧
      ∃ p, e.payment? ⟨7⟩ = some p ∧ p.tokenAmount = .ofParts 33333333333333333333333333333 28 ∧
        ninePlaces.observedAmount.SameValue p.tokenMoney.displayed ∧
        e.perform now (.handleEvent ninePlaces) =
          e.perform now (.handleEvent { ninePlaces with observedAmount := p.tokenAmount }) := by
  intro now e
  have htolerant : (1 / 10 ^ 9 : ℚ) ≤ unitTolerance.amountTolerance.toRat := by
    rw [show unitTolerance.amountTolerance = .ofParts 1 9 from rfl]
    norm_num [Decimal.toRat, Decimal.ofParts]
  have hstored : ∃ p, e.payment? ⟨7⟩ = some p := Option.isSome_iff_exists.mp (by decide +kernel)
  obtain ⟨p, hp⟩ := hstored
  have hall : ∀ q ∈ e.payment? ⟨7⟩, q.tokenAmount = .ofParts 33333333333333333333333333333 28 ∧
      q.status = .created ∧ q.isOverdue now.now = false ∧ ninePlaces.reference = q.reference ∧
      ninePlaces.observedAmount.SameValue q.tokenMoney.displayed := by decide +kernel
  obtain ⟨hamount, hcreated, hdue, hreference, hshown⟩ := hall p hp
  obtain ⟨hsame, -⟩ := displayed_amount_is_accepted (reachable_run .opened periodic) now htolerant hp
    (by rw [hcreated]; rfl) hdue hreference rfl hshown
  exact ⟨htolerant, by decide +kernel, p, hp, hamount, hshown, hsame⟩

end Engine
end Settlement
