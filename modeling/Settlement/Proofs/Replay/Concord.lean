import Settlement.Proofs.Engine.Handling
import Settlement.Proofs.Replay.Agreement

/-! Operations on engines that agree. They answer alike and leave the engines in agreement, unless one of them
overflows in a volume that is not compared. -/
namespace Settlement
namespace Engine

open Engine.Action

/-- Two computations end alike: in engines that agree with related results, or with one fault. When not all volumes are
compared, they may also part in an overflow. -/
inductive Concord {α β : Type} (π : Comparison) (l l' : Labels) (R : α → β → Prop) :
    Engine × Except Fault α → Engine × Except Fault β → Prop
  | ok {e e' : Engine} {a : α} {b : β} (agrees : e.Agrees π l l' e') (h : R a b) :
    Concord π l l' R (e, .ok a) (e', .ok b)
  | refused {e e' : Engine} (agrees : e.Agrees π l l' e') (error : SettlementError) :
    Concord π l l' R (e, .error (.refused error)) (e', .error (.refused error))
  | overflow (e e' : Engine) : Concord π l l' R (e, .error .overflow) (e', .error .overflow)
  | parted {r : Engine × Except Fault α} {s : Engine × Except Fault β} (lax : ¬ (π.daily ∧ π.monthly))
    (h : r.2 = .error .overflow ∨ s.2 = .error .overflow) : Concord π l l' R r s

variable {α β γ δ : Type} {π : Comparison} {l l' : Labels} {R : α → β → Prop} {S : γ → δ → Prop} {e e' : Engine}
  {now now' : Instant} {m m' : MerchantId} {x : Action α} {y : Action β} {f : α → Action γ} {g : β → Action δ}

theorem on_bind_of_overflow (h : (x.on e).2 = .error .overflow) (f : α → Action γ) :
    ((x >>= f).on e).2 = .error .overflow := by
  rw [on_bind]
  rcases hx : x.on e with ⟨next, fault | a⟩ <;> rw [hx] at h
  · exact congrArg _ (Except.error.inj h)
  · cases h

namespace Concord

theorem bind (h : Concord π l l' R (x.on e) (y.on e'))
    (hfg : ∀ {next next' : Engine} {a : α} {b : β}, next.Agrees π l l' next' → R a b →
      Concord π l l' S ((f a).on next) ((g b).on next')) :
    Concord π l l' S ((x >>= f).on e) ((y >>= g).on e') := by
  generalize hx : x.on e = r at h
  generalize hy : y.on e' = s at h
  cases h with
  | ok agrees hab => rw [on_bind, on_bind, hx, hy]; exact hfg agrees hab
  | refused agrees error => rw [on_bind, on_bind, hx, hy]; exact .refused agrees error
  | overflow next next' => rw [on_bind, on_bind, hx, hy]; exact .overflow next next'
  | parted lax h =>
    refine .parted lax (h.imp (fun hr => ?_) fun hs => ?_)
    · exact on_bind_of_overflow (by rw [hx, hr]) f
    · exact on_bind_of_overflow (by rw [hy, hs]) g

theorem get_bind {f : Engine → Action γ} {g : Engine → Action δ}
    (h : Concord π l l' S ((f e).on e) ((g e').on e')) : Concord π l l' S ((get >>= f).on e) ((get >>= g).on e') := h

theorem lift_bind {decision : Except Fault α} {decision' : Except Fault β} (agrees : e.Agrees π l l' e')
    (h : Answers R decision decision')
    (hfg : ∀ {a : α} {b : β}, R a b → Concord π l l' S ((f a).on e) ((g b).on e')) :
    Concord π l l' S ((liftM decision >>= f).on e) ((liftM decision' >>= g).on e') := by
  cases h with
  | ok hab => exact hfg hab
  | error fault =>
    cases fault with
    | refused error => exact .refused agrees error
    | overflow => exact .overflow e e'

theorem ok_bind {decision : Except Fault α} {decision' : Except Fault β} {a : α} {b : β} (hok : decision = .ok a)
    (hok' : decision' = .ok b) (h : Concord π l l' S ((f a).on e) ((g b).on e')) :
    Concord π l l' S ((liftM decision >>= f).on e) ((liftM decision' >>= g).on e') := by
  rw [hok, hok']
  exact h

theorem modify_bind {f : Unit → Action γ} {g : Unit → Action δ} {write write' : Engine → Engine}
    (h : Concord π l l' S ((f ()).on (write e)) ((g ()).on (write' e'))) :
    Concord π l l' S (((modify write : Action Unit) >>= f).on e) (((modify write' : Action Unit) >>= g).on e') := h

theorem pure {a : α} {b : β} (agrees : e.Agrees π l l' e') (hab : R a b) :
    Concord π l l' R ((pure a : Action α).on e) ((pure b : Action β).on e') := .ok agrees hab

theorem map {f : α → γ} {g : β → δ} (h : Concord π l l' R (x.on e) (y.on e'))
    (hfg : ∀ {a : α} {b : β}, R a b → S (f a) (g b)) : Concord π l l' S ((f <$> x).on e) ((g <$> y).on e') := by
  generalize hx : x.on e = r at h
  generalize hy : y.on e' = s at h
  rw [on_map, on_map, hx, hy]
  cases h with
  | ok agrees hab => exact .ok agrees (hfg hab)
  | refused agrees error => exact .refused agrees error
  | overflow next next' => exact .overflow next next'
  | parted lax h =>
    refine .parted lax (h.imp (fun hr => ?_) fun hs => ?_)
    · show Except.map f r.2 = _
      rw [hr]
      rfl
    · show Except.map g s.2 = _
      rw [hs]
      rfl

end Concord

/-! ## Parts of operations -/

namespace Agrees

/-- Money moves alike within two balances with the same label, and what follows starts from the new balances. -/
theorem moveMoney_bind (h : e.Agrees π l l' e') (hm : SameMerchant l.merchant? l'.merchant? m m') (op : LedgerOp)
    {f : Balance → Action γ} {g : Balance → Action δ}
    (hfg : ∀ {b b' : Balance}, (e.storeBalance m b).Agrees π l l' (e'.storeBalance m' b') →
      Concord π l l' S ((f b).on (e.storeBalance m b)) ((g b').on (e'.storeBalance m' b'))) :
    Concord π l l' S ((moveMoney ⟨now, {}⟩ m op >>= f).on e) ((moveMoney ⟨now', {}⟩ m' op >>= g).on e') := by
  obtain ⟨row, row', hrow, hrow', hamounts⟩ := h.balance? hm
  rw [on_bind, on_bind, on_moveMoney hrow List.not_mem_nil, on_moveMoney hrow' List.not_mem_nil]
  have happly : Answers _ (row.apply op now) (row'.apply op now') := Balance.answers_apply hamounts op
  generalize row.apply op now = r at happly
  generalize row'.apply op now' = s at happly
  cases happly with
  | ok hab => exact hfg (h.storeBalance hm hab)
  | error fault =>
    cases fault with
    | refused error => exact .refused h error
    | overflow => exact .overflow e e'

theorem recordVolume (h : e.Agrees π l l' e') (hm : SameMerchant l.merchant? l'.merchant? m m')
    (hnow : π.counted now now') (amount : Decimal) :
    Concord π l l' (fun _ _ => True) ((recordVolume m amount now).attempt.on e)
      ((Engine.recordVolume m' amount now').attempt.on e') := by
  obtain ⟨p, p', hp, hp', -, -, alike⟩ := h.profile? hm
  have hresult {e : Engine} {m : MerchantId} {p : ComplianceProfile} (known : e.gate.profile? m = some p)
      (now : Instant) : (Engine.recordVolume m amount now).on e =
        (e.countVolume m amount now, (p.addVolume amount now).2) := by
    rw [on_recordVolume, ComplianceGate.recordVolume_of_profile known]
  rw [on_attempt, on_attempt, hresult hp, hresult hp']
  obtain ⟨hok, hok', counted⟩ | ⟨hfull, hfull'⟩ | ⟨lax, hfull⟩ := alike.addVolume hnow amount
  · rw [hok, hok']
    exact .ok (h.countVolume hm hp hp' counted) trivial
  · rw [hfull, hfull']
    exact .overflow _ _
  · refine .parted lax (hfull.imp (fun hr => ?_) fun hs => ?_)
    · rw [hr]
    · rw [hs]

theorem completePayment (h : e.Agrees π l l' e') (hnow : π.counted now now') {reference : PaymentReference}
    {id id' : PaymentId} (located : e.payments.references.get? reference = some id)
    (located' : e'.payments.references.get? reference = some id') {p p' : Payment}
    (same : SamePayment π l.merchant? l'.merchant? p p') :
    Concord π l l' (fun _ _ => True) ((completePayment ⟨now, {}⟩ id p).on e)
      ((Engine.completePayment ⟨now', {}⟩ id' p').on e') := by
  unfold Engine.completePayment
  rw [same.alike.netAmount, same.alike.invoiceAmount]
  refine h.moveMoney_bind same.merchant _ fun hmoved => .modify_bind ?_
  have hstored := hmoved.storePayment located located' same
  exact (hstored.recordVolume same.merchant hnow _).bind fun hcounted _ => .pure hcounted trivial

theorem samePayment_of_moved {p p' q q' : Payment} (same : SamePayment π l.merchant? l'.merchant? p p')
    (alike : q.Alike π q') (draft : q.draft = p.draft) (draft' : q'.draft = p'.draft) :
    SamePayment π l.merchant? l'.merchant? q q' := by
  refine ⟨alike, ?_⟩
  rw [Payment.merchantId_eq_of_draft draft, Payment.merchantId_eq_of_draft draft']
  exact same.merchant

theorem handleEvent (h : e.Agrees π l l' e') (hnow : π.paired now now') (hcounted : π.counted now now')
    {event : ChainEvent} (hquoted : π.quoted event.reference) :
    Concord π l l' (fun _ _ => True) ((handleEvent ⟨now, {}⟩ event).on e)
      ((Engine.handleEvent ⟨now', {}⟩ event).on e') := by
  unfold Engine.handleEvent
  refine .get_bind (.lift_bind h (h.answers_locate hquoted) ?_)
  rintro id id' ⟨p, p', located, located', stored, stored', same⟩
  refine .get_bind (.ok_bind (lockPayment_alone stored) (lockPayment_alone stored') (.get_bind ?_))
  rw [h.policy_eq]
  refine .lift_bind h (same.alike.applyEvent hnow).with_results ?_
  rintro ⟨q, _⟩ ⟨q', transition⟩ ⟨⟨halike, rfl⟩, hq, hq'⟩
  have hsame : SamePayment π l.merchant? l'.merchant? q q' :=
    samePayment_of_moved same halike (Payment.continues_applyEvent hq).draft (Payment.continues_applyEvent hq').draft
  cases transition with
  | unchanged status => exact .pure h trivial
  | applied source target =>
    have hstored := h.storePayment located located' hsame
    cases target with
    | completed => exact (h.completePayment hcounted located located' hsame).bind fun hc _ => .pure hc trivial
    | created | pending | confirming | expired | failed => exact .modify_bind (.pure hstored trivial)

/-! ## Payouts -/

theorem moveFor (h : e.Agrees π l l' e') {p p' : Payout} (same : SamePayout l.merchant? l'.merchant? p p')
    (status : PayoutStatus) :
    Concord π l l' (fun _ _ => True) ((moveFor ⟨now, {}⟩ p status).on e)
      ((Engine.moveFor ⟨now', {}⟩ p' status).on e') := by
  have hmovement : movement? p' status = movement? p status := by
    cases status <;> simp only [movement?, same.alike.amount]
  unfold Engine.moveFor
  rw [hmovement]
  cases movement? p status with
  | none => exact .pure h trivial
  | some op => exact h.moveMoney_bind same.merchant op fun hmoved => .pure hmoved trivial

theorem actOnPayout (h : e.Agrees π l l' e') {label : String} {id id' : PayoutId} {p p' : Payout}
    (hid : l.payout? label = some id) (hid' : l'.payout? label = some id') (stored : e.payout? id = some p)
    (stored' : e'.payout? id' = some p') (same : SamePayout l.merchant? l'.merchant? p p') (actor : ActorId)
    (action : PayoutAction) :
    Concord π l l' (fun _ _ => True) ((actOnPayout ⟨now, {}⟩ id actor action).on e)
      ((Engine.actOnPayout ⟨now', {}⟩ id' actor action).on e') := by
  unfold Engine.actOnPayout
  refine .get_bind (.ok_bind (lockPayout_alone stored) (lockPayout_alone stored') ?_)
  refine .lift_bind h (same.alike.act actor action).with_results ?_
  rintro ⟨q, _⟩ ⟨q', transition⟩ ⟨⟨halike, rfl⟩, hq, hq'⟩
  cases transition with
  | unchanged status => exact .pure h trivial
  | applied source target =>
    have hsame : SamePayout l.merchant? l'.merchant? q q' := by
      refine ⟨halike, ?_⟩
      rw [Payout.merchantId_eq_of_draft (Payout.act_applied hq).2.1,
        Payout.merchantId_eq_of_draft (Payout.act_applied hq').2.1]
      exact same.merchant
    exact (h.moveFor hsame target).bind fun hmoved _ =>
      .modify_bind (.pure (hmoved.storePayout hid hid' hsame) trivial)

theorem requestPayout (h : e.Agrees π l l' e') (now now' : Instant) {id id' : PayoutId} (request request' : PayoutRequest)
    (hm : SameMerchant l.merchant? l'.merchant? request.merchantId request'.merchantId)
    (hamount : request'.amount = request.amount) (hbank : request'.bank = request.bank)
    (fresh : e.payout? id = none) (fresh' : e'.payout? id' = none) (label : String) :
    (∃ error, (requestPayout ⟨now, {}⟩ id request).on e = (e, .error (.refused error)) ∧
      (Engine.requestPayout ⟨now', {}⟩ id' request').on e' = (e', .error (.refused error))) ∨
    (∃ next next', (requestPayout ⟨now, {}⟩ id request).on e = (next, .error .overflow) ∧
      (Engine.requestPayout ⟨now', {}⟩ id' request').on e' = (next', .error .overflow)) ∨
    ∃ next next' p p', (requestPayout ⟨now, {}⟩ id request).on e = (next, .ok p) ∧
      (Engine.requestPayout ⟨now', {}⟩ id' request').on e' = (next', .ok p') ∧
      next.Agrees π (l.withPayout label id) (l'.withPayout label id') next' := by
  have hvalid : request'.validate e'.config = request.validate e.config := by
    rw [PayoutRequest.validate, PayoutRequest.validate, hamount, hbank, h.config_eq]
  obtain ⟨row, row', hrow, hrow', hamounts⟩ := h.balance? hm
  simp only [Engine.requestPayout, Engine.openPayout, on_bind, on_get, on_lift, hvalid]
  cases request.validate e.config with
  | error fault =>
    cases fault with
    | refused error => exact .inl ⟨error, rfl, rfl⟩
    | overflow => exact .inr (.inl ⟨_, _, rfl, rfl⟩)
  | ok fee =>
    have happly : Engine.Answers _ (row.apply (.reserve request.amount) now)
        (row'.apply (.reserve request.amount) now') := Balance.answers_apply hamounts _
    have hmoney : (Engine.moveMoney ⟨now, {}⟩ request.merchantId (.reserve request.amount)).on e = _ :=
      on_moveMoney hrow List.not_mem_nil
    have hmoney' : (Engine.moveMoney ⟨now', {}⟩ request'.merchantId (.reserve request.amount)).on e' = _ :=
      on_moveMoney hrow' List.not_mem_nil
    simp only [hamount, hmoney, hmoney']
    generalize row.apply (.reserve request.amount) now = r at happly
    generalize row'.apply (.reserve request.amount) now' = s at happly
    cases happly with
    | error fault =>
      cases fault with
      | refused error => exact .inl ⟨error, rfl, rfl⟩
      | overflow => exact .inr (.inl ⟨_, _, rfl, rfl⟩)
    | ok hb =>
      have hsame : SamePayout l.merchant? l'.merchant? (request.payout id fee none now)
          (request'.payout id' fee none now') := ⟨⟨rfl, hamount⟩, hm⟩
      exact .inr (.inr ⟨_, _, _, _, rfl, rfl, (h.storeBalance hm hb).openPayout fresh fresh' hsame label⟩)

/-! ## Invoices -/

theorem answers_usdEquivalent (h : e.Agrees π l l' e') (amount : Decimal) :
    Answers Eq (e.usdEquivalent amount) (e'.usdEquivalent amount) := by
  unfold usdEquivalent
  rw [h.config_eq]
  dsimp only
  split
  · exact .ok rfl
  · exact (h.answers_rate _).bind fun {quote quote'} hrate => by
      rw [hrate]
      exact .refl _

theorem evaluate_eq (h : e.Agrees π l l' e') (hm : SameMerchant l.merchant? l'.merchant? m m')
    (hnow : π.counted now now') (amount usdEquivalent : Decimal) (payer : Option PayerIdentity) :
    e'.gate.evaluate m' amount usdEquivalent payer now' = e.gate.evaluate m amount usdEquivalent payer now := by
  obtain ⟨p, p', hp, hp', htier, htier', alike⟩ := h.profile? hm
  have htiers : e'.gate.tiers = e.gate.tiers := congrArg Terms.tiers h.terms
  have hthreshold : e'.gate.travelRuleThreshold = e.gate.travelRuleThreshold :=
    congrArg Terms.travelRuleThreshold h.terms
  have hremaining : e'.gate.remaining m' now' = e.gate.remaining m now := by
    rw [ComplianceGate.remaining, ComplianceGate.remaining, hp, hp', require_some, require_some]
    show p'.remainingLimit _ now' = p.remainingLimit _ now
    rw [htiers, htier, htier', alike.remainingLimit_eq hnow h.daily h.monthly]
  rw [ComplianceGate.evaluate, ComplianceGate.evaluate, hremaining, hthreshold]

theorem answers_draftPayment (h : e.Agrees π l l' e') (hnow : π.counted now now') {fresh fresh' : FreshPayment}
    {invoice invoice' : NewInvoice} (hm : SameMerchant l.merchant? l'.merchant? invoice.merchantId invoice'.merchantId)
    (same : invoice' = { invoice with merchantId := invoice'.merchantId })
    (hdeadline : Option.Rel (fun d d' => ∀ {t t'}, π.paired t t' → (d' < t' ↔ d < t))
      (e.config.paymentTtl?.bind now.plusSeconds?) (e.config.paymentTtl?.bind now'.plusSeconds?)) :
    Answers (SamePayment π l.merchant? l'.merchant?) (e.draftPayment fresh invoice now)
      (e'.draftPayment fresh' invoice' now') := by
  obtain ⟨row, row', hrow, hrow', -⟩ := h.balance? hm
  have haccount : (e.ledger.balance? invoice.merchantId).isSome := Option.isSome_of_eq_some hrow
  have haccount' : (e'.ledger.balance? invoice'.merchantId).isSome := Option.isSome_of_eq_some hrow'
  unfold draftPayment
  rw [h.config_eq, same]
  refine (Answers.refl invoice.validate).bind fun _ => ?_
  refine (h.answers_rate _).bind fun {quote quote'} hrate => ?_
  rw [hrate]
  refine (Answers.refl (Exchange.convert invoice.amount quote.rate)).bind fun {tokens _} ht => ?_
  refine (Answers.refl (Exchange.computeFee ..)).bind fun {fee _} hf => ?_
  refine (h.answers_usdEquivalent invoice.amount).bind fun {usd _} hu => ?_
  subst ht hf hu
  rw [h.evaluate_eq hm hnow]
  refine (Answers.refl (e.gate.evaluate ..)).bind fun _ => ?_
  rw [check_of haccount, check_of haccount']
  refine (Answers.refl (Except.ok ())).bind fun _ => ?_
  obtain ⟨hd, hd'⟩ | ⟨d, d', hd, hd', hdue⟩ := rel_cases hdeadline
  · rw [hd, hd']
    exact .error _
  · rw [hd, hd']
    exact .ok ⟨⟨rfl, rfl, rfl, rfl, rfl, rfl, hdue⟩, hm⟩

/-- Invoices of one amount are recorded alike. A reference that is generated is not in use, and it is not quoted. -/
theorem createInvoice (h : e.Agrees π l l' e') (hnow : π.counted now now') (fresh fresh' : FreshPayment)
    (invoice invoice' : NewInvoice) (hm : SameMerchant l.merchant? l'.merchant? invoice.merchantId invoice'.merchantId)
    (same : invoice' = { invoice with merchantId := invoice'.merchantId })
    (hdeadline : Option.Rel (fun d d' => ∀ {t t'}, π.paired t t' → (d' < t' ↔ d < t))
      (e.config.paymentTtl?.bind now.plusSeconds?) (e.config.paymentTtl?.bind now'.plusSeconds?))
    (hquoted : ∀ reference ∈ invoice.reference, π.quoted reference)
    (unused : e.payment? fresh.id = none) (unused' : e'.payment? fresh'.id = none)
    (vacant : e.payments.references.get? fresh.reference = none)
    (vacant' : e'.payments.references.get? fresh'.reference = none)
    (unquoted : ¬ π.quoted fresh.reference) (unquoted' : ¬ π.quoted fresh'.reference) :
    Concord π l l' (fun _ _ => True) ((createInvoice fresh invoice now).on e)
      ((Engine.createInvoice fresh' invoice' now').on e') := by
  have hreference : invoice'.reference = invoice.reference := by rw [same]
  unfold Engine.createInvoice
  refine .get_bind (.lift_bind h (h.answers_draftPayment hnow hm same hdeadline).with_results ?_)
  rintro p p' ⟨hsame, hp, hp'⟩
  have drafted := drafted_of_ok hp
  have drafted' := drafted_of_ok hp'
  have hboth : (∀ reference, π.quoted reference → (reference = p'.reference ↔ reference = p.reference)) ∧
      (e'.payments.references.get? p'.reference).isNone = (e.payments.references.get? p.reference).isNone := by
    rw [drafted.reference_eq, drafted'.reference_eq, hreference]
    cases hr : invoice.reference with
    | none =>
      refine ⟨fun reference hq => ⟨?_, ?_⟩, ?_⟩
      · rintro rfl
        exact absurd hq unquoted'
      · rintro rfl
        exact absurd hq unquoted
      · rw [Option.getD_none, Option.getD_none, vacant, vacant']
    | some reference =>
      exact ⟨fun _ _ => .rfl, (h.answers_locate (hquoted reference hr)).isNone_eq⟩
  refine Concord.bind (R := fun _ _ => True) ?_ fun hnext _ => .pure hnext trivial
  unfold Engine.recordPayment
  refine .get_bind ?_
  rw [hboth.2]
  refine .lift_bind h (Answers.refl _) fun {_ _} _ => .modify_bind (.pure ?_ trivial)
  exact h.recordPayment (drafted.id_eq ▸ unused) (drafted'.id_eq ▸ unused') hsame hboth.1

end Agrees
end Engine
end Settlement
