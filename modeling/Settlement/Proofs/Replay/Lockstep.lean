import Settlement.Proofs.Replay.Concord
import Settlement.Proofs.Replay.Draws
import Settlement.Proofs.Replay.Registration

/-! Two replays of the same rows. If they agree, a row does the same in both, whatever identifiers they draw; so they
agree in the end. -/
namespace Settlement
namespace Replay

variable {π : Comparison} {r r' next next' : Replay} {row : LogRow} {quoted : PaymentReference → Prop} {n : Nat}
  {m m' : MerchantId}

def labels (r : Replay) : Labels := ⟨r.merchants.get?, r.payouts.get?⟩

structure Looks (r next : Replay) : Prop where
  engine : Engine.Looks r.tier r.labels next.labels r.engine next.engine
  clock : next.clock = r.clock
  tier : next.tier = r.tier

theorem Looks.refl (sound : r.engine.Sound r.tier r.labels) : r.Looks r := ⟨.refl sound, rfl, rfl⟩

/-- The engines of two replays agree, and their clocks belong together. -/
structure Agrees (π : Comparison) (r r' : Replay) : Prop where
  engines : r.engine.Agrees π r.labels r'.labels r'.engine
  clocks : π.paired r.clock r'.clock
  tier : r.tier = π.tier
  tier' : r'.tier = π.tier

theorem Agrees.sound (h : r.Agrees π r') : r.engine.Sound r.tier r.labels := h.tier ▸ h.engines.sound

theorem Agrees.sound' (h : r.Agrees π r') : r'.engine.Sound r'.tier r'.labels := h.tier' ▸ h.engines.sound'

theorem Agrees.of_looks (h : r.Agrees π r') (left : r.Looks next) (right : r'.Looks next') : next.Agrees π next' where
  engines := h.engines.of_looks (h.tier ▸ left.engine) (h.tier' ▸ right.engine)
  clocks := by
    rw [left.clock, right.clock]
    exact h.clocks
  tier := left.tier.trans h.tier
  tier' := right.tier.trans h.tier'

theorem Agrees.with_engines (h : r.Agrees π r') {e e' : Engine} (agrees : e.Agrees π r.labels r'.labels e') :
    Agrees π { r with engine := e } { r' with engine := e' } := ⟨agrees, h.clocks, h.tier, h.tier'⟩

theorem Agrees.fresh (h : r.Agrees π r') : r.fresh.2.Agrees π r'.fresh.2 := ⟨h.engines, h.clocks, h.tier, h.tier'⟩

/-! ## Merchants -/

theorem get?_enrol (r : Replay) (label : String) :
    (r.enrol label).1.merchants.get? label = some (r.enrol label).2 := by
  unfold enrol
  cases h : r.merchants.get? label with
  | some id => exact h
  | none => exact r.merchants.get?_insert_self label _

theorem looks_enrol (sound : r.engine.Sound r.tier r.labels) (ready : r.Ready quoted (n + 1)) (label : String) :
    r.Looks (r.enrol label).1 := by
  cases h : r.merchants.get? label with
  | some id =>
    have hknown : (r.enrol label).1 = r := by rw [enrol, h]
    rw [hknown]
    exact .refl sound
  | none =>
    have hlabels : (⟨(r.merchants.insert label ⟨r.fresh.1⟩).get?, r.payouts.get?⟩ : Labels) =
        r.labels.withMerchant label ⟨r.fresh.1⟩ :=
      congrArg (Labels.mk · _) (funext fun other => r.merchants.get?_insert label other _)
    have unused := ready.unused_fresh
    have hlooks := Engine.looks_registerMerchant sound h unused.account unused.profile r.clock
    rw [enrol_of_new h]
    rw [← hlabels] at hlooks
    exact ⟨hlooks, rfl, rfl⟩

/-! ## One row -/

/-- The two readings of the clocks at a row are such that it does the same in both replays. -/
structure Permits (π : Comparison) (config : SettlementConfig) (row : LogRow) (clock clock' : Instant) : Prop where
  quoted : π.quoted ⟨row.reference⟩
  counted : row.operation = "invoice" ∨ row.operation = "observe" → π.counted clock clock'
  deadline : row.operation = "invoice" → Option.Rel (fun d d' => ∀ {t t'}, π.paired t t' → (d' < t' ↔ d < t))
    (config.paymentTtl?.bind clock.plusSeconds?) (config.paymentTtl?.bind clock'.plusSeconds?)
  sweep : row.operation = "sweep" → Option.Rel π.paired (clock.plusSeconds? row.span) (clock'.plusSeconds? row.span)

/-- A row ends alike in two replays: it is carried out in both, skipped in both, or out of range in both. When not all
volumes are compared, it may also be out of range in one of them only. -/
inductive Concord (π : Comparison) :
    Replay × Except ReplayError Effect → Replay × Except ReplayError Effect → Prop
  | done {next next' : Replay} (agrees : next.Agrees π next') (effect effect' : Effect) :
    Concord π (next, .ok effect) (next', .ok effect')
  | skipped {next next' : Replay} {error error' : ReplayError} (agrees : next.Agrees π next')
    (survives : error ≠ .failed .overflow) (survives' : error' ≠ .failed .overflow) :
    Concord π (next, .error error) (next', .error error')
  | overflow (next next' : Replay) : Concord π (next, .error (.failed .overflow)) (next', .error (.failed .overflow))
  | parted {step step' : Replay × Except ReplayError Effect} (lax : ¬ (π.daily ∧ π.monthly))
    (h : step.2 = .error (.failed .overflow) ∨ step'.2 = .error (.failed .overflow)) : Concord π step step'

def settled (r : Replay) (step : Engine × Except Fault Engine.Answer) : Replay × Except ReplayError Effect :=
  ({ r with engine := step.1 }, (step.2.mapError .failed).map fun _ => .applied)

theorem concord_settled (h : r.Agrees π r') {step step' : Engine × Except Fault Engine.Answer}
    (hstep : Engine.Concord π r.labels r'.labels (fun _ _ => True) step step') :
    Concord π (r.settled step) (r'.settled step') := by
  have hfull {r : Replay} {step : Engine × Except Fault Engine.Answer} (h : step.2 = .error .overflow) :
      (r.settled step).2 = .error (.failed .overflow) := by
    rw [settled, h]
    rfl
  cases hstep with
  | ok agrees => exact .done (h.with_engines agrees) _ _
  | refused agrees error => exact .skipped (h.with_engines agrees) nofun nofun
  | overflow e e' => exact .overflow _ _
  | parted lax h => exact .parted lax (h.imp hfull hfull)

theorem concord_invoiceOf (h : r.Agrees π r') (ready : r.Ready π.quoted 2) (ready' : r'.Ready π.quoted 2)
    (permits : Permits π r.engine.config row r.clock r'.clock) (asks : row.operation = "invoice")
    (hm : SameMerchant r.labels.merchant? r'.labels.merchant? m m') :
    Concord π (invoiceOf row r m) (invoiceOf row r' m') := by
  unfold invoiceOf
  cases row.amount with
  | none => exact .skipped h nofun nofun
  | some amount =>
    have hquoted : ∀ reference ∈ (newInvoice row m amount).reference, π.quoted reference := by
      intro reference hreference
      dsimp only [newInvoice] at hreference
      split at hreference
      · cases hreference
      · cases hreference
        exact permits.quoted
    have hcreated := h.engines.createInvoice (permits.counted (.inl asks)) ⟨⟨r.fresh.1⟩, .generate r.fresh.2.fresh.1⟩
      ⟨⟨r'.fresh.1⟩, .generate r'.fresh.2.fresh.1⟩ (newInvoice row m amount) (newInvoice row m' amount) hm rfl
      (permits.deadline asks) hquoted ready.unused_fresh.payment ready'.unused_fresh.payment
      ready.fresh.unused_fresh.reference ready'.fresh.unused_fresh.reference ready.fresh.unquoted_fresh
      ready'.fresh.unquoted_fresh
    exact concord_settled h.fresh.fresh (hcreated.map fun _ => trivial)

theorem perform_requestPayout {id : PayoutId} {request : PayoutRequest} {e : Engine} {result : Except Fault Payout}
    (h : (Engine.requestPayout ⟨r.clock, {}⟩ id request).on r.engine = (e, result)) :
    r.perform (.requestPayout id request) = ({ r with engine := e }, (result.map .payout).mapError .failed) := by
  unfold Replay.perform Engine.perform Engine.Operation.action
  rw [Engine.Action.on_map, h]

theorem concord_requestOf (h : r.Agrees π r') (ready : r.Ready π.quoted 1) (ready' : r'.Ready π.quoted 1)
    (hm : SameMerchant r.labels.merchant? r'.labels.merchant? m m') :
    Concord π (requestOf row r m) (requestOf row r' m') := by
  unfold requestOf
  split
  · exact .skipped h nofun nofun
  cases row.amount with
  | none => exact .skipped h nofun nofun
  | some amount =>
    have hlabels (r : Replay) (id : PayoutId) : (⟨r.merchants.get?, (r.payouts.insert row.reference id).get?⟩ : Labels) =
        r.labels.withPayout row.reference id :=
      congrArg (Labels.mk _) (funext fun other => r.payouts.get?_insert row.reference other id)
    have hrequests := h.engines.requestPayout r.clock r'.clock (payoutRequest row m amount)
      (payoutRequest row m' amount) hm rfl rfl ready.unused_fresh.payout ready'.unused_fresh.payout row.reference
    dsimp only
    obtain ⟨error, hx, hx'⟩ | ⟨e, e', hx, hx'⟩ | ⟨e, e', p, p', hx, hx', agrees⟩ := hrequests <;>
      rw [perform_requestPayout (r := r.fresh.2) hx, perform_requestPayout (r := r'.fresh.2) hx']
    · exact .skipped h.fresh nofun nofun
    · exact .overflow _ _
    · rw [← hlabels, ← hlabels] at agrees
      refine .done ?_ _ _
      exact ⟨agrees, h.clocks, h.tier, h.tier'⟩

/-- What is done for a merchant with a label ends alike, if it does once the merchant is registered. -/
theorem concord_withMerchant {f : Replay → MerchantId → Replay × Except ReplayError Effect} (h : r.Agrees π r')
    (ready : r.Ready π.quoted (n + 1)) (ready' : r'.Ready π.quoted (n + 1))
    (permits : Permits π r.engine.config row r.clock r'.clock)
    (hf : ∀ {r r' : Replay} {m m' : MerchantId}, r.Agrees π r' → r.Ready π.quoted n → r'.Ready π.quoted n →
      Permits π r.engine.config row r.clock r'.clock → SameMerchant r.labels.merchant? r'.labels.merchant? m m' →
      Concord π (f r m) (f r' m')) (label : String) :
    Concord π (r.withMerchant label f) (r'.withMerchant label f) := by
  unfold withMerchant
  split
  · exact .skipped h nofun nofun
  · obtain ⟨hconfig, -, hclock⟩ := r.framed_enrol label
    obtain ⟨-, -, hclock'⟩ := r'.framed_enrol label
    refine hf (h.of_looks (looks_enrol h.sound ready label) (looks_enrol h.sound' ready' label)) (ready.enrol label)
      (ready'.enrol label) ?_ ⟨label, r.get?_enrol label, r'.get?_enrol label⟩
    rw [hconfig, hclock, hclock']
    exact permits

theorem concord_observe (h : r.Agrees π r') (permits : Permits π r.engine.config row r.clock r'.clock)
    (asks : row.operation = "observe") : Concord π (r.observe row) (r'.observe row) := by
  unfold observe
  cases row.amount with
  | none => exact .skipped h nofun nofun
  | some amount =>
    exact concord_settled h ((h.engines.handleEvent h.clocks (permits.counted (.inr asks)) permits.quoted).map fun _ =>
      trivial)

theorem concord_act (h : r.Agrees π r') (action : PayoutAction) :
    Concord π (r.act row action) (r'.act row action) := by
  unfold act
  obtain ⟨hnone, hnone'⟩ | ⟨id, id', p, p', hid, hid', stored, stored', same⟩ := h.engines.payout_cases row.reference
  · rw [show r.payouts.get? row.reference = none from hnone, show r'.payouts.get? row.reference = none from hnone']
    exact .skipped h nofun nofun
  · rw [show r.payouts.get? row.reference = some id from hid, show r'.payouts.get? row.reference = some id' from hid']
    exact concord_settled h ((h.engines.actOnPayout hid hid' stored stored' same ⟨row.actor⟩ action).map fun _ => trivial)

theorem concord_sweep (h : r.Agrees π r') (permits : Permits π r.engine.config row r.clock r'.clock)
    (asks : row.operation = "sweep") : Concord π (r.sweep row) (r'.sweep row) := by
  have hclocks := permits.sweep asks
  unfold LogRow.span at hclocks
  unfold sweep
  obtain ⟨hnone, hnone'⟩ | ⟨clock, clock', hclock, hclock', paired⟩ := rel_cases hclocks
  · rw [hnone, hnone']
    exact .skipped h nofun nofun
  · rw [hclock, hclock']
    refine .done ?_ _ _
    exact ⟨h.engines.sweepExpired paired, paired, h.tier, h.tier'⟩

theorem Agrees.apply (h : r.Agrees π r') (ready : r.Ready π.quoted (n + 3)) (ready' : r'.Ready π.quoted (n + 3))
    (permits : Permits π r.engine.config row r.clock r'.clock) : Concord π (r.apply row) (r'.apply row) := by
  have hready {r : Replay} (ready : r.Ready π.quoted (n + 3)) : r.Ready π.quoted (2 + 1) :=
    ready.mono (Nat.le_add_left 3 n)
  refine apply_cases row (P := fun f => Concord π (f r) (f r')) ?_ ?_ ?_ ?_ ?_ ?_
  · exact fun asks => concord_withMerchant h (hready ready) (hready ready') permits
      (fun h ready ready' permits hm => concord_invoiceOf h ready ready' permits asks hm) row.merchant
  · exact concord_observe h permits
  · exact fun _ => concord_withMerchant h (hready ready) (hready ready') permits
      (fun h ready ready' _ hm => concord_requestOf h (ready.mono (Nat.le_succ 1)) (ready'.mono (Nat.le_succ 1)) hm)
      row.merchant
  · exact fun _ action => concord_act h action
  · exact concord_sweep h permits
  · exact fun _ => .skipped h nofun nofun

theorem Concord.cases {step step' : Replay × Except ReplayError Effect} (h : Concord π step step') :
    (step.2 ≠ .error (.failed .overflow) ∧ step'.2 ≠ .error (.failed .overflow) ∧ step.1.Agrees π step'.1) ∨
    (step.2 = .error (.failed .overflow) ∧ step'.2 = .error (.failed .overflow)) ∨
    ¬ (π.daily ∧ π.monthly) ∧ (step.2 = .error (.failed .overflow) ∨ step'.2 = .error (.failed .overflow)) := by
  cases h with
  | done agrees => exact .inl ⟨nofun, nofun, agrees⟩
  | skipped agrees survives survives' =>
    exact .inl ⟨fun h => survives (Except.error.inj h), fun h => survives' (Except.error.inj h), agrees⟩
  | overflow => exact .inr (.inl ⟨rfl, rfl⟩)
  | parted lax h => exact .inr (.inr ⟨lax, h⟩)

/-- Two replays end alike: both get through and agree, or neither gets through. When not all volumes are compared, it may
also be one of them that does not get through. -/
inductive Ends (π : Comparison) : Option Replay → Option Replay → Prop
  | both {next next' : Replay} (agrees : next.Agrees π next') : Ends π (some next) (some next')
  | neither : Ends π none none
  | parted {x y : Option Replay} (lax : ¬ (π.daily ∧ π.monthly)) (h : x = none ∨ y = none) : Ends π x y

/-! ## New replays -/

section

variable (config : SettlementConfig) (rate usdRate : Decimal) (clock clock' : Instant) (supply supply' : Uuid.Supply)

theorem terms_opened (tier : KycTier) : (opened config rate usdRate tier clock supply).engine.terms =
    { config
      tiers := config.tiers
      travelRuleThreshold := config.travelRuleThresholdUsd
      price := fun pair =>
        if pair = .ofCodes Engine.usd config.settlementCurrency.code then some usdRate
        else if pair = .ofCodes config.tokenCurrency.code config.settlementCurrency.code then some rate else none } := by
  unfold opened Engine.setRate RateTable.setRate Engine.terms
  dsimp only [Engine.opened, ComplianceGate.opened]
  congr 1
  funext pair
  rw [Table.get?_insert, Table.get?_insert]
  split
  · rfl
  · split <;> rfl

theorem agrees_opened (paired : π.paired clock clock') (daily : (config.tiers.limits π.tier).daily.isSome → π.daily)
    (monthly : (config.tiers.limits π.tier).monthly.isSome → π.monthly) :
    Agrees π (opened config rate usdRate π.tier clock supply) (opened config rate usdRate π.tier clock' supply') where
  engines := Engine.agrees_of_empty ((terms_opened ..).trans (terms_opened ..).symm) daily monthly (fun _ => rfl)
    fun _ => rfl
  clocks := paired
  tier := rfl
  tier' := rfl

end

end Replay
end Settlement
