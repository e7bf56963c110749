import Settlement.Engine.Operation

/-! What a failed operation leaves behind. An operation first reads and decides, then
makes one write that can fail, and what follows that write never fails; so a
refusal finds nothing written. Only the volume that a payment counts is added
behind its other writes, and its overflow is no refusal. -/
namespace Settlement

def Fault.IsRefusal : Fault → Prop
  | refused _ => True
  | overflow => False

theorem ComplianceProfile.addVolume_ne_refused (p : ComplianceProfile) (amount : Decimal) (now : Instant)
    (error : SettlementError) : (p.addVolume amount now).2 ≠ .error (.refused error) := by
  unfold addVolume
  cases (p.dailyVolumeAt now).add? amount with
  | none => exact fun h => nomatch h
  | some daily => cases (p.monthlyVolumeAt now).add? amount <;> exact fun h => nomatch h

theorem ComplianceGate.recordVolume_of_refused {g : ComplianceGate} {merchant : MerchantId} {amount : Decimal}
    {now : Instant} {error : SettlementError} (h : (g.recordVolume merchant amount now).2 = .error (.refused error)) :
    (g.recordVolume merchant amount now).1 = g := by
  unfold recordVolume at h ⊢
  cases hp : g.profile? merchant with
  | none => rfl
  | some p =>
    rw [hp] at h
    exact absurd h (p.addVolume_ne_refused amount now error)

namespace Engine
namespace Action

variable {α β : Type} {bad : Fault → Prop}

/-- The computation writes nothing, however it ends. -/
def ReadOnly (x : Action α) : Prop := ∀ e, (x.on e).1 = e

/-- The computation never ends with one of the faults. -/
def Never (bad : Fault → Prop) (x : Action α) : Prop :=
  ∀ e fault, bad fault → (x.on e).2 ≠ .error fault

/-- A computation that ends with one of the faults has left the engine as it was. -/
def Atomic (bad : Fault → Prop) (x : Action α) : Prop :=
  ∀ e fault, bad fault → (x.on e).2 = .error fault → (x.on e).1 = e

theorem readOnly_get : ReadOnly (get : Action Engine) := fun _ => rfl

theorem readOnly_pure (a : α) : ReadOnly (pure a) := fun _ => rfl

theorem readOnly_lift (decision : Except Fault α) : ReadOnly (liftM decision) := fun _ => rfl

theorem ReadOnly.atomic {x : Action α} (h : x.ReadOnly) : x.Atomic bad := fun e _ _ _ => h e

theorem ReadOnly.bind {x : Action α} {f : α → Action β} (hx : x.ReadOnly) (hf : ∀ a, (f a).ReadOnly) :
    (x >>= f).ReadOnly := by
  intro e
  have hxe := hx e
  rw [on_bind]
  rcases h : x.on e with ⟨next, _ | a⟩ <;> rw [h] at hxe <;> cases hxe
  · rfl
  · exact hf a next

theorem ReadOnly.bind_atomic {x : Action α} {f : α → Action β} (hx : x.ReadOnly)
    (hf : ∀ a, (f a).Atomic bad) : (x >>= f).Atomic bad := by
  intro e fault hbad hfault
  have hxe := hx e
  rw [on_bind] at hfault ⊢
  rcases h : x.on e with ⟨next, _ | a⟩ <;> rw [h] at hxe hfault <;> cases hxe
  · rfl
  · exact hf a next fault hbad hfault

theorem never_pure (a : α) : Never bad (pure a) := fun _ _ _ h => nomatch h

theorem never_modify (f : Engine → Engine) : Never bad (modify f : Action Unit) := fun _ _ _ h => nomatch h

theorem never_get : Never bad (get : Action Engine) := fun _ _ _ h => nomatch h

theorem never_set (next : Engine) : Never bad (set next : Action PUnit) := fun _ _ _ h => nomatch h

theorem Never.bind {x : Action α} {f : α → Action β} (hx : x.Never bad) (hf : ∀ a, (f a).Never bad) :
    (x >>= f).Never bad := by
  intro e fault hbad
  have hxe := hx e fault hbad
  rw [on_bind]
  rcases h : x.on e with ⟨next, other | a⟩ <;> rw [h] at hxe
  · rintro ⟨⟩
    exact hxe rfl
  · exact hf a next fault hbad

theorem Never.atomic {x : Action α} (h : x.Never bad) : x.Atomic bad :=
  fun e fault hbad hfault => absurd hfault (h e fault hbad)

theorem Atomic.bind_never {x : Action α} {f : α → Action β} (hx : x.Atomic bad)
    (hf : ∀ a, (f a).Never bad) : (x >>= f).Atomic bad := by
  intro e fault hbad hfault
  have hxe := hx e fault hbad
  rw [on_bind] at hfault ⊢
  rcases h : x.on e with ⟨next, other | a⟩ <;> rw [h] at hxe hfault
  · cases hfault
    exact hxe rfl
  · exact absurd hfault (hf a next fault hbad)

theorem Atomic.map {x : Action α} (f : α → β) (hx : x.Atomic bad) : (f <$> x).Atomic bad := by
  intro e fault hbad hfault
  have hxe := hx e fault hbad
  rw [on_map] at hfault ⊢
  rcases h : x.on e with ⟨next, other | a⟩ <;> rw [h] at hxe hfault
  · cases hfault
    exact hxe rfl
  · cases hfault

theorem never_attempt (x : Action α) : Never Fault.IsRefusal x.attempt := by
  rintro e (_ | _) hbad
  · rw [on_attempt]
    rcases x.on e with ⟨next, (_ | _) | a⟩ <;> exact fun h => nomatch h
  · exact hbad.elim

end Action

open Engine.Action

variable {bad : Fault → Prop}

theorem moveMoney_atomic (moment : Moment) (merchant : MerchantId) (op : LedgerOp) :
    (moveMoney moment merchant op).Atomic bad :=
  readOnly_get.bind_atomic fun _ => (readOnly_lift _).bind_atomic fun _ =>
    ((never_modify _).bind fun _ => never_pure _).atomic

theorem setTier_atomic (merchant : MerchantId) (tier : KycTier) : (setTier merchant tier).Atomic bad :=
  readOnly_get.bind_atomic fun _ => (readOnly_lift _).bind_atomic fun _ => (never_modify _).atomic

theorem recordPayment_atomic (p : Payment) : (recordPayment p).Atomic bad :=
  readOnly_get.bind_atomic fun _ => (readOnly_lift _).bind_atomic fun _ =>
    ((never_modify _).bind fun _ => never_modify _).atomic

theorem createInvoice_atomic (fresh : FreshPayment) (invoice : NewInvoice) (now : Instant) :
    (createInvoice fresh invoice now).Atomic bad :=
  readOnly_get.bind_atomic fun _ => (readOnly_lift _).bind_atomic fun p =>
    (recordPayment_atomic p).bind_never fun _ => never_pure _

theorem readPayment_atomic (moment : Moment) (id : PaymentId) : (readPayment moment id).Atomic bad := by
  refine readOnly_get.bind_atomic fun _ => (readOnly_lift _).bind_atomic fun p => ?_
  rcases p.expire moment.now with ⟨next, _ | _⟩
  · exact ((never_modify _).bind fun _ => never_pure _).atomic
  · exact (readOnly_pure _).atomic

theorem findPayment_atomic (moment : Moment) (reference : PaymentReference) :
    (findPayment moment reference).Atomic bad :=
  readOnly_get.bind_atomic fun _ => (readOnly_lift _).bind_atomic fun id => readPayment_atomic moment id

theorem openPayout_atomic (moment : Moment) (id : PayoutId) (request : PayoutRequest) (retry : Option Retry) :
    (openPayout moment id request retry).Atomic bad :=
  readOnly_get.bind_atomic fun _ => (readOnly_lift _).bind_atomic fun _ =>
    (moveMoney_atomic _ _ _).bind_never fun _ => (never_modify _).bind fun _ => never_pure _

theorem moveFor_atomic (moment : Moment) (p : Payout) (status : PayoutStatus) :
    (moveFor moment p status).Atomic bad := by
  unfold moveFor
  cases movement? p status with
  | some op => exact (moveMoney_atomic _ _ _).bind_never fun _ => never_pure _
  | none => exact (readOnly_pure _).atomic

theorem actOnPayout_atomic (moment : Moment) (id : PayoutId) (actor : ActorId) (action : PayoutAction) :
    (actOnPayout moment id actor action).Atomic bad := by
  refine readOnly_get.bind_atomic fun _ => (readOnly_lift _).bind_atomic fun _ =>
    (readOnly_lift _).bind_atomic fun ⟨next, transition⟩ => ?_
  cases transition with
  | unchanged => exact (readOnly_pure _).atomic
  | applied source target =>
    exact (moveFor_atomic _ _ _).bind_never fun _ => (never_modify _).bind fun _ => never_pure _

theorem resubmit_atomic (moment : Moment) (id fresh : PayoutId) (actor : ActorId) :
    (resubmit moment id fresh actor).Atomic bad := by
  refine readOnly_get.bind_atomic fun _ => (readOnly_lift _).bind_atomic fun failed =>
    (readOnly_lift _).bind_atomic fun _ => ?_
  cases failed.resubmittedAs with
  | some retryId => exact (readOnly_get.bind fun _ => readOnly_lift _).atomic
  | none => exact (openPayout_atomic _ _ _ _).bind_never fun _ => (never_modify _).bind fun _ => never_pure _

theorem completePayment_atomic (moment : Moment) (id : PaymentId) (p : Payment) :
    (completePayment moment id p).Atomic Fault.IsRefusal :=
  (moveMoney_atomic _ _ _).bind_never fun _ => (never_modify _).bind fun _ =>
    (never_attempt _).bind fun _ => never_pure _

theorem handleEvent_atomic (moment : Moment) (event : ChainEvent) :
    (handleEvent moment event).Atomic Fault.IsRefusal := by
  refine readOnly_get.bind_atomic fun _ => (readOnly_lift _).bind_atomic fun id =>
    readOnly_get.bind_atomic fun _ => (readOnly_lift _).bind_atomic fun _ =>
    readOnly_get.bind_atomic fun _ => (readOnly_lift _).bind_atomic fun ⟨next, transition⟩ => ?_
  cases transition with
  | unchanged => exact (readOnly_pure _).atomic
  | applied source target =>
    cases target with
    | completed => exact (completePayment_atomic _ _ _).bind_never fun _ => never_pure _
    | created | pending | confirming | expired | failed =>
      exact ((never_modify _).bind fun _ => never_pure _).atomic

theorem runEvents_never (held : Locks) (counts : EventCounts) (events : List (ChainEvent × Instant)) :
    (runEvents held counts events).Never Fault.IsRefusal := by
  induction events generalizing counts with
  | nil => exact never_pure _
  | cons event rest ih => exact (never_attempt _).bind fun result => ih (counts.count result)

theorem recordVolume_atomic (merchant : MerchantId) (amount : Decimal) (now : Instant) :
    (recordVolume merchant amount now).Atomic Fault.IsRefusal := by
  rintro e (error | _) hbad hfault
  · show { e with gate := (e.gate.recordVolume merchant amount now).1 } = e
    rw [ComplianceGate.recordVolume_of_refused hfault]
  · exact hbad.elim

theorem Operation.action_atomic (moment : Moment) (op : Operation) :
    (op.action moment).Atomic Fault.IsRefusal := by
  cases op with
  | registerMerchant merchant tier => exact ((never_modify _).bind fun _ => never_pure _).atomic
  | setRate pair rate => exact ((never_modify _).bind fun _ => never_pure _).atomic
  | createInvoice fresh invoice => exact (createInvoice_atomic _ _ _).map _
  | handleEvent event => exact (handleEvent_atomic _ _).map _
  | runEvents events => exact (runEvents_never _ _ _).atomic.map _
  | sweepExpired => exact (never_get.bind fun _ => (never_set _).bind fun _ => never_pure _).atomic
  | readPayment id => exact (readPayment_atomic _ _).map _
  | findPayment reference => exact (findPayment_atomic _ _).map _
  | requestPayout fresh request => exact (openPayout_atomic _ _ _ _).map _
  | actOnPayout id actor action => exact (actOnPayout_atomic _ _ _ _).map _
  | resubmit id fresh actor => exact (resubmit_atomic _ _ _ _).map _
  | readPayout id =>
    exact (readOnly_get.bind fun _ => (readOnly_lift _).bind fun _ => readOnly_pure _).atomic
  | payoutsFor merchant rank => exact (readOnly_get.bind fun _ => readOnly_pure _).atomic
  | moveMoney merchant op => exact (moveMoney_atomic _ _ _).map _
  | openAccount merchant =>
    exact ((never_modify _).bind fun _ => never_get.bind fun _ => never_pure _).atomic
  | registerProfile merchant tier => exact ((never_modify _).bind fun _ => never_pure _).atomic
  | setTier merchant tier => exact (setTier_atomic _ _).bind_never fun _ => never_pure _
  | evaluate merchant amount usdEquivalent payer =>
    exact (readOnly_get.bind fun _ => (readOnly_lift _).bind fun _ => readOnly_pure _).atomic
  | recordVolume merchant amount => exact (recordVolume_atomic _ _ _).bind_never fun _ => never_pure _
  | remaining merchant =>
    exact (readOnly_get.bind fun _ => (readOnly_lift _).bind fun _ => readOnly_pure _).atomic

/-- A refused operation has changed nothing: no balance and no time of its last change, no profile, no
payment or reference to one, no payout or link between two. -/
theorem perform_eq_of_refused (e : Engine) (moment : Moment) (op : Operation) (error : SettlementError)
    (h : (e.perform moment op).2 = .error (.refused error)) : (e.perform moment op).1 = e :=
  op.action_atomic moment e (.refused error) trivial h

def whole (n : UInt32) : Decimal := .ofNat n.toNat (Nat.lt_trans n.toNat_lt (by decide))

/-- A merchant signs up, and writes an invoice of 2,500,000 dong to be paid with 100 tether. -/
def invoiced : List (Moment × Operation) :=
  let now : Moment := ⟨.epoch, {}⟩
  let rate := whole 25000
  [(now, .registerMerchant ⟨1⟩ .verified),
    (now, .setRate ⟨"USDT", "VND"⟩ rate),
    (now, .setRate ⟨"USD", "VND"⟩ rate),
    (now, .createInvoice ⟨⟨7⟩, ⟨"PAY-7"⟩⟩ ⟨⟨1⟩, whole 2500000, none, "tron", "T-shop", none⟩)]

def paid : Operation := .handleEvent ⟨⟨"PAY-7"⟩, some "tx", "payer", whole 100, 20, true, none⟩

/-- While others hold the balance of the merchant or the payment, the payment cannot complete. -/
theorem completion_while_held_writes_nothing :
    let e := (opened .default).run invoiced
    let balance : Moment := ⟨.epoch, { balances := [⟨1⟩] }⟩
    let record : Moment := ⟨.epoch, { payments := [⟨7⟩] }⟩
    e.perform balance paid = (e, .error (.refused .timeout)) ∧
      e.perform record paid = (e, .error (.refused .timeout)) := by
  intro e balance record
  have hbalance : (e.perform balance paid).2 = .error (.refused .timeout) := rfl
  have hrecord : (e.perform record paid).2 = .error (.refused .timeout) := rfl
  exact ⟨Prod.ext (e.perform_eq_of_refused balance paid .timeout hbalance) hbalance,
    Prod.ext (e.perform_eq_of_refused record paid .timeout hrecord) hrecord⟩

end Engine
end Settlement
