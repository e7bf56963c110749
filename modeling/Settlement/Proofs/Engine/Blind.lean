import Settlement.Proofs.Engine.Atomicity
import Settlement.Proofs.Engine.Stores
import Settlement.Proofs.Engine.View

/-! Computations that neither look at the records of payments nor write them. Such a
computation ends alike whatever the records are. -/
namespace Settlement
namespace Engine

def withRecords (e : Engine) (records : Table PaymentId Payment) : Engine :=
  { e with payments := { e.payments with records } }

@[simp] theorem withRecords_self (e : Engine) : e.withRecords e.payments.records = e := rfl

namespace Action

variable {α β : Type}

/-- The computation does not depend on the records of payments, and leaves them as they are. -/
def Blind (x : Action α) : Prop :=
  ∀ e records, x.on (e.withRecords records) = ((x.on e).1.withRecords records, (x.on e).2)

theorem Blind.confined {x : Action α} (hx : x.Blind) (records : Table PaymentId Payment) (e : Engine) :
    x.Confined (withRecords · records) e := hx e records

theorem blind_pure (a : α) : Blind (pure a) := fun _ _ => rfl

theorem blind_lift (decision : Except Fault α) : Blind (liftM decision) := fun _ _ => rfl

theorem blind_modify {f : Engine → Engine} (h : ∀ e records, f (e.withRecords records) = (f e).withRecords records) :
    Blind (modify f : Action Unit) := by
  intro e records
  have hconfined : (modify f : Action Unit).Confined (withRecords · records) e := confined_modify (h e records).symm
  exact hconfined

theorem Blind.bind {x : Action α} {f : α → Action β} (hx : x.Blind) (hf : ∀ a, (f a).Blind) : (x >>= f).Blind :=
  fun e records => (hx.confined records e).bind fun next a _ => (hf a).confined records next

theorem Blind.map {x : Action α} (f : α → β) (hx : x.Blind) : (f <$> x).Blind :=
  fun e records => (hx.confined records e).map f

theorem blind_get_bind {f : Engine → Action β} (hf : ∀ e, (f e).Blind)
    (h : ∀ e records, f (e.withRecords records) = f e) : (get >>= f : Action β).Blind :=
  fun e records => confined_get_bind (h e records) ((hf e).confined records e)

theorem Blind.attempt {x : Action α} (hx : x.Blind) : x.attempt.Blind :=
  fun e records => (hx.confined records e).attempt

end Action

open Engine.Action

theorem moveMoney_blind (moment : Moment) (merchant : MerchantId) (op : LedgerOp) :
    (moveMoney moment merchant op).Blind :=
  blind_get_bind (fun _ => (blind_lift _).bind fun _ => (blind_modify fun _ _ => rfl).bind fun _ => blind_pure _)
    fun _ _ => rfl

theorem setTier_blind (merchant : MerchantId) (tier : KycTier) : (setTier merchant tier).Blind :=
  blind_get_bind (fun _ => (blind_lift _).bind fun _ => blind_modify fun _ _ => rfl) fun _ _ => rfl

theorem recordVolume_blind (merchant : MerchantId) (amount : Decimal) (now : Instant) :
    (recordVolume merchant amount now).Blind :=
  blind_get_bind (fun _ => (blind_modify fun _ _ => rfl).bind fun _ => blind_lift _) fun _ _ => rfl

theorem openPayout_blind (moment : Moment) (id : PayoutId) (request : PayoutRequest) (retry : Option Retry) :
    (openPayout moment id request retry).Blind :=
  blind_get_bind (fun _ => (blind_lift _).bind fun _ => (moveMoney_blind _ _ _).bind fun _ =>
    (blind_modify fun _ _ => rfl).bind fun _ => blind_pure _) fun _ _ => rfl

theorem moveFor_blind (moment : Moment) (p : Payout) (status : PayoutStatus) : (moveFor moment p status).Blind := by
  unfold moveFor
  cases movement? p status with
  | some op => exact (moveMoney_blind _ _ _).bind fun _ => blind_pure _
  | none => exact blind_pure _

theorem actOnPayout_blind (moment : Moment) (id : PayoutId) (actor : ActorId) (action : PayoutAction) :
    (actOnPayout moment id actor action).Blind := by
  refine blind_get_bind (fun _ => (blind_lift _).bind fun _ => (blind_lift _).bind fun ⟨next, transition⟩ => ?_)
    fun _ _ => rfl
  cases transition with
  | unchanged => exact blind_pure _
  | applied source target =>
    exact (moveFor_blind _ _ _).bind fun _ => (blind_modify fun _ _ => rfl).bind fun _ => blind_pure _

theorem resubmit_blind (moment : Moment) (id fresh : PayoutId) (actor : ActorId) :
    (resubmit moment id fresh actor).Blind := by
  refine blind_get_bind (fun _ => (blind_lift _).bind fun failed => (blind_lift _).bind fun _ => ?_) fun _ _ => rfl
  cases failed.resubmittedAs with
  | some retryId => exact blind_get_bind (fun _ => blind_lift _) fun _ _ => rfl
  | none =>
    exact (openPayout_blind _ _ _ _).bind fun _ => (blind_modify fun _ _ => rfl).bind fun _ => blind_pure _

def Operation.OnPayments : Operation → Prop
  | createInvoice _ _ | handleEvent _ | runEvents _ | sweepExpired | readPayment _ | findPayment _ => True
  | _ => False

theorem Operation.action_blind (moment : Moment) {op : Operation} (h : ¬ op.OnPayments) :
    (op.action moment).Blind := by
  cases op with
  | createInvoice | handleEvent | runEvents | sweepExpired | readPayment | findPayment => exact absurd trivial h
  | registerMerchant merchant tier => exact (blind_modify fun _ _ => rfl).bind fun _ => blind_pure _
  | setRate pair rate => exact (blind_modify fun _ _ => rfl).bind fun _ => blind_pure _
  | requestPayout fresh request => exact (openPayout_blind _ _ _ _).map _
  | actOnPayout id actor action => exact (actOnPayout_blind _ _ _ _).map _
  | resubmit id fresh actor => exact (resubmit_blind _ _ _ _).map _
  | readPayout id => exact blind_get_bind (fun _ => (blind_lift _).bind fun _ => blind_pure _) fun _ _ => rfl
  | payoutsFor merchant rank => exact blind_get_bind (fun _ => blind_pure _) fun _ _ => rfl
  | moveMoney merchant op => exact (moveMoney_blind _ _ _).map _
  | openAccount merchant =>
    exact (blind_modify fun _ _ => rfl).bind fun _ => blind_get_bind (fun _ => blind_pure _) fun _ _ => rfl
  | registerProfile merchant tier => exact (blind_modify fun _ _ => rfl).bind fun _ => blind_pure _
  | setTier merchant tier => exact (setTier_blind _ _).bind fun _ => blind_pure _
  | evaluate merchant amount usdEquivalent payer =>
    exact blind_get_bind (fun _ => (blind_lift _).bind fun _ => blind_pure _) fun _ _ => rfl
  | recordVolume merchant amount => exact (recordVolume_blind _ _ _).bind fun _ => blind_pure _
  | remaining merchant => exact blind_get_bind (fun _ => (blind_lift _).bind fun _ => blind_pure _) fun _ _ => rfl

end Engine
end Settlement
