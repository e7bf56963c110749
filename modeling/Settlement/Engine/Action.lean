import Settlement.Engine.Basic

/-! Computations on an engine. They read and write its stores one by one, and what
was written stays written when a later part fails. -/
namespace Settlement
namespace Engine

/-- A computation on an engine, which may fail. -/
def Action : Type → Type := ExceptT Fault (StateM Engine)
  deriving Monad, MonadStateOf Engine, MonadExceptOf Fault

instance : MonadLift (Except Fault) Action :=
  inferInstanceAs (MonadLift (Except Fault) (ExceptT Fault (StateM Engine)))

namespace Action

variable {α β : Type}

/-- The engine that a computation leaves behind, and its result. -/
def on (x : Action α) (e : Engine) : Engine × Except Fault α := (StateT.run (ExceptT.run x) e).swap

@[simp] theorem on_pure (a : α) (e : Engine) : (pure a : Action α).on e = (e, .ok a) := rfl

@[simp] theorem on_get (e : Engine) : (get : Action Engine).on e = (e, .ok e) := rfl

@[simp] theorem on_modify (f : Engine → Engine) (e : Engine) :
    (modify f : Action Unit).on e = (f e, .ok ()) := rfl

@[simp] theorem on_lift (decision : Except Fault α) (e : Engine) :
    (liftM decision : Action α).on e = (e, decision) := rfl

theorem on_bind (x : Action α) (f : α → Action β) (e : Engine) :
    (x >>= f).on e =
      match x.on e with
      | (next, .ok a) => (f a).on next
      | (next, .error fault) => (next, .error fault) := by
  show Prod.swap (ExceptT.bindCont f (x e).1 (x e).2) = _
  rcases h : x e with ⟨_ | a, next⟩ <;> simp [on, ExceptT.run, StateT.run, h] <;> rfl

theorem on_map (f : α → β) (x : Action α) (e : Engine) :
    (f <$> x).on e = ((x.on e).1, (x.on e).2.map f) := by
  show (x >>= fun a => pure (f a)).on e = _
  rw [on_bind]
  rcases x.on e with ⟨next, _ | a⟩ <;> rfl

theorem on_tryCatch (x : Action α) (handle : Fault → Action α) (e : Engine) :
    (tryCatch x handle).on e =
      match x.on e with
      | (next, .ok a) => (next, .ok a)
      | (next, .error fault) => (handle fault).on next := by
  show (StateT.run (ExceptT.run (ExceptT.tryCatch x handle : ExceptT Fault (StateM Engine) α)) e).swap = _
  unfold on ExceptT.tryCatch ExceptT.mk ExceptT.run StateT.run
  simp only [bind, StateT.bind]
  rcases x e with ⟨_ | a, next⟩ <;> rfl

/-- Hands a refusal to the caller as a value. An overflow still ends everything. -/
def attempt (x : Action α) : Action (Except SettlementError α) :=
  tryCatch (Except.ok <$> x) fun
    | .refused error => return .error error
    | .overflow => throw .overflow

theorem on_attempt (x : Action α) (e : Engine) :
    x.attempt.on e =
      match x.on e with
      | (next, .ok a) => (next, .ok (.ok a))
      | (next, .error (.refused error)) => (next, .ok (.error error))
      | (next, .error .overflow) => (next, .error .overflow) := by
  rw [attempt, on_tryCatch, on_map]
  rcases x.on e with ⟨next, (_ | _) | a⟩ <;> rfl

theorem on_get_bind (f : Engine → Action β) (e : Engine) : (get >>= f : Action β).on e = (f e).on e := rfl

theorem on_bind_ne_error {x : Action α} {f : α → Action β} {e : Engine} {fault : Fault}
    (hx : (x.on e).2 ≠ .error fault) (hf : ∀ next a, ((f a).on next).2 ≠ .error fault) :
    ((x >>= f).on e).2 ≠ .error fault := by
  rw [on_bind]
  rcases h : x.on e with ⟨next, other | a⟩
  · rw [h] at hx
    exact fun hfault => hx (by cases hfault; rfl)
  · exact hf next a

theorem on_lift_bind_ne_error {decision : Except Fault α} {f : α → Action β} {e : Engine} {fault : Fault}
    (hdecision : decision ≠ .error fault) (hf : ∀ a, decision = .ok a → ((f a).on e).2 ≠ .error fault) :
    ((liftM decision >>= f : Action β).on e).2 ≠ .error fault := by
  cases decision with
  | error other => exact fun hfault => hdecision (by cases hfault; rfl)
  | ok a => exact hf a rfl

theorem on_map_ne_error {g : α → β} {x : Action α} {e : Engine} {fault : Fault}
    (hx : (x.on e).2 ≠ .error fault) : ((g <$> x).on e).2 ≠ .error fault := by
  rw [on_map]
  rcases h : x.on e with ⟨next, other | a⟩
  · rw [h] at hx
    exact fun hfault => hx (by cases hfault; rfl)
  · exact fun hfault => by cases hfault

end Action

def moveMoney (moment : Moment) (merchant : MerchantId) (op : LedgerOp) : Action Balance := do
  let (ledger, balance) ← (← get).ledger.apply moment.held.balances merchant op moment.now
  modify ({ · with ledger })
  return balance

def setTier (merchant : MerchantId) (tier : KycTier) : Action Unit := do
  let gate ← (← get).gate.setTier merchant tier
  modify ({ · with gate })

def recordVolume (merchant : MerchantId) (amount : Decimal) (now : Instant) : Action Unit := do
  let (gate, result) := (← get).gate.recordVolume merchant amount now
  modify ({ · with gate })
  result

end Engine
end Settlement
