import Settlement.Proofs.Engine.Atomicity
import Settlement.Proofs.Engine.Journal

/-! Contention for a balance. An operation looks at the locks only where it moves money, so a balance that
is held by someone else delays what would move it, and nothing else. -/
namespace Settlement

def Moment.locking (moment : Moment) (held : List MerchantId) : Moment := { moment with held.balances := held }

@[simp] theorem Moment.now_locking (moment : Moment) (held : List MerchantId) :
    (moment.locking held).now = moment.now := rfl

@[simp] theorem Moment.balances_locking (moment : Moment) (held : List MerchantId) :
    (moment.locking held).held.balances = held := rfl

@[simp] theorem Moment.payments_locking (moment : Moment) (held : List MerchantId) :
    (moment.locking held).held.payments = moment.held.payments := rfl

@[simp] theorem Moment.payouts_locking (moment : Moment) (held : List MerchantId) :
    (moment.locking held).held.payouts = moment.held.payouts := rfl

/-- The moment at which someone holds one more balance. -/
def Moment.holding (moment : Moment) (merchant : MerchantId) : Moment :=
  moment.locking (merchant :: moment.held.balances)

namespace Engine

open Engine.Action

variable {α β : Type} {e next : Engine} {moment : Moment} {merchant other : MerchantId} {op : Operation}
  {move : LedgerOp} {x y : List MerchantId → Action α}

/-- The computation looks at the locks for one movement only: it fails with the movement and then changes nothing, and
else it goes on from the new ledger in the same way whatever is held. -/
def Hinges (e : Engine) (moment : Moment) (merchant : MerchantId) (move : LedgerOp)
    (x : List MerchantId → Action α) : Prop :=
  ∃ rest : Ledger × Balance → Engine × Except Fault α, ∀ held, (x held).on e =
    match e.ledger.apply held merchant move moment.now with
    | .ok moved => rest moved
    | .error fault => (e, .error fault)

theorem hinges_moveMoney : e.Hinges moment merchant move fun held => moveMoney (moment.locking held) merchant move := by
  refine ⟨fun moved => ({ e with ledger := moved.1 }, .ok moved.2), fun held => ?_⟩
  simp only [moveMoney, on_bind, on_get, on_lift, Moment.balances_locking, Moment.now_locking]
  cases e.ledger.apply held merchant move moment.now with
  | ok moved => rfl
  | error fault => rfl

/-- Goes on from where the first part of a computation has ended, unless that failed. -/
def resume (f : α → Action β) : Engine × Except Fault α → Engine × Except Fault β
  | (next, .ok a) => (f a).on next
  | (next, .error fault) => (next, .error fault)

theorem Hinges.bind (h : e.Hinges moment merchant move x) (f : α → Action β) :
    e.Hinges moment merchant move fun held => x held >>= f := by
  obtain ⟨rest, hrest⟩ := h
  refine ⟨fun moved => resume f (rest moved), fun held => ?_⟩
  rw [on_bind, hrest]
  cases e.ledger.apply held merchant move moment.now <;> rfl

theorem Hinges.map (h : e.Hinges moment merchant move x) (g : α → β) :
    e.Hinges moment merchant move fun held => g <$> x held := by
  obtain ⟨rest, hrest⟩ := h
  refine ⟨fun moved => ((rest moved).1, (rest moved).2.map g), fun held => ?_⟩
  rw [on_map, hrest]
  cases e.ledger.apply held merchant move moment.now <;> rfl

theorem Hinges.congr (h : e.Hinges moment merchant move x) (hxy : ∀ held, (y held).on e = (x held).on e) :
    e.Hinges moment merchant move y := by
  obtain ⟨rest, hrest⟩ := h
  exact ⟨rest, fun held => (hxy held).trans (hrest held)⟩

/-! ## Operations -/

theorem hinges_completePayment (id : PaymentId) (p : Payment) :
    e.Hinges moment p.merchantId (.credit p.netAmount) fun held => completePayment (moment.locking held) id p := by
  refine (hinges_moveMoney.bind fun _ => ?f).congr fun held => ?_
  case f => exact do
    modify (·.storePayment id p)
    let _ ← (recordVolume p.merchantId p.invoiceAmount moment.now).attempt
  simp only [completePayment, on_bind, Moment.now_locking]

theorem hinges_openPayout {request : PayoutRequest} {fee : Exchange.FeeBreakdown}
    (valid : request.validate e.config = .ok fee) (id : PayoutId) (retry : Option Retry) :
    e.Hinges moment request.merchantId (.reserve request.amount) fun held =>
      openPayout (moment.locking held) id request retry := by
  refine (hinges_moveMoney.bind fun _ => do
    modify (·.storePayout id (request.payout id fee retry moment.now))
    return request.payout id fee retry moment.now).congr fun held => ?_
  simp only [openPayout, on_bind, on_get, on_lift, valid, Moment.now_locking]

theorem hinges_moveFor {p : Payout} {status : PayoutStatus} (moves : movement? p status = some move) :
    e.Hinges moment p.merchantId move fun held => moveFor (moment.locking held) p status := by
  unfold moveFor
  rw [moves]
  exact hinges_moveMoney.bind _

theorem hinges_of_wanted {payout : Option PayoutId}
    (wanted : e.wanted? moment op = some (.movement merchant move payout)) :
    e.Hinges moment merchant move fun held => op.action (moment.locking held) := by
  cases op with
  | moveMoney merchant move =>
    cases wanted
    exact hinges_moveMoney.map _
  | handleEvent event =>
    simp only [wanted?, Option.bind_eq_bind, Option.bind_eq_some_iff, toOption_eq_some_iff] at wanted
    obtain ⟨id, located, p, taken, wanted⟩ := wanted
    split at wanted
    case h_1 next source applied =>
      cases wanted
      have hhandle : e.Hinges moment next.merchantId (.credit next.netAmount) fun held =>
          Engine.handleEvent (moment.locking held) event := by
        refine ((hinges_completePayment id next).bind fun _ =>
          return PaymentTransition.applied source .completed).congr fun held => ?_
        simp only [Engine.handleEvent, on_bind, on_get, on_lift, locate, located, require_some,
          Moment.payments_locking, Moment.now_locking, taken, applied]
      exact hhandle.map _
    case h_2 => cases wanted
  | requestPayout fresh request =>
    simp only [wanted?] at wanted
    split at wanted
    case h_1 fee valid =>
      cases wanted
      exact (hinges_openPayout valid fresh none).map _
    case h_2 => cases wanted
  | actOnPayout id actor action =>
    simp only [wanted?, Option.bind_eq_bind, Option.bind_eq_some_iff, toOption_eq_some_iff] at wanted
    obtain ⟨p, taken, wanted⟩ := wanted
    split at wanted
    case h_1 next source target acted =>
      obtain ⟨move, moves, hentry⟩ := Option.map_eq_some_iff.mp wanted
      cases hentry
      have hact : e.Hinges moment next.merchantId move fun held =>
          Engine.actOnPayout (moment.locking held) id actor action := by
        refine ((hinges_moveFor moves).bind fun _ => do
          modify (·.storePayout id next)
          return next).congr fun held => ?_
        simp only [Engine.actOnPayout, on_bind, on_get, on_lift, Moment.payouts_locking, Moment.now_locking, taken,
          acted]
      exact hact.map _
    case h_2 => cases wanted
  | resubmit id fresh actor =>
    simp only [wanted?, Option.bind_eq_bind, Option.bind_eq_some_iff, toOption_eq_some_iff] at wanted
    obtain ⟨failed, taken, wanted⟩ := wanted
    split at wanted
    case h_1 fee status first valid =>
      cases wanted
      have hresubmit : e.Hinges moment failed.merchantId (.reserve failed.amount) fun held =>
          Engine.resubmit (moment.locking held) id fresh actor := by
        refine ((hinges_openPayout valid fresh (some ⟨failed.id, failed.retryCount⟩)).bind fun retry => do
          modify (·.storePayout id (failed.linked retry.id moment.now))
          return retry).congr fun held => ?_
        simp only [Engine.resubmit, on_bind, on_get, on_lift, Moment.payouts_locking, Moment.now_locking, taken,
          check_of status, first]
      exact hresubmit.map _
    case h_2 => cases wanted
  | _ => cases wanted

/-- The operation can move money. -/
def Operation.MovesMoney : Operation → Prop
  | handleEvent _ | requestPayout _ _ | actOnPayout _ _ _ | resubmit _ _ _ | moveMoney _ _ => True
  | _ => False

theorem wanted?_locking (e : Engine) (moment : Moment) (held : List MerchantId) (op : Operation) :
    e.wanted? (moment.locking held) op = e.wanted? moment op := by
  cases op <;> rfl

theorem Operation.MovesMoney.movement (hop : op.MovesMoney) {entry : Ledger.Entry}
    (wanted : e.wanted? moment op = some entry) :
    ∃ merchant move payout, entry = .movement merchant move payout := by
  cases op with
  | moveMoney =>
    cases wanted
    exact ⟨_, _, _, rfl⟩
  | requestPayout =>
    simp only [wanted?] at wanted
    split at wanted <;> cases wanted
    exact ⟨_, _, _, rfl⟩
  | handleEvent =>
    simp only [wanted?, Option.bind_eq_bind, Option.bind_eq_some_iff, toOption_eq_some_iff] at wanted
    obtain ⟨_, -, _, -, wanted⟩ := wanted
    split at wanted <;> cases wanted
    exact ⟨_, _, _, rfl⟩
  | resubmit =>
    simp only [wanted?, Option.bind_eq_bind, Option.bind_eq_some_iff, toOption_eq_some_iff] at wanted
    obtain ⟨_, -, wanted⟩ := wanted
    split at wanted <;> cases wanted
    exact ⟨_, _, _, rfl⟩
  | actOnPayout =>
    simp only [wanted?, Option.bind_eq_bind, Option.bind_eq_some_iff, toOption_eq_some_iff] at wanted
    obtain ⟨p, -, wanted⟩ := wanted
    split at wanted
    · obtain ⟨move, -, rfl⟩ := Option.map_eq_some_iff.mp wanted
      exact ⟨_, _, _, rfl⟩
    · cases wanted
  | _ => exact hop.elim

theorem action_of_not_wanted (hop : op.MovesMoney) (still : e.wanted? moment op = none)
    (held held' : List MerchantId) : (op.action (moment.locking held)).on e = (op.action (moment.locking held')).on e := by
  cases op with
  | moveMoney => cases still
  | handleEvent event =>
    simp only [Operation.action, on_map, Engine.handleEvent, on_bind, on_get, on_lift, locate]
    cases located : e.payments.references.get? event.reference with
    | none => rfl
    | some id =>
      simp only [require_some, Moment.payments_locking, Moment.now_locking]
      cases taken : e.lockPayment moment.held.payments id with
      | error fault => rfl
      | ok p =>
        cases applied : p.applyEvent e.policy event moment.now with
        | error fault => simp only [applied]
        | ok moved =>
          obtain ⟨next, transition⟩ := moved
          simp only [applied]
          cases transition with
          | unchanged status => rfl
          | applied source target =>
            cases target with
            | completed => simp [wanted?, located, taken, applied, Except.toOption] at still
            | created | pending | confirming | expired | failed => rfl
  | requestPayout fresh request =>
    simp only [Operation.action, on_map, Engine.requestPayout, openPayout, on_bind, on_get, on_lift]
    cases valid : request.validate e.config with
    | error fault => rfl
    | ok fee => simp [wanted?, valid] at still
  | actOnPayout id actor action =>
    simp only [Operation.action, on_map, Engine.actOnPayout, on_bind, on_get, on_lift, Moment.payouts_locking,
      Moment.now_locking]
    cases taken : e.lockPayout moment.held.payouts id with
    | error fault => rfl
    | ok p =>
      cases acted : p.act actor moment.now action with
      | error fault => simp only [acted]
      | ok moved =>
        obtain ⟨next, transition⟩ := moved
        simp only [acted]
        cases transition with
        | unchanged status => rfl
        | applied source target =>
          cases moves : movement? next target with
          | some move => simp [wanted?, taken, acted, moves, Except.toOption] at still
          | none => simp only [moveFor, moves]
  | resubmit id fresh actor =>
    simp only [Operation.action, on_map, Engine.resubmit, on_bind, on_get, on_lift, Moment.payouts_locking,
      Moment.now_locking]
    cases taken : e.lockPayout moment.held.payouts id with
    | error fault => rfl
    | ok failed =>
      by_cases status : failed.status = .failed
      · cases first : failed.resubmittedAs with
        | some retry => simp only [check_of status, first, on_bind, on_get, on_lift]
        | none =>
          simp only [check_of status, first, openPayout, on_bind, on_get, on_lift]
          cases valid : (PayoutRequest.again failed actor).validate e.config with
          | error fault => rfl
          | ok fee => simp [wanted?, taken, status, first, valid, Except.toOption] at still
      · simp only [check_of_not status]
  | _ => exact hop.elim

/-! ## Balances that are held -/

/-- The operation gets as far as the balance of the merchant: it wants to move money there, and there is one. -/
def Reaches (e : Engine) (moment : Moment) (op : Operation) (merchant : MerchantId) : Prop :=
  (e.balance? merchant).isSome ∧ ∃ move payout, e.wanted? moment op = some (.movement merchant move payout)

theorem apply_of_held {held : List MerchantId} (account : (e.balance? merchant).isSome) (taken : merchant ∈ held) :
    e.ledger.apply held merchant move moment.now = .error (.refused .timeout) := by
  obtain ⟨row, hrow⟩ := Option.isSome_iff_exists.mp account
  rw [Ledger.apply, show e.ledger.balance? merchant = some row from hrow, require_some,
    check_of_not (not_not_intro taken)]
  rfl

theorem apply_congr_held {held held' : List MerchantId}
    (same : (e.balance? merchant).isSome → (merchant ∈ held ↔ merchant ∈ held')) :
    e.ledger.apply held merchant move moment.now = e.ledger.apply held' merchant move moment.now := by
  cases hrow : e.ledger.balance? merchant with
  | none =>
    simp only [Ledger.apply, hrow, require_none]
    rfl
  | some row => simp only [Ledger.apply, hrow, require_some, same (Option.isSome_of_eq_some hrow)]

/-- An operation notices no lock but the one of the balance that it gets as far as. -/
theorem perform_congr_held (hop : op.MovesMoney) {held held' : List MerchantId}
    (same : ∀ merchant, e.Reaches (moment.locking held) op merchant → (merchant ∈ held ↔ merchant ∈ held')) :
    e.perform (moment.locking held) op = e.perform (moment.locking held') op := by
  cases wanted : e.wanted? moment op with
  | none => exact action_of_not_wanted hop wanted held held'
  | some entry =>
    obtain ⟨merchant, move, payout, rfl⟩ := hop.movement wanted
    obtain ⟨rest, hrest⟩ := hinges_of_wanted wanted
    have hsame : e.ledger.apply held merchant move moment.now = e.ledger.apply held' merchant move moment.now :=
      apply_congr_held fun account => same merchant ⟨account, move, payout, (wanted?_locking ..).trans wanted⟩
    exact (hrest held).trans (hsame ▸ (hrest held').symm)

theorem perform_of_held {held : List MerchantId} (reaches : e.Reaches (moment.locking held) op merchant)
    (taken : merchant ∈ held) : e.perform (moment.locking held) op = (e, .error (.refused .timeout)) := by
  obtain ⟨account, move, payout, wanted⟩ := reaches
  obtain ⟨rest, hrest⟩ := hinges_of_wanted ((wanted?_locking e moment held op).symm.trans wanted)
  refine (hrest held).trans ?_
  rw [apply_of_held account taken]

theorem perform_of_refused {row : Balance} {payout : Option PayoutId} {fault : Fault}
    (hrow : e.balance? merchant = some row)
    (wanted : e.wanted? moment op = some (.movement merchant move payout)) (free : merchant ∉ moment.held.balances)
    (refused : row.apply move moment.now = .error fault) : e.perform moment op = (e, .error fault) := by
  obtain ⟨rest, hrest⟩ := hinges_of_wanted wanted
  refine (hrest moment.held.balances).trans ?_
  rw [Ledger.apply, show e.ledger.balance? merchant = some row from hrow, require_some, check_of free]
  show (match row.apply move moment.now >>= _ with | .ok moved => rest moved | .error fault => (e, .error fault)) = _
  rw [refused]
  rfl

theorem balance?_of_accepted {row balance : Balance} {payout : Option PayoutId}
    (hrow : e.balance? merchant = some row)
    (wanted : e.wanted? moment op = some (.movement merchant move payout)) (free : merchant ∉ moment.held.balances)
    (accepted : row.apply move moment.now = .ok balance) : (e.perform moment op).1.balance? merchant = some balance := by
  have hmoves : e.Moves moment merchant move balance := ⟨row, hrow, free, accepted⟩
  have hwrite : (Ledger.Entry.movement merchant move payout).write moment e.ledger =
      .ok (e.storeBalance merchant balance).ledger := write_movement_eq_ok.mpr ⟨balance, hmoves, rfl⟩
  have henters := enters_of_made (made?_eq_some_iff.mpr ⟨wanted, _, hwrite⟩)
  have hledger : (e.perform moment op).1.ledger = (e.storeBalance merchant balance).ledger :=
    Except.ok.inj (henters.write_eq.symm.trans hwrite)
  rw [balance?, hledger]
  exact (e.balance?_storeBalance merchant merchant balance).trans (if_pos rfl)

theorem balance?_of_not_reached (hop : op.MovesMoney) (apart : ¬ e.Reaches moment op merchant) :
    (e.perform moment op).1.balance? merchant = e.balance? merchant := by
  have single : op.Single := by cases op <;> trivial
  obtain ⟨entry, henters⟩ | ⟨hledger, -⟩ := (e.perform_step moment op single).enters_or_still
  · obtain ⟨wanted, -⟩ := made?_eq_some_iff.mp (made?_of_enters henters)
    obtain ⟨other, move, payout, rfl⟩ := hop.movement wanted
    obtain ⟨balance, ⟨row, hrow, -⟩, hledger⟩ := write_movement_eq_ok.mp henters.write_eq
    have hne : merchant ≠ other := by
      rintro rfl
      exact apart ⟨Option.isSome_of_eq_some hrow, move, payout, wanted⟩
    rw [balance?, ← hledger]
    exact (e.balance?_storeBalance other merchant balance).trans (if_neg hne)
  · rw [balance?, hledger]
    rfl

/-- Contention for a balance is transparent. An operation that gets as far as the balance times out while it is held, and
leaves the engine as it is, so whatever is done later is done as if it had not been tried; any other operation does not
notice. An operation gets as far as a balance if it fails when the movement of the balance does and else moves it; if it
does not get there, it leaves the balance alone. -/
theorem contention_is_transparent (e : Engine) (moment : Moment) (merchant : MerchantId) (op : Operation)
    (hop : op.MovesMoney) (free : merchant ∉ moment.held.balances) :
    (e.Reaches moment op merchant →
      e.perform (moment.holding merchant) op = (e, .error (.refused .timeout)) ∧
      (∀ later again, (e.perform (moment.holding merchant) op).1.perform later again = e.perform later again) ∧
      ∃ row move payout, e.balance? merchant = some row ∧
        e.wanted? moment op = some (.movement merchant move payout) ∧
        (∀ fault, row.apply move moment.now = .error fault → e.perform moment op = (e, .error fault)) ∧
        ∀ balance, row.apply move moment.now = .ok balance →
          (e.perform moment op).1.balance? merchant = some balance) ∧
    (¬ e.Reaches moment op merchant →
      e.perform (moment.holding merchant) op = e.perform moment op ∧
      (e.perform moment op).1.balance? merchant = e.balance? merchant) := by
  constructor
  · intro hreaches
    obtain ⟨account, move, payout, wanted⟩ := hreaches
    obtain ⟨row, hrow⟩ := Option.isSome_iff_exists.mp account
    have hblocked : e.perform (moment.holding merchant) op = (e, .error (.refused .timeout)) :=
      perform_of_held ⟨account, move, payout, wanted⟩ List.mem_cons_self
    refine ⟨hblocked, fun later again => ?_, row, move, payout, hrow, wanted, ?_, ?_⟩
    · rw [hblocked]
    · exact fun fault => perform_of_refused hrow wanted free
    · exact fun balance => balance?_of_accepted hrow wanted free
  · intro hapart
    refine ⟨(perform_congr_held hop fun other hother => ?_).symm, balance?_of_not_reached hop hapart⟩
    have hne : other ≠ merchant := by
      rintro rfl
      exact hapart hother
    simp [hne]

/-- The sample payment reaches the balance of its merchant: it times out while the balance is held, and completes
afterwards. The balance of another merchant is none of its business. -/
theorem held_balance_delays_completion :
    let now : Moment := ⟨.epoch, {}⟩
    let e := (opened .default).run (invoiced ++ [(now, .registerMerchant ⟨2⟩ .basic)])
    paid.MovesMoney ∧ e.perform (now.holding ⟨1⟩) paid = (e, .error (.refused .timeout)) ∧
      (e.perform (now.holding ⟨1⟩) paid).1.perform now paid = e.perform now paid ∧
      (e.perform now paid).2 = .ok (.transition (.applied .created .completed)) ∧
      e.perform (now.holding ⟨2⟩) paid = e.perform now paid := by
  intro now e
  have hwanted : e.wanted? now paid = some (.movement ⟨1⟩ (.credit _) none) := rfl
  have hreaches : e.Reaches now paid ⟨1⟩ := ⟨rfl, _, _, hwanted⟩
  obtain ⟨hblocked, hlater, -⟩ := (contention_is_transparent e now ⟨1⟩ paid trivial List.not_mem_nil).1 hreaches
  have hapart : ¬ e.Reaches now paid ⟨2⟩ := by
    rintro ⟨-, move, payout, hother⟩
    cases hwanted.symm.trans hother
  obtain ⟨hsame, -⟩ := (contention_is_transparent e now ⟨2⟩ paid trivial List.not_mem_nil).2 hapart
  exact ⟨trivial, hblocked, hlater _ _, rfl, hsame⟩

end Engine
end Settlement
