import Settlement.Proofs.Engine.Handling
import Settlement.Proofs.Engine.Run

/-! The journal of the ledger: every account that is opened in it and every movement that it has
accepted, in order. It is read off the operations, and written out again it gives the ledger. -/
namespace Settlement

/-- What is written into the ledger: a new account, or a movement and the payout on whose behalf it is made. -/
inductive Ledger.Entry
  | account (merchant : MerchantId)
  | movement (merchant : MerchantId) (op : LedgerOp) (payout : Option PayoutId)
  deriving DecidableEq

namespace Ledger.Entry

def write (entry : Entry) (moment : Moment) (l : Ledger) : Except Fault Ledger :=
  match entry with
  | account merchant => .ok (l.openAccount merchant moment.now)
  | movement merchant op _ => (l.apply moment.held.balances merchant op moment.now).map Prod.fst

/-- The movement of an entry, if it is made on behalf of the payout. -/
def madeFor (id : PayoutId) : Entry → Option (MerchantId × LedgerOp)
  | movement merchant op (some payout) => if payout = id then some (merchant, op) else none
  | movement _ _ none | account _ => none

end Ledger.Entry

namespace Engine

open Engine.Action

variable {e next : Engine} {moment : Moment} {op : Operation} {entry : Ledger.Entry}

/-- The entry that a single operation wants to make. -/
def wanted? (e : Engine) (moment : Moment) : Operation → Option Ledger.Entry
  | .registerMerchant merchant _ | .openAccount merchant => some (.account merchant)
  | .moveMoney merchant op => some (.movement merchant op none)
  | .handleEvent event => do
    let id ← e.payments.references.get? event.reference
    let p ← (e.lockPayment moment.held.payments id).toOption
    match p.applyEvent e.policy event moment.now with
    | .ok (next, .applied _ .completed) => some (.movement next.merchantId (.credit next.netAmount) none)
    | _ => none
  | .requestPayout fresh request =>
    match request.validate e.config with
    | .ok _ => some (.movement request.merchantId (.reserve request.amount) (some fresh))
    | .error _ => none
  | .actOnPayout id actor action => do
    let p ← (e.lockPayout moment.held.payouts id).toOption
    match p.act actor moment.now action with
    | .ok (next, .applied _ target) => (movement? next target).map (.movement next.merchantId · (some id))
    | _ => none
  | .resubmit id fresh actor => do
    let failed ← (e.lockPayout moment.held.payouts id).toOption
    match failed.status, failed.resubmittedAs, (PayoutRequest.again failed actor).validate e.config with
    | .failed, none, .ok _ => some (.movement failed.merchantId (.reserve failed.amount) (some fresh))
    | _, _, _ => none
  | _ => none

def made? (e : Engine) (moment : Moment) (op : Operation) : Option Ledger.Entry :=
  (e.wanted? moment op).filter fun entry => (entry.write moment e.ledger).isOk

def entries (e : Engine) : List (Moment × Operation) → List (Moment × Ledger.Entry)
  | [] => []
  | (moment, op) :: rest =>
    ((e.made? moment op).map (moment, ·)).toList ++ (e.perform moment op).1.entries rest

def journal (e : Engine) (ops : List (Moment × Operation)) : List (Moment × Ledger.Entry) := e.entries (e.steps ops)

/-- What is written along with an entry, and under which conditions it is made. -/
inductive Enters (e : Engine) (moment : Moment) : Operation → Ledger.Entry → Engine → Prop
  | register (merchant : MerchantId) (tier : KycTier) :
    Enters e moment (.registerMerchant merchant tier) (.account merchant)
      (e.registerMerchant merchant tier moment.now)
  | account (merchant : MerchantId) :
    Enters e moment (.openAccount merchant) (.account merchant)
      { e with ledger := e.ledger.openAccount merchant moment.now }
  | move {merchant : MerchantId} {op : LedgerOp} {balance : Balance} (moved : e.Moves moment merchant op balance) :
    Enters e moment (.moveMoney merchant op) (.movement merchant op none) (e.storeBalance merchant balance)
  | complete {event : ChainEvent} {id : PaymentId} {p next : Payment} {source : PaymentStatus} {balance : Balance}
    (located : e.payments.references.get? event.reference = some id) (stored : e.payment? id = some p)
    (applied : p.applyEvent e.policy event moment.now = .ok (next, .applied source .completed))
    (credited : e.Moves moment next.merchantId (.credit next.netAmount) balance)
    (free : id ∉ moment.held.payments) :
    Enters e moment (.handleEvent event) (.movement next.merchantId (.credit next.netAmount) none)
      (e.completed id next balance moment.now)
  | request {fresh : PayoutId} {request : PayoutRequest} {fee : Exchange.FeeBreakdown} {balance : Balance}
    (valid : request.validate e.config = .ok fee)
    (reserved : e.Moves moment request.merchantId (.reserve request.amount) balance) :
    Enters e moment (.requestPayout fresh request)
      (.movement request.merchantId (.reserve request.amount) (some fresh))
      ((e.storeBalance request.merchantId balance).storePayout fresh (request.payout fresh fee none moment.now))
  | finish {id : PayoutId} {actor : ActorId} {action : PayoutAction} {p next : Payout}
    {source target : PayoutStatus} {op : LedgerOp} {balance : Balance} (stored : e.payout? id = some p)
    (acted : p.act actor moment.now action = .ok (next, .applied source target))
    (moves : movement? next target = some op) (moved : e.Moves moment next.merchantId op balance)
    (free : id ∉ moment.held.payouts) :
    Enters e moment (.actOnPayout id actor action) (.movement next.merchantId op (some id))
      ((e.storeBalance next.merchantId balance).storePayout id next)
  | retry {id fresh : PayoutId} {actor : ActorId} {failed : Payout} {fee : Exchange.FeeBreakdown}
    {balance : Balance} (stored : e.payout? id = some failed) (status : failed.status = .failed)
    (first : failed.resubmittedAs = none) (valid : (PayoutRequest.again failed actor).validate e.config = .ok fee)
    (reserved : e.Moves moment failed.merchantId (.reserve failed.amount) balance)
    (free : id ∉ moment.held.payouts) :
    Enters e moment (.resubmit id fresh actor) (.movement failed.merchantId (.reserve failed.amount) (some fresh))
      (((e.storeBalance failed.merchantId balance).storePayout fresh
        (failed.retried fresh actor fee moment.now)).storePayout id (failed.linked fresh moment.now))

theorem toOption_eq_some_iff {α : Type} {decision : Except Fault α} {a : α} :
    decision.toOption = some a ↔ decision = .ok a := by
  cases decision <;> simp [Except.toOption]

theorem made?_eq_some_iff : e.made? moment op = some entry ↔
    e.wanted? moment op = some entry ∧ ∃ l, entry.write moment e.ledger = .ok l := by
  rw [made?, Option.filter_eq_some_iff]
  refine and_congr_right fun _ => ?_
  cases entry.write moment e.ledger <;> simp [Except.isOk, Except.toBool]

theorem write_movement_eq_ok {merchant : MerchantId} {op : LedgerOp} {payout : Option PayoutId} {l : Ledger} :
    (Ledger.Entry.movement merchant op payout).write moment e.ledger = .ok l ↔
      ∃ balance, e.Moves moment merchant op balance ∧ (e.storeBalance merchant balance).ledger = l := by
  show (e.ledger.apply moment.held.balances merchant op moment.now).map Prod.fst = _ ↔ _
  constructor
  · intro h
    cases ha : e.ledger.apply moment.held.balances merchant op moment.now with
    | error fault =>
      rw [ha] at h
      cases h
    | ok moved =>
      obtain ⟨next, balance⟩ := moved
      rw [ha] at h
      cases h
      obtain ⟨row, hrow, free, happly, hnext⟩ := Ledger.apply_eq_ok.mp ha
      exact ⟨balance, ⟨row, hrow, free, happly⟩, hnext⟩
  · rintro ⟨balance, ⟨row, hrow, free, happly⟩, hnext⟩
    rw [Ledger.apply_eq_ok.mpr ⟨row, hrow, free, happly, hnext⟩]
    rfl

theorem Moves.on_moveMoney {merchant : MerchantId} {op : LedgerOp} {balance : Balance}
    (h : e.Moves moment merchant op balance) :
    (moveMoney moment merchant op).on e = (e.storeBalance merchant balance, .ok balance) := by
  obtain ⟨row, hrow, free, happly⟩ := h
  rw [Engine.on_moveMoney hrow free, happly]

theorem on_openPayout {id : PayoutId} {request : PayoutRequest} {retry : Option Retry} {fee : Exchange.FeeBreakdown}
    {balance : Balance} (valid : request.validate e.config = .ok fee)
    (reserved : e.Moves moment request.merchantId (.reserve request.amount) balance) :
    (openPayout moment id request retry).on e =
      ((e.storeBalance request.merchantId balance).storePayout id (request.payout id fee retry moment.now),
        .ok (request.payout id fee retry moment.now)) := by
  simp only [openPayout, on_bind, on_get, on_lift, valid, reserved.on_moveMoney, on_modify, on_pure]

theorem enters_of_made (h : e.made? moment op = some entry) : Enters e moment op entry (e.perform moment op).1 := by
  obtain ⟨hwanted, l, hwrite⟩ := made?_eq_some_iff.mp h
  cases op with
  | registerMerchant merchant tier =>
    cases hwanted
    exact .register merchant tier
  | openAccount merchant =>
    cases hwanted
    exact .account merchant
  | moveMoney merchant op =>
    cases hwanted
    obtain ⟨balance, moved, -⟩ := write_movement_eq_ok.mp hwrite
    simp only [perform, Operation.action, on_map, moved.on_moveMoney]
    exact .move moved
  | handleEvent event =>
    simp only [wanted?, bind, Option.bind_eq_some_iff, toOption_eq_some_iff] at hwanted
    obtain ⟨id, located, p, taken, hwanted⟩ := hwanted
    split at hwanted
    case h_1 next source applied =>
      cases hwanted
      obtain ⟨balance, credited, -⟩ := write_movement_eq_ok.mp hwrite
      have hmoves := credited
      obtain ⟨row, hrow, free, happly⟩ := hmoves
      rw [(perform_handleEvent_of_credited located taken hrow free applied happly).1]
      obtain ⟨stored, hfree⟩ := lockPayment_eq_ok.mp taken
      exact .complete located stored applied credited hfree
    case h_2 => cases hwanted
  | requestPayout fresh request =>
    simp only [wanted?] at hwanted
    split at hwanted
    case h_1 fee valid =>
      cases hwanted
      obtain ⟨balance, reserved, -⟩ := write_movement_eq_ok.mp hwrite
      simp only [perform, Operation.action, on_map, Engine.requestPayout, on_openPayout valid reserved]
      exact .request valid reserved
    case h_2 => cases hwanted
  | actOnPayout id actor action =>
    simp only [wanted?, bind, Option.bind_eq_some_iff, toOption_eq_some_iff] at hwanted
    obtain ⟨p, taken, hwanted⟩ := hwanted
    split at hwanted
    case h_1 next source target acted =>
      obtain ⟨op, moves, rfl⟩ := Option.map_eq_some_iff.mp hwanted
      obtain ⟨balance, moved, -⟩ := write_movement_eq_ok.mp hwrite
      simp only [perform, Operation.action, on_map, Engine.actOnPayout, on_bind, on_get, on_lift, taken,
        acted, moveFor, moves, moved.on_moveMoney, on_modify, on_pure]
      obtain ⟨stored, hfree⟩ := lockPayout_eq_ok.mp taken
      exact .finish stored acted moves moved hfree
    case h_2 => cases hwanted
  | resubmit id fresh actor =>
    simp only [wanted?, bind, Option.bind_eq_some_iff, toOption_eq_some_iff] at hwanted
    obtain ⟨failed, taken, hwanted⟩ := hwanted
    split at hwanted
    case h_1 fee status first valid =>
      cases hwanted
      obtain ⟨balance, reserved, -⟩ := write_movement_eq_ok.mp hwrite
      have reserved' : e.Moves moment (PayoutRequest.again failed actor).merchantId
        (.reserve (PayoutRequest.again failed actor).amount) balance := reserved
      simp only [perform, Operation.action, on_map, Engine.resubmit, on_bind, on_get, on_lift, taken,
        check_of status, first, on_openPayout valid reserved', on_modify, on_pure]
      obtain ⟨stored, hfree⟩ := lockPayout_eq_ok.mp taken
      exact .retry stored status first valid reserved hfree
    case h_2 => cases hwanted
  | _ => cases hwanted

theorem made?_of_enters (h : Enters e moment op entry next) : e.made? moment op = some entry := by
  rw [made?_eq_some_iff]
  cases h with
  | register merchant tier | account merchant => exact ⟨rfl, _, rfl⟩
  | move moved => exact ⟨rfl, _, write_movement_eq_ok.mpr ⟨_, moved, rfl⟩⟩
  | complete located stored applied credited free =>
    have taken := lockPayment_eq_ok.mpr ⟨stored, free⟩
    exact ⟨by simp [wanted?, located, taken, applied, Except.toOption], _, write_movement_eq_ok.mpr ⟨_, credited, rfl⟩⟩
  | request valid reserved =>
    exact ⟨by simp [wanted?, valid], _, write_movement_eq_ok.mpr ⟨_, reserved, rfl⟩⟩
  | finish stored acted moves moved free =>
    have taken := lockPayout_eq_ok.mpr ⟨stored, free⟩
    exact ⟨by simp [wanted?, taken, acted, moves, Except.toOption], _, write_movement_eq_ok.mpr ⟨_, moved, rfl⟩⟩
  | retry stored status first valid reserved free =>
    have taken := lockPayout_eq_ok.mpr ⟨stored, free⟩
    exact ⟨by simp [wanted?, taken, status, first, valid, Except.toOption], _,
      write_movement_eq_ok.mpr ⟨_, reserved, rfl⟩⟩

theorem Enters.write_eq (h : Enters e moment op entry next) : entry.write moment e.ledger = .ok next.ledger := by
  cases h with
  | register | account => rfl
  | move moved => exact write_movement_eq_ok.mpr ⟨_, moved, rfl⟩
  | complete located stored applied credited => exact write_movement_eq_ok.mpr ⟨_, credited, rfl⟩
  | request valid reserved => exact write_movement_eq_ok.mpr ⟨_, reserved, rfl⟩
  | finish stored acted moves moved => exact write_movement_eq_ok.mpr ⟨_, moved, rfl⟩
  | retry stored status first valid reserved => exact write_movement_eq_ok.mpr ⟨_, reserved, rfl⟩

/-- A step that makes no entry keeps the ledger, and at most moves on a payout whose money stays where it is. -/
theorem Step.enters_or_still (h : Step e moment op next) :
    (∃ entry, Enters e moment op entry next) ∨ next.ledger = e.ledger ∧
      (next.payout? = e.payout? ∨ ∃ id actor action p q source target, e.payout? id = some p ∧
        p.act actor moment.now action = .ok (q, .applied source target) ∧ movement? q target = none ∧
        next = e.storePayout id q) := by
  cases h with
  | idle | rate | profile | tier | volume | invoice | advance | sweep | lapse => exact .inr ⟨rfl, .inl rfl⟩
  | act stored acted still => exact .inr ⟨rfl, .inr ⟨_, _, _, _, _, _, _, stored, acted, still, rfl⟩⟩
  | register merchant tier => exact .inl ⟨_, .register merchant tier⟩
  | account merchant => exact .inl ⟨_, .account merchant⟩
  | move moved => exact .inl ⟨_, .move moved⟩
  | complete located stored applied credited free => exact .inl ⟨_, .complete located stored applied credited free⟩
  | request valid reserved => exact .inl ⟨_, .request valid reserved⟩
  | finish stored acted moves moved free => exact .inl ⟨_, .finish stored acted moves moved free⟩
  | retry stored status first valid reserved free => exact .inl ⟨_, .retry stored status first valid reserved free⟩

/-- The ledger with the entries of a journal, written one after the other. -/
def replay (l : Ledger) (journal : List (Moment × Ledger.Entry)) : Except Fault Ledger :=
  journal.foldlM (fun l line => line.2.write line.1 l) l

theorem replay_entries {ops : List (Moment × Operation)} (single : ∀ step ∈ ops, step.2.Single) :
    replay e.ledger (e.entries ops) = .ok (e.run ops).ledger := by
  induction ops generalizing e with
  | nil => rfl
  | cons step rest ih =>
    obtain ⟨moment, op⟩ := step
    obtain ⟨hop, hrest⟩ := List.forall_mem_cons.mp single
    rw [entries, run]
    cases h : e.made? moment op with
    | some entry =>
      show (entry.write moment e.ledger >>= fun l => replay l _) = _
      rw [(enters_of_made h).write_eq]
      exact ih hrest
    | none =>
      have hledger : (e.perform moment op).1.ledger = e.ledger := by
        obtain ⟨entry, henters⟩ | ⟨hledger, -⟩ := (e.perform_step moment op hop).enters_or_still
        · cases h.symm.trans (made?_of_enters henters)
        · exact hledger
      rw [← hledger]
      exact ih hrest

/-- Replayed from the first ledger of a run, its journal is accepted entry by entry and gives the last one. -/
theorem replay_journal (e : Engine) (ops : List (Moment × Operation)) :
    replay e.ledger (e.journal ops) = .ok (e.run ops).ledger := by
  rw [journal, replay_entries (e.single_steps ops), run_steps]

end Engine
end Settlement
