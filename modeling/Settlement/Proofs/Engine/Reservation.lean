import Settlement.Proofs.Engine.Journal
import Settlement.Proofs.Engine.Retries

/-! What the journal holds for one payout: its amount is reserved when it is opened, and settled or
released when it ends. After that the payout only ever changes by being linked with its retry. -/
namespace Settlement

/-- The movements that have been made on behalf of a payout. -/
def Payout.movements (p : Payout) : List (MerchantId × LedgerOp) :=
  (p.merchantId, .reserve p.amount) :: ((Engine.movement? p p.status).map (p.merchantId, ·)).toList

namespace Engine

open Engine.Action PayoutBook

variable {config : SettlementConfig} {e next : Engine} {moment : Moment} {op : Operation} {entry : Ledger.Entry}
  {id : PayoutId} {p q : Payout}

theorem movement?_of_alive (alive : p.status.isTerminal = false) : movement? p p.status = none := by
  revert alive
  cases p.status <;> first | exact fun _ => rfl | exact nofun

theorem movements_of_alive (alive : p.status.isTerminal = false) :
    p.movements = [(p.merchantId, .reserve p.amount)] := by
  simp [Payout.movements, movement?_of_alive alive]

theorem movements_of_acted {actor : ActorId} {action : PayoutAction} {source target : PayoutStatus}
    (acted : p.act actor moment.now action = .ok (q, .applied source target)) :
    q.movements = p.movements ++ ((movement? q target).map (q.merchantId, ·)).toList := by
  obtain ⟨alive, hdraft, hstatus, -⟩ := Payout.act_applied acted
  rw [movements_of_alive alive, Payout.movements, hstatus, Payout.merchantId_eq_of_draft hdraft,
    Payout.amount_eq_of_draft hdraft]
  rfl

def movementsOf (e : Engine) (id : PayoutId) : List (MerchantId × LedgerOp) :=
  (e.payout? id).elim [] Payout.movements

theorem movementsOf_storePayout (e : Engine) (id other : PayoutId) (p : Payout) :
    (e.storePayout id p).movementsOf other = if other = id then p.movements else e.movementsOf other := by
  unfold movementsOf
  rw [payout?_storePayout]
  split <;> rfl

theorem Enters.movementsOf_eq (h : Enters e moment op entry next) (fresh : op.FreshPayout e) (id : PayoutId) :
    next.movementsOf id = e.movementsOf id ++ (entry.madeFor id).toList := by
  cases h with
  | register | account | move | complete => exact (List.append_nil _).symm
  | @request new request fee balance valid reserved =>
    have hnew : e.movementsOf new = [] := by rw [movementsOf, show e.payout? new = none from fresh]; rfl
    rw [movementsOf_storePayout]
    by_cases h : id = new
    · rw [if_pos h, h, hnew]
      simp [Ledger.Entry.madeFor, Payout.movements, PayoutRequest.payout, movement?]
    · simp [Ledger.Entry.madeFor, h, Ne.symm h, movementsOf]
  | @finish id' actor action p q source target op balance stored acted moves moved =>
    rw [movementsOf_storePayout]
    by_cases h : id = id'
    · rw [if_pos h, movements_of_acted acted, moves, h]
      simp [movementsOf, stored, Ledger.Entry.madeFor]
    · simp [Ledger.Entry.madeFor, h, Ne.symm h, movementsOf]
  | @retry failedId new actor failed fee balance stored status first valid reserved =>
    have hnew : e.movementsOf new = [] := by rw [movementsOf, show e.payout? new = none from fresh]; rfl
    have hne : failedId ≠ new := by
      rintro rfl
      cases stored.symm.trans fresh
    rw [movementsOf_storePayout, movementsOf_storePayout]
    by_cases h : id = failedId
    · rw [if_pos h, h]
      simp [movementsOf, stored, Ledger.Entry.madeFor, Ne.symm hne]
      rfl
    · rw [if_neg h]
      by_cases h' : id = new
      · rw [if_pos h', h', hnew]
        simp [Ledger.Entry.madeFor, Payout.movements, Payout.retried, PayoutRequest.payout, PayoutRequest.again,
          movement?]
      · simp [Ledger.Entry.madeFor, h', Ne.symm h', movementsOf]

theorem Step.movementsOf_eq (h : Step e moment op next) (quiet : e.made? moment op = none) (id : PayoutId) :
    next.movementsOf id = e.movementsOf id := by
  obtain ⟨entry, henters⟩ | ⟨-, hsame | ⟨id', actor, action, p, q, source, target, stored, acted, still, rfl⟩⟩ :=
    h.enters_or_still
  · cases quiet.symm.trans (made?_of_enters henters)
  · rw [movementsOf, hsame]
    rfl
  · rw [movementsOf_storePayout]
    by_cases hid : id = id'
    · rw [if_pos hid, hid, movements_of_acted acted, still, movementsOf, stored]
      exact List.append_nil _
    · rw [if_neg hid]

/-- The movements that a journal holds for a payout. -/
def madeFor (id : PayoutId) (journal : List (Moment × Ledger.Entry)) : List (MerchantId × LedgerOp) :=
  journal.filterMap fun line => line.2.madeFor id

theorem movementsOf_run {ops : List (Moment × Operation)} (single : ∀ step ∈ ops, step.2.Single)
    (fresh : e.FreshPayouts ops) (id : PayoutId) :
    (e.run ops).movementsOf id = e.movementsOf id ++ madeFor id (e.entries ops) := by
  induction ops generalizing e with
  | nil => exact (List.append_nil _).symm
  | cons step rest ih =>
    obtain ⟨moment, op⟩ := step
    obtain ⟨hop, hrest⟩ := List.forall_mem_cons.mp single
    obtain ⟨hfresh, hfreshRest⟩ := fresh
    rw [run, ih hrest hfreshRest, entries]
    cases h : e.made? moment op with
    | some entry =>
      rw [(enters_of_made h).movementsOf_eq hfresh, List.append_assoc]
      cases hmade : entry.madeFor id <;> simp [madeFor, hmade]
    | none => rw [(e.perform_step moment op hop).movementsOf_eq h]; rfl

theorem FreshPayouts.steps {ops : List (Moment × Operation)} (h : e.FreshPayouts ops) :
    e.FreshPayouts (e.steps ops) :=
  freshPayouts_iff_along.mpr ((freshPayouts_iff_along.mp h).steps fun _ _ _ => trivial)

theorem madeFor_journal {ops : List (Moment × Operation)} (fresh : (opened config).FreshPayouts ops)
    (h : ((opened config).run ops).payout? id = some p) : madeFor id ((opened config).journal ops) = p.movements := by
  have hrun := movementsOf_run ((opened config).single_steps ops) fresh.steps id
  rw [run_steps, movementsOf, h] at hrun
  exact hrun.symm

/-! ## Terminal payouts -/

theorem perform_actOnPayout_of_terminal (stored : e.payout? id = some p) (terminal : p.status.isTerminal = true)
    (moment : Moment) (actor : ActorId) (action : PayoutAction) :
    e.perform moment (.actOnPayout id actor action) =
      (e, if id ∈ moment.held.payouts then .error (.refused .timeout)
        else if action.target = p.status then .ok (.payout p)
        else .error (.refused (action.misplaced p.status))) := by
  have hact := Payout.act_of_terminal terminal actor moment.now action
  have hlock := lockPayout_of_stored stored moment.held.payouts
  simp only [perform, Operation.action, on_map, Engine.actOnPayout, on_bind, on_get, on_lift, hlock]
  by_cases hheld : id ∈ moment.held.payouts
  · simp only [if_pos hheld]
    rfl
  · simp only [if_neg hheld, hact]
    by_cases htarget : action.target = p.status
    · simp only [if_pos htarget]
      rfl
    · simp only [if_neg htarget]
      rfl

theorem perform_resubmit_of_not_failed (stored : e.payout? id = some p) (status : p.status ≠ .failed)
    (moment : Moment) (fresh : PayoutId) (actor : ActorId) :
    e.perform moment (.resubmit id fresh actor) =
      (e, if id ∈ moment.held.payouts then .error (.refused .timeout)
        else .error (.refused (.invalidPayoutStatus p.status))) := by
  have hlock := lockPayout_of_stored stored moment.held.payouts
  simp only [perform, Operation.action, on_map, Engine.resubmit, on_bind, on_get, on_lift, hlock]
  by_cases hheld : id ∈ moment.held.payouts
  · simp only [if_pos hheld]
    rfl
  · simp only [if_neg hheld, check_of_not status]
    rfl

theorem perform_resubmit_of_linked {retry : PayoutId} (stored : e.payout? id = some p) (status : p.status = .failed)
    (linked : p.resubmittedAs = some retry) (opened : e.payout? retry = some q) (distinct : retry ≠ id)
    (moment : Moment) (fresh : PayoutId) (actor : ActorId) :
    e.perform moment (.resubmit id fresh actor) =
      (e, if id ∈ moment.held.payouts ∨ retry ∈ moment.held.payouts then .error (.refused .timeout)
        else .ok (.payout q)) := by
  have hlock := lockPayout_of_stored stored moment.held.payouts
  have hsecond := lockPayout_of_stored opened (id :: moment.held.payouts)
  simp only [List.mem_cons, distinct, false_or] at hsecond
  simp only [perform, Operation.action, on_map, Engine.resubmit, on_bind, on_get, on_lift, hlock]
  by_cases hheld : id ∈ moment.held.payouts
  · simp only [if_pos hheld, if_pos (Or.inl hheld : id ∈ moment.held.payouts ∨ retry ∈ moment.held.payouts)]
    rfl
  · simp only [if_neg hheld, check_of status, linked, on_bind, on_get, on_lift, hsecond, or_iff_right hheld]
    split <;> rfl

/-- In every run that opens payouts under fresh identifiers, whatever else happens in between, the journal, which
adds up to the ledger, holds just this for a payout: one reservation of its amount, and after it a settlement if the
payout is completed, a release if it is rejected or has failed, and nothing as long as it goes on. Once it is
terminal, its record stays as it is, except that one that failed is linked with its retry, once. The action
that ended it can be repeated, and answers with the record; any other is refused for its status, and so is a
second attempt at a payout that has not failed; a further one at a payout that has been linked answers with the
retry. None of them has an effect, and while others hold a payout that they ask for, they time out. -/
theorem payout_reserves_once_and_ends_once (config : SettlementConfig) (ops : List (Moment × Operation))
    (fresh : (opened config).FreshPayouts ops) :
    let e := (opened config).run ops
    let journal := (opened config).journal ops
    replay .empty journal = .ok e.ledger ∧
    (∀ id p, e.payout? id = some p → madeFor id journal = (p.merchantId, .reserve p.amount) ::
      match p.status with
      | .completed => [(p.merchantId, .settle p.amount)]
      | .rejected | .failed => [(p.merchantId, .release p.amount)]
      | .requested | .approved | .processing => []) ∧
    (∀ done, done <+: ops → ∀ id p, ((opened config).run done).payout? id = some p → p.status.isTerminal = true →
      ∃ q, e.payout? id = some q ∧
        (q = p ∨ p.status = .failed ∧ p.resubmittedAs = none ∧ ∃ retry now, q = p.linked retry now)) ∧
    ∀ id p, e.payout? id = some p → p.status.isTerminal = true → ∀ moment actor,
      (∀ action, e.perform moment (.actOnPayout id actor action) =
        (e, if id ∈ moment.held.payouts then .error (.refused .timeout)
          else if action.target = p.status then .ok (.payout p)
          else .error (.refused (action.misplaced p.status)))) ∧
      ∀ retry,
        (p.status ≠ .failed → e.perform moment (.resubmit id retry actor) =
          (e, if id ∈ moment.held.payouts then .error (.refused .timeout)
            else .error (.refused (.invalidPayoutStatus p.status)))) ∧
        ∀ first, p.resubmittedAs = some first → ∃ q, e.payout? first = some q ∧ q.retryOf = some id ∧
          e.perform moment (.resubmit id retry actor) =
            (e, if id ∈ moment.held.payouts ∨ first ∈ moment.held.payouts then .error (.refused .timeout)
              else .ok (.payout q)) := by
  intro e journal
  have hlinked : Linked config e.payout? :=
    fresh.preserved (P := Linked config) (fun hs hb => hb.step hs) (linked_empty config)
  refine ⟨replay_journal (opened config) ops, fun id p hp => ?_, ?_, fun id p hp terminal moment actor => ⟨?_, ?_⟩⟩
  · rw [madeFor_journal fresh hp, Payout.movements]
    cases p.status <;> rfl
  · rintro done ⟨rest, rfl⟩ id p hp terminal
    obtain ⟨-, hrest⟩ := freshPayouts_append.mp fresh
    have hended := hrest.preserved (P := Ended p id) (fun hstep hb => hb.step terminal hstep) ⟨p, hp, .inl rfl⟩
    rwa [← run_append] at hended
  · exact perform_actOnPayout_of_terminal hp terminal moment actor
  · intro retry
    refine ⟨fun hs => perform_resubmit_of_not_failed hp hs moment retry actor, fun first hfirst => ?_⟩
    obtain ⟨q, hq, hretry⟩ := hlinked.resubmitted id p first hp hfirst
    obtain ⟨p', hp', hs, -⟩ := hlinked.retried first q id hq hretry
    cases hp.symm.trans hp'
    exact ⟨q, hq, hretry,
      perform_resubmit_of_linked hp hs hfirst hq (hlinked.ne_of_retryOf hq hretry) moment retry actor⟩

def paidOut : List (Moment × Operation) :=
  withdrawn ++ [(⟨.epoch, {}⟩, .actOnPayout ⟨9⟩ ⟨"desk"⟩ (.complete "FT1")),
    (⟨.epoch, {}⟩, .actOnPayout ⟨9⟩ ⟨"desk"⟩ (.complete "FT2")),
    (⟨.epoch, {}⟩, .actOnPayout ⟨9⟩ ⟨"desk"⟩ (.fail "account closed"))]

/-- Its amount has been reserved and settled, and nothing else. -/
theorem completed_twice_settled_once :
    let e := (opened .default).run paidOut
    (opened .default).FreshPayouts paidOut ∧ (∃ p, e.payout? ⟨9⟩ = some p ∧ p.status = .completed) ∧
      madeFor ⟨9⟩ ((opened .default).journal paidOut) =
        [(⟨1⟩, .reserve (whole 1000000)), (⟨1⟩, .settle (whole 1000000))] := by
  intro e
  have hfresh : (opened .default).FreshPayouts paidOut := by
    refine ⟨trivial, trivial, trivial, trivial, trivial, ?_⟩
    exact ⟨rfl, trivial, trivial, trivial, trivial, trivial⟩
  obtain ⟨-, hmade, -⟩ := payout_reserves_once_and_ends_once .default paidOut hfresh
  obtain ⟨p, hp, hs, hmerchant, hamount⟩ : ∃ p, e.payout? ⟨9⟩ = some p ∧ p.status = .completed ∧
      p.merchantId = ⟨1⟩ ∧ p.amount = whole 1000000 := ⟨_, rfl, rfl, rfl, rfl⟩
  have hmovements := hmade ⟨9⟩ p hp
  rw [hs, hmerchant, hamount] at hmovements
  exact ⟨hfresh, ⟨p, hp, hs⟩, hmovements⟩

end Engine
end Settlement
