import Settlement.Proofs.Engine.Reconciliation
import Settlement.Proofs.Engine.Standing
import Settlement.Proofs.Payout.Retries

/-! Payouts along runs. As long as payouts are opened under fresh identifiers, every step of the engine
is one of the steps that keep retries linked. -/
namespace Settlement
namespace Engine

open Function PayoutBook

/-- The identifier of a new payout is not in use. -/
def Operation.FreshPayout (e : Engine) : Operation → Prop
  | requestPayout fresh _ | resubmit _ fresh _ => e.payout? fresh = none
  | _ => True

def FreshPayouts (e : Engine) : List (Moment × Operation) → Prop
  | [] => True
  | (moment, op) :: rest => op.FreshPayout e ∧ (e.perform moment op).1.FreshPayouts rest

variable {config : SettlementConfig} {e next : Engine} {moment : Moment} {op : Operation}

theorem freshPayouts_iff_along {ops : List (Moment × Operation)} :
    e.FreshPayouts ops ↔ e.Along (fun e _ op => op.FreshPayout e) ops := by
  induction ops generalizing e with
  | nil => exact Iff.rfl
  | cons step rest ih => exact and_congr_right fun _ => ih

theorem freshPayouts_append {first rest : List (Moment × Operation)} :
    e.FreshPayouts (first ++ rest) ↔ e.FreshPayouts first ∧ (e.run first).FreshPayouts rest := by
  simp only [freshPayouts_iff_along, along_append]

theorem payout?_storePayout_eq (e : Engine) (id : PayoutId) (p : Payout) :
    (e.storePayout id p).payout? = update e.payout? id (some p) := by
  funext other
  rw [payout?_storePayout]
  by_cases h : other = id
  · rw [h, if_pos rfl, update_self]
  · rw [if_neg h, update_of_ne h]

theorem Step.payoutStep (h : Step e moment op next) (hfresh : op.FreshPayout e) :
    PayoutBook.Step e.config e.payout? next.payout? := by
  cases h with
  | idle | register | rate | account | profile | tier | volume | move | invoice | advance | complete | sweep | lapse =>
    exact .still
  | request valid reserved =>
    rw [payout?_storePayout_eq]
    exact .opened hfresh valid
  | act stored acted =>
    obtain ⟨halive, hdraft, -⟩ := Payout.act_applied acted
    obtain ⟨hlink, hcount⟩ := Payout.act_links acted
    rw [payout?_storePayout_eq]
    exact .acted stored halive hdraft hlink hcount
  | finish stored acted =>
    obtain ⟨halive, hdraft, -⟩ := Payout.act_applied acted
    obtain ⟨hlink, hcount⟩ := Payout.act_links acted
    rw [payout?_storePayout_eq]
    exact .acted stored halive hdraft hlink hcount
  | retry stored status first valid reserved =>
    rw [payout?_storePayout_eq, payout?_storePayout_eq]
    exact .retried hfresh stored status first valid

theorem FreshPayouts.preserved {P : PayoutBook → Prop} {ops : List (Moment × Operation)} (h : e.FreshPayouts ops)
    (hstep : ∀ {book next : PayoutBook}, PayoutBook.Step e.config book next → P book → P next)
    (he : P e.payout?) : P (e.run ops).payout? := by
  obtain ⟨-, hend⟩ := (freshPayouts_iff_along.mp h).preserved (P := fun next => next.config = e.config ∧ P next.payout?)
    (fun _ _ => trivial)
    (fun hs hfresh hp => ⟨hs.config_eq.trans hp.1, hstep (hp.1 ▸ hs.payoutStep hfresh) hp.2⟩) ⟨rfl, he⟩
  exact hend

end Engine
end Settlement
