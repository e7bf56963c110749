import Settlement.Proofs.Engine.Clock
import Settlement.Proofs.Payment.Coherence

/-! The records of payments agree with their statuses in every engine, and their times are in order if those
of the operations are. -/
namespace Settlement
namespace Engine

variable {config : SettlementConfig} {e next : Engine} {moment : Moment} {op : Operation} {id : PaymentId}
  {p q : Payment}

theorem Reachable.coherent (h : Reachable config e) (stored : e.payment? id = some p) :
    p.Coherent config.requiredConfirmations := by
  refine h.payment_preserved (P := (·.Coherent config.requiredConfirmations)) ?_ ?_ ?_ stored
  · intro e fresh invoice now p _ hdrafted
    rw [← (draft_of_drafted hdrafted).1]
    exact p.coherent_draft _
  · exact fun now hp => hp.expire now
  · rintro e event now p q transition rfl applied hp
    exact Payment.Coherent.reacts hp (Payment.reacts_of_applyEvent applied)

theorem Step.payment_extends (h : Step e moment op next) (reachable : Reachable config e)
    (stored : next.payment? id = some q) :
    (∃ p, e.payment? id = some p ∧ p.timeline.Extends moment.now q.timeline) ∨
      q.timeline = ⟨[moment.now], moment.now⟩ := by
  obtain ⟨p, hp, hcases⟩ | ⟨fresh, invoice, hdrafted, -⟩ := h.payment_source stored
  · refine .inl ⟨p, hp, ?_⟩
    obtain rfl | rfl | ⟨event, source, target, -, -, applied⟩ := hcases
    · exact .inl rfl
    · exact p.extends_expire moment.now
    · exact (reachable.coherent hp).extends_reacts (Payment.reacts_of_applyEvent applied)
  · obtain ⟨hdraft, hcreated, -⟩ := draft_of_drafted hdrafted
    refine .inr ?_
    rw [← hdraft, ← hcreated]
    rfl

/-- In every engine the fields of a payment agree with its status. After a run in the order of time its invoice
was written no later than it was paid, that was no later than its completion, and none was later than its last
change. -/
theorem payments_agree_with_status (config : SettlementConfig) :
    (∀ e, Reachable config e → ∀ id p, e.payment? id = some p → p.Coherent config.requiredConfirmations) ∧
    ∀ ops, (times ((opened config).steps ops)).Pairwise (· ≤ ·) →
      ∀ id p, ((opened config).run ops).payment? id = some p → p.timeline.InOrder := by
  refine ⟨fun e h id p stored => h.coherent stored, fun ops sorted id p stored => ?_⟩
  exact timelines_inOrder Engine.payment? Payment.timeline (fun reachable step => step.payment_extends reachable)
    (fun _ => rfl) ops sorted stored

def paidOvernight : List (Moment × Operation) :=
  invoiced ++ [(⟨.epoch, {}⟩, .handleEvent ⟨⟨"PAY-7"⟩, none, "payer", whole 100, 1, false, none⟩), (secondDay, paid)]

/-- It is paid before it is confirmed. -/
theorem overnight_payment_is_dated_in_order :
    let start := opened .default
    (times (start.steps paidOvernight)).Pairwise (· ≤ ·) ∧
      ∃ p, (start.run paidOvernight).payment? ⟨7⟩ = some p ∧ p.status = .completed ∧ p.Coherent 12 ∧
        p.timeline.InOrder ∧ p.timeline.stages = [.epoch, .epoch, secondDay.now] := by
  intro start
  have hsorted : (times (start.steps paidOvernight)).Pairwise (· ≤ ·) := by decide +kernel
  obtain ⟨hcoherent, hordered⟩ := payments_agree_with_status .default
  have hstored : ((start.run paidOvernight).payment? ⟨7⟩).isSome := by decide +kernel
  have hdates : ((start.run paidOvernight).payment? ⟨7⟩).map (fun p => (p.status, p.timeline.stages)) =
      some (.completed, [.epoch, .epoch, secondDay.now]) := by decide +kernel
  obtain ⟨p, hp⟩ := Option.isSome_iff_exists.mp hstored
  rw [hp, Option.map_some, Option.some.injEq, Prod.mk.injEq] at hdates
  exact ⟨hsorted, p, hp, hdates.1, hcoherent _ (reachable_run .opened _) _ p hp, hordered _ hsorted _ p hp, hdates.2⟩

end Engine
end Settlement
