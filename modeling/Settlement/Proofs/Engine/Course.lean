import Settlement.Proofs.Engine.Atomicity
import Settlement.Proofs.Engine.Records
import Settlement.Proofs.Engine.Run

/-! The course of payments. No operation drops a payment or changes its invoice, and its status only
moves on, until it is terminal and the record stays as it is. -/
namespace Settlement
namespace Engine

theorem continues_eventSteps (e : Engine) (held : Locks) (events : List (ChainEvent × Instant))
    {done : List (Moment × Operation)} {step : Moment × Operation} (h : done ++ [step] <+: e.eventSteps held events) :
    (e.run done).Continues (e.run (done ++ [step])) := by
  obtain ⟨event, hevent⟩ := e.exists_event_of_mem held events step (h.subset (by simp))
  obtain ⟨moment, op⟩ := step
  cases hevent
  rw [run_append]
  exact ((e.run done).handleEvent_step moment event).continues trivial

/-- An operation keeps every payment under its identifier and with its invoice. The status stays or makes one of the
allowed moves, and a payment that is completed, expired or failed keeps its whole record. A series of events does so
event by event. -/
theorem payments_only_move_on (e : Engine) (moment : Moment) (op : Operation) (fresh : op.Fresh e) :
    (op.Single → e.Continues (e.perform moment op).1) ∧
      ∀ events, op = .runEvents events →
        e.run (e.eventSteps moment.held events) = (e.perform moment op).1 ∧
        ∀ done step, done ++ [step] <+: e.eventSteps moment.held events →
          (e.run done).Continues (e.run (done ++ [step])) := by
  constructor
  · intro single
    exact (e.perform_step moment op single).continues fresh
  · rintro events rfl
    exact ⟨e.run_stepsOf moment (.runEvents events), fun _ _ => e.continues_eventSteps moment.held events⟩

def reverted : Operation := .handleEvent ⟨⟨"PAY-7"⟩, some "tx", "payer", whole 100, 20, true, some "reverted"⟩

/-- The paid invoice stays paid. -/
theorem completed_payment_survives_reversal :
    let e := (opened .default).run (invoiced ++ [(⟨.epoch, {}⟩, paid)])
    reverted.Fresh e ∧ reverted.Single ∧ ∃ p, e.payment? ⟨7⟩ = some p ∧ p.status = .completed ∧
      (e.perform ⟨.epoch, {}⟩ reverted).1.payment? ⟨7⟩ = some p := by
  intro e
  obtain ⟨p, hp, hstatus⟩ : ∃ p, e.payment? ⟨7⟩ = some p ∧ p.status = .completed := ⟨_, rfl, rfl⟩
  obtain ⟨hsingle, -⟩ := payments_only_move_on e ⟨.epoch, {}⟩ reverted trivial
  obtain ⟨q, hq, hcontinues⟩ := hsingle trivial ⟨7⟩ p hp
  refine ⟨trivial, trivial, p, hp, hstatus, ?_⟩
  rw [hq, hcontinues.ended (by rw [hstatus]; rfl)]

end Engine
end Settlement
