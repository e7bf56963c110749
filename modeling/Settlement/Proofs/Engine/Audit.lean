import Settlement.Proofs.Engine.Clock
import Settlement.Proofs.Engine.Reconciliation
import Settlement.Proofs.Payout.Coherence

/-! What the records of payouts tell about them. They agree with the statuses in every engine, their times are in
order if those of the operations are, and a failed payout tells whether it had been processed. -/
namespace Settlement
namespace Engine

variable {config : SettlementConfig} {e next : Engine} {moment : Moment} {op : Operation} {id : PayoutId} {p q : Payout}

/-! ## Fields -/

theorem Reachable.payout_coherent (h : Reachable config e) (stored : e.payout? id = some p) :
    p.Coherent config.minimumPayout := by
  refine (h.preserved (P := fun e => e.config = config ∧ ∀ id p, e.payout? id = some p →
    p.Coherent config.minimumPayout) ⟨rfl, fun _ _ => nofun⟩ ?_).2 id p stored
  rintro e next moment op hstep ⟨rfl, hall⟩
  refine ⟨hstep.config_eq, fun id q hq => ?_⟩
  obtain hsame | ⟨p, actor, action, source, target, hp, acted⟩ | ⟨failed, retry, hp, hs, rfl⟩ |
    ⟨request, fee, retry, valid, rfl, -⟩ := hstep.payout_source hq
  · exact hall id q hsame
  · exact (hall id p hp).acts (Payout.acts_of_act acted)
  · exact (hall id failed hp).linked hs retry moment.now
  · exact Payout.coherent_of_validate valid id retry moment.now

/-! ## Times -/

theorem Step.payout_extends (h : Step e moment op next) (reachable : Reachable config e)
    (stored : next.payout? id = some q) :
    (∃ p, e.payout? id = some p ∧ p.timeline.Extends moment.now q.timeline) ∨
      q.timeline = ⟨[moment.now], moment.now⟩ := by
  obtain hsame | ⟨p, actor, action, source, target, hp, acted⟩ | ⟨failed, retry, hp, hs, rfl⟩ |
    ⟨request, fee, retry, valid, rfl, -⟩ := h.payout_source stored
  · exact .inl ⟨q, hsame, .inl rfl⟩
  · exact .inl ⟨p, hp, (reachable.payout_coherent hp).extends_acts (Payout.acts_of_act acted)⟩
  · exact .inl ⟨failed, hp, failed.extends_linked retry moment.now⟩
  · exact .inr rfl

/-! ## History -/

/-- The payout was in the status at some point of the run, and has not been opened anew since. -/
def HasBeen (start : Engine) (steps : List (Moment × Operation)) (id : PayoutId) (status : PayoutStatus) : Prop :=
  ∃ done, done <+: steps ∧ (∃ p, (start.run done).payout? id = some p ∧ p.status = status) ∧
    ∀ later, done <+: later → later <+: steps → ∀ p, (start.run later).payout? id = some p → p.status ≠ .requested

variable {start : Engine} {steps : List (Moment × Operation)} {step : Moment × Operation} {status : PayoutStatus}

theorem hasBeen_of_stored (stored : (start.run steps).payout? id = some p) (hs : p.status = status)
    (late : status ≠ .requested) : HasBeen start steps id status := by
  refine ⟨steps, List.prefix_rfl, ⟨p, stored, hs⟩, fun later hafter hwithin q hq => ?_⟩
  cases hwithin.eq_of_length_le hafter.length_le
  cases stored.symm.trans hq
  exact hs ▸ late

theorem HasBeen.late (h : HasBeen start steps id status) (stored : (start.run steps).payout? id = some p) :
    p.status ≠ .requested := by
  obtain ⟨done, hdone, -, hlater⟩ := h
  exact hlater steps hdone List.prefix_rfl p stored

/-- One more step adds the status that it leads to, and forgets the others if it opens the payout. -/
theorem hasBeen_concat (stored : (start.run (steps ++ [step])).payout? id = some q) (late : status ≠ .requested) :
    HasBeen start (steps ++ [step]) id status ↔
      HasBeen start steps id status ∧ q.status ≠ .requested ∨ q.status = status := by
  have hmore : steps <+: steps ++ [step] := List.prefix_append steps [step]
  constructor
  · intro h
    have hlast := h.late stored
    obtain ⟨done, hdone, hp, hlater⟩ := h
    obtain rfl | hbefore := List.prefix_concat_iff.mp hdone
    · obtain ⟨p, hp, hs⟩ := hp
      cases stored.symm.trans hp
      exact .inr hs
    · exact .inl ⟨⟨done, hbefore, hp, fun later hafter hwithin => hlater later hafter (hwithin.trans hmore)⟩, hlast⟩
  · rintro (⟨⟨done, hdone, hp, hlater⟩, hlast⟩ | hs)
    · refine ⟨done, hdone.trans hmore, hp, fun later hafter hwithin r hr => ?_⟩
      obtain rfl | hbefore := List.prefix_concat_iff.mp hwithin
      · cases stored.symm.trans hr
        exact hlast
      · exact hlater later hafter hbefore r hr
    · exact hasBeen_of_stored stored hs late

/-- A payout that is not completed tells when its processing started if and only if it did. -/
theorem processedAt_iff_hasBeen (single : ∀ step ∈ steps, step.2.Single)
    (stored : ((opened config).run steps).payout? id = some q) (incomplete : q.status ≠ .completed) :
    q.processedAt.isSome ↔ HasBeen (opened config) steps id .processing := by
  induction steps using List.reverseRecOn generalizing q with
  | nil => cases stored
  | append_singleton steps step ih =>
    obtain ⟨hsingle, hlast⟩ := List.forall_mem_append.mp single
    have hih {p : Payout} := ih (q := p) hsingle
    have hstep := ((opened config).run steps).perform_step step.1 step.2 (hlast step (List.mem_singleton_self step))
    have hnext : (((opened config).run steps).perform step.1 step.2).1.payout? id = some q := by
      rw [run_append] at stored
      exact stored
    rw [hasBeen_concat stored (by decide)]
    obtain hsame | ⟨p, actor, action, source, target, hp, acted⟩ | ⟨failed, retry, hp, hs, rfl⟩ |
      ⟨request, fee, retry, -, rfl, -⟩ := hstep.payout_source hnext
    · rw [hih hsame incomplete]
      constructor
      · exact fun h => .inl ⟨h, h.late hsame⟩
      · rintro (⟨h, -⟩ | hprocessing)
        · exact h
        · exact hasBeen_of_stored hsame hprocessing (by decide)
    · obtain ⟨hopen, hlate, ⟨hprocessing, hset⟩ | ⟨hother, hkept⟩⟩ :=
        (Payout.acts_of_act acted).processedAt incomplete
      · exact iff_of_true hset (.inr hprocessing)
      · rw [hkept, hih hp hopen, or_iff_left hother, and_iff_left hlate]
    · have hbefore := hih hp (by rw [hs]; decide)
      have hstatus : (failed.linked retry step.1.now).status = .failed := hs
      rw [hstatus, or_iff_left (by decide), and_iff_left (by decide)]
      exact hbefore
    · exact iff_of_false nofun (by rintro (⟨-, hlate⟩ | hprocessing); exacts [hlate rfl, nomatch hprocessing])

/-- In every engine the payouts are valid, and their fields agree with their statuses. A failed payout tells when its
processing started if and only if it has been in processing. And after a run in the order of time the times of a
payout are in order. -/
theorem payouts_agree_with_status (config : SettlementConfig) :
    (∀ e, Reachable config e → ∀ id p, e.payout? id = some p → p.Coherent config.minimumPayout) ∧
    (∀ ops id p, ((opened config).run ops).payout? id = some p → p.status = .failed →
      (p.processedAt.isSome ↔ HasBeen (opened config) ((opened config).steps ops) id .processing)) ∧
    ∀ ops, (times ((opened config).steps ops)).Pairwise (· ≤ ·) →
      ∀ id p, ((opened config).run ops).payout? id = some p → p.timeline.InOrder := by
  refine ⟨fun e h id p stored => h.payout_coherent stored, fun ops id p stored failed => ?_,
    fun ops sorted id p stored => ?_⟩
  · rw [← (opened config).run_steps] at stored
    exact processedAt_iff_hasBeen ((opened config).single_steps ops) stored (by rw [failed]; decide)
  · exact timelines_inOrder Engine.payout? Payout.timeline (fun reachable step => step.payout_extends reachable)
      (fun _ => rfl) ops sorted stored

/-- The approved payout is processed, fails on the next day, and is opened again. -/
def failedOvernight : List (Moment × Operation) :=
  withdrawn ++ [(⟨.epoch, {}⟩, .actOnPayout ⟨9⟩ ⟨"desk"⟩ .startProcessing),
    (secondDay, .actOnPayout ⟨9⟩ ⟨"desk"⟩ (.fail " account closed ")), (secondDay, .resubmit ⟨9⟩ ⟨10⟩ ⟨"desk"⟩)]

/-- Its record tells when each of these happened, and that it had been in processing. -/
theorem overnight_failure_is_on_record :
    let start := opened .default
    (times (start.steps failedOvernight)).Pairwise (· ≤ ·) ∧
      ∃ p, (start.run failedOvernight).payout? ⟨9⟩ = some p ∧ p.status = .failed ∧
        p.failureReason = some "account closed" ∧ p.resubmittedAs = some ⟨10⟩ ∧
        p.timeline.stages = [.epoch, .epoch, .epoch, secondDay.now] ∧ p.timeline.InOrder ∧
        p.Coherent SettlementConfig.default.minimumPayout ∧
        HasBeen start (start.steps failedOvernight) ⟨9⟩ .processing := by
  intro start
  have hsorted : (times (start.steps failedOvernight)).Pairwise (· ≤ ·) := by decide +kernel
  obtain ⟨hcoherent, hhistory, hordered⟩ := payouts_agree_with_status .default
  obtain ⟨p, hp⟩ : ∃ p, (start.run failedOvernight).payout? ⟨9⟩ = some p :=
    Option.isSome_iff_exists.mp (by decide +kernel)
  have hrecord : ∀ q ∈ (start.run failedOvernight).payout? ⟨9⟩, q.status = .failed ∧
      q.failureReason = some "account closed" ∧ q.resubmittedAs = some ⟨10⟩ ∧
      q.timeline.stages = [.epoch, .epoch, .epoch, secondDay.now] ∧ q.processedAt.isSome := by decide +kernel
  obtain ⟨hfailed, hreason, hlink, hstages, hprocessed⟩ := hrecord p hp
  exact ⟨hsorted, p, hp, hfailed, hreason, hlink, hstages, hordered _ hsorted _ p hp,
    hcoherent _ (reachable_run .opened _) _ p hp,
    (hhistory _ _ p hp hfailed).mp hprocessed⟩

end Engine
end Settlement
