import Settlement.Proofs.Engine.Expiry
import Settlement.Proofs.Engine.Volume
import Settlement.Proofs.Time.Order

/-! Runs in the order of time: no step is earlier than the one before it. -/
namespace Settlement
namespace Engine

variable {config : SettlementConfig} {e : Engine} {P : Instant → Engine → Prop}

section

variable (hstep : ∀ {e next : Engine} {moment : Moment} {op : Operation} {t : Instant}, Reachable config e →
  Step e moment op next → t ≤ moment.now → P t e → P moment.now next)
include hstep

/-- What holds at some time, and is preserved by every step that is no earlier, holds at the time of the last step. -/
theorem Reachable.preserved_in_order {steps : List (Moment × Operation)} (h : Reachable config e)
    (single : ∀ step ∈ steps, step.2.Single) {t : Instant} (sorted : (t :: times steps).Pairwise (· ≤ ·)) (he : P t e) :
    ∃ last, P last (e.run steps) := by
  induction steps generalizing e t with
  | nil => exact ⟨t, he⟩
  | cons step rest ih =>
    obtain ⟨moment, op⟩ := step
    obtain ⟨hop, hsingle⟩ := List.forall_mem_cons.mp single
    obtain ⟨hnow, hrest⟩ := List.pairwise_cons.mp sorted
    have hlater : t ≤ moment.now := hnow moment.now List.mem_cons_self
    exact ih (.step moment op h) hsingle hrest (hstep h (e.perform_step moment op hop) hlater he)

/-- What holds at any time before the first step holds after every run in the order of time. -/
theorem run_preserved_in_order (hopened : ∀ t, P t (opened config)) (ops : List (Moment × Operation))
    (sorted : (times ((opened config).steps ops)).Pairwise (· ≤ ·)) : ∃ last, P last ((opened config).run ops) := by
  obtain ⟨start, hstart⟩ := exists_start sorted
  rw [← (opened config).run_steps ops]
  exact Reachable.opened.preserved_in_order hstep ((opened config).single_steps ops) hstart (hopened start)

end

/-- If a step starts a record's timeline at present, or extends it by the present, the timelines of the records are in
order after every run in the order of time. -/
theorem timelines_inOrder {ι α : Type} (record? : Engine → ι → Option α) (timeline : α → Timeline)
    (hstep : ∀ {e next : Engine} {moment : Moment} {op : Operation} {i : ι} {after : α}, Reachable config e →
      Step e moment op next → record? next i = some after →
      (∃ before, record? e i = some before ∧ (timeline before).Extends moment.now (timeline after)) ∨
        timeline after = ⟨[moment.now], moment.now⟩)
    (hopened : ∀ i, record? (opened config) i = none) (ops : List (Moment × Operation))
    (sorted : (times ((opened config).steps ops)).Pairwise (· ≤ ·)) {i : ι} {r : α}
    (hr : record? ((opened config).run ops) i = some r) : (timeline r).InOrder := by
  -- the last changes are needed as well: what a step adds comes after them
  have hrun : ∃ last, ∀ i r, record? ((opened config).run ops) i = some r →
      (timeline r).InOrder ∧ (timeline r).changed ≤ last := by
    refine run_preserved_in_order
      (P := fun past e => ∀ i r, record? e i = some r → (timeline r).InOrder ∧ (timeline r).changed ≤ past) ?_ ?_ ops
      sorted
    · intro e next moment op past reachable step later he i after hafter
      obtain ⟨before, hbefore, hextends⟩ | hstart := hstep reachable step hafter
      · obtain ⟨hordered, hpast⟩ := he i before hbefore
        exact hordered.extend hextends hpast later
      · rw [hstart]
        exact ⟨Timeline.inOrder_start moment.now, moment.now.le_refl⟩
    · intro past i r hr
      rw [hopened] at hr
      cases hr
  obtain ⟨last, hlast⟩ := hrun
  exact (hlast i r hr).1

end Engine
end Settlement
