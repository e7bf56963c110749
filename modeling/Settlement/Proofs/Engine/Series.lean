import Settlement.Proofs.Engine.Atomicity
import Settlement.Proofs.Engine.Handling
import Settlement.Proofs.Engine.Run
import Settlement.Proofs.Engine.Standing

/-! What becomes of a series of events. Each event is handled and counted, whether it is refused
or not, up to the first one that overflows. An event that does not observe less than nothing
can only overflow when it completes a payment, for want of room in the balance or the
volumes of a merchant. -/
namespace Settlement

theorem Engine.EventCounts.total_count (c : EventCounts) (result : Except SettlementError PaymentTransition) :
    (c.count result).applied + (c.count result).unchanged + (c.count result).rejected =
      c.applied + c.unchanged + c.rejected + 1 := by
  rcases result with error | ⟨_ | _⟩ <;> simp only [count] <;> omega

namespace Engine

open Engine.Action

variable {config : SettlementConfig} {e : Engine} {moment : Moment} {event : ChainEvent}

def series (held : Locks) (events : List (ChainEvent × Instant)) : List (Moment × Operation) :=
  events.map fun (event, now) => (⟨now, held⟩, .handleEvent event)

/-- No event of the series overflows in the engine that it meets. -/
def Undisturbed (e : Engine) (held : Locks) : List (ChainEvent × Instant) → Prop
  | [] => True
  | (event, now) :: rest =>
    ¬ e.Overflows ⟨now, held⟩ event ∧ (e.perform ⟨now, held⟩ (.handleEvent event)).1.Undisturbed held rest

theorem runEvents_of_not_overflows {held : Locks} {now : Instant} (h : ¬ e.Overflows ⟨now, held⟩ event)
    (counts : EventCounts) (rest : List (ChainEvent × Instant)) :
    ∃ result, (runEvents held counts ((event, now) :: rest)).on e =
      (runEvents held (counts.count result) rest).on (e.perform ⟨now, held⟩ (.handleEvent event)).1 := by
  have hevent := mt handleEvent_eq_overflow_iff.mp h
  simp only [runEvents, perform, Operation.action, on_map, on_bind, on_attempt] at hevent ⊢
  rcases hone : (handleEvent ⟨now, held⟩ event).on e with ⟨next, (error | _) | transition⟩
  · exact ⟨.error error, rfl⟩
  · rw [hone] at hevent
    exact absurd rfl hevent
  · exact ⟨.ok transition, rfl⟩

theorem runEvents_of_overflows {held : Locks} {now : Instant} (h : e.Overflows ⟨now, held⟩ event)
    (counts : EventCounts) (rest : List (ChainEvent × Instant)) :
    (runEvents held counts ((event, now) :: rest)).on e =
      ((e.perform ⟨now, held⟩ (.handleEvent event)).1, .error .overflow) := by
  have hevent := handleEvent_eq_overflow_iff.mpr h
  simp only [runEvents, perform, Operation.action, on_map, on_bind, on_attempt] at hevent ⊢
  rcases hone : (handleEvent ⟨now, held⟩ event).on e with ⟨next, (error | _) | transition⟩
  · rw [hone] at hevent
    cases hevent
  · rfl
  · rw [hone] at hevent
    cases hevent

theorem runEvents_of_undisturbed {held : Locks} {events : List (ChainEvent × Instant)}
    (h : e.Undisturbed held events) (counts : EventCounts) :
    ∃ c, (runEvents held counts events).on e = (e.run (series held events), .ok c) ∧
      c.applied + c.unchanged + c.rejected = counts.applied + counts.unchanged + counts.rejected + events.length := by
  induction events generalizing e counts with
  | nil => exact ⟨counts, rfl, rfl⟩
  | cons first rest ih =>
    obtain ⟨event, now⟩ := first
    obtain ⟨hevent, hrest⟩ := h
    obtain ⟨result, hfirst⟩ := runEvents_of_not_overflows hevent counts rest
    obtain ⟨c, hc, htotal⟩ := ih hrest (counts.count result)
    refine ⟨c, hfirst.trans hc, ?_⟩
    rw [htotal, counts.total_count, List.length_cons]
    omega

/-- Any other series stops at the first event that overflows. What that event has written stays written. -/
theorem runEvents_of_disturbed {held : Locks} {events : List (ChainEvent × Instant)}
    (h : ¬ e.Undisturbed held events) (counts : EventCounts) :
    ∃ done event now rest, events = done ++ (event, now) :: rest ∧ e.Undisturbed held done ∧
      (e.run (series held done)).Overflows ⟨now, held⟩ event ∧
      (runEvents held counts events).on e = (e.run (series held (done ++ [(event, now)])), .error .overflow) := by
  induction events generalizing e counts with
  | nil => exact absurd trivial h
  | cons first rest ih =>
    obtain ⟨event, now⟩ := first
    by_cases hevent : e.Overflows ⟨now, held⟩ event
    · exact ⟨[], event, now, rest, rfl, trivial, hevent, runEvents_of_overflows hevent counts rest⟩
    · have hrest := not_and.mp h hevent
      obtain ⟨result, hfirst⟩ := runEvents_of_not_overflows hevent counts rest
      obtain ⟨done, stop, later, left, rfl, hdone, hstop, hruns⟩ := ih hrest (counts.count result)
      exact ⟨(event, now) :: done, stop, later, left, rfl, ⟨hevent, hdone⟩, hstop, hfirst.trans hruns⟩

/-- An event that does not observe less than nothing is compared with its payment without an overflow. -/
theorem Overflows.overfilled_of_nonneg (h : Reachable config e) (hevent : e.Overflows moment event)
    (nonneg : .zero ≤ event.observedAmount) :
    ∃ id p next source, e.payments.references.get? event.reference = some id ∧ e.payment? id = some p ∧
      p.applyEvent e.policy event moment.now = .ok (next, .applied source .completed) ∧ e.Overfills moment next := by
  cases hevent with
  | unmeasured located taken alive due sound far =>
    rw [Decimal.le_iff_toRat, Decimal.toRat_zero] at nonneg
    obtain ⟨d, hd⟩ := Decimal.sub?_of_nonneg nonneg (h.tokenAmount_nonneg (lockPayment_eq_ok.mp taken).1)
    cases hd.symm.trans far
  | overfilled located taken applied full =>
    exact ⟨_, _, _, _, located, (lockPayment_eq_ok.mp taken).1, applied, full⟩

/-- A series of events is handled to its end, with each event counted and the others undisturbed by it, if and only
if no event overflows. Otherwise it stops with the first one that does. -/
theorem series_counted_iff_undisturbed (h : Reachable config e) (moment : Moment)
    (events : List (ChainEvent × Instant)) :
    let outcome := e.perform moment (.runEvents events)
    ((∃ c, outcome = (e.run (series moment.held events), .ok (.counts c)) ∧
        c.applied + c.unchanged + c.rejected = events.length) ↔ e.Undisturbed moment.held events) ∧
      (¬ e.Undisturbed moment.held events →
        ∃ done event now rest, events = done ++ (event, now) :: rest ∧ e.Undisturbed moment.held done ∧
          outcome = (e.run (series moment.held (done ++ [(event, now)])), .error .overflow) ∧
          (.zero ≤ event.observedAmount → ∃ id p next source,
            let met := e.run (series moment.held done)
            met.payments.references.get? event.reference = some id ∧ met.payment? id = some p ∧
              p.applyEvent met.policy event now = .ok (next, .applied source .completed) ∧
              met.Overfills ⟨now, moment.held⟩ next)) := by
  intro outcome
  have houtcome : outcome = (((runEvents moment.held {} events).on e).1,
      ((runEvents moment.held {} events).on e).2.map .counts) := on_map _ _ _
  refine ⟨⟨?_, fun hevents => ?_⟩, fun hevents => ?_⟩
  · rintro ⟨c, hc, -⟩
    by_contra hevents
    obtain ⟨_, _, _, _, -, -, -, hruns⟩ := runEvents_of_disturbed hevents {}
    rw [houtcome, hruns] at hc
    cases congrArg Prod.snd hc
  · obtain ⟨c, hruns, htotal⟩ := runEvents_of_undisturbed hevents {}
    refine ⟨c, ?_, by simpa using htotal⟩
    rw [houtcome, hruns]
    rfl
  · obtain ⟨done, event, now, rest, hsplit, hdone, hevent, hruns⟩ := runEvents_of_disturbed hevents {}
    refine ⟨done, event, now, rest, hsplit, hdone, ?_, hevent.overfilled_of_nonneg (reachable_run h _)⟩
    rw [houtcome, hruns]
    rfl

def observation (amount : Decimal) (depth : UInt32) (finalized : Bool) (error : Option String) : ChainEvent :=
  ⟨⟨"PAY-7"⟩, some "tx", "payer", amount, depth, finalized, error⟩

/-- A wrong amount, an unknown reference, a first sight, the payment and its repetition are all counted, and the
invoice is paid. -/
theorem mixed_series_counted :
    let e := (opened .default).run invoiced
    let events := [observation (whole 1) 20 true none, ⟨⟨"PAY-8"⟩, none, "payer", whole 100, 0, false, none⟩,
      observation (whole 100) 0 false none, observation (whole 100) 20 true none,
      observation (whole 100) 20 true none].map (·, Instant.epoch)
    Reachable .default e ∧ ∃ c,
      e.perform ⟨.epoch, {}⟩ (.runEvents events) = (e.run (series {} events), .ok (.counts c)) ∧
      c.applied + c.unchanged + c.rejected = 5 ∧ c = ⟨2, 1, 2⟩ := by
  intro e events
  have he : Reachable .default e := reachable_run .opened invoiced
  have hanswer : (e.perform ⟨.epoch, {}⟩ (.runEvents events)).2 = .ok (.counts ⟨2, 1, 2⟩) := by decide +kernel
  obtain ⟨⟨-, hcounted⟩, hstops⟩ := series_counted_iff_undisturbed he ⟨.epoch, {}⟩ events
  by_cases hevents : e.Undisturbed {} events
  · obtain ⟨c, hc, htotal⟩ := hcounted hevents
    refine ⟨he, c, hc, htotal, ?_⟩
    rw [hc] at hanswer
    cases hanswer
    rfl
  · obtain ⟨done, event, now, rest, -, -, hstopped, -⟩ := hstops hevents
    rw [hstopped] at hanswer
    cases hanswer

/-- An amount far below zero stops the series, and the sound observation behind it is not handled. -/
theorem far_observation_stops_series :
    let e := (opened .default).run invoiced
    let far := observation (.ofParts (-(2 ^ 96 - 1)) 0) 0 false none
    let sound := observation (whole 100) 0 false none
    Reachable .default e ∧
      e.perform ⟨.epoch, {}⟩ (.runEvents [(far, .epoch), (sound, .epoch)]) = (e, .error .overflow) ∧
      (e.perform ⟨.epoch, {}⟩ (.handleEvent sound)).2 = .ok (.transition (.applied .created .pending)) :=
  ⟨reachable_run .opened invoiced, rfl, rfl⟩

end Engine
end Settlement
