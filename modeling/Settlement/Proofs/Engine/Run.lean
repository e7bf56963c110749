import Settlement.Proofs.Engine.Step

/-! Runs taken apart into single steps, and the runs in which identifiers are fresh and
no money is moved but by payments and payouts. -/
namespace Settlement
namespace Engine

open Engine.Action

theorem run_append (e : Engine) (first rest : List (Moment × Operation)) :
    e.run (first ++ rest) = (e.run first).run rest := by
  induction first generalizing e with
  | nil => rfl
  | cons step first ih => exact ih _

/-! ## Single steps -/

/-- The steps of a series of events, up to the first overflow. -/
def eventSteps (e : Engine) (held : Locks) : List (ChainEvent × Instant) → List (Moment × Operation)
  | [] => []
  | (event, now) :: rest =>
    (⟨now, held⟩, .handleEvent event) ::
      match e.perform ⟨now, held⟩ (.handleEvent event) with
      | (_, .error .overflow) => []
      | (next, _) => next.eventSteps held rest

def stepsOf (e : Engine) (moment : Moment) : Operation → List (Moment × Operation)
  | .runEvents events => e.eventSteps moment.held events
  | op => [(moment, op)]

/-- The single steps that a series of operations takes. -/
def steps (e : Engine) : List (Moment × Operation) → List (Moment × Operation)
  | [] => []
  | (moment, op) :: rest => e.stepsOf moment op ++ (e.perform moment op).1.steps rest

theorem run_eventSteps (e : Engine) (held : Locks) (counts : EventCounts)
    (events : List (ChainEvent × Instant)) :
    e.run (e.eventSteps held events) = ((runEvents held counts events).on e).1 := by
  induction events generalizing e counts with
  | nil => rfl
  | cons first rest ih =>
    obtain ⟨event, now⟩ := first
    simp only [eventSteps, run, runEvents, perform, Operation.action, on_map, on_bind, on_attempt]
    rcases (handleEvent ⟨now, held⟩ event).on e with ⟨next, (error | _) | transition⟩
    · exact ih next _
    · rfl
    · exact ih next _

theorem run_stepsOf (e : Engine) (moment : Moment) (op : Operation) :
    e.run (e.stepsOf moment op) = (e.perform moment op).1 := by
  cases op with
  | runEvents events =>
    show e.run (e.eventSteps moment.held events) = _
    rw [e.run_eventSteps moment.held {} events]
    simp only [perform, Operation.action, on_map]
  | _ => rfl

theorem run_steps (e : Engine) (ops : List (Moment × Operation)) : e.run (e.steps ops) = e.run ops := by
  induction ops generalizing e with
  | nil => rfl
  | cons step rest ih =>
    obtain ⟨moment, op⟩ := step
    rw [steps, run_append, run_stepsOf, ih]
    rfl

theorem exists_event_of_mem (e : Engine) (held : Locks) (events : List (ChainEvent × Instant)) :
    ∀ step ∈ e.eventSteps held events, ∃ event, step.2 = .handleEvent event := by
  induction events generalizing e with
  | nil => exact fun _ h => nomatch h
  | cons first rest ih =>
    obtain ⟨event, now⟩ := first
    rw [eventSteps, List.forall_mem_cons]
    constructor
    · exact ⟨event, rfl⟩
    · rcases e.perform ⟨now, held⟩ (.handleEvent event) with ⟨next, (_ | _) | _⟩
      · exact ih next
      · exact fun _ h => nomatch h
      · exact ih next

theorem single_eventSteps (e : Engine) (held : Locks) (events : List (ChainEvent × Instant)) :
    ∀ step ∈ e.eventSteps held events, step.2.Single := by
  intro step hstep
  obtain ⟨event, hevent⟩ := e.exists_event_of_mem held events step hstep
  rw [hevent]
  trivial

theorem single_steps (e : Engine) (ops : List (Moment × Operation)) : ∀ step ∈ e.steps ops, step.2.Single := by
  induction ops generalizing e with
  | nil => exact fun _ h => nomatch h
  | cons step rest ih =>
    obtain ⟨moment, op⟩ := step
    refine List.forall_mem_append.mpr ⟨?_, ih _⟩
    cases op with
    | runEvents events => exact e.single_eventSteps moment.held events
    | _ => exact List.forall_mem_singleton.mpr trivial

/-! ## Conditions along a run -/

/-- Each operation of the run is allowed in the engine that it meets. -/
def Along (allowed : Engine → Moment → Operation → Prop) (e : Engine) : List (Moment × Operation) → Prop
  | [] => True
  | (moment, op) :: rest => allowed e moment op ∧ (e.perform moment op).1.Along allowed rest

theorem along_append {allowed : Engine → Moment → Operation → Prop} {e : Engine}
    {first rest : List (Moment × Operation)} :
    e.Along allowed (first ++ rest) ↔ e.Along allowed first ∧ (e.run first).Along allowed rest := by
  induction first generalizing e with
  | nil => simp [Along, run]
  | cons step first ih =>
    simp only [List.cons_append, Along, ih, and_assoc]
    rfl

theorem along_of_forall {allowed : Engine → Moment → Operation → Prop} {ops : List (Moment × Operation)}
    (h : ∀ step ∈ ops, ∀ e, allowed e step.1 step.2) (e : Engine) : e.Along allowed ops := by
  induction ops generalizing e with
  | nil => trivial
  | cons step rest ih =>
    obtain ⟨hstep, hrest⟩ := List.forall_mem_cons.mp h
    exact ⟨hstep e, ih hrest _⟩

/-- A condition that holds along a run holds along its single steps, if every event satisfies it. -/
theorem Along.steps {allowed : Engine → Moment → Operation → Prop}
    (hevent : ∀ e moment event, allowed e moment (.handleEvent event)) {e : Engine} {ops : List (Moment × Operation)}
    (h : e.Along allowed ops) : e.Along allowed (e.steps ops) := by
  induction ops generalizing e with
  | nil => trivial
  | cons step rest ih =>
    obtain ⟨moment, op⟩ := step
    obtain ⟨hop, hrest⟩ := h
    rw [Engine.steps, along_append, run_stepsOf]
    refine ⟨?_, ih hrest⟩
    cases op with
    | runEvents events =>
      refine along_of_forall (fun step hstep next => ?_) e
      obtain ⟨event, heq⟩ := e.exists_event_of_mem moment.held events step hstep
      rw [heq]
      exact hevent next step.1 event
    | _ => exact ⟨hop, trivial⟩

/-! ## Regular runs -/

/-- No operation of the run moves money by itself, and each hands out only fresh identifiers. -/
def Regular (e : Engine) : List (Moment × Operation) → Prop
  | [] => True
  | (moment, op) :: rest => (op.Indirect ∧ op.Fresh e) ∧ (e.perform moment op).1.Regular rest

theorem regular_iff_along {e : Engine} {ops : List (Moment × Operation)} :
    e.Regular ops ↔ e.Along (fun e _ op => op.Indirect ∧ op.Fresh e) ops := by
  induction ops generalizing e with
  | nil => exact Iff.rfl
  | cons step rest ih => exact and_congr_right fun _ => ih

theorem regular_append {e : Engine} {first rest : List (Moment × Operation)} :
    e.Regular (first ++ rest) ↔ e.Regular first ∧ (e.run first).Regular rest := by
  simp only [regular_iff_along, along_append]

theorem Regular.steps {e : Engine} {ops : List (Moment × Operation)} (h : e.Regular ops) :
    e.Regular (e.steps ops) :=
  regular_iff_along.mpr ((regular_iff_along.mp h).steps fun _ _ _ => ⟨trivial, trivial⟩)

theorem Regular.preserved {P : Engine → Prop}
    (hstep : ∀ {e next : Engine} {moment : Moment} {op : Operation}, Step e moment op next →
      op.Indirect → op.Fresh e → P e → P next)
    {e : Engine} {ops : List (Moment × Operation)} (h : e.Regular ops) (he : P e) : P (e.run ops) := by
  have hsingle := e.single_steps ops
  have hsteps := h.steps
  rw [← e.run_steps]
  generalize e.steps ops = steps at hsingle hsteps
  clear h
  induction steps generalizing e with
  | nil => exact he
  | cons step rest ih =>
    obtain ⟨moment, op⟩ := step
    obtain ⟨⟨hindirect, hfresh⟩, hrest⟩ := hsteps
    obtain ⟨hop, hsingle⟩ := List.forall_mem_cons.mp hsingle
    exact ih (hstep (e.perform_step moment op hop) hindirect hfresh he) hsingle hrest

end Engine
end Settlement
