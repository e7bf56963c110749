import Mathlib.Data.List.Forall2
import Settlement.Proofs.Engine.Atomicity
import Settlement.Proofs.Engine.Lapse
import Settlement.Proofs.Engine.Run

/-! Runs into which sweeps and reads are put. They end with the same balances, profiles and
payouts, the payments read alike afterwards, and the operations of the run are answered
alike, up to who it is that notices that a payment has expired. -/
namespace Settlement
namespace Engine

open Engine.Action

variable {e f : Engine} {moment : Moment} {now : Instant} {later : List Instant}

/-- As many events were rejected, and as many were not; some of these may no longer have changed anything. -/
structure SameCounts (c c' : EventCounts) : Prop where
  applied : c'.applied ≤ c.applied
  accepted : c'.applied + c'.unchanged = c.applied + c.unchanged
  rejected : c'.rejected = c.rejected

/-- The same answer, but for the time at which a payment last changed, and for what has expired already in the
engine that gives the second one. -/
inductive SameAnswer (found : Engine) : Answer → Answer → Prop
  | same (a : Answer) : SameAnswer found a a
  | payment {p q : Payment} (h : q.undated = p.undated) : SameAnswer found (.payment p) (.payment q)
  | transition {t t' : PaymentTransition} (h : SameTransition t t') :
      SameAnswer found (.transition t) (.transition t')
  | expired {ids ids' : List PaymentId}
      (h : ∀ id, id ∈ ids' ↔ id ∈ ids ∧ ∀ p, found.payment? id = some p → p.status ≠ .expired) :
      SameAnswer found (.expired ids) (.expired ids')
  | counts {c c' : EventCounts} (h : SameCounts c c') : SameAnswer found (.counts c) (.counts c')

/-- The times at which an operation looks at the clock. -/
def Operation.times (moment : Moment) : Operation → List Instant
  | runEvents events => events.map Prod.snd
  | _ => [moment.now]

/-! ## Operations -/

theorem SameCounts.count {c c' : EventCounts} {t t' : PaymentTransition} (hc : SameCounts c c')
    (ht : SameTransition t t') : SameCounts (c.count (.ok t)) (c'.count (.ok t')) := by
  obtain ⟨happlied, haccepted, hrejected⟩ := hc
  cases ht with
  | same t =>
    cases t with
    | applied source target => exact ⟨Nat.succ_le_succ happlied, by simp only [EventCounts.count]; omega, hrejected⟩
    | unchanged status => exact ⟨happlied, by simp only [EventCounts.count]; omega, hrejected⟩
  | lapsed source => exact ⟨Nat.le_succ_of_le happlied, by simp only [EventCounts.count]; omega, hrejected⟩

theorem SameCounts.reject {c c' : EventCounts} (hc : SameCounts c c') (error : SettlementError) :
    SameCounts (c.count (.error error)) (c'.count (.error error)) :=
  ⟨hc.applied, hc.accepted, congrArg (· + 1) hc.rejected⟩

theorem Trails.runEvents {counts counts' : EventCounts} (h : e.Trails f now) (held : Locks)
    (events : List (ChainEvent × Instant)) (sorted : (now :: (events.map Prod.snd ++ later)).Pairwise (· ≤ ·))
    (hc : SameCounts counts counts') :
    ∃ last, (last :: later).Pairwise (· ≤ ·) ∧
      Ends last SameCounts ((runEvents held counts events).on e) ((runEvents held counts' events).on f) := by
  induction events generalizing e f now counts counts' with
  | nil => exact ⟨now, sorted, .pure h hc⟩
  | cons first rest ih =>
    obtain ⟨event, time⟩ := first
    obtain ⟨hnow, hrest⟩ := List.pairwise_cons.mp sorted
    have hhere : e.Trails f (Moment.mk time held).now := h.mono (hnow time List.mem_cons_self)
    obtain ⟨htrails, hanswers⟩ := hhere.handleEvent event
    simp only [Engine.runEvents, on_bind, on_attempt]
    generalize (Engine.handleEvent ⟨time, held⟩ event).on e = r at htrails hanswers ⊢
    generalize (Engine.handleEvent ⟨time, held⟩ event).on f = s at htrails hanswers ⊢
    obtain ⟨e', r⟩ := r
    obtain ⟨f', s⟩ := s
    cases hanswers with
    | ok ht => exact ih htrails hrest (hc.count ht)
    | error fault =>
      cases fault with
      | refused error => exact ih htrails hrest (hc.reject error)
      | overflow =>
        refine ⟨time, hrest.sublist ?_, htrails, .error _⟩
        exact (List.sublist_append_right _ later).cons_cons time

theorem Trails.perform_single (h : e.Trails f moment.now) (op : Operation) (single : op.Single) :
    Ends moment.now (SameAnswer f) (e.perform moment op) (f.perform moment op) := by
  have hother (hop : ¬ op.OnPayments) :
      Ends moment.now (SameAnswer f) (e.perform moment op) (f.perform moment op) := by
    obtain ⟨htrails, hanswers⟩ := h.blind (Operation.action_blind moment hop)
    exact ⟨htrails, hanswers.imp fun hsame => hsame ▸ .same _⟩
  cases op with
  | createInvoice fresh invoice =>
    refine Ends.map (h.createInvoice fresh invoice moment.now) ?_
    rintro p _ rfl
    exact .same _
  | handleEvent event => exact (h.handleEvent event).map fun ht => .transition ht
  | runEvents events => exact single.elim
  | sweepExpired => exact ⟨h.sweepExpired, .ok (.expired h.mem_swept_iff)⟩
  | readPayment id => exact (h.readPayment id).map fun hpq => .payment hpq
  | findPayment reference => exact (h.findPayment reference).map fun hpq => .payment hpq
  | _ => exact hother id

theorem Trails.perform (h : e.Trails f now) (moment : Moment) (op : Operation)
    (sorted : (now :: (op.times moment ++ later)).Pairwise (· ≤ ·)) :
    ∃ last, (last :: later).Pairwise (· ≤ ·) ∧
      Ends last (SameAnswer f) (e.perform moment op) (f.perform moment op) := by
  by_cases hop : op.Single
  · have htimes : op.times moment = [moment.now] := by
      cases op with
      | runEvents events => exact hop.elim
      | _ => rfl
    rw [htimes] at sorted
    obtain ⟨hnow, hlater⟩ := List.pairwise_cons.mp sorted
    exact ⟨moment.now, hlater, (h.mono (hnow moment.now List.mem_cons_self)).perform_single op hop⟩
  · cases op with
    | runEvents events =>
      obtain ⟨last, hlast, hends⟩ := h.runEvents moment.held events sorted ⟨le_rfl, rfl, rfl⟩
      exact ⟨last, hlast, hends.map fun hc => .counts hc⟩
    | _ => exact absurd trivial hop

/-! ## Runs -/

/-- A step of a run that has been added to: one of its own operations, or a sweep or a read that was put in. -/
inductive Entry
  | own (moment : Moment) (op : Operation)
  | sweep (moment : Moment)
  | read (moment : Moment) (id : PaymentId)

namespace Entry

def step : Entry → Moment × Operation
  | own moment op => (moment, op)
  | sweep moment => (moment, .sweepExpired)
  | read moment id => (moment, .readPayment id)

/-- The step of the run itself. -/
def own? : Entry → Option (Moment × Operation)
  | own moment op => some (moment, op)
  | sweep _ | read _ _ => none

def times (entry : Entry) : List Instant := entry.step.2.times entry.step.1

end Entry

def answers (e : Engine) : List (Moment × Operation) → List (Except Fault Answer)
  | [] => []
  | (moment, op) :: rest => (e.perform moment op).2 :: (e.perform moment op).1.answers rest

/-- What the own operations of a run are answered, when others have been put in, and by which engine. -/
def ownAnswers (e : Engine) : List Entry → List (Engine × Except Fault Answer)
  | [] => []
  | .own moment op :: rest => (e, (e.perform moment op).2) :: (e.perform moment op).1.ownAnswers rest
  | .sweep moment :: rest => (e.perform moment .sweepExpired).1.ownAnswers rest
  | .read moment id :: rest => (e.perform moment (.readPayment id)).1.ownAnswers rest

/-- An answer of a run, and the one that is given when others have been put in. -/
def Alike (answer : Except Fault Answer) (own : Engine × Except Fault Answer) : Prop :=
  Answers (SameAnswer own.1) answer own.2

theorem perform_readPayment (e : Engine) (moment : Moment) (id : PaymentId) :
    (e.perform moment (.readPayment id)).1 = ((readPayment moment id).on e).1 := by
  rw [Engine.perform, Operation.action, on_map]

/-- The run stays behind the one that has been added to, and its operations are answered alike. -/
theorem Trails.run (h : e.Trails f now) (entries : List Entry)
    (sorted : (now :: (entries.flatMap Entry.times ++ later)).Pairwise (· ≤ ·)) :
    (∃ last, (last :: later).Pairwise (· ≤ ·) ∧
      (e.run (entries.filterMap Entry.own?)).Trails (f.run (entries.map Entry.step)) last) ∧
    List.Forall₂ Alike (e.answers (entries.filterMap Entry.own?)) (f.ownAnswers entries) := by
  induction entries generalizing e f now with
  | nil => exact ⟨⟨now, sorted, h⟩, .nil⟩
  | cons entry rest ih =>
    rw [List.flatMap_cons, List.append_assoc] at sorted
    cases entry with
    | own moment op =>
      obtain ⟨last, hlast, htrails, hanswers⟩ := h.perform moment op sorted
      obtain ⟨hend, hrest⟩ := ih htrails hlast
      exact ⟨hend, .cons hanswers hrest⟩
    | sweep moment =>
      obtain ⟨hnow, hrest⟩ := List.pairwise_cons.mp sorted
      exact ih (h.mono (hnow moment.now List.mem_cons_self)).sweepExpired_right hrest
    | read moment id =>
      obtain ⟨hnow, hrest⟩ := List.pairwise_cons.mp sorted
      have hread := (h.mono (hnow moment.now List.mem_cons_self)).readPayment_right id
      rw [← perform_readPayment f moment id] at hread
      exact ih hread hrest

theorem exists_start {times : List Instant} (sorted : times.Pairwise (· ≤ ·)) :
    ∃ now, (now :: times).Pairwise (· ≤ ·) := by
  cases times with
  | nil => exact ⟨.epoch, List.pairwise_singleton _ _⟩
  | cons first rest =>
    obtain ⟨hfirst, -⟩ := List.pairwise_cons.mp sorted
    refine ⟨first, List.pairwise_cons.mpr ⟨?_, sorted⟩⟩
    exact List.forall_mem_cons.mpr ⟨first.le_refl, hfirst⟩

theorem Answers.map_undated {r s : Except Fault Payment} (h : Answers (fun p q => q.undated = p.undated) r s) :
    s.map Payment.undated = r.map Payment.undated := by
  cases h with
  | ok hpq => exact congrArg Except.ok hpq
  | error fault => rfl

/-- Sweeps and reads may be put into a run wherever the time allows. Balances, profiles and payouts are the same
in the end, and from then on every payment reads alike, but for the time of its last change. The operations of
the run are answered alike, up to that time, to the payments that a sweep leaves out because they have expired,
and to whether an event expires a payment or finds it expired. -/
theorem lazy_and_swept_expiry_agree (start : Engine) (entries : List Entry)
    (sorted : (entries.flatMap Entry.times).Pairwise (· ≤ ·)) :
    let e := start.run (entries.filterMap Entry.own?)
    let f := start.run (entries.map Entry.step)
    f.ledger = e.ledger ∧ f.gate = e.gate ∧ f.payouts = e.payouts ∧
    (∀ id moment, (∀ time ∈ entries.flatMap Entry.times, time ≤ moment.now) →
      ((readPayment moment id).on f).2.map Payment.undated = ((readPayment moment id).on e).2.map Payment.undated) ∧
    List.Forall₂ Alike (start.answers (entries.filterMap Entry.own?)) (start.ownAnswers entries) := by
  intro e f
  have hrun {later : List Instant} (hlater : (entries.flatMap Entry.times ++ later).Pairwise (· ≤ ·)) :
      (∃ last, (last :: later).Pairwise (· ≤ ·) ∧ e.Trails f last) ∧
      List.Forall₂ Alike (start.answers (entries.filterMap Entry.own?)) (start.ownAnswers entries) := by
    obtain ⟨now, hnow⟩ := exists_start hlater
    exact (Trails.refl start now).run entries hnow
  have halone : (entries.flatMap Entry.times ++ []).Pairwise (· ≤ ·) := by
    rw [List.append_nil]
    exact sorted
  obtain ⟨⟨last, -, htrails⟩, hanswers⟩ := hrun halone
  have hsame : f = e.withRecords f.payments.records := htrails.same
  refine ⟨?_, ?_, ?_, fun id moment hend => ?_, hanswers⟩
  · rw [hsame]
    rfl
  · rw [hsame]
    rfl
  · rw [hsame]
    rfl
  · have hread : (entries.flatMap Entry.times ++ [moment.now]).Pairwise (· ≤ ·) := by
      refine List.pairwise_append.mpr ⟨sorted, List.pairwise_singleton _ _, fun time htime _ hnow => ?_⟩
      cases List.mem_singleton.mp hnow
      exact hend time htime
    obtain ⟨⟨last, hlast, htrails⟩, -⟩ := hrun hread
    have hle : last ≤ moment.now := (List.pairwise_cons.mp hlast).1 moment.now List.mem_cons_self
    exact ((htrails.mono hle).readPayment id).answers.map_undated

def afterwards : Moment := ⟨⟨901, 0, by decide, by decide, by decide⟩, {}⟩

/-- The invoice is paid too late, and before that a sweep is put in. -/
def sweptBeforePaid : List Entry :=
  invoiced.map (fun step => .own step.1 step.2) ++ [.sweep afterwards, .own afterwards paid]

/-- The late payment expires the invoice, or finds that the sweep has. -/
theorem sweep_before_late_payment_agrees :
    let start := opened .default
    (start.run (sweptBeforePaid.map Entry.step)).ledger = (start.run (sweptBeforePaid.filterMap Entry.own?)).ledger ∧
      List.Forall₂ Alike (start.answers (sweptBeforePaid.filterMap Entry.own?))
        (start.ownAnswers sweptBeforePaid) ∧
      (start.answers (sweptBeforePaid.filterMap Entry.own?)).getLast? =
        some (.ok (.transition (.applied .created .expired))) ∧
      (start.ownAnswers sweptBeforePaid).getLast?.map Prod.snd = some (.ok (.transition (.unchanged .expired))) := by
  intro start
  have hsorted : (sweptBeforePaid.flatMap Entry.times).Pairwise (· ≤ ·) := by decide +kernel
  obtain ⟨hledger, -, -, -, hanswers⟩ := lazy_and_swept_expiry_agree start sweptBeforePaid hsorted
  exact ⟨hledger, hanswers, by decide +kernel, by decide +kernel⟩

end Engine
end Settlement
