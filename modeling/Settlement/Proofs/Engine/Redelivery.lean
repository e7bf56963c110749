import Settlement.Proofs.Engine.Atomicity
import Settlement.Proofs.Engine.Handling
import Settlement.Proofs.Payment.Agreement

/-! Events that are delivered again. A payment that an event has moved on has noted the event, so
it finds nothing new in it and nothing that disagrees; and an event that was refused meets
the same engine once more. -/
namespace Settlement
namespace Payment

variable {p next : Payment} {policy : ConfirmationPolicy} {event : ChainEvent} {now : Instant}
  {source target : PaymentStatus}

theorem sameTransaction_noted (agrees : p.status = .created ∨ p.conflict? event = none) (status : PaymentStatus)
    (now : Instant) : (p.noted event status now).SameTransaction event := by
  have hobserved : (p.observed event now).SameTransaction event := by
    unfold observed
    split
    case isTrue =>
      constructor
      · intro sender hsender
        exact (Option.some.inj hsender).symm
      · intro known seen hknown hseen
        exact Option.some.inj (hknown.symm.trans hseen)
    case isFalse hlate =>
      have hsame : p.SameTransaction event := conflict?_eq_none_iff.mp (agrees.resolve_left hlate)
      refine ⟨hsame.sender, fun known seen hknown hseen => ?_⟩
      replace hknown : p.txHash.or event.txHash = some known := hknown
      cases hfirst : p.txHash with
      | some first =>
        rw [hfirst] at hknown
        exact hsame.hash known seen (hfirst.trans hknown) hseen
      | none =>
        rw [hfirst] at hknown
        exact Option.some.inj (hknown.symm.trans hseen)
  unfold noted
  split
  · exact ⟨hobserved.sender, hobserved.hash⟩
  · exact hobserved

/-- A payment that moves forward without ending is not overdue at a time at which it was not. -/
theorem isOverdue_of_further (alive : p.status.isTerminal = false) (due : p.isOverdue now = false)
    (further : p.status.progress < next.status.progress) (expires : next.expiresAt = p.expiresAt) :
    next.isOverdue now = false := by
  have hexpire : next.status.canExpire = true → p.status.canExpire = true := by
    revert alive further
    cases p.status <;> cases next.status <;> decide
  unfold isOverdue at due ⊢
  rw [expires]
  cases hn : next.status.canExpire with
  | false => rfl
  | true => rwa [hexpire hn] at due

theorem applyEvent_again (h : p.applyEvent policy event now = .ok (next, .applied source target)) :
    next.applyEvent policy event now = .ok (next, .unchanged next.status) := by
  have hreacts := reacts_of_applyEvent h
  generalize hm : (next, PaymentTransition.applied source target) = moved at hreacts
  cases hreacts with
  | ended | ignored => cases hm
  | expired | failed =>
    cases hm
    exact applyEvent_of_terminal rfl
  | @advanced difference alive due sound measured close agrees =>
    rcases Nat.lt_or_ge p.status.progress (Payment.target policy event).progress with hlt | hle
    · rw [advance_of_lt now hlt] at hm
      obtain ⟨hnext, -⟩ := Prod.mk.inj hm
      have hstatus : next.status = Payment.target policy event := congrArg status hnext
      have hdraft : next.draft = p.draft := (congrArg draft hnext).trans (p.draft_noted event _ now)
      have hexpires := congrArg expiresAt hdraft
      have htoken := congrArg tokenAmount hdraft
      have hsame : next.SameTransaction event := by
        obtain ⟨hsender, hhash⟩ := sameTransaction_noted agrees (Payment.target policy event) now
        rw [hnext]
        exact ⟨hsender, hhash⟩
      by_cases hended : next.status.isTerminal = true
      · exact applyEvent_of_terminal hended
      · rw [Bool.not_eq_true] at hended
        rw [← hstatus] at hlt
        rw [applyEvent_of_close hended (isOverdue_of_further alive due hlt hexpires) sound
          ((congrArg event.observedAmount.sub? htoken).trans measured) close (.inr (conflict?_eq_none_iff.mpr hsame)),
          advance_of_le now (Nat.le_of_eq (congrArg _ hstatus.symm))]
    · rw [advance_of_le now hle] at hm
      cases hm

end Payment

namespace Engine

open Engine.Action

variable {e : Engine} {moment : Moment} {event : ChainEvent}

theorem decided_of_handled {answer : Answer} (h : (e.perform moment (.handleEvent event)).2 = .ok answer) :
    ∃ id p moved, e.payments.references.get? event.reference = some id ∧
      e.lockPayment moment.held.payments id = .ok p ∧ p.applyEvent e.policy event moment.now = .ok moved := by
  simp only [perform, Operation.action, on_map, Engine.handleEvent, on_bind, on_get, on_lift, locate] at h
  cases hr : e.payments.references.get? event.reference with
  | none => simp [hr, Except.map] at h
  | some id =>
    cases hp : e.lockPayment moment.held.payments id with
    | error fault => simp [hr, hp, Except.map] at h
    | ok p =>
      cases ha : p.applyEvent e.policy event moment.now with
      | error fault => simp [hr, hp, ha, Except.map] at h
      | ok moved => exact ⟨id, p, moved, rfl, hp, ha⟩

theorem ignored_of_handled {answer : Answer} (h : (e.perform moment (.handleEvent event)).2 = .ok answer) :
    let after := (e.perform moment (.handleEvent event)).1
    ∃ id p, after.payments.references.get? event.reference = some id ∧
      after.lockPayment moment.held.payments id = .ok p ∧
      p.applyEvent after.policy event moment.now = .ok (p, .unchanged p.status) := by
  obtain ⟨id, p, ⟨next, transition⟩, located, taken, applied⟩ := decided_of_handled h
  cases transition with
  | unchanged status =>
    rw [perform_handleEvent_of_unchanged located taken applied]
    obtain ⟨rfl, rfl⟩ := Payment.applyEvent_unchanged applied
    exact ⟨id, next, located, taken, applied⟩
  | applied source target =>
    have hopen := (lockPayment_eq_ok.mp taken).2
    have hagain := Payment.applyEvent_again applied
    by_cases hs : target = .completed
    · subst hs
      obtain ⟨balance, ⟨row, hrow, free, credited⟩, -⟩ | ⟨fault, hfault⟩ := e.completePayment_cases moment id next
      · rw [(perform_handleEvent_of_credited located taken hrow free applied credited).1]
        exact ⟨id, next, located, lockPayment_eq_ok.mpr ⟨by simp, hopen⟩, hagain⟩
      · simp only [perform, Operation.action, on_map, Engine.handleEvent, on_bind, on_get, on_lift, locate, located,
          taken, applied, require_some, hfault] at h
        cases h
    · rw [perform_handleEvent_of_short located taken applied hs]
      have hstored := (e.payment?_storePayment id id next).trans (if_pos rfl)
      exact ⟨id, next, located, lockPayment_eq_ok.mpr ⟨hstored, hopen⟩, hagain⟩

theorem run_replicate {op : Operation} (h : (e.perform moment op).1 = e) (n : Nat) :
    e.run (List.replicate n (moment, op)) = e := by
  induction n with
  | zero => rfl
  | succ n ih =>
    rw [List.replicate_succ, run, h]
    exact ih

/-- An event that is handled or refused can be delivered again, as often as one likes, at the same time and with the
same locks held by others: the engine stays as the first delivery has left it. A delivery that was handled is answered from
then on with the status of its payment, unchanged, and one that was refused is refused for the same reason. -/
theorem redelivery_changes_nothing (e : Engine) (moment : Moment) (event : ChainEvent)
    (returned : (e.perform moment (.handleEvent event)).2 ≠ .error .overflow) (n : Nat) :
    let first := e.perform moment (.handleEvent event)
    let later := first.1.run (List.replicate n (moment, .handleEvent event))
    later = first.1 ∧
    (∀ answer, first.2 = .ok answer → ∃ id p, later.payments.references.get? event.reference = some id ∧
      later.payment? id = some p ∧
      (later.perform moment (.handleEvent event)).2 = .ok (.transition (.unchanged p.status))) ∧
    ∀ error, first.2 = .error (.refused error) →
      (later.perform moment (.handleEvent event)).2 = .error (.refused error) := by
  intro first later
  have handled : ∀ answer, first.2 = .ok answer → ∃ id p, first.1.payments.references.get? event.reference = some id ∧
      first.1.payment? id = some p ∧
      first.1.perform moment (.handleEvent event) = (first.1, .ok (.transition (.unchanged p.status))) := by
    intro answer hanswer
    obtain ⟨id, p, located, taken, ignored⟩ := ignored_of_handled hanswer
    exact ⟨id, p, located, (lockPayment_eq_ok.mp taken).1, perform_handleEvent_of_unchanged located taken ignored⟩
  have refused : ∀ error, first.2 = .error (.refused error) →
      first.1.perform moment (.handleEvent event) = (first.1, .error (.refused error)) := by
    intro error herror
    have hsame : first.1 = e := Operation.action_atomic moment (.handleEvent event) e (.refused error) trivial herror
    rw [hsame]
    exact Prod.ext hsame herror
  have hstill : (first.1.perform moment (.handleEvent event)).1 = first.1 := by
    cases hfirst : first.2 with
    | ok answer =>
      obtain ⟨id, p, -, -, hagain⟩ := handled answer hfirst
      rw [hagain]
    | error fault =>
      cases fault with
      | refused error => rw [refused error hfirst]
      | overflow => exact absurd hfirst returned
  have hlater : later = first.1 := run_replicate hstill n
  rw [hlater]
  refine ⟨rfl, fun answer hanswer => ?_, fun error herror => congrArg Prod.snd (refused error herror)⟩
  obtain ⟨id, p, located, stored, hagain⟩ := handled answer hanswer
  exact ⟨id, p, located, stored, congrArg Prod.snd hagain⟩

def unhashedSight : ChainEvent := ⟨⟨"PAY-7"⟩, none, "payer", whole 100, 3, false, none⟩

/-- Delivered four times, it is noted once. -/
theorem first_sight_noted_once :
    let e := (opened .default).run invoiced
    let first := e.perform ⟨.epoch, {}⟩ (.handleEvent unhashedSight)
    let later := first.1.run (List.replicate 2 (⟨.epoch, {}⟩, .handleEvent unhashedSight))
    first.2 = .ok (.transition (.applied .created .confirming)) ∧ later = first.1 ∧
      (later.perform ⟨.epoch, {}⟩ (.handleEvent unhashedSight)).2 = .ok (.transition (.unchanged .confirming)) := by
  intro e first later
  have hfirst : first.2 = .ok (.transition (.applied .created .confirming)) := rfl
  have returned : first.2 ≠ .error .overflow := fun hover => by cases hfirst.symm.trans hover
  obtain ⟨hlater, hhandled, -⟩ := redelivery_changes_nothing e ⟨.epoch, {}⟩ unhashedSight returned 2
  obtain ⟨id, p, located, stored, hanswer⟩ := hhandled _ hfirst
  have hlocated : first.1.payments.references.get? unhashedSight.reference = some ⟨7⟩ := by decide +kernel
  have hstatus : (first.1.payment? ⟨7⟩).map (·.status) = some .confirming := by decide +kernel
  rw [hlater] at located stored
  cases located.symm.trans hlocated
  rw [stored] at hstatus
  replace hstatus : p.status = .confirming := Option.some.inj hstatus
  rw [hstatus] at hanswer
  exact ⟨hfirst, hlater, hanswer⟩

end Engine
end Settlement
