import Settlement.Proofs.Engine.Completions
import Settlement.Proofs.Engine.References
import Settlement.Proofs.Payment.Taken

/-! The history of a completed payment. One step makes the first observation and one completes the payment; every step
in between finds the record of what was observed and agrees with it, or the payment would have failed. -/
namespace Settlement
namespace Engine

variable {config : SettlementConfig} {e next : Engine} {moment : Moment} {op : Operation} {id : PaymentId}
  {p q : Payment}

/-! ## Steps -/

theorem Step.keeps (h : Step e moment op next) (fresh : op.FreshPaymentId e) (hp : e.payment? id = some p)
    (late : p.status ≠ .created) : ∃ q, next.payment? id = some q ∧ p.Keeps q := by
  obtain ⟨q, hq, rfl | rfl | ⟨event, source, target, -, -, applied⟩⟩ := h.payment_cases fresh hp
  · exact ⟨q, hq, .refl late⟩
  · exact ⟨_, hq, Payment.keeps_expire late⟩
  · exact ⟨q, hq, Payment.keeps_of_applied applied late⟩

theorem Step.ended_persists (h : Step e moment op next) (fresh : op.FreshPaymentId e) (hp : e.payment? id = some p)
    (ended : p.status.isTerminal = true) : next.payment? id = some p := by
  obtain ⟨q, hq, rfl | rfl | ⟨event, source, target, -, -, applied⟩⟩ := h.payment_cases fresh hp
  · exact hq
  · rw [hq, (p.continues_expire moment.now).ended ended]
  · rw [hq, (Payment.continues_applyEvent applied).ended ended]

theorem Step.takes (h : Step e moment op next) (fresh : op.FreshPaymentId e) (hp : e.payment? id = some p)
    (hq : next.payment? id = some q) (intact : q.Intact) :
    q = p ∨ ∃ event, op = .handleEvent event ∧ e.payments.references.get? event.reference = some id ∧
      p.Takes e.policy event moment.now q := by
  obtain ⟨r, hr, hcases⟩ := h.payment_cases fresh hp
  cases hq.symm.trans hr
  obtain rfl | rfl | ⟨event, source, target, rfl, located, applied⟩ := hcases
  · exact .inl rfl
  · left
    unfold Payment.expire at intact ⊢
    split at intact
    · exact absurd rfl intact.1
    · rename_i hdue
      rw [if_neg hdue]
  · obtain rfl | ⟨reason, rfl⟩ | htakes := Payment.applied_cases applied
    · exact absurd rfl intact.1
    · exact absurd rfl intact.2
    · exact .inr ⟨event, rfl, located, htakes⟩

/-! ## Runs of single steps -/

/-- Single steps that hand out fresh identifiers to payments. -/
structure Plain (e : Engine) (steps : List (Moment × Operation)) : Prop where
  single : ∀ step ∈ steps, step.2.Single
  fresh : e.FreshPaymentIds steps

variable {steps done rest : List (Moment × Operation)} {step : Moment × Operation}

theorem Plain.of_prefix (h : e.Plain steps) (hinitial : done <+: steps) : e.Plain done := by
  obtain ⟨rest, rfl⟩ := hinitial
  exact ⟨fun step hstep => h.single step (List.mem_append_left rest hstep), (along_append.mp h.fresh).1⟩

theorem Plain.preserved {P : Engine → Prop} (h : e.Plain steps)
    (hstep : ∀ {e next : Engine} {moment : Moment} {op : Operation}, Step e moment op next →
      op.FreshPaymentId e → P e → P next)
    (hinitial : done <+: steps) (hdone : P (e.run done)) : P (e.run steps) := by
  obtain ⟨rest, rfl⟩ := hinitial
  rw [run_append]
  have hrest : (e.run done).Along (fun e _ op => op.FreshPaymentId e) rest := (along_append.mp h.fresh).2
  exact hrest.preserved (fun _ _ => trivial) hstep hdone

theorem Plain.step_of_prefix (h : e.Plain steps) (hinitial : done ++ [step] <+: steps) :
    Step (e.run done) step.1 step.2 (e.run (done ++ [step])) ∧ step.2.FreshPaymentId (e.run done) := by
  obtain ⟨hsingle, hfresh⟩ := h.of_prefix hinitial
  rw [run_append]
  refine ⟨(e.run done).perform_step step.1 step.2 (hsingle step (by simp)), ?_⟩
  exact (along_append.mp hfresh).2.1

theorem exists_turning_step {P : Engine → Prop} (hnot : ¬ P e) (hend : P (e.run steps)) :
    ∃ done step, done ++ [step] <+: steps ∧ ¬ P (e.run done) ∧ P (e.run (done ++ [step])) := by
  induction steps generalizing e with
  | nil => exact absurd hend hnot
  | cons step rest ih =>
    by_cases hnext : P (e.perform step.1 step.2).1
    · exact ⟨[], step, List.prefix_cons_inj step |>.mpr List.nil_prefix, hnot, hnext⟩
    · obtain ⟨done, last, hinitial, hbefore, hafter⟩ := ih hnext hend
      exact ⟨step :: done, last, List.prefix_cons_inj step |>.mpr hinitial, hbefore, hafter⟩

theorem turning_step_unique {P : Engine → Prop}
    (lasting : ∀ {first last}, first <+: last → last <+: steps → P (e.run first) → P (e.run last))
    {before : List (Moment × Operation)} {other : Moment × Operation}
    (hdone : done ++ [step] <+: steps) (hnot : ¬ P (e.run done)) (hafter : P (e.run (done ++ [step])))
    (hbefore : before ++ [other] <+: steps) (hnot' : ¬ P (e.run before)) (hafter' : P (e.run (before ++ [other]))) :
    before ++ [other] = done ++ [step] := by
  have hdone' : done <+: steps := (List.prefix_append done [step]).trans hdone
  have hbefore' : before <+: steps := (List.prefix_append before [other]).trans hbefore
  rcases Nat.lt_trichotomy before.length done.length with hlt | heq | hgt
  · have hle : before ++ [other] <+: done :=
      List.prefix_of_prefix_length_le hbefore hdone' (by simpa [Nat.succ_le_iff] using hlt)
    exact absurd (lasting hle hdone' hafter') hnot
  · have hlength : (before ++ [other]).length = (done ++ [step]).length := by simpa using heq
    exact (List.prefix_of_prefix_length_le hbefore hdone hlength.le).eq_of_length hlength
  · have hle : done ++ [step] <+: before :=
      List.prefix_of_prefix_length_le hdone hbefore' (by simpa [Nat.succ_le_iff] using hgt)
    exact absurd (lasting hle hbefore' hafter) hnot'

/-! ## The history of a completed payment -/

theorem policy_run (config : SettlementConfig) (ops : List (Moment × Operation)) :
    ((opened config).run ops).policy = (opened config).policy := by
  have hconfig : ((opened config).run ops).config = config := (reachable_run .opened ops).standing.config_eq
  unfold policy
  rw [hconfig]
  rfl

def Observed (e : Engine) (id : PaymentId) : Prop := ∃ p, e.payment? id = some p ∧ p.status ≠ .created

theorem Plain.observed_persists (h : e.Plain steps) {first last : List (Moment × Operation)} (hfirst : first <+: last)
    (hlast : last <+: steps) (hobserved : (e.run first).Observed id) : (e.run last).Observed id := by
  refine (h.of_prefix hlast).preserved (P := fun e => e.Observed id) (fun hstep fresh => ?_) hfirst hobserved
  rintro ⟨q, hq, late⟩
  obtain ⟨r, hr, hkeeps⟩ := hstep.keeps fresh hq late
  exact ⟨r, hr, hkeeps.late⟩

theorem Plain.isCompleted_persists (h : e.Plain steps) {first last : List (Moment × Operation)}
    (hfirst : first <+: last) (hlast : last <+: steps) (hpaid : (e.run first).isCompleted id = true) :
    (e.run last).isCompleted id = true := by
  obtain ⟨r, hr, hdone⟩ := isCompleted_iff.mp hpaid
  have hlasts := (h.of_prefix hlast).preserved (P := fun e => e.payment? id = some r)
    (fun hstep fresh hr => hstep.ended_persists fresh hr (by rw [hdone]; rfl)) hfirst hr
  exact isCompleted_iff.mpr ⟨r, hlasts, hdone⟩

theorem Step.created_of_turning (h : Step e moment op next) (hnot : ¬ e.Observed id) (hafter : next.Observed id) :
    ∃ p, e.payment? id = some p ∧ p.status = .created := by
  obtain ⟨q, hq, late⟩ := hafter
  obtain ⟨p, hp, -⟩ | ⟨_, _, hd, -⟩ := h.payment_origin hq
  · refine ⟨p, hp, ?_⟩
    by_contra hp'
    exact hnot ⟨p, hp, hp'⟩
  · exact absurd (drafted_of_ok hd).status_eq late

/-- The first observation of a payment: after the steps `early` an event is taken, in time, and its sender is the one
on record. -/
structure FirstSeen (start : Engine) (id : PaymentId) (p : Payment) (early : List (Moment × Operation))
    (moment : Moment) (event : ChainEvent) : Prop where
  unseen : ¬ (start.run early).Observed id
  seen : (start.run (early ++ [(moment, .handleEvent event)])).Observed id
  reference : event.reference = p.reference
  sender : p.senderAddress = some event.senderAddress
  timely : moment.now ≤ p.expiresAt

/-- The completion of a payment: after the steps `done`, and nowhere else in the run, it completes by an event. -/
structure CompletedBy (start : Engine) (steps : List (Moment × Operation)) (id : PaymentId) (p : Payment)
    (done : List (Moment × Operation)) (moment : Moment) (event : ChainEvent) : Prop where
  unpaid : (start.run done).isCompleted id = false
  paid : (start.run (done ++ [(moment, .handleEvent event)])).payment? id = some p
  only : ∀ before step, before ++ [step] <+: steps → (start.run before).isCompleted id = false →
    (start.run (before ++ [step])).isCompleted id = true → before ++ [step] = done ++ [(moment, .handleEvent event)]
  reference : event.reference = p.reference
  sound : event.error = none
  near : Payment.Near start.policy.amountTolerance p event
  deep : event.finalized = true ∨ start.policy.requiredConfirmations ≤ event.confirmationDepth

section

variable (h : (opened config).Plain steps) (stored : ((opened config).run steps).payment? id = some p)
  (completed : p.status = .completed)
include h stored

/-- What the payment was written with, and what has been observed of it, is in the record at the end. -/
theorem Plain.kept_at_end (hinitial : done <+: steps) (hq : ((opened config).run done).payment? id = some q) :
    p.draft = q.draft ∧ (q.status ≠ .created → q.Keeps p) ∧ (q.status.isTerminal = true → p = q) := by
  refine ⟨?_, fun late => ?_, fun ended => ?_⟩
  · obtain ⟨r, hr, hdraft⟩ := h.preserved (P := fun e => ∃ r, e.payment? id = some r ∧ r.draft = q.draft)
      (fun hstep fresh => by
        rintro ⟨r, hr, hdraft⟩
        obtain ⟨r', hr', hsame⟩ := hstep.payment_persists_of_fresh fresh hr
        exact ⟨r', hr', hsame.trans hdraft⟩) hinitial ⟨q, hq, rfl⟩
    cases stored.symm.trans hr
    exact hdraft
  · obtain ⟨r, hr, hkeeps⟩ := h.preserved (P := fun e => ∃ r, e.payment? id = some r ∧ q.Keeps r)
      (fun hstep fresh => by
        rintro ⟨r, hr, hkeeps⟩
        obtain ⟨r', hr', hnext⟩ := hstep.keeps fresh hr hkeeps.late
        exact ⟨r', hr', hkeeps.trans hnext⟩) hinitial ⟨q, hq, .refl late⟩
    cases stored.symm.trans hr
    exact hkeeps
  · have hend := h.preserved (P := fun e => e.payment? id = some q)
      (fun hstep fresh hq => hstep.ended_persists fresh hq ended) hinitial hq
    exact Option.some.inj (stored.symm.trans hend)

include completed

theorem Plain.intact (hinitial : done <+: steps) (hq : ((opened config).run done).payment? id = some q) : q.Intact := by
  obtain ⟨-, -, hended⟩ := h.kept_at_end stored hinitial hq
  constructor
  · intro hstatus
    rw [hended (by rw [hstatus]; rfl), hstatus] at completed
    cases completed
  · intro hstatus
    rw [hended (by rw [hstatus]; rfl), hstatus] at completed
    cases completed

theorem Plain.takes {r : Payment} (hinitial : done ++ [(moment, op)] <+: steps)
    (hq : ((opened config).run done).payment? id = some q)
    (hr : ((opened config).run (done ++ [(moment, op)])).payment? id = some r) :
    r = q ∨ ∃ event, op = .handleEvent event ∧ event.reference = p.reference ∧
      q.Takes (opened config).policy event moment.now r := by
  obtain ⟨hstep, fresh⟩ := h.step_of_prefix hinitial
  have hdone : done <+: steps := (List.prefix_append done _).trans hinitial
  obtain hsame | ⟨event, hop, located, htakes⟩ := hstep.takes fresh hq hr (h.intact stored completed hinitial hr)
  · exact .inl hsame
  · obtain ⟨q', hq', hreference⟩ := (h.of_prefix hdone).fresh.leads _ _ located
    cases hq.symm.trans hq'
    have hsame : p.draft.reference = q.draft.reference :=
      congrArg Payment.reference (h.kept_at_end stored hdone hq).1
    rw [policy_run] at htakes
    exact .inr ⟨event, hop, hreference.symm.trans hsame.symm, htakes⟩

/-- What reaches the payment after the first observation and before the completion agrees with what was observed. -/
theorem Plain.agrees {event : ChainEvent} (hinitial : done ++ [(moment, .handleEvent event)] <+: steps)
    (hq : ((opened config).run done).payment? id = some q) (late : q.status ≠ .created)
    (unpaid : q.status ≠ .completed) (carries : event.reference = p.reference) (free : id ∉ moment.held.payments)
    (returned : (((opened config).run done).perform moment (.handleEvent event)).2 ≠ .error .overflow) :
    event.error = none ∧ Payment.Near config.amountTolerance q event ∧ q.SameTransaction event := by
  have hdone : done <+: steps := (List.prefix_append done _).trans hinitial
  have hreachable : Reachable config ((opened config).run done) := reachable_run .opened done
  have hreferenced := (h.of_prefix hdone).fresh.leads.referenced hreachable
  have hsame : p.draft.reference = q.draft.reference := congrArg Payment.reference (h.kept_at_end stored hdone hq).1
  have located := (hreferenced.leads_iff event.reference id).mpr ⟨q, hq, hsame.symm.trans carries.symm⟩
  have alive : q.status.isTerminal = false := by
    obtain ⟨hexpired, hfailed⟩ := h.intact stored completed hdone hq
    revert unpaid hexpired hfailed
    cases q.status <;> simp [PaymentStatus.isTerminal]
  have hpolicy := policy_run config done
  obtain ⟨r, transition, applied, hr, -⟩ | ⟨fault, hfault, applied | ⟨r, source, applied, -⟩⟩ :=
    handleEvent_cases located (lockPayment_eq_ok.mpr ⟨hq, free⟩)
  · have hnext : ((opened config).run (done ++ [(moment, .handleEvent event)])).payment? id = some r := by
      rw [run_append]
      exact hr
    rw [hpolicy] at applied
    exact Payment.agrees_of_intact applied alive late (h.intact stored completed hinitial hnext)
  · cases fault with
    | refused error => exact absurd applied (Payment.applyEvent_ne_refused late)
    | overflow => exact absurd hfault returned
  · rw [hpolicy] at applied
    have hstatus := (Payment.applyEvent_applied applied).2.2
    exact Payment.agrees_of_intact applied alive late ⟨by rw [hstatus]; decide, by rw [hstatus]; decide⟩

theorem Plain.exists_completedBy : ∃ done moment event, done ++ [(moment, .handleEvent event)] <+: steps ∧
    CompletedBy (opened config) steps id p done moment event := by
  have hopened : ¬ (opened config).isCompleted id = true := nofun
  obtain ⟨done, ⟨moment, op⟩, hinitial, hnot, hafter⟩ := exists_turning_step (P := fun e => e.isCompleted id = true)
    hopened (isCompleted_iff.mpr ⟨p, stored, completed⟩)
  obtain ⟨r, hr, hpaid⟩ := isCompleted_iff.mp hafter
  have hrp : p = r := (h.kept_at_end stored hinitial hr).2.2 (by rw [hpaid]; rfl)
  subst hrp
  obtain ⟨hstep, fresh⟩ := h.step_of_prefix hinitial
  obtain ⟨q, hq⟩ : ∃ q, ((opened config).run done).payment? id = some q := by
    obtain ⟨q, hq, -⟩ | ⟨_, _, hd, -⟩ := hstep.payment_origin hr
    · exact ⟨q, hq⟩
    · rw [(drafted_of_ok hd).status_eq] at completed
      cases completed
  obtain rfl | ⟨event, rfl, carries, htakes⟩ := h.takes stored completed hinitial hq hr
  · exact absurd (isCompleted_iff.mpr ⟨p, hq, completed⟩) hnot
  refine ⟨done, moment, event, hinitial, Bool.eq_false_iff.mpr hnot, hr, ?_, carries, htakes.sound,
    htakes.near.of_draft htakes.draft_eq, htakes.deep completed⟩
  intro before step hbefore hunpaid hbeforePaid
  exact turning_step_unique (P := fun e => e.isCompleted id = true) h.isCompleted_persists hinitial hnot hafter hbefore
    (Bool.eq_false_iff.mp hunpaid) hbeforePaid

theorem Plain.exists_firstSeen (hinitial : done <+: steps) (hobserved : ((opened config).run done).Observed id) :
    ∃ early moment event, early ++ [(moment, .handleEvent event)] <+: done ∧
      FirstSeen (opened config) id p early moment event := by
  have hopened : ¬ (opened config).Observed id := fun ⟨_, hp, _⟩ => nomatch hp
  obtain ⟨early, ⟨moment, op⟩, hearly, hnot, hafter⟩ :=
    exists_turning_step (P := fun e => e.Observed id) hopened hobserved
  have hsteps := hearly.trans hinitial
  obtain ⟨hstep, -⟩ := h.step_of_prefix hsteps
  obtain ⟨q, hq, first⟩ := hstep.created_of_turning hnot hafter
  obtain ⟨r, hr, late⟩ := hafter
  obtain rfl | ⟨event, rfl, carries, htakes⟩ := h.takes stored completed hsteps hq hr
  · exact absurd first late
  have hkeeps := (h.kept_at_end stored hsteps hr).2.1 late
  have hexpires : p.draft.expiresAt = r.draft.expiresAt := congrArg Payment.expiresAt (h.kept_at_end stored hsteps hr).1
  have hsame : r.draft.expiresAt = q.draft.expiresAt := congrArg Payment.expiresAt htakes.draft_eq
  have htimely : p.expiresAt = q.expiresAt := hexpires.trans hsame
  refine ⟨early, moment, event, hearly, hnot, ⟨r, hr, late⟩, carries, ?_, ?_⟩
  · rw [hkeeps.sender, htakes.sender_of_first first]
  · rw [htimely]
    exact htakes.first_le first

/-- From the first observation to the completion every event with the reference agrees with the record. -/
theorem Plain.agrees_between {early before : List (Moment × Operation)} {first last : Moment}
    {seen paying event : ChainEvent}
    (hearly : early ++ [(first, .handleEvent seen)] <+: done ++ [(last, .handleEvent paying)])
    (hdone : done ++ [(last, .handleEvent paying)] <+: steps) (hseen : FirstSeen (opened config) id p early first seen)
    (hpaid : CompletedBy (opened config) steps id p done last paying) (hbetween : early <+: before)
    (hbefore : before ++ [(moment, .handleEvent event)] <+: done ++ [(last, .handleEvent paying)])
    (carries : event.reference = p.reference) (free : id ∉ moment.held.payments)
    (returned : (((opened config).run before).perform moment (.handleEvent event)).2 ≠ .error .overflow) :
    event.error = none ∧ Payment.Near config.amountTolerance p event ∧ event.senderAddress = seen.senderAddress := by
  have hsteps := hbefore.trans hdone
  have hlast : before <+: done ++ [(last, .handleEvent paying)] := (List.prefix_append before _).trans hbefore
  have hrun : before <+: steps := hlast.trans hdone
  rcases hbetween.length_le.eq_or_lt with heq | hlt
  · have hsame : before = early := (hbetween.eq_of_length heq).symm
    subst hsame
    have hstep : before ++ [(moment, Operation.handleEvent event)] = before ++ [(first, .handleEvent seen)] :=
      (List.prefix_of_prefix_length_le hbefore hearly (by simp)).eq_of_length (by simp)
    cases List.append_cancel_left hstep
    obtain ⟨q, hq, created⟩ := (h.step_of_prefix hsteps).1.created_of_turning hseen.unseen hseen.seen
    obtain ⟨r, hr, late⟩ := hseen.seen
    obtain rfl | ⟨_, hop, -, htakes⟩ := h.takes stored completed hsteps hq hr
    · exact absurd created late
    · cases hop
      exact ⟨htakes.sound, htakes.near.of_draft (h.kept_at_end stored hrun hq).1, rfl⟩
  · have hfirst : early ++ [(first, .handleEvent seen)] <+: before :=
      List.prefix_of_prefix_length_le hearly hlast (by simpa [Nat.succ_le_iff] using hlt)
    obtain ⟨q, hq, late⟩ := h.observed_persists hfirst hrun hseen.seen
    have unpaid : q.status ≠ .completed := by
      intro hstatus
      have hopen : before <+: done :=
        List.prefix_of_prefix_length_le hlast (List.prefix_append done _) (by simpa using hbefore.length_le)
      have hlasts := h.isCompleted_persists hopen ((List.prefix_append done _).trans hdone)
        (isCompleted_iff.mpr ⟨q, hq, hstatus⟩)
      rw [hpaid.unpaid] at hlasts
      cases hlasts
    obtain ⟨sound, near, same⟩ := h.agrees stored completed hsteps hq late unpaid carries free returned
    obtain ⟨hdraft, hkeeps, -⟩ := h.kept_at_end stored hrun hq
    exact ⟨sound, near.of_draft hdraft, (same.sender _ ((hkeeps late).sender.symm.trans hseen.sender)).symm⟩

end

/-- The history of a payment that is completed at the end of a run with fresh payment identifiers. One event completes
it, which reports no error and an amount within the tolerance, as decimals are subtracted, and is final or deep enough.
Another one, or the same, is the first observation, in time. Every step that changes the payment is an event by the
sender of the first observation, with no other hash than the one on record. And every event with its reference from the
first observation to the completion, unless others held the payment or its handling overflowed, reports no error, an
amount within the tolerance, and that sender. -/
theorem completed_payment_has_one_history (config : SettlementConfig) (ops : List (Moment × Operation))
    (fresh : (opened config).FreshPaymentIds ops) (stored : ((opened config).run ops).payment? id = some p)
    (completed : p.status = .completed) :
    let start := opened config
    let steps := start.steps ops
    ∃ early first seen done last paying,
      early ++ [(first, .handleEvent seen)] <+: done ++ [(last, .handleEvent paying)] ∧
      done ++ [(last, .handleEvent paying)] <+: steps ∧
      FirstSeen start id p early first seen ∧ CompletedBy start steps id p done last paying ∧
      (∀ before moment op q r, before ++ [(moment, op)] <+: steps → (start.run before).payment? id = some q →
        (start.run (before ++ [(moment, op)])).payment? id = some r → r ≠ q →
        ∃ event, op = .handleEvent event ∧ event.reference = p.reference ∧
          event.senderAddress = seen.senderAddress ∧ ∀ hash, event.txHash = some hash → p.txHash = some hash) ∧
      ∀ before moment event, early <+: before →
        before ++ [(moment, .handleEvent event)] <+: done ++ [(last, .handleEvent paying)] →
        event.reference = p.reference → id ∉ moment.held.payments →
        ((start.run before).perform moment (.handleEvent event)).2 ≠ .error .overflow →
        event.error = none ∧ Payment.Near config.amountTolerance p event ∧
          event.senderAddress = seen.senderAddress := by
  intro start steps
  have h : (opened config).Plain steps := ⟨start.single_steps ops, fresh.steps fun _ _ _ => trivial⟩
  have hstored : (start.run steps).payment? id = some p := by
    rw [start.run_steps]
    exact stored
  obtain ⟨done, last, paying, hdone, hpaid⟩ := h.exists_completedBy hstored completed
  have hobserved : (start.run (done ++ [(last, .handleEvent paying)])).Observed id :=
    ⟨p, hpaid.paid, by rw [completed]; decide⟩
  obtain ⟨early, first, seen, hearly, hseen⟩ := h.exists_firstSeen hstored completed hdone hobserved
  have htaken {before : List (Moment × Operation)} {moment : Moment} {event : ChainEvent} {q r : Payment}
      (hbefore : before ++ [(moment, .handleEvent event)] <+: steps)
      (hr : (start.run (before ++ [(moment, .handleEvent event)])).payment? id = some r)
      (htakes : q.Takes start.policy event moment.now r) : event.senderAddress = seen.senderAddress ∧
        ∀ hash, event.txHash = some hash → p.txHash = some hash := by
    have hkeeps := (h.kept_at_end hstored hbefore hr).2.1 htakes.late
    refine ⟨htakes.sender_of_recorded (hkeeps.sender.symm.trans hseen.sender), fun hash named => ?_⟩
    exact hkeeps.hash hash (htakes.hash_of_named named)
  refine ⟨early, first, seen, done, last, paying, hearly, hdone, hseen, hpaid, ?_, ?_⟩
  · intro before moment op q r hbefore hq hr hchanged
    obtain hsame | ⟨event, rfl, carries, htakes⟩ := h.takes hstored completed hbefore hq hr
    · exact absurd hsame hchanged
    · exact ⟨event, rfl, carries, htaken hbefore hr htakes⟩
  · intro before moment event hbetween hbefore carries free returned
    exact h.agrees_between hstored completed hearly hdone hseen hpaid hbetween hbefore carries free returned

/-- The sample invoice is seen with one confirmation, without a hash, before it is paid. -/
theorem sample_payment_seen_then_paid :
    let now : Moment := ⟨.epoch, {}⟩
    let ops := invoiced ++ [(now, .handleEvent ⟨⟨"PAY-7"⟩, none, "payer", whole 100, 1, false, none⟩), (now, paid)]
    let start := opened .default
    start.FreshPaymentIds ops ∧
      ∃ p early first seen done last paying, (start.run ops).payment? ⟨7⟩ = some p ∧ p.status = .completed ∧
        FirstSeen start ⟨7⟩ p early first seen ∧ CompletedBy start (start.steps ops) ⟨7⟩ p done last paying := by
  intro now ops start
  have hfresh : start.FreshPaymentIds ops := ⟨trivial, trivial, trivial, rfl, trivial, trivial, trivial⟩
  have hcompleted : (start.run ops).isCompleted ⟨7⟩ = true := by decide +kernel
  obtain ⟨p, hp, hstatus⟩ := isCompleted_iff.mp hcompleted
  obtain ⟨early, first, seen, done, last, paying, -, -, hseen, hpaid, -⟩ :=
    completed_payment_has_one_history .default ops hfresh hp hstatus
  exact ⟨hfresh, p, early, first, seen, done, last, paying, hp, hstatus, hseen, hpaid⟩

/-- Ten tokens more or less are tolerated. -/
def tenTolerated : SettlementConfig := { SettlementConfig.default with amountTolerance := whole 10 }

/-- An invoice asks for 6.6666666666666666666666666667 tokens. -/
def twoThirds : List (Moment × Operation) :=
  let now : Moment := ⟨.epoch, {}⟩
  [(now, .registerMerchant ⟨1⟩ .verified), (now, .setRate ⟨"USDT", "VND"⟩ (whole 30000)),
    (now, .setRate ⟨"USD", "VND"⟩ (whole 30000)),
    (now, .createInvoice ⟨⟨7⟩, ⟨"PAY-7"⟩⟩ ⟨⟨1⟩, whole 200000, none, "tron", "T-shop", none⟩)]

/-- It is paid with 10.0000000000000000000000000003 tokens too many. The difference has one digit more than a decimal
holds, and is taken for 10. -/
def overpayment (depth : UInt32) (error : Option String) : ChainEvent :=
  ⟨⟨"PAY-7"⟩, some "tx", "payer", .ofParts 16666666666666666666666666667 27, depth, false, error⟩

/-- The payment completes by an amount that is not within the tolerance. And before that, once it has been observed, its
transaction is reported as reverted, while others hold the payment. -/
theorem completed_beyond_tolerance :
    let now : Moment := ⟨.epoch, {}⟩
    let busy : Moment := ⟨.epoch, { payments := [⟨7⟩] }⟩
    let start := opened tenTolerated
    let seen := twoThirds ++ [(now, .handleEvent (overpayment 1 none))]
    let told := seen ++ [(busy, .handleEvent (overpayment 2 (some "reverted")))]
    let paid := told ++ [(now, .handleEvent (overpayment 20 none))]
    start.FreshPaymentIds paid ∧ (start.run seen).Observed ⟨7⟩ ∧
      ((start.run seen).perform busy (.handleEvent (overpayment 2 (some "reverted")))).2 =
        .error (.refused .timeout) ∧
      (start.run told).isCompleted ⟨7⟩ = false ∧
      ∃ p, (start.run paid).payment? ⟨7⟩ = some p ∧ p.status = .completed ∧ p.reference = ⟨"PAY-7"⟩ ∧
        tenTolerated.amountTolerance.toRat <
          |(overpayment 20 none).observedAmount.toRat - p.tokenAmount.toRat| := by
  intro now busy start seen told paid
  have hfresh : start.FreshPaymentIds paid :=
    ⟨trivial, trivial, trivial, rfl, trivial, trivial, trivial, trivial⟩
  have hseen : ∃ q, (start.run seen).payment? ⟨7⟩ = some q := Option.isSome_iff_exists.mp (by decide +kernel)
  obtain ⟨q, hq⟩ := hseen
  have hlate : ∀ q ∈ (start.run seen).payment? ⟨7⟩, q.status ≠ .created := by decide +kernel
  have hpaid : ∃ p, (start.run paid).payment? ⟨7⟩ = some p := Option.isSome_iff_exists.mp (by decide +kernel)
  obtain ⟨p, hp⟩ := hpaid
  have hall : ∀ q ∈ (start.run paid).payment? ⟨7⟩, q.status = .completed ∧ q.reference = ⟨"PAY-7"⟩ ∧
      q.tokenAmount = .ofParts 66666666666666666666666666667 28 := by decide +kernel
  obtain ⟨hstatus, hreference, htoken⟩ := hall p hp
  refine ⟨hfresh, ⟨q, hq, hlate q hq⟩, by decide +kernel, by decide +kernel, p, hp, hstatus, hreference, ?_⟩
  rw [htoken, show tenTolerated.amountTolerance = .ofParts 10 0 from rfl, overpayment]
  norm_num [Decimal.toRat, Decimal.ofParts]

end Engine
end Settlement
