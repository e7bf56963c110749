import Mathlib.Data.Option.Basic
import Settlement.Proofs.Engine.Blind
import Settlement.Proofs.Engine.Step
import Settlement.Proofs.Payment.Lapse
import Settlement.Proofs.Table

/-! Lazy and swept expiry. An engine in which nobody has looked at the clock for a while trails
one in which somebody has, until it handles the same operation itself; so sweeps and reads
that are put into a run change nothing that is kept or answered later. -/
namespace Settlement
namespace Engine

open Engine.Action

variable {e f : Engine} {moment : Moment} {now later : Instant} {id : PaymentId} {p q : Payment}
  {event : ChainEvent} {α : Type}

/-- Both engines are the same but for payments, each of which trails its counterpart. -/
structure Trails (e f : Engine) (now : Instant) : Prop where
  same : f = e.withRecords f.payments.records
  records : ∀ id, Option.Rel (fun p q => p.Trails q now) (e.payment? id) (f.payment? id)

theorem Trails.refl (e : Engine) (now : Instant) : e.Trails e now := by
  refine ⟨rfl, fun id => ?_⟩
  generalize e.payment? id = stored
  cases stored with
  | none => exact .none
  | some p => exact .some (.refl p now)

theorem Trails.mono (h : e.Trails f now) (hle : now ≤ later) : e.Trails f later := by
  refine ⟨h.same, fun id => ?_⟩
  have hid := h.records id
  generalize e.payment? id = stored at hid ⊢
  generalize f.payment? id = stored' at hid ⊢
  cases hid with
  | none => exact .none
  | some hpq => exact .some (hpq.mono hle)

theorem Trails.cases (h : e.Trails f now) (id : PaymentId) :
    (e.payment? id = none ∧ f.payment? id = none) ∨
      ∃ p q, e.payment? id = some p ∧ f.payment? id = some q ∧ p.Trails q now := by
  have hid := h.records id
  generalize e.payment? id = stored at hid ⊢
  generalize f.payment? id = stored' at hid ⊢
  cases hid with
  | none => exact .inl ⟨rfl, rfl⟩
  | some hpq => exact .inr ⟨_, _, rfl, rfl, hpq⟩

theorem Trails.references_eq (h : e.Trails f now) : f.payments.references = e.payments.references := by
  rw [h.same]
  rfl

theorem Trails.policy_eq (h : e.Trails f now) : f.policy = e.policy := by
  rw [h.same]
  rfl

/-! ## Writes -/

theorem Trails.storePayment (h : e.Trails f now) (hpq : p.Trails q now) (id : PaymentId) :
    (e.storePayment id p).Trails (f.storePayment id q) now := by
  refine ⟨?_, fun other => ?_⟩
  · rw [h.same]
    rfl
  · rw [payment?_storePayment, payment?_storePayment]
    split
    · exact .some hpq
    · exact h.records other

theorem storePayment_self (hp : e.payment? id = some p) : e.storePayment id p = e := by
  have hrecords : e.payments.records.insert id p = e.payments.records := Table.insert_of_get? hp
  rw [Engine.storePayment, hrecords]

theorem Trails.storePayment_left (h : e.Trails f now) (hq : f.payment? id = some q) (hpq : p.Trails q now) :
    (e.storePayment id p).Trails f now := by
  have hboth := h.storePayment hpq id
  rwa [storePayment_self hq] at hboth

theorem Trails.storePayment_right (h : e.Trails f now) (hp : e.payment? id = some p) (hpq : p.Trails q now) :
    e.Trails (f.storePayment id q) now := by
  have hboth := h.storePayment hpq id
  rwa [storePayment_self hp] at hboth

/-! ## Results -/

inductive Answers {α β : Type} (R : α → β → Prop) : Except Fault α → Except Fault β → Prop
  | ok {a : α} {b : β} (h : R a b) : Answers R (.ok a) (.ok b)
  | error (fault : Fault) : Answers R (.error fault) (.error fault)

structure Ends {α β : Type} (now : Instant) (R : α → β → Prop) (r : Engine × Except Fault α)
    (s : Engine × Except Fault β) : Prop where
  trails : r.1.Trails s.1 now
  answers : Answers R r.2 s.2

variable {β γ δ : Type} {R : α → β → Prop} {S : γ → δ → Prop} {x : Action α} {y : Action β} {g : α → Action γ}
  {k : β → Action δ}

theorem Answers.imp {R' : α → β → Prop} {r : Except Fault α} {s : Except Fault β} (h : Answers R r s)
    (hR : ∀ {a : α} {b : β}, R a b → R' a b) : Answers R' r s := by
  cases h with
  | ok hab => exact .ok (hR hab)
  | error fault => exact .error fault

theorem Answers.map {g : α → γ} {k : β → δ} {r : Except Fault α} {s : Except Fault β} (h : Answers R r s)
    (hg : ∀ {a : α} {b : β}, R a b → S (g a) (k b)) : Answers S (r.map g) (s.map k) := by
  cases h with
  | ok hab => exact .ok (hg hab)
  | error fault => exact .error fault

theorem Ends.map {g : α → γ} {k : β → δ} (h : Ends now R (x.on e) (y.on f))
    (hg : ∀ {a : α} {b : β}, R a b → S (g a) (k b)) : Ends now S ((g <$> x).on e) ((k <$> y).on f) := by
  rw [on_map, on_map]
  exact ⟨h.trails, h.answers.map hg⟩

theorem Ends.bind (hx : Ends now R (x.on e) (y.on f))
    (hg : ∀ {e' f' : Engine} {a : α} {b : β}, e'.Trails f' now → R a b → Ends now S ((g a).on e') ((k b).on f')) :
    Ends now S ((x >>= g).on e) ((y >>= k).on f) := by
  rw [on_bind, on_bind]
  generalize x.on e = r at hx ⊢
  generalize y.on f = s at hx ⊢
  obtain ⟨e', r⟩ := r
  obtain ⟨f', s⟩ := s
  obtain ⟨htrails, hanswers⟩ := hx
  cases hanswers with
  | ok h => exact hg htrails h
  | error fault => exact ⟨htrails, .error fault⟩

theorem Ends.get_bind {g : Engine → Action γ} {k : Engine → Action δ} (h : Ends now S ((g e).on e) ((k f).on f)) :
    Ends now S ((get >>= g).on e) ((get >>= k).on f) := h

theorem Ends.lift_bind {decision : Except Fault α} {decision' : Except Fault β} (h : e.Trails f now)
    (hd : Answers R decision decision')
    (hg : ∀ {a : α} {b : β}, R a b → Ends now S ((g a).on e) ((k b).on f)) :
    Ends now S ((liftM decision >>= g).on e) ((liftM decision' >>= k).on f) := by
  cases hd with
  | ok hab => exact hg hab
  | error fault => exact ⟨h, .error fault⟩

theorem Ends.pure {a : α} {b : β} (h : e.Trails f now) (hab : R a b) :
    Ends now R ((pure a : Action α).on e) ((pure b : Action β).on f) := ⟨h, .ok hab⟩

theorem Answers.refl (answer : Except Fault α) : Answers Eq answer answer := by
  cases answer with
  | ok a => exact .ok rfl
  | error fault => exact .error fault

theorem Trails.blind (h : e.Trails f now) (hx : x.Blind) : Ends now Eq (x.on e) (x.on f) := by
  have hf : x.on f = ((x.on e).1.withRecords f.payments.records, (x.on e).2) := by
    rw [← hx e f.payments.records, ← h.same]
  have he : (x.on e).1.payments.records = e.payments.records := by
    have hself := hx e e.payments.records
    rw [withRecords_self] at hself
    rw [hself]
    rfl
  rw [hf]
  refine ⟨⟨rfl, fun id => ?_⟩, .refl _⟩
  show Option.Rel _ ((x.on e).1.payments.records.get? id) (f.payments.records.get? id)
  rw [he]
  exact h.records id

theorem Trails.lockPayment (h : e.Trails f now) (held : List PaymentId) (id : PaymentId) :
    Answers (fun p q : Payment => p.Trails q now ∧ e.payment? id = some p ∧ f.payment? id = some q)
      (e.lockPayment held id) (f.lockPayment held id) := by
  obtain ⟨hp, hq⟩ | ⟨p, q, hp, hq, hpq⟩ := h.cases id
  · rw [lockPayment_of_missing hp, lockPayment_of_missing hq]
    exact .error _
  · rw [lockPayment_of_stored hp, lockPayment_of_stored hq]
    split
    · exact .error _
    · exact .ok ⟨hpq, hp, hq⟩

theorem Trails.locate (h : e.Trails f now) (reference : PaymentReference) :
    Answers Eq (e.locate reference) (f.locate reference) := by
  rw [Engine.locate, Engine.locate, h.references_eq]
  exact .refl _

/-! ## Operations -/

theorem Trails.completePayment (h : e.Trails f now) (same : q.undated = p.undated) (moment : Moment) (id : PaymentId) :
    Ends now Eq ((completePayment moment id p).on e) ((completePayment moment id q).on f) := by
  have hq : q = { p with updatedAt := q.updatedAt } := Payment.eq_of_undated same
  have hmerchant : q.merchantId = p.merchantId := by rw [hq]
  have hnet : q.netAmount = p.netAmount := by rw [hq]
  have hinvoice : q.invoiceAmount = p.invoiceAmount := by rw [hq]
  unfold Engine.completePayment
  rw [hmerchant, hnet, hinvoice]
  refine (h.blind (moveMoney_blind _ _ _)).bind fun hmoved _ => ?_
  have hstored : Ends now Eq ((modify (·.storePayment id p) : Action Unit).on _)
      ((modify (·.storePayment id q) : Action Unit).on _) := ⟨hmoved.storePayment (.inl same) id, .ok rfl⟩
  exact hstored.bind fun hs _ => hs.blind ((recordVolume_blind _ _ _).attempt.bind fun _ => blind_pure _)

/-- The same transition, or one that had taken place before. -/
inductive SameTransition : PaymentTransition → PaymentTransition → Prop
  | same (t : PaymentTransition) : SameTransition t t
  | lapsed (source : PaymentStatus) : SameTransition (.applied source .expired) (.unchanged .expired)

theorem answers_of_effect {r s : Except Fault (Payment × PaymentTransition)}
    (h : s.map Payment.effect = r.map Payment.effect) :
    Answers (fun moved moved' => moved'.1.undated = moved.1.undated ∧ moved'.2 = moved.2) r s := by
  cases r with
  | error fault =>
    cases s with
    | error fault' =>
      cases h
      exact .error fault
    | ok moved' => cases h
  | ok moved =>
    cases s with
    | error fault' => cases h
    | ok moved' =>
      obtain ⟨hundated, htransition⟩ := Prod.mk.injEq .. ▸ Except.ok.inj h
      exact .ok ⟨hundated, htransition⟩

theorem Trails.handleEvent (h : e.Trails f moment.now) (event : ChainEvent) :
    Ends moment.now SameTransition ((handleEvent moment event).on e) ((handleEvent moment event).on f) := by
  unfold Engine.handleEvent
  refine .get_bind (.lift_bind h (h.locate event.reference) ?_)
  rintro id _ rfl
  refine .get_bind (.lift_bind h (h.lockPayment moment.held.payments id) ?_)
  rintro p q ⟨hpq, hp, hq⟩
  refine .get_bind ?_
  rw [h.policy_eq]
  obtain heffect | ⟨hbehind, hfront, hexpired⟩ := hpq.applyEvent e.policy event
  · refine .lift_bind h (answers_of_effect heffect) ?_
    rintro ⟨p', transition⟩ ⟨q', transition'⟩ ⟨hsame, htransition⟩
    obtain rfl : transition = transition' := htransition.symm
    cases transition with
    | unchanged status => exact .pure h (.same _)
    | applied source target =>
      cases target with
      | completed => exact (h.completePayment hsame moment id).bind fun hc _ => .pure hc (.same _)
      | created | pending | confirming | expired | failed =>
        exact ⟨h.storePayment (.inl hsame) id, .ok (.same _)⟩
  · rw [hbehind, hfront]
    exact ⟨h.storePayment_left hq (.inl hexpired), .ok (.lapsed p.status)⟩

/-! ### Reading and sweeping -/

theorem on_readPayment (e : Engine) (moment : Moment) (id : PaymentId) :
    (readPayment moment id).on e =
      match e.lockPayment moment.held.payments id with
      | .ok p => (e.storePayment id (p.expire moment.now).1, .ok (p.expire moment.now).1)
      | .error fault => (e, .error fault) := by
  simp only [readPayment, on_bind, on_get, on_lift]
  cases hp : e.lockPayment moment.held.payments id with
  | error fault => rfl
  | ok p =>
    cases ho : p.isOverdue moment.now with
    | true =>
      simp only [Payment.expire_of_overdue ho]
      rfl
    | false =>
      simp only [Payment.expire_of_not_overdue ho, storePayment_self (lockPayment_eq_ok.mp hp).1]
      rfl

theorem Trails.readPayment (h : e.Trails f moment.now) (id : PaymentId) :
    Ends moment.now (fun p q => q.undated = p.undated) ((readPayment moment id).on e)
      ((readPayment moment id).on f) := by
  rw [on_readPayment, on_readPayment]
  have hlock := h.lockPayment moment.held.payments id
  generalize e.lockPayment moment.held.payments id = taken at hlock ⊢
  generalize f.lockPayment moment.held.payments id = taken' at hlock ⊢
  cases hlock with
  | error fault => exact ⟨h, .error fault⟩
  | ok hpq => exact ⟨h.storePayment (.inl hpq.1.expire) id, .ok hpq.1.expire⟩

theorem Trails.findPayment (h : e.Trails f moment.now) (reference : PaymentReference) :
    Ends moment.now (fun p q => q.undated = p.undated) ((findPayment moment reference).on e)
      ((findPayment moment reference).on f) := by
  unfold Engine.findPayment
  refine .get_bind (.lift_bind h (h.locate reference) ?_)
  rintro id _ rfl
  exact h.readPayment id

theorem Trails.readPayment_right (h : e.Trails f moment.now) (id : PaymentId) :
    e.Trails ((Engine.readPayment moment id).on f).1 moment.now := by
  rw [on_readPayment]
  cases hq : f.lockPayment moment.held.payments id with
  | error fault => exact h
  | ok q =>
    have hstored := (lockPayment_eq_ok.mp hq).1
    obtain ⟨-, hmissing⟩ | ⟨p, q', hp, hq', hpq⟩ := h.cases id
    · cases hmissing.symm.trans hstored
    · cases hq'.symm.trans hstored
      exact h.storePayment_right hp hpq.expire_right

theorem mem_sweepExpired {e : Engine} {id : PaymentId} :
    id ∈ (e.sweepExpired moment).2 ↔
      id ∉ moment.held.payments ∧ ∃ p, e.payment? id = some p ∧ p.isOverdue moment.now = true := by
  have hstored (p : Payment) : e.payment? id = some p ↔ (id, p) ∈ e.payments.records.entries :=
    Table.find?_eq_some_iff e.payments.records.nodup
  simp [Engine.sweepExpired, hstored, and_assoc, and_left_comm]

theorem Trails.sweepExpired (h : e.Trails f moment.now) :
    (e.sweepExpired moment).1.Trails (f.sweepExpired moment).1 moment.now := by
  refine ⟨?_, fun id => ?_⟩
  · rw [h.same]
    rfl
  · rw [payment?_sweepExpired, payment?_sweepExpired]
    obtain ⟨hp, hq⟩ | ⟨p, q, hp, hq, hpq⟩ := h.cases id
    · rw [hp, hq]
      exact .none
    · rw [hp, hq]
      refine .some ?_
      unfold swept
      split
      · exact hpq
      · exact .inl hpq.expire

/-- A sweep expires in front what it expires behind, except for what has expired there before. -/
theorem Trails.mem_swept_iff (h : e.Trails f moment.now) (id : PaymentId) :
    id ∈ (f.sweepExpired moment).2 ↔
      id ∈ (e.sweepExpired moment).2 ∧ ∀ p, f.payment? id = some p → p.status ≠ .expired := by
  rw [mem_sweepExpired, mem_sweepExpired]
  obtain ⟨hp, hq⟩ | ⟨p, q, hp, hq, hpq⟩ := h.cases id
  · simp [hp, hq]
  · have hfront : q.isOverdue moment.now = true ↔ p.isOverdue moment.now = true ∧ q.status ≠ .expired := by
      constructor
      · intro hoverdue
        refine ⟨hpq.isOverdue hoverdue, fun hexpired => ?_⟩
        cases hoverdue.symm.trans (Payment.isOverdue_of_expired hexpired)
      · rintro ⟨hoverdue, hstatus⟩
        obtain hsame | ⟨-, hexpired⟩ := hpq
        · rw [Payment.isOverdue_of_undated hsame, hoverdue]
        · exact absurd (Payment.status_of_expired hexpired) hstatus
    simp [hp, hq, hfront, and_assoc]

theorem Trails.sweepExpired_right (h : e.Trails f moment.now) : e.Trails (f.sweepExpired moment).1 moment.now := by
  refine ⟨?_, fun id => ?_⟩
  · rw [h.same]
    rfl
  · rw [payment?_sweepExpired]
    obtain ⟨hp, hq⟩ | ⟨p, q, hp, hq, hpq⟩ := h.cases id
    · rw [hp, hq]
      exact .none
    · rw [hp, hq]
      refine .some ?_
      obtain hsame | hswept := swept_cases moment id q
      · rwa [hsame]
      · rw [hswept]
        exact hpq.expire_right

theorem Trails.createInvoice (h : e.Trails f now) (fresh : FreshPayment) (invoice : NewInvoice) (time : Instant) :
    Ends now Eq ((createInvoice fresh invoice time).on e) ((createInvoice fresh invoice time).on f) := by
  have hdraft : f.draftPayment fresh invoice time = e.draftPayment fresh invoice time := by
    rw [h.same]
    rfl
  unfold Engine.createInvoice
  refine .get_bind ?_
  rw [hdraft]
  refine .lift_bind h (.refl _) ?_
  rintro p _ rfl
  refine .bind (R := Eq) ?_ fun hr _ => .pure hr rfl
  refine .get_bind ?_
  rw [h.references_eq]
  refine .lift_bind h (.refl _) ?_
  rintro _ _ rfl
  have hstored := h.storePayment (.refl p now) p.id
  exact ⟨⟨by rw [h.same]; rfl, hstored.records⟩, .ok rfl⟩

end Engine
end Settlement
