import Mathlib.Data.List.Infix
import Mathlib.Data.List.Nodup
import Mathlib.Logic.Function.Basic
import Settlement.Proofs.Engine.Step
import Settlement.Proofs.Payout.Life

/-! Payouts that repeat failed ones. A failed payout and its retry are linked in both directions,
so the retries of a request form a chain in which only the newest one has not failed. -/
namespace Settlement

/-- What a payout pays, and to whom. -/
structure PayoutTerms where
  merchantId : MerchantId
  amount : Decimal
  bank : BankDetails
  fee : Decimal
  netAmount : Decimal

/-- The fee is computed from the amount as the settings say. -/
def PayoutTerms.Priced (config : SettlementConfig) (t : PayoutTerms) : Prop :=
  ∃ percent, Exchange.computeFee t.amount config.payoutFeePercent config.settlementCurrency =
    .ok ⟨percent, t.fee, t.netAmount⟩

theorem PayoutRequest.computeFee_of_validate {config : SettlementConfig} {r : PayoutRequest}
    {fee : Exchange.FeeBreakdown} (h : r.validate config = .ok fee) :
    Exchange.computeFee r.amount config.payoutFeePercent config.settlementCurrency = .ok fee := by
  simp only [validate, bind_eq_ok] at h
  obtain ⟨-, -, -, -, -, -, hfee⟩ := h
  exact hfee

namespace Payout

def terms (p : Payout) : PayoutTerms := ⟨p.merchantId, p.amount, p.bank, p.fee, p.netAmount⟩

def failures (p : Payout) : UInt32 := if p.status = .failed then 1 else 0

variable {config : SettlementConfig} {p q : Payout}

theorem terms_eq_of_draft (h : q.draft = p.draft) : q.terms = p.terms := by
  have hdraft := congrArg terms h
  exact hdraft

theorem retryOf_eq_of_draft (h : q.draft = p.draft) : q.retryOf = p.retryOf := by
  have hdraft := congrArg retryOf h
  exact hdraft

theorem id_eq_of_draft (h : q.draft = p.draft) : q.id = p.id := by
  have hdraft := congrArg id h
  exact hdraft

theorem failures_of_open (h : p.status.isTerminal = false) : p.failures = 0 := by
  refine if_neg fun hs => ?_
  rw [hs] at h
  cases h

theorem act_links {actor : ActorId} {now : Instant} {action : PayoutAction} {source target : PayoutStatus}
    (h : p.act actor now action = .ok (q, .applied source target)) :
    q.resubmittedAs = p.resubmittedAs ∧ q.retryCount = p.retryCount + q.failures := by
  have hacts := acts_of_act h
  generalize hm : (q, PayoutTransition.applied source target) = moved at hacts
  cases hacts with
  | repeated => cases hm
  | approve | startProcessing | skip | complete | reject =>
    cases hm
    exact ⟨rfl, (UInt32.add_zero _).symm⟩
  | fail =>
    cases hm
    exact ⟨rfl, rfl⟩

end Payout

abbrev PayoutBook : Type := PayoutId → Option Payout

namespace PayoutBook

open Function

variable {config : SettlementConfig} {book next : PayoutBook} {id other root : PayoutId} {p q : Payout}
  {ids : List PayoutId}

/-- What a step does to the payouts, if the identifiers that it hands out are fresh. -/
inductive Step (config : SettlementConfig) (book : PayoutBook) : PayoutBook → Prop
  | still : Step config book book
  | opened {fresh : PayoutId} {request : PayoutRequest} {fee : Exchange.FeeBreakdown} {now : Instant}
    (unused : book fresh = none) (valid : request.validate config = .ok fee) :
    Step config book (update book fresh (some (request.payout fresh fee none now)))
  | acted {id : PayoutId} {p q : Payout} (stored : book id = some p) (alive : p.status.isTerminal = false)
    (same : q.draft = p.draft) (link : q.resubmittedAs = p.resubmittedAs)
    (count : q.retryCount = p.retryCount + q.failures) :
    Step config book (update book id (some q))
  | retried {id fresh : PayoutId} {actor : ActorId} {failed : Payout} {fee : Exchange.FeeBreakdown} {now : Instant}
    (unused : book fresh = none) (stored : book id = some failed) (status : failed.status = .failed)
    (first : failed.resubmittedAs = none) (valid : (PayoutRequest.again failed actor).validate config = .ok fee) :
    Step config book (update (update book fresh (some (failed.retried fresh actor fee now)))
      id (some (failed.linked fresh now)))

/-- The payouts from one back to its first request. -/
inductive Lineage (book : PayoutBook) : PayoutId → List PayoutId → Prop
  | first {id : PayoutId} {p : Payout} (stored : book id = some p) (original : p.retryOf = none) :
    Lineage book id [id]
  | retry {id older : PayoutId} {p : Payout} {ids : List PayoutId} (stored : book id = some p)
    (retry : p.retryOf = some older) (rest : Lineage book older ids) : Lineage book id (id :: ids)

/-- The links of all payouts agree in both directions, and each payout goes back to a first request. -/
structure Linked (config : SettlementConfig) (book : PayoutBook) : Prop where
  identified : ∀ id p, book id = some p → p.id = id
  priced : ∀ id p, book id = some p → p.terms.Priced config
  original : ∀ id p, book id = some p → p.retryOf = none → p.retryCount = p.failures
  retried : ∀ id p older, book id = some p → p.retryOf = some older → ∃ q, book older = some q ∧
    q.status = .failed ∧ q.resubmittedAs = some id ∧ p.terms = q.terms ∧ p.retryCount = q.retryCount + p.failures
  resubmitted : ∀ older q id, book older = some q → q.resubmittedAs = some id →
    ∃ p, book id = some p ∧ p.retryOf = some older
  lineage : ∀ id p, book id = some p → ∃ ids, book.Lineage id ids

/-! ## Chains -/

theorem Lineage.mono (h : book.Lineage id ids)
    (stays : ∀ id p, book id = some p → ∃ q, next id = some q ∧ q.retryOf = p.retryOf) : next.Lineage id ids := by
  induction h with
  | @first id p stored original =>
    obtain ⟨q, hq, hretry⟩ := stays id p stored
    exact .first hq (hretry.trans original)
  | @retry id older p ids stored retry rest ih =>
    obtain ⟨q, hq, hretry⟩ := stays id p stored
    exact .retry hq (hretry.trans retry) ih

theorem Lineage.unique {ids' : List PayoutId} (h : book.Lineage id ids) (h' : book.Lineage id ids') : ids = ids' := by
  induction h generalizing ids' with
  | first stored original =>
    cases h' with
    | first => rfl
    | retry stored' retry =>
      cases stored.symm.trans stored'
      cases original.symm.trans retry
  | retry stored retry rest ih =>
    cases h' with
    | first stored' original =>
      cases stored.symm.trans stored'
      cases retry.symm.trans original
    | retry stored' retry' rest' =>
      cases stored.symm.trans stored'
      cases retry.symm.trans retry'
      rw [ih rest']

theorem Lineage.of_mem (h : book.Lineage id ids) (hmem : other ∈ ids) :
    ∃ older, older <:+ ids ∧ book.Lineage other older := by
  induction h with
  | @first id p stored original =>
    cases List.mem_singleton.mp hmem
    exact ⟨[other], List.suffix_rfl, .first stored original⟩
  | @retry id older p ids stored retry rest ih =>
    rcases List.mem_cons.mp hmem with rfl | hm
    · exact ⟨_, List.suffix_rfl, .retry stored retry rest⟩
    · obtain ⟨l, hl, hlineage⟩ := ih hm
      exact ⟨l, hl.trans (List.suffix_cons id ids), hlineage⟩

theorem Lineage.nodup (h : book.Lineage id ids) : ids.Nodup := by
  induction h with
  | first => exact List.nodup_singleton _
  | @retry id older p ids stored retry rest ih =>
    refine List.nodup_cons.mpr ⟨fun hmem => ?_, ih⟩
    -- the chain of the payout would be an end of its own tail
    obtain ⟨l, hl, hlineage⟩ := rest.of_mem hmem
    have hle := hl.length_le
    rw [hlineage.unique (.retry stored retry rest), List.length_cons] at hle
    omega

def failuresOf (book : PayoutBook) (ids : List PayoutId) : Nat :=
  ids.countP fun id => (book id).any fun p => p.status = .failed

theorem Linked.failed_of_mem_tail (hb : book.Linked config) (h : book.Lineage id ids) :
    ∀ older ∈ ids.tail, ∃ q, book older = some q ∧ q.status = .failed := by
  induction h with
  | first => exact fun _ hmem => nomatch hmem
  | @retry id older p ids stored retry rest ih =>
    obtain ⟨q, hq, hs, -⟩ := hb.retried id p older stored retry
    intro other hmem
    cases rest with
    | first =>
      cases List.mem_singleton.mp hmem
      exact ⟨q, hq, hs⟩
    | retry =>
      rcases List.mem_cons.mp hmem with rfl | hm
      · exact ⟨q, hq, hs⟩
      · exact ih other hm

theorem failuresOf_cons (stored : book id = some p) (ids : List PayoutId) :
    UInt32.ofNat (book.failuresOf (id :: ids)) = UInt32.ofNat (book.failuresOf ids) + p.failures := by
  unfold failuresOf Payout.failures
  rw [List.countP_cons, stored]
  by_cases hs : p.status = .failed
  · simp [hs]
  · simp [hs]

theorem Linked.retryCount_eq (hb : book.Linked config) (h : book.Lineage id ids) (stored : book id = some p) :
    p.retryCount = UInt32.ofNat (book.failuresOf ids) := by
  induction h generalizing p with
  | @first id q stored' original =>
    cases stored.symm.trans stored'
    rw [failuresOf_cons stored, hb.original id _ stored original]
    exact (UInt32.zero_add _).symm
  | @retry id older q ids stored' retry rest ih =>
    cases stored.symm.trans stored'
    obtain ⟨r, hr, -, -, -, hcount⟩ := hb.retried id _ older stored retry
    rw [failuresOf_cons stored, hcount, ih hr]

/-! ## Steps -/

theorem update_eq_some_iff : update book id (some q) other = some p ↔
    other = id ∧ q = p ∨ other ≠ id ∧ book other = some p := by
  by_cases h : other = id
  · subst h
    simp
  · simp [h]

theorem update_of_unused {fresh : PayoutId} (unused : book fresh = none) (stored : book id = some p)
    (value : Option Payout) : update book fresh value id = some p := by
  have hne : id ≠ fresh := by
    rintro rfl
    cases stored.symm.trans unused
  rw [update_of_ne hne, stored]

theorem Step.persists (h : Step config book next) (stored : book id = some p) :
    ∃ q, next id = some q ∧ q.draft = p.draft := by
  have hreplaced {book : PayoutBook} {other : PayoutId} {p' q : Payout} (stored : book id = some p)
      (stored' : book other = some p') (same : q.draft = p'.draft) :
      ∃ r, update book other (some q) id = some r ∧ r.draft = p.draft := by
    by_cases ho : id = other
    · subst ho
      cases stored.symm.trans stored'
      exact ⟨q, update_self .., same⟩
    · exact ⟨p, by rw [update_of_ne ho, stored], rfl⟩
  cases h with
  | still => exact ⟨p, stored, rfl⟩
  | opened unused valid => exact ⟨p, update_of_unused unused stored _, rfl⟩
  | acted stored' alive same => exact hreplaced stored stored' same
  | retried unused stored' =>
    exact hreplaced (update_of_unused unused stored _) (update_of_unused unused stored' _) rfl

theorem Lineage.step (h : book.Lineage id ids) (hstep : Step config book next) : next.Lineage id ids := by
  refine h.mono fun id p stored => ?_
  obtain ⟨q, hq, hdraft⟩ := hstep.persists stored
  exact ⟨q, hq, Payout.retryOf_eq_of_draft hdraft⟩

theorem Linked.opened {fresh : PayoutId} {request : PayoutRequest} {fee : Exchange.FeeBreakdown} {now : Instant}
    (hb : book.Linked config) (unused : book fresh = none) (valid : request.validate config = .ok fee) :
    Linked config (update book fresh (some (request.payout fresh fee none now))) where
  identified id p hp := by
    obtain ⟨rfl, rfl⟩ | ⟨-, hp⟩ := update_eq_some_iff.mp hp
    · rfl
    · exact hb.identified id p hp
  priced id p hp := by
    obtain ⟨rfl, rfl⟩ | ⟨-, hp⟩ := update_eq_some_iff.mp hp
    · exact ⟨fee.feePercent, PayoutRequest.computeFee_of_validate valid⟩
    · exact hb.priced id p hp
  original id p hp hnone := by
    obtain ⟨rfl, rfl⟩ | ⟨-, hp⟩ := update_eq_some_iff.mp hp
    · rfl
    · exact hb.original id p hp hnone
  retried id p older hp hretry := by
    obtain ⟨rfl, rfl⟩ | ⟨-, hp⟩ := update_eq_some_iff.mp hp
    · cases hretry
    · obtain ⟨q, hq, hrest⟩ := hb.retried id p older hp hretry
      exact ⟨q, update_of_unused unused hq _, hrest⟩
  resubmitted older q id hq hlink := by
    obtain ⟨rfl, rfl⟩ | ⟨-, hq⟩ := update_eq_some_iff.mp hq
    · cases hlink
    · obtain ⟨p, hp, hretry⟩ := hb.resubmitted older q id hq hlink
      exact ⟨p, update_of_unused unused hp _, hretry⟩
  lineage id p hp := by
    obtain ⟨rfl, rfl⟩ | ⟨-, hp⟩ := update_eq_some_iff.mp hp
    · exact ⟨[id], .first (update_self ..) rfl⟩
    · obtain ⟨ids, hids⟩ := hb.lineage id p hp
      exact ⟨ids, hids.step (.opened unused valid)⟩

theorem Linked.acted (hb : book.Linked config) (stored : book id = some p) (alive : p.status.isTerminal = false)
    (same : q.draft = p.draft) (link : q.resubmittedAs = p.resubmittedAs)
    (count : q.retryCount = p.retryCount + q.failures) : Linked config (update book id (some q)) := by
  have hnone : p.failures = 0 := Payout.failures_of_open alive
  have hfailed {other : PayoutId} {r : Payout} (hr : book other = some r) (hs : r.status = .failed) :
      update book id (some q) other = some r := by
    have hne : other ≠ id := by
      rintro rfl
      cases hr.symm.trans stored
      rw [hs] at alive
      cases alive
    rw [update_of_ne hne, hr]
  have hbefore {other : PayoutId} {r : Payout} (hr : update book id (some q) other = some r) :
      ∃ r₀, book other = some r₀ ∧ r.draft = r₀.draft ∧ r.resubmittedAs = r₀.resubmittedAs ∧
        ∀ earlier, r₀.retryCount = earlier + r₀.failures → r.retryCount = earlier + r.failures := by
    obtain ⟨rfl, rfl⟩ | ⟨-, hr⟩ := update_eq_some_iff.mp hr
    · refine ⟨p, stored, same, link, fun earlier hcount => ?_⟩
      rw [count, hcount, hnone, UInt32.add_zero]
    · exact ⟨r, hr, rfl, rfl, fun _ hcount => hcount⟩
  refine ⟨fun other r hr => ?_, fun other r hr => ?_, fun other r hr hretry => ?_, fun other r older hr hretry => ?_,
    fun older r other hr hlink => ?_, fun other r hr => ?_⟩
  all_goals obtain ⟨r₀, hr₀, hdraft, hlink₀, hcount⟩ := hbefore hr
  · rw [Payout.id_eq_of_draft hdraft]
    exact hb.identified other r₀ hr₀
  · rw [Payout.terms_eq_of_draft hdraft]
    exact hb.priced other r₀ hr₀
  · rw [Payout.retryOf_eq_of_draft hdraft] at hretry
    have hearlier := hcount 0 (by rw [hb.original other r₀ hr₀ hretry, UInt32.zero_add])
    rw [hearlier, UInt32.zero_add]
  · rw [Payout.retryOf_eq_of_draft hdraft] at hretry
    obtain ⟨f, hf, hs, hl, hterms, hc⟩ := hb.retried other r₀ older hr₀ hretry
    exact ⟨f, hfailed hf hs, hs, hl, (Payout.terms_eq_of_draft hdraft).trans hterms, hcount _ hc⟩
  · obtain ⟨p', hp', hretry⟩ := hb.resubmitted older r₀ other hr₀ (hlink₀ ▸ hlink)
    obtain ⟨p'', hp'', hdraft''⟩ := (Step.acted stored alive same link count : Step config book _).persists hp'
    exact ⟨p'', hp'', (Payout.retryOf_eq_of_draft hdraft'').trans hretry⟩
  · obtain ⟨ids, hids⟩ := hb.lineage other r₀ hr₀
    exact ⟨ids, hids.step (.acted stored alive same link count : Step config book _)⟩

theorem terms_retried {failed : Payout} {fresh : PayoutId} {actor : ActorId} {fee : Exchange.FeeBreakdown}
    {now : Instant} (priced : failed.terms.Priced config)
    (valid : (PayoutRequest.again failed actor).validate config = .ok fee) :
    (failed.retried fresh actor fee now).terms = failed.terms := by
  obtain ⟨percent, hfee⟩ := priced
  have hagain : Exchange.computeFee failed.amount config.payoutFeePercent config.settlementCurrency = .ok fee :=
    PayoutRequest.computeFee_of_validate valid
  cases Except.ok.inj (hagain.symm.trans hfee)
  rfl

theorem cases_of_retried {fresh : PayoutId} {actor : ActorId} {failed r : Payout} {fee : Exchange.FeeBreakdown}
    {now : Instant} (stored : book id = some failed)
    (hr : update (update book fresh (some (failed.retried fresh actor fee now))) id (some (failed.linked fresh now))
      other = some r) :
    other = fresh ∧ r = failed.retried fresh actor fee now ∨
      ∃ r₀, book other = some r₀ ∧ r.draft = r₀.draft ∧ r.retryCount = r₀.retryCount ∧ r.failures = r₀.failures ∧
        (r.resubmittedAs = r₀.resubmittedAs ∨ other = id ∧ r.resubmittedAs = some fresh) := by
  obtain ⟨rfl, rfl⟩ | ⟨-, hr⟩ := update_eq_some_iff.mp hr
  · exact .inr ⟨failed, stored, rfl, rfl, rfl, .inr ⟨rfl, rfl⟩⟩
  · obtain ⟨rfl, rfl⟩ | ⟨-, hr⟩ := update_eq_some_iff.mp hr
    · exact .inl ⟨rfl, rfl⟩
    · exact .inr ⟨r, hr, rfl, rfl, rfl, .inl rfl⟩

theorem Linked.resubmit {fresh : PayoutId} {actor : ActorId} {failed : Payout} {fee : Exchange.FeeBreakdown}
    {now : Instant} (hb : book.Linked config) (unused : book fresh = none) (stored : book id = some failed)
    (status : failed.status = .failed) (first : failed.resubmittedAs = none)
    (valid : (PayoutRequest.again failed actor).validate config = .ok fee) :
    Linked config (update (update book fresh (some (failed.retried fresh actor fee now)))
      id (some (failed.linked fresh now))) := by
  have hstep : Step config book (update (update book fresh (some (failed.retried fresh actor fee now)))
      id (some (failed.linked fresh now))) := .retried unused stored status first valid
  generalize hnext : update (update book fresh (some (failed.retried fresh actor fee now)))
    id (some (failed.linked fresh now)) = next at hstep ⊢
  have hne : fresh ≠ id := by
    rintro rfl
    cases stored.symm.trans unused
  have hfresh : next fresh = some (failed.retried fresh actor fee now) := by
    rw [← hnext, update_of_ne hne, update_self]
  have hlinked : next id = some (failed.linked fresh now) := by rw [← hnext, update_self]
  have hretry : (failed.retried fresh actor fee now).retryOf = some id := congrArg some (hb.identified id failed stored)
  have hrepeated {other i : PayoutId} {r : Payout} (hr : book other = some r) (hl : r.resubmittedAs = some i) :
      next other = some r := by
    have hother : other ≠ id := by
      rintro rfl
      cases hr.symm.trans stored
      cases first.symm.trans hl
    rw [← hnext, update_of_ne hother, update_of_unused unused hr]
  refine ⟨fun other r hr => ?_, fun other r hr => ?_, fun other r hr ho => ?_, fun other r older hr ho => ?_,
    fun older r other hr hl => ?_, fun other r hr => ?_⟩
  all_goals obtain ⟨rfl, rfl⟩ | ⟨r₀, hr₀, hdraft, hcount, hfailures, hlink⟩ := cases_of_retried stored (hnext ▸ hr)
  · rfl
  · rw [Payout.id_eq_of_draft hdraft]
    exact hb.identified other r₀ hr₀
  · exact ⟨fee.feePercent, PayoutRequest.computeFee_of_validate valid⟩
  · rw [Payout.terms_eq_of_draft hdraft]
    exact hb.priced other r₀ hr₀
  · cases ho.symm.trans hretry
  · rw [Payout.retryOf_eq_of_draft hdraft] at ho
    rw [hcount, hfailures]
    exact hb.original other r₀ hr₀ ho
  · cases ho.symm.trans hretry
    exact ⟨failed.linked _ now, hlinked, status, rfl, terms_retried (hb.priced _ failed stored) valid,
      (UInt32.add_zero _).symm⟩
  · rw [Payout.retryOf_eq_of_draft hdraft] at ho
    obtain ⟨f, hf, hs, hl, hterms, hc⟩ := hb.retried other r₀ older hr₀ ho
    exact ⟨f, hrepeated hf hl, hs, hl, (Payout.terms_eq_of_draft hdraft).trans hterms, by rw [hcount, hc, hfailures]⟩
  · cases hl
  · obtain hsame | ⟨rfl, hnew⟩ := hlink
    · obtain ⟨p', hp', ho⟩ := hb.resubmitted older r₀ other hr₀ (hsame ▸ hl)
      obtain ⟨p'', hp'', hdraft''⟩ := hstep.persists hp'
      exact ⟨p'', hp'', (Payout.retryOf_eq_of_draft hdraft'').trans ho⟩
    · cases hl.symm.trans hnew
      exact ⟨_, hfresh, hretry⟩
  · obtain ⟨ids, hids⟩ := hb.lineage id failed stored
    exact ⟨_, .retry hfresh hretry (hids.step hstep)⟩
  · obtain ⟨ids, hids⟩ := hb.lineage other r₀ hr₀
    exact ⟨ids, hids.step hstep⟩

theorem Linked.step (hb : book.Linked config) (h : Step config book next) : next.Linked config := by
  cases h with
  | still => exact hb
  | opened unused valid => exact hb.opened unused valid
  | acted stored alive same link count => exact hb.acted stored alive same link count
  | retried unused stored status first valid => exact hb.resubmit unused stored status first valid

theorem linked_empty (config : SettlementConfig) : Linked config fun _ => none :=
  ⟨fun _ _ => nofun, fun _ _ => nofun, fun _ _ => nofun, fun _ _ _ => nofun, fun _ _ _ => nofun, fun _ _ => nofun⟩

/-! ## Terminal payouts -/

/-- What becomes of a terminal payout: nothing, or a failed one is linked with its retry. -/
def Ended (p : Payout) (id : PayoutId) (book : PayoutBook) : Prop :=
  ∃ q, book id = some q ∧
    (q = p ∨ p.status = .failed ∧ p.resubmittedAs = none ∧ ∃ retry now, q = p.linked retry now)

theorem Ended.step (he : Ended p id book) (terminal : p.status.isTerminal = true) (h : Step config book next) :
    Ended p id next := by
  obtain ⟨q, stored, hq⟩ := he
  have hterminal : q.status.isTerminal = true := by
    obtain rfl | ⟨-, -, retry, now, rfl⟩ := hq <;> exact terminal
  cases h with
  | still => exact ⟨q, stored, hq⟩
  | opened unused => exact ⟨q, update_of_unused unused stored _, hq⟩
  | @acted other _ _ stored' alive =>
    have hne : id ≠ other := by
      rintro rfl
      cases stored.symm.trans stored'
      cases hterminal.symm.trans alive
    exact ⟨q, by rw [update_of_ne hne, stored], hq⟩
  | @retried other fresh _ failed _ now unused stored' status first =>
    by_cases hid : id = other
    · subst hid
      cases stored.symm.trans stored'
      obtain rfl | ⟨-, -, retry, now', rfl⟩ := hq
      · exact ⟨_, update_self .., .inr ⟨status, first, fresh, now, rfl⟩⟩
      · cases first
    · exact ⟨q, by rw [update_of_ne hid, update_of_unused unused stored], hq⟩

theorem Step.completed_persists (h : Step config book next) (stored : book id = some p)
    (completed : p.status = .completed) : next id = some p := by
  have he : Ended p id book := ⟨p, stored, .inl rfl⟩
  obtain ⟨q, hq, rfl | ⟨failed, -⟩⟩ := he.step (by rw [completed]; rfl) h
  · exact hq
  · cases completed.symm.trans failed

/-! ## Families -/

theorem Lineage.ne_nil (h : book.Lineage id ids) : ids ≠ [] := by cases h <;> exact List.cons_ne_nil _ _

theorem Lineage.stored (h : book.Lineage id ids) : ∃ p, book id = some p := by
  cases h with
  | first stored => exact ⟨_, stored⟩
  | retry stored => exact ⟨_, stored⟩

theorem Lineage.head?_eq (h : book.Lineage id ids) : ids.head? = some id := by cases h <;> rfl

theorem Linked.ne_of_retryOf (hb : book.Linked config) (stored : book id = some p) (retry : p.retryOf = some other) :
    id ≠ other := by
  rintro rfl
  obtain ⟨ids, hids⟩ := hb.lineage id p stored
  exact (List.nodup_cons.mp (Lineage.retry stored retry hids).nodup).1 (List.mem_of_mem_head? hids.head?_eq)

theorem Lineage.getLast?_cons (h : book.Lineage id ids) (newer : PayoutId) :
    (newer :: ids).getLast? = ids.getLast? := by
  rw [List.getLast?_cons, List.getLast?_eq_some_getLast h.ne_nil]
  rfl

theorem Linked.terms_eq (hb : book.Linked config) {r : Payout} (h : book.Lineage id ids)
    (first : ids.getLast? = some root) (stored : book id = some p) (hroot : book root = some r) :
    p.terms = r.terms := by
  induction h generalizing p with
  | first =>
    cases Option.some.inj first
    cases stored.symm.trans hroot
    rfl
  | @retry id older q ids stored' retry rest ih =>
    cases stored.symm.trans stored'
    obtain ⟨f, hf, -, -, hterms, -⟩ := hb.retried id _ older stored retry
    rw [hterms]
    exact ih ((rest.getLast?_cons id).symm.trans first) hf

theorem Lineage.of_append {newer : List PayoutId} (h : book.Lineage id (newer ++ other :: ids)) :
    book.Lineage other (other :: ids) := by
  induction newer generalizing id with
  | nil =>
    cases h.head?_eq
    exact h
  | cons newest newer ih =>
    generalize hall : newest :: newer ++ other :: ids = all at h
    cases h with
    | first => simp at hall
    | retry stored retry rest =>
      cases hall
      exact ih rest

/-- Of two chains that go back to the same request, one is the end of the other, as a payout has only one
retry. -/
theorem Linked.suffix_or_suffix (hb : book.Linked config) {ids' : List PayoutId} (h : book.Lineage id ids)
    (h' : book.Lineage other ids') (hroot : ids.getLast? = ids'.getLast?) : ids <:+ ids' ∨ ids' <:+ ids := by
  induction h with
  | @first id p stored original =>
    obtain ⟨newer, rfl⟩ := List.getLast?_eq_some_iff.mp hroot.symm
    exact .inl ⟨newer, rfl⟩
  | @retry id older p ids stored retry rest ih =>
    obtain ⟨newer, rfl⟩ | hshort := ih ((rest.getLast?_cons id).symm.trans hroot)
    · rcases List.eq_nil_or_concat newer with rfl | ⟨newer, next, rfl⟩
      · exact .inr (List.suffix_cons id ids)
      · -- the payout before the shorter chain is a retry of the same one
        rw [List.concat_eq_append, List.append_assoc] at h' ⊢
        have hnext : next = id := by
          cases h'.of_append with
          | first => exact absurd rfl rest.ne_nil
          | @retry _ older' q _ stored' retry' rest' =>
            have hsame : older' = older := Option.some.inj (rest'.head?_eq.symm.trans rest.head?_eq)
            obtain ⟨r, hr, -, hlink, -⟩ := hb.retried id p older stored retry
            obtain ⟨r', hr', -, hlink', -⟩ := hb.retried next q older' stored' retry'
            cases hsame
            cases hr.symm.trans hr'
            exact Option.some.inj (hlink'.symm.trans hlink)
        rw [hnext]
        exact .inl ⟨newer, rfl⟩
    · exact .inr (hshort.trans (List.suffix_cons id ids))

/-- A payout that is among the earlier ones of a chain has failed, unless the chain is its own. -/
theorem Linked.eq_of_suffix (hb : book.Linked config) {ids' : List PayoutId} (h : book.Lineage id ids)
    (h' : book.Lineage other ids') (hsuffix : ids <:+ ids') (hp : book id = some p) (hps : p.status ≠ .failed) :
    id = other := by
  have hmem : id ∈ ids' := hsuffix.subset (List.mem_of_mem_head? h.head?_eq)
  obtain ⟨tail, rfl⟩ : ∃ tail, ids' = other :: tail := List.head?_eq_some_iff.mp h'.head?_eq
  rcases List.mem_cons.mp hmem with hid | hid
  · exact hid
  · obtain ⟨q, hq, hs⟩ := hb.failed_of_mem_tail h' id hid
    cases hp.symm.trans hq
    exact absurd hs hps

theorem Linked.eq_of_not_failed (hb : book.Linked config) {ids' : List PayoutId} (h : book.Lineage id ids)
    (h' : book.Lineage other ids') (hroot : ids.getLast? = ids'.getLast?) (hp : book id = some p)
    (hq : book other = some q) (hps : p.status ≠ .failed) (hqs : q.status ≠ .failed) : id = other := by
  obtain hsuffix | hsuffix := hb.suffix_or_suffix h h' hroot
  · exact hb.eq_of_suffix h h' hsuffix hp hps
  · exact (hb.eq_of_suffix h' h hsuffix hq hqs).symm

end PayoutBook
end Settlement
