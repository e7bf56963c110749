import Settlement.Proofs.Engine.Reservation

/-! What the journal holds for a request and all its retries. Whichever of them are asked for, only one
has not failed, so no more than one reservation is open or settled. -/
namespace Settlement

namespace LedgerOp

def opens : LedgerOp → Int
  | reserve _ => 1
  | release _ | settle _ => -1
  | credit _ => 0

def settles : LedgerOp → Int
  | settle _ => 1
  | reserve _ | release _ | credit _ => 0

end LedgerOp

/-- How many reservations a list of movements leaves open. -/
def openReservations (moves : List (MerchantId × LedgerOp)) : Int := (moves.map (·.2.opens)).sum

def settledReservations (moves : List (MerchantId × LedgerOp)) : Int := (moves.map (·.2.settles)).sum

theorem openReservations_append (first rest : List (MerchantId × LedgerOp)) :
    openReservations (first ++ rest) = openReservations first + openReservations rest := by
  simp [openReservations]

theorem settledReservations_append (first rest : List (MerchantId × LedgerOp)) :
    settledReservations (first ++ rest) = settledReservations first + settledReservations rest := by
  simp [settledReservations]

theorem settledReservations_nonneg (moves : List (MerchantId × LedgerOp)) : 0 ≤ settledReservations moves := by
  refine List.sum_nonneg fun n hn => ?_
  obtain ⟨⟨merchant, op⟩, -, rfl⟩ := List.mem_map.mp hn
  cases op <;> simp [LedgerOp.settles]

namespace Payout

variable {p : Payout}

theorem eq_of_mem_movements {move : MerchantId × LedgerOp} (h : move ∈ p.movements) :
    move.1 = p.merchantId ∧ move.2.amount = p.amount := by
  rcases List.mem_cons.mp h with rfl | h
  · exact ⟨rfl, rfl⟩
  · obtain ⟨op, hop, rfl⟩ := List.mem_map.mp (Option.toList_map .. ▸ h)
    exact ⟨rfl, Engine.movement?_amount (Option.mem_toList.mp hop)⟩

theorem openReservations_movements (p : Payout) :
    openReservations p.movements = if p.status.isTerminal then 0 else 1 := by
  unfold movements
  cases p.status <;> rfl

theorem settledReservations_movements (p : Payout) :
    settledReservations p.movements = if p.status = .completed then 1 else 0 := by
  unfold movements
  cases p.status <;> rfl

theorem open_or_settled_le (p : Payout) :
    openReservations p.movements + settledReservations p.movements ≤ if p.status = .failed then 0 else 1 := by
  rw [openReservations_movements, settledReservations_movements]
  cases p.status <;> decide

end Payout

namespace PayoutBook

variable {config : SettlementConfig} {book : PayoutBook} {id other root : PayoutId} {p q r : Payout}
  {family : List PayoutId} {made : PayoutId → List (MerchantId × LedgerOp)}

/-- Different payouts that go back to the same request. -/
structure Family (book : PayoutBook) (root : PayoutId) (family : List PayoutId) : Prop where
  distinct : family.Nodup
  related : ∀ id ∈ family, ∃ ids, book.Lineage id ids ∧ ids.getLast? = some root

def unfailed (book : PayoutBook) (id : PayoutId) : Bool := (book id).any fun p => p.status ≠ .failed

theorem unfailed_iff : book.unfailed id = true ↔ ∃ p, book id = some p ∧ p.status ≠ .failed := by
  simp [unfailed, Option.any_eq_true]

theorem Family.eq_of_unfailed (h : book.Family root family) (hb : book.Linked config) (hid : id ∈ family)
    (hother : other ∈ family) (live : book.unfailed id = true) (live' : book.unfailed other = true) : id = other := by
  obtain ⟨p, hp, hs⟩ := unfailed_iff.mp live
  obtain ⟨q, hq, hs'⟩ := unfailed_iff.mp live'
  obtain ⟨ids, hids, hroot⟩ := h.related id hid
  obtain ⟨ids', hids', hroot'⟩ := h.related other hother
  exact hb.eq_of_not_failed hids hids' (hroot.trans hroot'.symm) hp hq hs hs'

theorem Family.countP_unfailed_le (h : book.Family root family) (hb : book.Linked config) :
    family.countP book.unfailed ≤ 1 := by
  have hdistinct := h.distinct.filter book.unfailed
  have hsame : ∀ id ∈ family.filter book.unfailed, ∀ other ∈ family.filter book.unfailed, id = other := by
    intro id hid other hother
    obtain ⟨hid, live⟩ := List.mem_filter.mp hid
    obtain ⟨hother, live'⟩ := List.mem_filter.mp hother
    exact h.eq_of_unfailed hb hid hother live live'
  rw [List.countP_eq_length_filter]
  rcases hlive : family.filter book.unfailed with _ | ⟨id, _ | ⟨other, rest⟩⟩
  · exact Nat.zero_le 1
  · exact le_rfl
  · rw [hlive] at hdistinct hsame
    have hid := hsame id (by simp) other (by simp)
    exact absurd (hid ▸ List.mem_cons_self) (List.nodup_cons.mp hdistinct).1

theorem open_or_settled_le_countP (hmade : ∀ id ∈ family, ∃ p, book id = some p ∧ made id = p.movements) :
    openReservations (family.flatMap made) + settledReservations (family.flatMap made) ≤ family.countP book.unfailed := by
  induction family with
  | nil => exact le_rfl
  | cons id rest ih =>
    obtain ⟨⟨p, hp, hid⟩, hrest⟩ := List.forall_mem_cons.mp hmade
    have hone := p.open_or_settled_le
    have hall := ih hrest
    rw [List.flatMap_cons, openReservations_append, settledReservations_append, List.countP_cons, hid]
    by_cases hs : p.status = .failed
    · simp only [hs, if_true] at hone
      simp only [unfailed, hp, Option.any_some, hs, ne_eq, not_true, decide_false, Bool.false_eq_true, if_false]
      omega
    · simp only [hs, if_false] at hone
      simp only [unfailed, hp, Option.any_some, hs, ne_eq, not_false_eq_true, decide_true, if_true]
      omega

theorem openReservations_nonneg (hmade : ∀ id ∈ family, ∃ p : Payout, made id = p.movements) :
    0 ≤ openReservations (family.flatMap made) := by
  induction family with
  | nil => exact le_rfl
  | cons id rest ih =>
    obtain ⟨⟨p, hid⟩, hrest⟩ := List.forall_mem_cons.mp hmade
    rw [List.flatMap_cons, openReservations_append, hid, p.openReservations_movements]
    have hstep := ih hrest
    split <;> omega

theorem Family.movements (h : book.Family root family) (hb : book.Linked config) (hroot : book root = some r)
    (hmade : ∀ {id p}, book id = some p → made id = p.movements) :
    (∀ move ∈ family.flatMap made, move.1 = r.merchantId ∧ move.2.amount = r.amount) ∧
      0 ≤ openReservations (family.flatMap made) ∧ 0 ≤ settledReservations (family.flatMap made) ∧
      openReservations (family.flatMap made) + settledReservations (family.flatMap made) ≤ 1 := by
  have hstored : ∀ id ∈ family, ∃ p, book id = some p ∧ made id = p.movements := by
    intro id hid
    obtain ⟨ids, hids, -⟩ := h.related id hid
    obtain ⟨p, hp⟩ := hids.stored
    exact ⟨p, hp, hmade hp⟩
  refine ⟨fun move hmove => ?_, openReservations_nonneg fun id hid => ?_, settledReservations_nonneg _, ?_⟩
  · obtain ⟨id, hid, hmove⟩ := List.mem_flatMap.mp hmove
    obtain ⟨p, hp, hmoves⟩ := hstored id hid
    obtain ⟨ids, hids, hfirst⟩ := h.related id hid
    obtain ⟨hmerchant, hamount⟩ := Payout.eq_of_mem_movements (hmoves ▸ hmove)
    have hterms := hb.terms_eq hids hfirst hp hroot
    exact ⟨hmerchant.trans (congrArg PayoutTerms.merchantId hterms), hamount.trans (congrArg PayoutTerms.amount hterms)⟩
  · obtain ⟨p, -, hmoves⟩ := hstored id hid
    exact ⟨p, hmoves⟩
  · exact (open_or_settled_le_countP hstored).trans (by exact_mod_cast h.countP_unfailed_le hb)

end PayoutBook

namespace Engine

open PayoutBook

/-- After every run the links between failed payouts and their retries agree in both directions, and a retry pays
the same. Each payout goes back to a first request over payouts that have all failed, none of them twice, and it
counts the failures on the way. Of a request and its retries no two are open, rejected or paid, and what is paid
stays so. In the journal, which adds up to the ledger, all that is made on behalf of a request and its retries, as many
of them as one likes, moves its amount for its merchant, and no more than one reservation is left open or settled. -/
theorem retries_form_chains_paid_once (config : SettlementConfig) (ops : List (Moment × Operation))
    (h : (opened config).FreshPayouts ops) :
    let e := (opened config).run ops
    let journal := (opened config).journal ops
    (∀ id older, (∃ p, e.payout? id = some p ∧ p.retryOf = some older) ↔
      ∃ q, e.payout? older = some q ∧ q.status = .failed ∧ q.resubmittedAs = some id) ∧
    (∀ id p older q, e.payout? id = some p → p.retryOf = some older → e.payout? older = some q →
      p.terms = q.terms) ∧
    (∀ id p, e.payout? id = some p → ∃ ids, Lineage e.payout? id ids ∧ ids.Nodup ∧
      (∀ older ∈ ids.tail, ∃ q, e.payout? older = some q ∧ q.status = .failed) ∧
      (failuresOf e.payout? ids < 2 ^ 32 → p.retryCount.toNat = failuresOf e.payout? ids)) ∧
    (∀ id p ids id' p' ids', e.payout? id = some p → e.payout? id' = some p' → Lineage e.payout? id ids →
      Lineage e.payout? id' ids' → ids.getLast? = ids'.getLast? → p.status ≠ .failed → p'.status ≠ .failed →
      id = id') ∧
    (∀ done, done <+: ops → ∀ id p, ((opened config).run done).payout? id = some p → p.status = .completed →
      e.payout? id = some p) ∧
    replay .empty journal = .ok e.ledger ∧
    ∀ root r family, e.payout? root = some r → Family e.payout? root family →
      let moves := family.flatMap (madeFor · journal)
      (∀ move ∈ moves, move.1 = r.merchantId ∧ move.2.amount = r.amount) ∧
      0 ≤ openReservations moves ∧ 0 ≤ settledReservations moves ∧
      openReservations moves + settledReservations moves ≤ 1 := by
  intro e journal
  have hlinked : Linked config e.payout? :=
    h.preserved (P := Linked config) (fun hs hb => hb.step hs) (linked_empty config)
  refine ⟨fun id older => ⟨?_, ?_⟩, ?_, ?_, ?_, ?_, replay_journal (opened config) ops, ?_⟩
  · rintro ⟨p, hp, hretry⟩
    obtain ⟨q, hq, hs, hlink, -⟩ := hlinked.retried id p older hp hretry
    exact ⟨q, hq, hs, hlink⟩
  · rintro ⟨q, hq, -, hlink⟩
    exact hlinked.resubmitted older q id hq hlink
  · intro id p older q hp hretry hq
    obtain ⟨q', hq', -, -, hterms, -⟩ := hlinked.retried id p older hp hretry
    cases hq.symm.trans hq'
    exact hterms
  · intro id p hp
    obtain ⟨ids, hids⟩ := hlinked.lineage id p hp
    refine ⟨ids, hids, hids.nodup, hlinked.failed_of_mem_tail hids, fun hfew => ?_⟩
    rw [hlinked.retryCount_eq hids hp, UInt32.toNat_ofNat_of_lt' hfew]
  · intro id p ids id' p' ids' hp hp' hids hids' hroot hs hs'
    exact hlinked.eq_of_not_failed hids hids' hroot hp hp' hs hs'
  · rintro done ⟨rest, rfl⟩ id p hp hs
    obtain ⟨-, hrest⟩ := freshPayouts_append.mp h
    show ((opened config).run (done ++ rest)).payout? id = some p
    rw [run_append]
    exact hrest.preserved (P := fun book => book id = some p) (fun hstep hb => hstep.completed_persists hb hs) hp
  · intro root r family hr hfamily
    exact hfamily.movements hlinked hr fun hp => madeFor_journal h hp

def resubmittedTwice : List (Moment × Operation) :=
  withdrawn ++ [(⟨.epoch, {}⟩, .actOnPayout ⟨9⟩ ⟨"desk"⟩ (.fail "account closed")),
    (⟨.epoch, {}⟩, .resubmit ⟨9⟩ ⟨10⟩ ⟨"desk"⟩), (⟨.epoch, {}⟩, .resubmit ⟨9⟩ ⟨11⟩ ⟨"desk"⟩)]

/-- It has one retry, which counts its failure and holds the only reservation that is open, and nothing is paid. -/
theorem second_resubmission_opens_nothing :
    let e := (opened .default).run resubmittedTwice
    let journal := (opened .default).journal resubmittedTwice
    (opened .default).FreshPayouts resubmittedTwice ∧ e.payout? ⟨11⟩ = none ∧
      (∃ q, e.payout? ⟨9⟩ = some q ∧ q.status = .failed ∧ q.resubmittedAs = some ⟨10⟩) ∧
      (∃ p ids, e.payout? ⟨10⟩ = some p ∧ Lineage e.payout? ⟨10⟩ ids ∧ p.retryCount.toNat = 1) ∧
      Family e.payout? ⟨9⟩ [⟨9⟩, ⟨10⟩] ∧
      madeFor ⟨9⟩ journal = [(⟨1⟩, .reserve (whole 1000000)), (⟨1⟩, .release (whole 1000000))] ∧
      madeFor ⟨10⟩ journal = [(⟨1⟩, .reserve (whole 1000000))] ∧ madeFor ⟨11⟩ journal = [] ∧
      openReservations ([⟨9⟩, ⟨10⟩].flatMap (madeFor · journal)) = 1 ∧
      settledReservations ([⟨9⟩, ⟨10⟩].flatMap (madeFor · journal)) = 0 ∧
      (e.balance? ⟨1⟩).map (·.pending) = some (whole 1000000) := by
  intro e journal
  have hfresh : (opened .default).FreshPayouts resubmittedTwice := by
    refine ⟨trivial, trivial, trivial, trivial, trivial, ?_⟩
    exact ⟨rfl, trivial, trivial, rfl, rfl, trivial⟩
  obtain ⟨hlinks, -, hchains, -, -, -, hfamilies⟩ := retries_form_chains_paid_once .default resubmittedTwice hfresh
  obtain ⟨p, hp, hretry, hcount⟩ : ∃ p, e.payout? ⟨10⟩ = some p ∧ p.retryOf = some ⟨9⟩ ∧ p.retryCount = 1 :=
    ⟨_, rfl, rfl, rfl⟩
  obtain ⟨q, hq, horiginal⟩ : ∃ q, e.payout? ⟨9⟩ = some q ∧ q.retryOf = none := ⟨_, rfl, rfl⟩
  obtain ⟨ids, hids, -⟩ := hchains ⟨10⟩ p hp
  have hfirst : Lineage e.payout? ⟨9⟩ [⟨9⟩] := .first hq horiginal
  have hfamily : Family e.payout? ⟨9⟩ [⟨9⟩, ⟨10⟩] := by
    refine ⟨by decide, fun id hid => ?_⟩
    rcases List.mem_pair.mp hid with rfl | rfl
    · exact ⟨_, hfirst, rfl⟩
    · exact ⟨_, .retry hp hretry hfirst, rfl⟩
  obtain ⟨-, -, hnone, hone⟩ := hfamilies ⟨9⟩ q _ hq hfamily
  have hnine : madeFor ⟨9⟩ journal = [(⟨1⟩, .reserve (whole 1000000)), (⟨1⟩, .release (whole 1000000))] := by
    decide +kernel
  have hten : madeFor ⟨10⟩ journal = [(⟨1⟩, .reserve (whole 1000000))] := by decide +kernel
  have heleven : madeFor ⟨11⟩ journal = [] := by decide +kernel
  have hpending : (e.balance? ⟨1⟩).map (·.pending) = some (whole 1000000) := by decide +kernel
  have hopen : openReservations ([⟨9⟩, ⟨10⟩].flatMap (madeFor · journal)) = 1 := by
    simp only [List.flatMap_cons, List.flatMap_nil, hnine, hten]
    rfl
  have hpaid : settledReservations ([⟨9⟩, ⟨10⟩].flatMap (madeFor · journal)) = 0 := by
    rw [hopen] at hone
    exact le_antisymm ((add_le_iff_nonpos_right 1).mp hone) hnone
  have hmissing : e.payout? ⟨11⟩ = none := by decide +kernel
  exact ⟨hfresh, hmissing, (hlinks ⟨10⟩ ⟨9⟩).mp ⟨p, hp, hretry⟩, ⟨p, ids, hp, hids, by rw [hcount]; rfl⟩, hfamily, hnine,
    hten, heleven, hopen, hpaid, hpending⟩

end Engine
end Settlement
