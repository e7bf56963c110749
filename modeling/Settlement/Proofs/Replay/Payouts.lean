import Settlement.Arguments
import Settlement.Proofs.Engine.Release
import Settlement.Proofs.Replay.Lockstep
import Settlement.Proofs.Replay.Steps

/-! Payouts and their labels. A label leads to the last payout that was granted under it; an earlier one is left without
a label, and no row does anything to it from then on. -/
namespace Settlement

namespace Engine

variable {e next : Engine} {moment : Moment} {op : Operation}

/-- The operation does not deal with payouts. -/
def Operation.SparesPayouts : Operation → Prop
  | requestPayout _ _ | actOnPayout _ _ _ | resubmit _ _ _ => False
  | _ => True

theorem Step.payout?_eq (h : Step e moment op next) (spares : op.SparesPayouts) : next.payout? = e.payout? := by
  cases h with
  | request | act | finish | retry => exact spares.elim
  | _ => rfl

theorem Step.payout?_of_actOnPayout {id : PayoutId} {actor : ActorId} {action : PayoutAction}
    (h : Step e moment (.actOnPayout id actor action) next) :
    next.payout? = e.payout? ∨
      ∃ q, ∀ other, next.payout? other = if other = id then some q else e.payout? other := by
  cases h with
  | idle => exact .inl rfl
  | lapse read => exact read.elim
  | @act _ _ _ p q => exact .inr ⟨q, fun other => e.payout?_storePayout id other q⟩
  | @finish _ _ _ p q _ _ _ balance =>
    exact .inr ⟨q, fun other => (e.storeBalance q.merchantId balance).payout?_storePayout id other q⟩

end Engine

def LogRow.action? (row : LogRow) : Option PayoutAction :=
  match row.operation with
  | "approve" => some .approve
  | "process" => some .startProcessing
  | "complete" => some (.complete row.detail)
  | "reject" => some (.reject row.detail)
  | "fail" => some (.fail row.detail)
  | _ => none

namespace Replay

variable {r next ended : Replay} {row : LogRow} {rows : List LogRow} {quoted : PaymentReference → Prop}
  {grant : Option (String × PayoutId)} {history : List (String × PayoutId)} {id : PayoutId} {p : Payout}
  {label : String}

/-! ## Payouts that are granted -/

/-- The payout that a row with such a result has opened, under the label that the row gives it. -/
def granted? (r : Replay) (row : LogRow) (result : Except ReplayError Effect) : Option (String × PayoutId) :=
  if row.operation = "payout" then result.toOption.map fun _ => (row.reference, ⟨(r.enrol row.merchant).1.fresh.1⟩)
  else none

def grants (r : Replay) : List LogRow → List (String × PayoutId)
  | [] => []
  | row :: rest => (r.granted? row (r.apply row).2).toList ++ (r.apply row).1.grants rest

/-- What a row does to the payouts and their labels. -/
inductive Serves (r : Replay) (row : LogRow) : Replay → Option (String × PayoutId) → Prop
  | opens {next : Replay} {id : PayoutId} {p : Payout} (fresh : r.engine.payout? id = none)
    (labels : next.payouts = r.payouts.insert row.reference id)
    (stored : ∀ other, next.engine.payout? other = if other = id then some p else r.engine.payout? other) :
    Serves r row next (some (row.reference, id))
  | acts {next : Replay} {id : PayoutId} {p : Payout} (named : r.payouts.get? row.reference = some id)
    (labels : next.payouts = r.payouts)
    (stored : ∀ other, next.engine.payout? other = if other = id then some p else r.engine.payout? other) :
    Serves r row next none
  | leaves {next : Replay} (labels : next.payouts = r.payouts) (stored : next.engine.payout? = r.engine.payout?) :
    Serves r row next none

theorem serves_perform {op : Engine.Operation} (single : op.Single) (spares : op.SparesPayouts) :
    r.Serves row (r.perform op).1 none :=
  .leaves rfl ((r.engine.perform_step ⟨r.clock, {}⟩ op single).payout?_eq spares)

theorem serves_act (action : PayoutAction) : r.Serves row (r.act row action).1 none := by
  unfold act
  cases hid : r.payouts.get? row.reference with
  | none => exact .leaves rfl rfl
  | some id =>
    have hstep := r.engine.perform_step ⟨r.clock, {}⟩ (.actOnPayout id ⟨row.actor⟩ action) trivial
    obtain hsame | ⟨q, hstored⟩ := hstep.payout?_of_actOnPayout
    · exact .leaves rfl hsame
    · exact .acts hid rfl hstored

theorem serves_requestOf (ready : r.Ready quoted 1) (m : MerchantId) :
    r.Serves row (requestOf row r m).1
      ((requestOf row r m).2.toOption.map fun _ => (row.reference, ⟨r.fresh.1⟩)) := by
  unfold requestOf
  split
  · exact .leaves rfl rfl
  cases row.amount with
  | none => exact .leaves rfl rfl
  | some amount =>
    have hunused : r.engine.payout? ⟨r.fresh.1⟩ = none := ready.unused_fresh.payout
    dsimp only
    obtain ⟨fee, balance, -, -, hopened⟩ | ⟨fault, hrefused⟩ :=
      r.engine.openPayout_cases ⟨r.clock, {}⟩ ⟨r.fresh.1⟩ (payoutRequest row m amount) none
    · rw [perform_requestPayout (r := r.fresh.2) hopened]
      exact .opens hunused rfl fun other => (r.engine.storeBalance _ balance).payout?_storePayout _ other _
    · rw [perform_requestPayout (r := r.fresh.2) hrefused]
      exact .leaves rfl rfl

theorem same_payouts_enrol (r : Replay) (label : String) :
    (r.enrol label).1.payouts = r.payouts ∧ (r.enrol label).1.engine.payout? = r.engine.payout? := by
  unfold enrol
  cases r.merchants.get? label <;> exact ⟨rfl, rfl⟩

theorem Serves.of_same {before : Replay} (h : before.Serves row next grant) (labels : before.payouts = r.payouts)
    (stored : before.engine.payout? = r.engine.payout?) : r.Serves row next grant := by
  cases h with
  | opens fresh hlabels hstored =>
    rw [labels] at hlabels
    rw [stored] at fresh hstored
    exact .opens fresh hlabels hstored
  | acts named hlabels hstored =>
    rw [labels] at named hlabels
    rw [stored] at hstored
    exact .acts named hlabels hstored
  | leaves hlabels hstored => exact .leaves (hlabels.trans labels) (hstored.trans stored)

theorem serves_apply (ready : r.Ready quoted 2) (row : LogRow) :
    r.Serves row (r.apply row).1 (r.granted? row (r.apply row).2) := by
  have hother {step : Replay × Except ReplayError Effect} (other : row.operation ≠ "payout")
      (h : r.Serves row step.1 none) : r.Serves row step.1 (r.granted? row step.2) := by
    rwa [granted?, if_neg other]
  obtain ⟨hlabels, hstored⟩ := r.same_payouts_enrol row.merchant
  refine apply_cases row (P := fun f => r.Serves row (f r).1 (r.granted? row (f r).2)) ?_ ?_ ?_ ?_ ?_ ?_
  · intro asks
    refine hother (by rw [asks]; decide) ?_
    show r.Serves row (r.withMerchant row.merchant (invoiceOf row)).1 none
    unfold withMerchant
    split
    · exact .leaves rfl rfl
    · refine Serves.of_same ?_ hlabels hstored
      unfold invoiceOf
      cases row.amount with
      | none => exact .leaves rfl rfl
      | some amount =>
        have hleft (e : Replay) (fresh : FreshPayment) (invoice : NewInvoice) :
            e.Serves row (e.perform (.createInvoice fresh invoice)).1 none := serves_perform trivial trivial
        exact (hleft ..).of_same rfl rfl
  · intro asks
    refine hother (by rw [asks]; decide) ?_
    show r.Serves row (r.observe row).1 none
    unfold observe
    cases row.amount with
    | none => exact .leaves rfl rfl
    | some amount => exact serves_perform trivial trivial
  · intro asks
    show r.Serves row (r.withMerchant row.merchant (requestOf row)).1
      (r.granted? row (r.withMerchant row.merchant (requestOf row)).2)
    rw [granted?, if_pos asks]
    unfold withMerchant
    split
    · exact .leaves rfl rfl
    · exact (serves_requestOf (ready.enrol row.merchant) _).of_same hlabels hstored
  · intro asks action
    refine hother (fun h => asks (by rw [h]; decide)) (serves_act action)
  · intro asks
    refine hother (by rw [asks]; decide) ?_
    show r.Serves row (r.sweep row).1 none
    unfold sweep
    cases r.clock.plusSeconds? (row.amount.getD .zero).wholePart <;> exact .leaves rfl rfl
  · exact fun asks => hother (fun h => asks (by rw [h]; decide)) (.leaves rfl rfl)

/-! ## Labels that lead to payouts -/

/-- Each label leads to the last payout that was granted under it, and what was granted is stored. -/
structure Labelled (history : List (String × PayoutId)) (r : Replay) : Prop where
  leads : ∀ label, r.payouts.get? label = Table.find? label history.reverse
  stored : ∀ id, (∃ p, r.engine.payout? id = some p) ↔ id ∈ history.map Prod.snd
  distinct : (history.map Prod.snd).Nodup

/-- No label leads to the payout. -/
def Lost (r : Replay) (id : PayoutId) : Prop := ∀ label, r.payouts.get? label ≠ some id

/-- Each label leads to a payout that is stored, and each payout that is stored has one label. -/
structure Matched (r : Replay) : Prop where
  stored : ∀ {label : String} {id : PayoutId}, r.payouts.get? label = some id → ∃ p, r.engine.payout? id = some p
  labelled : ∀ {id : PayoutId} {p : Payout}, r.engine.payout? id = some p → ∃! label, r.payouts.get? label = some id

namespace Labelled

theorem mem_of_get? (h : Labelled history r) (hlabel : r.payouts.get? label = some id) : (label, id) ∈ history := by
  rw [h.leads] at hlabel
  exact List.mem_reverse.mp (Table.mem_of_find? hlabel)

theorem serves (h : Labelled history r) (serves : r.Serves row next grant) :
    Labelled (history ++ grant.toList) next := by
  cases serves with
  | @opens id p fresh labels stored =>
    have hnew : id ∉ history.map Prod.snd := by
      rw [← h.stored, fresh]
      rintro ⟨p, hp⟩
      cases hp
    refine ⟨fun label => ?_, fun other => ?_, ?_⟩
    · rw [labels, Table.get?_insert, h.leads, Option.toList_some, Table.find?_append_singleton_reverse]
      simp only [eq_comm]
    · rw [stored, Option.toList_some, List.map_append, List.mem_append, ← h.stored]
      by_cases ho : other = id
      · simp [ho]
      · simp [ho]
    · rw [Option.toList_some, List.map_append, List.nodup_append]
      refine ⟨h.distinct, List.nodup_singleton _, ?_⟩
      rintro other ho _ hother rfl
      rw [List.map_singleton, List.mem_singleton] at hother
      rw [hother] at ho
      exact hnew ho
  | @acts id p named labels stored =>
    have hgranted : id ∈ history.map Prod.snd := List.mem_map.mpr ⟨_, h.mem_of_get? named, rfl⟩
    rw [Option.toList_none, List.append_nil]
    refine ⟨fun label => by rw [labels, h.leads], fun other => ?_, h.distinct⟩
    rw [stored]
    by_cases ho : other = id
    · simp [ho, hgranted]
    · rw [if_neg ho, h.stored]
  | leaves labels stored =>
    rw [Option.toList_none, List.append_nil]
    exact ⟨fun label => by rw [labels, h.leads], fun other => by rw [stored, h.stored], h.distinct⟩

theorem carryOut (h : Labelled history r) (ready : r.Ready quoted (3 * rows.length))
    (hquoted : ∀ row ∈ rows, quoted ⟨row.reference⟩) (through : r.carryOut rows = some ended) :
    Labelled (history ++ r.grants rows) ended := by
  induction rows generalizing r history with
  | nil =>
    cases through
    rwa [grants, List.append_nil]
  | cons row rest ih =>
    obtain ⟨hrow, hrest⟩ := List.forall_mem_cons.mp hquoted
    have hserves := serves_apply (ready.mono (by rw [List.length_cons]; omega)) row
    rw [grants, ← List.append_assoc]
    exact ih (h.serves hserves) (ready.apply hrow) hrest (carryOut_cons_eq_some through).2

theorem matched_iff (h : Labelled history r) : r.Matched ↔ (history.map Prod.fst).Nodup := by
  have hreverse : (history.reverse.map Prod.snd).Nodup := by
    rw [List.map_reverse, List.nodup_reverse]
    exact h.distinct
  have hfound := Table.forall_find?_iff_nodup hreverse
  rw [List.map_reverse, List.map_reverse, List.nodup_reverse] at hfound
  rw [← hfound]
  constructor
  · intro matched id hid
    obtain ⟨p, hp⟩ := (h.stored id).mpr (List.mem_reverse.mp hid)
    obtain ⟨label, hlabel, -⟩ := matched.labelled hp
    exact ⟨label, by rwa [← h.leads]⟩
  · intro found
    refine ⟨fun hlabel => (h.stored _).mpr (List.mem_map.mpr ⟨_, h.mem_of_get? hlabel, rfl⟩), fun {id p} hp => ?_⟩
    obtain ⟨label, hlabel⟩ := found id (List.mem_reverse.mpr ((h.stored id).mp ⟨p, hp⟩))
    rw [← h.leads] at hlabel
    exact ⟨label, hlabel, fun other ho => Table.key_unique h.distinct (h.mem_of_get? ho) (h.mem_of_get? hlabel)⟩

end Labelled

theorem Serves.lost (h : r.Serves row next grant) (lost : r.Lost id) (stored : r.engine.payout? id = some p) :
    next.Lost id ∧ next.engine.payout? id = some p := by
  cases h with
  | @opens new q fresh labels hstored =>
    have hne : id ≠ new := by
      rintro rfl
      cases fresh.symm.trans stored
    refine ⟨fun label hlabel => ?_, by rw [hstored, if_neg hne, stored]⟩
    rw [labels, Table.get?_insert] at hlabel
    split at hlabel
    · cases hlabel
      exact hne rfl
    · exact lost label hlabel
  | @acts other q named labels hstored =>
    have hne : id ≠ other := by
      rintro rfl
      exact lost _ named
    exact ⟨fun label => by rw [labels]; exact lost label, by rw [hstored, if_neg hne, stored]⟩
  | leaves labels hstored => exact ⟨fun label => by rw [labels]; exact lost label, by rw [hstored, stored]⟩

/-! ## Rows that name a label -/

theorem apply_of_action? {action : PayoutAction} (asks : row.action? = some action)
    (named : r.payouts.get? row.reference = some id) :
    r.apply row = r.settled (r.engine.perform ⟨r.clock, {}⟩ (.actOnPayout id ⟨row.actor⟩ action)) := by
  have hact : r.apply row = r.act row action := by
    rw [apply_eq]
    unfold LogRow.action? at asks
    split at asks <;> cases asks <;> simp only [*, handler]
  rw [hact, act, named]
  rfl

theorem apply_of_answer {action : PayoutAction} (asks : row.action? = some action)
    (named : r.payouts.get? row.reference = some id) : (r.apply row).2 = .ok .applied ↔
      ∃ answer, (r.engine.perform ⟨r.clock, {}⟩ (.actOnPayout id ⟨row.actor⟩ action)).2 = .ok answer := by
  rw [apply_of_action? asks named]
  generalize r.engine.perform ⟨r.clock, {}⟩ (.actOnPayout id ⟨row.actor⟩ action) = step
  obtain ⟨next, fault | answer⟩ := step
  · simp [settled, Except.mapError, Except.map]
  · simp [settled, Except.mapError, Except.map]

/-- Rows that name the label act on the payout. Whatever its status allows is carried out just if the balance takes it,
which it does as long as no amount is rounded; so an open payout can be given up then. -/
structure Served (r : Replay) (label : String) (id : PayoutId) (p : Payout) : Prop where
  acts : ∀ row action q source target, row.reference = label → row.action? = some action →
    p.act ⟨row.actor⟩ r.clock action = .ok (q, .applied source target) →
    ((r.apply row).2 = .ok .applied ↔ r.engine.Takes ⟨r.clock, {}⟩ q target) ∧
    ((r.apply row).2 = .ok .applied → (r.apply row).1.engine.payout? id = some q)
  takes : ∀ s ≤ 28, r.engine.OnGrid s → ∀ actor action q source target,
    p.act actor r.clock action = .ok (q, .applied source target) → r.engine.Takes ⟨r.clock, {}⟩ q target
  givenUp : ∀ s ≤ 28, r.engine.OnGrid s → p.status.isTerminal = false → ∃ row q, row.reference = label ∧
    (r.apply row).2 = .ok .applied ∧ (r.apply row).1.engine.payout? id = some q ∧
    (q.status = .rejected ∨ q.status = .failed) ∧ ((r.apply row).1.engine.exactBalance p.merchantId).pending =
      (r.engine.exactBalance p.merchantId).pending - p.amount.toRat

def givingUp (label : String) (status : PayoutStatus) : LogRow :=
  ⟨if status = .requested then "reject" else "fail", "", label, none, none, none, "", "withdrawn"⟩

theorem action?_givingUp (label : String) (status : PayoutStatus) :
    (givingUp label status).action? = some (status.giveUp "withdrawn") := by
  have hreject : Text.lower "reject" = "reject" := by decide +kernel
  have hfail : Text.lower "fail" = "fail" := by decide +kernel
  cases status <;> simp [LogRow.action?, LogRow.operation, givingUp, hreject, hfail, PayoutStatus.giveUp]

theorem served_of_get? (hlabel : r.payouts.get? label = some id) (stored : r.engine.payout? id = some p)
    (booked : ∀ s ≤ 28, r.engine.OnGrid s → r.engine.Booked) : r.Served label id p where
  acts := by
    rintro row action q source target rfl asks acted
    let moment : Moment := ⟨r.clock, {}⟩
    have taken := Engine.lockPayout_alone stored
    have hiff : (r.apply row).2 = .ok .applied ↔ r.engine.Takes moment q target :=
      (apply_of_answer asks hlabel).trans (Engine.perform_actOnPayout_iff taken acted)
    refine ⟨hiff, fun hdone => ?_⟩
    have hstored : (r.engine.perform moment (.actOnPayout id ⟨row.actor⟩ action)).1.payout? id = some q :=
      Engine.payout?_perform_actOnPayout taken acted (hiff.mp hdone)
    rw [apply_of_action? asks hlabel]
    exact hstored
  takes s hs hgrid actor action q source target acted := by
    obtain ⟨alive, hdraft, -⟩ := Payout.act_applied acted
    exact (booked s hs hgrid).takes hs hgrid r.clock stored alive hdraft target
  givenUp s hs hgrid alive := by
    have hnamed : Text.isBlankString "withdrawn" = false := rfl
    obtain ⟨next, q, hperform, hnext, hended, hpending⟩ :=
      (booked s hs hgrid).perform_giveUp hs hgrid r.clock stored alive hnamed ⟨""⟩
    have happly : r.apply (givingUp label p.status) = r.settled (next, .ok (.payout q)) := by
      rw [← hperform]
      exact apply_of_action? (action?_givingUp label p.status) hlabel
    refine ⟨givingUp label p.status, q, rfl, ?_, ?_, hended, ?_⟩
    · rw [happly]
      rfl
    · rw [happly]
      exact hnext
    · rw [happly]
      exact hpending

/-! ## Whole logs -/

theorem labelled_opened (config : SettlementConfig) (rate usdRate : Decimal) (tier : KycTier) (clock : Instant)
    (supply : Uuid.Supply) : Labelled [] (opened config rate usdRate tier clock supply) where
  leads _ := rfl
  stored id := by
    have hnone : (opened config rate usdRate tier clock supply).engine.payout? id = none := rfl
    simp [hnone]
  distinct := List.nodup_nil

/-- Labels and payouts match just if no two payouts are granted under one label. In any case a label leads to the last
payout that was granted under it, and rows that name the label can move it on and give it up. A payout that has lost
its label stays as it is whatever rows follow, and if it is open, its amount stays pending. -/
theorem labels_reach_payouts_until_reused (config : SettlementConfig) (rate usdRate : Decimal) (tier : KycTier)
    (log : String) (clock : Instant) (supply : Uuid.Supply) (fresh : FreshFor (rowsOf log) supply) {ended : Replay}
    {report : List LogEntry} (through : (opened config rate usdRate tier clock supply).run log = some (ended, report)) :
    let start := opened config rate usdRate tier clock supply
    let granted := start.grants (rowsOf log)
    (ended.Matched ↔ (granted.map Prod.fst).Nodup) ∧
    (∀ label id, ended.payouts.get? label = some id ↔
      ∃ earlier later, granted = earlier ++ (label, id) :: later ∧ label ∉ later.map Prod.fst) ∧
    (∀ id, (∃ p, ended.engine.payout? id = some p) ↔ id ∈ granted.map Prod.snd) ∧
    (∀ label id, ended.payouts.get? label = some id →
      ∃ p, ended.engine.payout? id = some p ∧ ended.Served label id p) ∧
    ∀ done rest midway, rowsOf log = done ++ rest → start.carryOut done = some midway →
      ∀ id p, midway.engine.payout? id = some p → midway.Lost id →
        ended.Lost id ∧ ended.engine.payout? id = some p ∧
        (p.status.isTerminal = false → ∀ s ≤ 28, ended.engine.OnGrid s →
          p.amount.toRat ≤ (ended.engine.exactBalance p.merchantId).pending) := by
  intro start granted
  have hthrough : start.carryOut (rowsOf log) = some ended := by
    rw [← run_eq, through]
    rfl
  have hready := fresh.ready config rate usdRate tier clock
  have hquoted : ∀ row ∈ rowsOf log, Names (rowsOf log) ⟨row.reference⟩ := fun row hrow => ⟨row, hrow, rfl⟩
  have hlabelled : Labelled granted ended :=
    (labelled_opened config rate usdRate tier clock supply).carryOut hready hquoted hthrough
  have hbooked : ∀ s ≤ 28, ended.engine.OnGrid s → ended.engine.Booked := fun s hs hgrid =>
    fresh.booked hs config rate usdRate tier clock hthrough hgrid.inRange
  refine ⟨hlabelled.matched_iff, fun label id => ?_, hlabelled.stored, fun label id hlabel => ?_, ?_⟩
  · rw [hlabelled.leads, Table.find?_reverse_eq_some_iff]
  · obtain ⟨p, hp⟩ := (hlabelled.stored id).mpr (List.mem_map.mpr ⟨_, hlabelled.mem_of_get? hlabel, rfl⟩)
    exact ⟨p, hp, served_of_get? hlabel hp hbooked⟩
  · intro done rest midway hrows hdone id p stored lost
    rw [hrows] at hthrough
    obtain ⟨_, hdone', hrest⟩ := carryOut_append_eq_some hthrough
    cases hdone.symm.trans hdone'
    rw [hrows, List.length_append, Nat.mul_add] at hready
    obtain ⟨hdoneQuoted, hrestQuoted⟩ := List.forall_mem_append.mp (hrows ▸ hquoted)
    have hmidway := hready.carryOut (P := fun _ => True) (fun _ _ _ => trivial) hdoneQuoted hdone trivial
    obtain ⟨-, hlost, hp⟩ := Ready.carryOut (n := 0) (P := fun r => r.Lost id ∧ r.engine.payout? id = some p)
      (fun row ready h => (serves_apply (ready.mono (Nat.le_succ 2)) row).lost h.1 h.2) hmidway.1 hrestQuoted hrest
      ⟨lost, stored⟩
    refine ⟨hlost, hp, fun alive s hs hgrid => ?_⟩
    rw [(hbooked s hs hgrid).balance_eq]
    exact (hbooked s hs hgrid).amount_le_pending hp alive

def atDefaultRate : Replay := opened .default Arguments.defaultRate Arguments.defaultRate .verified .epoch (.seeded 1)

/-- Of what an invoice has brought in, two payouts are requested under different labels. -/
def twoLabels : String :=
  "type,merchant,reference,amount,depth,finalized,actor,detail\n" ++
  "invoice,cafe,ORD-1,2500000,,,,\n" ++
  "observe,,ORD-1,100,20,true,T,0x1\n" ++
  "payout,cafe,WD-1,1000000,,,ops,0071000123456\n" ++
  "payout,cafe,WD-2,500000,,,ops,0071000123456\n"

theorem rowsOf_twoLabels : rowsOf twoLabels =
    [⟨"invoice", "cafe", "ORD-1", some (.ofNat 2500000), none, none, "", ""⟩,
      ⟨"observe", "", "ORD-1", some (.ofNat 100), some 20, some true, "T", "0x1"⟩,
      ⟨"payout", "cafe", "WD-1", some (.ofNat 1000000), none, none, "ops", "0071000123456"⟩,
      ⟨"payout", "cafe", "WD-2", some (.ofNat 500000), none, none, "ops", "0071000123456"⟩] := by
  decide +kernel

/-- Both are reached by their labels. -/
theorem two_labels_matched : ∃ ended report, atDefaultRate.run twoLabels = some (ended, report) ∧ ended.Matched := by
  have hthrough : (atDefaultRate.run twoLabels).isSome := by
    rw [← Option.isSome_map (f := Prod.fst), run_eq, rowsOf_twoLabels]
    decide +kernel
  obtain ⟨⟨ended, report⟩, hrun⟩ := Option.isSome_iff_exists.mp hthrough
  have hfresh : FreshFor (rowsOf twoLabels) (.seeded 1) := by
    refine .of_unlike ?_ ?_ <;> rw [rowsOf_twoLabels] <;> decide +kernel
  have hlabels : ((atDefaultRate.grants (rowsOf twoLabels)).map Prod.fst).Nodup := by
    rw [rowsOf_twoLabels]
    decide +kernel
  have hmatched := labels_reach_payouts_until_reused .default Arguments.defaultRate Arguments.defaultRate .verified
    twoLabels .epoch (.seeded 1) hfresh hrun
  exact ⟨ended, report, hrun, hmatched.1.mpr hlabels⟩

/-- Both payouts are requested under one label, and then the payout of this label is rejected. -/
def oneLabel : String :=
  "type,merchant,reference,amount,depth,finalized,actor,detail\n" ++
  "invoice,cafe,ORD-1,2500000,,,,\n" ++
  "observe,,ORD-1,100,20,true,T,0x1\n" ++
  "payout,cafe,WD-1,1000000,,,ops,0071000123456\n" ++
  "payout,cafe,WD-1,500000,,,ops,0071000123456\n" ++
  "reject,,WD-1,,,,ops,mistake\n"

def rowsOfOneLabel : List LogRow :=
  [⟨"invoice", "cafe", "ORD-1", some (Engine.whole 2500000), none, none, "", ""⟩,
    ⟨"observe", "", "ORD-1", some (Engine.whole 100), some 20, some true, "T", "0x1"⟩,
    ⟨"payout", "cafe", "WD-1", some (Engine.whole 1000000), none, none, "ops", "0071000123456"⟩,
    ⟨"payout", "cafe", "WD-1", some (Engine.whole 500000), none, none, "ops", "0071000123456"⟩,
    ⟨"reject", "", "WD-1", none, none, none, "ops", "mistake"⟩]

theorem rowsOf_oneLabel : rowsOf oneLabel = rowsOfOneLabel := by decide +kernel

def firstPayout : PayoutId := ⟨(Uuid.Supply.seeded 1).draw 3⟩

theorem grants_oneLabel :
    atDefaultRate.grants rowsOfOneLabel = [("WD-1", firstPayout), ("WD-1", ⟨(Uuid.Supply.seeded 1).draw 4⟩)] := by
  decide +kernel

theorem ready_oneLabel :
    atDefaultRate.Ready (Names (rowsOfOneLabel ++ rowsOfOneLabel.take 1)) (3 * rowsOfOneLabel.length + 3) := by
  have hfresh : FreshFor (rowsOfOneLabel ++ rowsOfOneLabel.take 1) (.seeded 1) := by
    refine .of_unlike ?_ ?_ <;> decide +kernel
  exact hfresh.ready .default Arguments.defaultRate Arguments.defaultRate .verified .epoch

theorem ends_oneLabel (through : atDefaultRate.carryOut rowsOfOneLabel = some ended) :
    ended.Ready (Names (rowsOfOneLabel ++ rowsOfOneLabel.take 1)) 3 ∧ ¬ ended.Matched ∧ ended.Lost firstPayout := by
  have hquoted : ∀ row ∈ rowsOfOneLabel, Names (rowsOfOneLabel ++ rowsOfOneLabel.take 1) ⟨row.reference⟩ :=
    fun row hrow => ⟨row, List.mem_append_left _ hrow, rfl⟩
  have hopened : Labelled [] atDefaultRate :=
    labelled_opened .default Arguments.defaultRate Arguments.defaultRate .verified .epoch (.seeded 1)
  have hlabelled := hopened.carryOut (ready_oneLabel.mono (Nat.le_add_right _ 3)) hquoted through
  obtain ⟨hready, -⟩ := ready_oneLabel.carryOut (P := fun _ => True) (fun _ _ _ => trivial) hquoted through trivial
  rw [List.nil_append, grants_oneLabel] at hlabelled
  refine ⟨hready, ?_, fun label hlabel => ?_⟩
  · rw [hlabelled.matched_iff]
    decide
  · have hfound : Table.find? label [("WD-1", (⟨(Uuid.Supply.seeded 1).draw 4⟩ : PayoutId)), ("WD-1", firstPayout)] =
        some firstPayout := (hlabelled.leads label).symm.trans hlabel
    have hother : (⟨(Uuid.Supply.seeded 1).draw 4⟩ : PayoutId) ≠ firstPayout := by decide +kernel
    rw [Table.find?, Table.find?] at hfound
    split at hfound
    · exact hother (Option.some.inj hfound)
    · cases hfound

/-- The first payout is lost: it is still requested, and no row does anything to it. Its million stays pending. -/
theorem reused_label_loses_payout : ∃ ended report id p, atDefaultRate.run oneLabel = some (ended, report) ∧
    ¬ ended.Matched ∧ ended.engine.payout? id = some p ∧ p.status = .requested ∧ ended.Lost id ∧
    (∀ row, (ended.apply row).1.engine.payout? id = some p) ∧
    ended.statement = "merchant,available,pending,total_received,total_paid_out\ncafe,1475000,1000000,2475000,0\n" := by
  have hend : (atDefaultRate.carryOut rowsOfOneLabel).map
      (fun r => (r.statement, (r.engine.payout? firstPayout).map (·.status))) =
      some ("merchant,available,pending,total_received,total_paid_out\ncafe,1475000,1000000,2475000,0\n",
        some .requested) := by
    decide +kernel
  obtain ⟨ended, hthrough, hended⟩ := Option.map_eq_some_iff.mp hend
  obtain ⟨hstatement, hstatus⟩ := Prod.mk.inj hended
  obtain ⟨p, hp, hrequested⟩ := Option.map_eq_some_iff.mp hstatus
  obtain ⟨⟨_, report⟩, hrun, rfl⟩ : ∃ result, atDefaultRate.run oneLabel = some result ∧ result.1 = ended :=
    Option.map_eq_some_iff.mp ((run_eq atDefaultRate oneLabel).trans (rowsOf_oneLabel ▸ hthrough))
  obtain ⟨hready, hunmatched, hlost⟩ := ends_oneLabel hthrough
  exact ⟨_, report, firstPayout, p, hrun, hunmatched, hp, hrequested, hlost,
    fun row => ((serves_apply (hready.mono (Nat.le_succ 2)) row).lost hlost hp).2, hstatement⟩

end Replay
end Settlement
