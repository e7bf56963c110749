import Settlement.Proofs.Compliance.Volume
import Settlement.Proofs.Engine.Atomicity
import Settlement.Proofs.Engine.Completions
import Settlement.Proofs.Engine.Handling
import Settlement.Proofs.Engine.Standing

/-! The volumes that the limits of merchants are measured by. As long as payments settle them in the
order of time, they are the sums over the completed payments of the day and of the month. -/
namespace Settlement
namespace Engine

open Engine.Action ComplianceProfile

variable {config : SettlementConfig} {e next : Engine} {moment : Moment} {op : Operation} {order : List PaymentId}

/-- The operation does not count an amount by itself. -/
def Operation.Uncounted : Operation → Prop
  | recordVolume _ _ => False
  | _ => True

/-- Volume is settled by payments only: no step of the run counts an amount by itself, hands out an identifier
that is in use, or overflows. -/
def Settling (e : Engine) (steps : List (Moment × Operation)) : Prop :=
  e.Along (fun e moment op => op.Uncounted ∧ op.Fresh e ∧ (e.perform moment op).2 ≠ .error .overflow) steps

def settlements (e : Engine) (merchant : MerchantId) (order : List PaymentId) : List (Decimal × Day) :=
  (e.paymentsTo merchant order).filterMap fun p => p.confirmedAt.map fun t => (p.invoiceAmount, t.day)

/-! ## Steps -/

/-- The step completes the payment, no other one, and counts its amount for its merchant. -/
structure Counts (e next : Engine) (now : Instant) (id : PaymentId) (p : Payment) : Prop where
  finishes : Finishes e next id p
  confirmed : p.confirmedAt = some now
  counted : ∃ profile after, e.gate.profile? p.merchantId = some profile ∧
    profile.addVolume p.invoiceAmount now = (after, .ok ()) ∧
    ∀ merchant, next.gate.profile? merchant = if merchant = p.merchantId then some after else e.gate.profile? merchant

theorem counts_of_completed {event : ChainEvent} {id : PaymentId} {p next : Payment} {source : PaymentStatus}
    {balance : Balance} (reachable : Reachable config e)
    (located : e.payments.references.get? event.reference = some id) (stored : e.payment? id = some p)
    (applied : p.applyEvent e.policy event moment.now = .ok (next, .applied source .completed))
    (credited : e.Moves moment next.merchantId (.credit next.netAmount) balance) (alone : id ∉ moment.held.payments)
    (sound : (e.perform moment (.handleEvent event)).2 ≠ .error .overflow) :
    Counts e (e.completed id next balance moment.now) moment.now id next := by
  refine ⟨finishes_of_applied stored applied balance, Payment.confirmedAt_of_applyEvent applied, ?_⟩
  obtain ⟨-, hdraft, -⟩ := Payment.applyEvent_applied applied
  have hprofiled := reachable.profiled stored
  rw [← Payment.merchantId_eq_of_draft hdraft] at hprofiled
  obtain ⟨profile, hprofile⟩ := Option.isSome_iff_exists.mp hprofiled
  have hrecord := ComplianceGate.recordVolume_of_profile hprofile next.invoiceAmount moment.now
  have hroom : (e.gate.recordVolume next.merchantId next.invoiceAmount moment.now).2 ≠ .error .overflow := by
    obtain ⟨row, hrow, free, happly⟩ := credited
    have htaken := lockPayment_eq_ok.mpr ⟨stored, alone⟩
    exact fun hfull => sound (handleEvent_eq_overflow_iff.mpr
      (.overfilled located htaken applied ⟨row, hrow, free, .inr ⟨⟨balance, happly⟩, hfull⟩⟩))
  rw [hrecord] at hroom
  have hadded := (profile.addVolume_snd next.invoiceAmount moment.now).resolve_right hroom
  refine ⟨profile, _, hprofile, Prod.ext rfl hadded, fun merchant => ?_⟩
  show (e.gate.recordVolume next.merchantId next.invoiceAmount moment.now).1.profile? merchant = _
  rw [hrecord, ComplianceGate.profile?_setProfile]

/-- A step either completes no payment and keeps the volumes, or it completes one and counts its amount. -/
theorem Step.retains_or_counts (h : Step e moment op next) (reachable : Reachable config e) (uncounted : op.Uncounted)
    (fresh : op.Fresh e) (sound : (e.perform moment op).2 ≠ .error .overflow) :
    ((∀ id, next.isCompleted id = e.isCompleted id) ∧ e.gate.Retains next.gate moment.now) ∨
      ∃ id p, Counts e next moment.now id p := by
  cases h with
  | idle | rate | account | move | request | act | finish | retry => exact .inl ⟨fun _ => rfl, .refl _ _⟩
  | register merchant tier => exact .inl ⟨fun _ => rfl, e.retains_registerMerchant merchant tier moment.now⟩
  | profile merchant tier => exact .inl ⟨fun _ => rfl, e.gate.retains_register merchant tier moment.now⟩
  | tier known => exact .inl ⟨fun _ => rfl, ComplianceGate.retains_setTier known moment.now⟩
  | volume => exact uncounted.elim
  | invoice drafted unused => exact .inl ⟨isCompleted_invoice drafted fresh, .refl _ _⟩
  | advance located stored applied short => exact .inl ⟨isCompleted_of_short stored applied short, .refl _ _⟩
  | complete located stored applied credited alone =>
    exact .inr ⟨_, _, counts_of_completed reachable located stored applied credited alone sound⟩
  | sweep => exact .inl ⟨e.isCompleted_sweepExpired moment, .refl _ _⟩
  | lapse read stored overdue =>
    exact .inl ⟨isCompleted_storePayment_of_iff stored (Payment.expire_completed moment.now), .refl _ _⟩

/-! ## Volumes along a run -/

theorem settlements_congr (h : ∀ id ∈ order, next.payment? id = e.payment? id) (merchant : MerchantId) :
    next.settlements merchant order = e.settlements merchant order := by
  unfold settlements
  rw [paymentsTo_congr h]

theorem settlements_concat {id : PaymentId} {p : Payment} {t : Instant} (hp : e.payment? id = some p)
    (confirmed : p.confirmedAt = some t) (merchant : MerchantId) (order : List PaymentId) :
    e.settlements merchant (order ++ [id]) =
      e.settlements merchant order ++ if p.merchantId = merchant then [(p.invoiceAmount, t.day)] else [] := by
  unfold settlements
  rw [paymentsTo_concat hp, List.filterMap_append]
  split
  · simp [confirmed]
  · rfl

theorem settlements_of_no_profile (reachable : Reachable config e) {merchant : MerchantId}
    (unknown : e.gate.profile? merchant = none) (order : List PaymentId) : e.settlements merchant order = [] := by
  have hnone : e.paymentsTo merchant order = [] := by
    refine List.filter_eq_nil_iff.mpr fun p hp => ?_
    obtain ⟨id, -, hstored⟩ := List.mem_filterMap.mp hp
    have hprofiled := reachable.profiled hstored
    rintro hmerchant
    rw [of_decide_eq_true hmerchant, unknown] at hprofiled
    cases hprofiled
  rw [settlements, hnone, List.filterMap_nil]

/-- The list names the completed payments. The volumes of each profile are those of the payments to its
merchant, and belong to a day no later than today. -/
structure Tallied (e : Engine) (order : List PaymentId) (past : List Instant) : Prop where
  listed : e.Listed order
  confirmed : ∀ id ∈ order, ∃ p t, e.payment? id = some p ∧ p.confirmedAt = some t
  reflects : ∀ merchant profile, e.gate.profile? merchant = some profile →
    profile.Reflects (e.settlements merchant order)
  day_le : ∀ merchant profile, e.gate.profile? merchant = some profile →
    ∀ now, (∀ t ∈ past, t ≤ now) → profile.day ≤ now.day

/-- A step that keeps the volumes keeps the tally. A profile that it opens has no volume, and its merchant no
payments. -/
theorem Tallied.retain {past : List Instant} {now : Instant} (he : e.Tallied order past)
    (reachable : Reachable config e) (hkept : ∀ id ∈ order, next.payment? id = e.payment? id)
    (hsame : ∀ id, next.isCompleted id = e.isCompleted id) (hretains : e.gate.Retains next.gate now) :
    next.Tallied order (past ++ [now]) := by
  refine ⟨he.listed.of_same hsame, fun id hid => hkept id hid ▸ he.confirmed id hid, ?_, ?_⟩
  · intro merchant q hq
    rw [settlements_congr hkept]
    obtain ⟨p, tier, hp, rfl⟩ | ⟨hnone, tier, rfl⟩ := hretains.profile_origin hq
    · obtain ⟨hday, hdaily, hmonthly⟩ := he.reflects merchant p hp
      exact ⟨hday, hdaily, hmonthly⟩
    · rw [settlements_of_no_profile reachable hnone]
      exact reflects_opened merchant tier now
  · intro merchant q hq later hlater
    obtain ⟨hpast, hnow⟩ := List.forall_mem_append.mp hlater
    obtain ⟨p, tier, hp, rfl⟩ | ⟨-, tier, rfl⟩ := hretains.profile_origin hq
    · exact he.day_le merchant p hp later hpast
    · exact Instant.day_le_day (hnow now (List.mem_singleton_self now))

theorem Tallied.count {past : List Instant} {now : Instant} {id : PaymentId} {p : Payment} (he : e.Tallied order past)
    (hkept : ∀ id ∈ order, next.payment? id = e.payment? id) (hcounts : Counts e next now id p)
    (later : ∀ t ∈ past, t ≤ now) : next.Tallied (order ++ [id]) (past ++ [now]) := by
  obtain ⟨profile, after, hprofile, hadded, hnext⟩ := hcounts.counted
  have hstored := hcounts.finishes.stored
  refine ⟨he.listed.of_finishes hcounts.finishes, ?_, ?_, ?_⟩
  · rw [List.forall_mem_append, List.forall_mem_singleton]
    exact ⟨fun id hid => hkept id hid ▸ he.confirmed id hid, p, now, hstored, hcounts.confirmed⟩
  · intro merchant q hq
    rw [settlements_concat hstored hcounts.confirmed, settlements_congr hkept]
    rw [hnext] at hq
    by_cases hm : merchant = p.merchantId
    · subst hm
      rw [if_pos rfl] at hq ⊢
      cases hq
      exact (he.reflects _ profile hprofile).addVolume (he.day_le _ profile hprofile now later) hadded
    · rw [if_neg hm] at hq
      rw [if_neg (Ne.symm hm), List.append_nil]
      exact he.reflects merchant q hq
  · intro merchant q hq t ht
    obtain ⟨hpast, hnow⟩ := List.forall_mem_append.mp ht
    rw [hnext] at hq
    split at hq
    · cases hq
      obtain ⟨_, _, -, -, rfl⟩ := addVolume_eq_ok.mp hadded
      exact Instant.day_le_day (hnow now (List.mem_singleton_self now))
    · exact he.day_le merchant q hq t hpast

theorem Tallied.step {past : List Instant} (he : e.Tallied order past) (h : Step e moment op next)
    (reachable : Reachable config e) (uncounted : op.Uncounted) (fresh : op.Fresh e)
    (sound : (e.perform moment op).2 ≠ .error .overflow) (later : ∀ t ∈ past, t ≤ moment.now) :
    next.Tallied (order ++ next.completedSince e) (past ++ [moment.now]) := by
  have hkept := he.listed.kept h fresh
  obtain ⟨hsame, hretains⟩ | ⟨id, p, hcounts⟩ := h.retains_or_counts reachable uncounted fresh sound
  · rw [completedSince_of_same hsame, List.append_nil]
    exact he.retain reachable hkept hsame hretains
  · rw [completedSince_of_finishes hcounts.finishes]
    exact he.count hkept hcounts later

theorem tallied_opened (config : SettlementConfig) : (opened config).Tallied [] [] := by
  exact ⟨listed_opened config, fun _ => nofun, fun _ _ => nofun, fun _ _ => nofun⟩

def times (steps : List (Moment × Operation)) : List Instant := steps.map fun step => step.1.now

theorem Tallied.run {past : List Instant} {steps : List (Moment × Operation)} (he : e.Tallied order past)
    (reachable : Reachable config e) (single : ∀ step ∈ steps, step.2.Single) (settling : e.Settling steps)
    (sorted : (past ++ times steps).Pairwise (· ≤ ·)) :
    (e.run steps).Tallied (order ++ e.completions steps) (past ++ times steps) := by
  induction steps generalizing e order past with
  | nil => simpa [completions, Engine.run, times] using he
  | cons step rest ih =>
    obtain ⟨moment, op⟩ := step
    obtain ⟨⟨huncounted, hfresh, hsound⟩, hrest⟩ := settling
    obtain ⟨hop, hsingle⟩ := List.forall_mem_cons.mp single
    have hlater : ∀ t ∈ past, t ≤ moment.now := fun t ht =>
      (List.pairwise_append.mp sorted).2.2 t ht moment.now List.mem_cons_self
    have htimes : past ++ times ((moment, op) :: rest) = (past ++ [moment.now]) ++ times rest := by simp [times]
    rw [completions, ← List.append_assoc, htimes]
    rw [htimes] at sorted
    exact ih (he.step (e.perform_step moment op hop) reachable huncounted hfresh hsound hlater)
      (.step moment op reachable) hsingle hrest sorted

/-- In every state of a run that settles by payments in the order of time, the volumes that are read at any later
time are the sums of the invoiced amounts over the completed payments that were confirmed on its day and in
its month. -/
theorem volumes_eq_sums_of_completed (config : SettlementConfig) (ops : List (Moment × Operation)) :
    let start := opened config
    let steps := start.steps ops
    start.Settling steps → (times steps).Pairwise (· ≤ ·) →
      start.run steps = start.run ops ∧
      ∀ done, done <+: steps →
        let e := start.run done
        let order := start.completions done
        e.Listed order ∧
        (∀ id p, e.payment? id = some p → p.status = .completed →
          p.confirmedAt.isSome ∧ (e.gate.profile? p.merchantId).isSome) ∧
        ∀ merchant profile, e.gate.profile? merchant = some profile → ∀ now, (∀ t ∈ times done, t ≤ now) →
          Decimal.sum? (amountsOn (· = now.day) (e.settlements merchant order)) = some (profile.dailyVolumeAt now) ∧
          Decimal.sum? (amountsOn (·.SameMonth now.day) (e.settlements merchant order)) =
            some (profile.monthlyVolumeAt now) := by
  intro start steps settling sorted
  refine ⟨start.run_steps ops, ?_⟩
  rintro done ⟨rest, hrest⟩ e order
  have hsingle : ∀ step ∈ steps, step.2.Single := start.single_steps ops
  rw [← hrest] at hsingle settling sorted
  have hsub : (times done).Sublist (times (done ++ rest)) := (List.sublist_append_left done rest).map _
  have htallied : e.Tallied order (times done) :=
    (tallied_opened config).run .opened (List.forall_mem_append.mp hsingle).1 (along_append.mp settling).1
      (sorted.sublist hsub)
  refine ⟨htallied.listed, ?_, ?_⟩
  · intro id p hp hc
    obtain ⟨q, t, hq, ht⟩ := htallied.confirmed id ((htallied.listed.mem_iff id).mpr ⟨p, hp, hc⟩)
    cases hq.symm.trans hp
    exact ⟨Option.isSome_of_eq_some ht, (reachable_run .opened done).profiled hp⟩
  · intro merchant profile hprofile now hnow
    exact (htallied.reflects merchant profile hprofile).read (htallied.day_le merchant profile hprofile now hnow)

def secondDay : Moment := ⟨(Instant.ofMillis? 86400000).getD .epoch, {}⟩

/-- The sample invoice is paid, its merchant changes tier and signs up again, and is paid another one on the next day. -/
def paidOnTwoDays : List (Moment × Operation) :=
  invoiced ++ [(⟨.epoch, {}⟩, paid), (⟨.epoch, {}⟩, .setTier ⟨1⟩ .enhanced),
    (secondDay, .registerMerchant ⟨1⟩ .verified),
    (secondDay, .createInvoice ⟨⟨8⟩, ⟨"PAY-8"⟩⟩ ⟨⟨1⟩, whole 5000000, none, "tron", "T-shop", none⟩),
    (secondDay, .handleEvent ⟨⟨"PAY-8"⟩, some "tx", "payer", whole 200, 20, true, none⟩)]

/-- Only the second payment counts towards the second day, and both count towards the month. -/
theorem second_day_counts_both_for_month :
    let start := opened .default
    let e := start.run paidOnTwoDays
    start.Settling (start.steps paidOnTwoDays) ∧ (times (start.steps paidOnTwoDays)).Pairwise (· ≤ ·) ∧
      ∃ profile, e.gate.profile? ⟨1⟩ = some profile ∧ profile.tier = .verified ∧
        Decimal.sum? [whole 5000000] = some (profile.dailyVolumeAt secondDay.now) ∧
        Decimal.sum? [whole 2500000, whole 5000000] = some (profile.monthlyVolumeAt secondDay.now) := by
  intro start e
  have hsettling : start.Settling (start.steps paidOnTwoDays) := by
    refine ⟨⟨trivial, trivial, by decide +kernel⟩, ⟨trivial, trivial, by decide +kernel⟩,
      ⟨trivial, trivial, by decide +kernel⟩, ⟨trivial, rfl, by decide +kernel⟩, ⟨trivial, trivial, by decide +kernel⟩,
      ⟨trivial, trivial, by decide +kernel⟩, ⟨trivial, trivial, by decide +kernel⟩,
      ⟨trivial, Option.isNone_iff_eq_none.mp (by decide +kernel), by decide +kernel⟩,
      ⟨trivial, trivial, by decide +kernel⟩, trivial⟩
  have hsorted : (times (start.steps paidOnTwoDays)).Pairwise (· ≤ ·) := by decide +kernel
  obtain ⟨hend, hstates⟩ := volumes_eq_sums_of_completed .default paidOnTwoDays hsettling hsorted
  obtain ⟨-, -, hvolumes⟩ := hstates (start.steps paidOnTwoDays) (List.prefix_refl _)
  rw [hend] at hvolumes
  have hsettlements : e.settlements ⟨1⟩ (start.completions (start.steps paidOnTwoDays)) =
      [(whole 2500000, Instant.epoch.day), (whole 5000000, secondDay.now.day)] := by decide +kernel
  have hverified : (e.gate.profile? ⟨1⟩).any (·.tier = .verified) = true := by decide +kernel
  obtain ⟨profile, hprofile, htier⟩ := (Option.any_eq_true _ _).mp hverified
  obtain ⟨hdaily, hmonthly⟩ := hvolumes ⟨1⟩ profile hprofile secondDay.now (by decide +kernel)
  rw [hsettlements] at hdaily hmonthly
  exact ⟨hsettling, hsorted, profile, hprofile, of_decide_eq_true htier, hdaily, hmonthly⟩

end Engine
end Settlement
