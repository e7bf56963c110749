import Settlement.Proofs.Engine.Reconciliation
import Settlement.Proofs.Engine.Separation

/-! Runs with and without the operations of other merchants. A merchant gets the same answers in both, and owns
the same in the end. -/
namespace Settlement
namespace Engine

variable {holder : PaymentReference → Option MerchantId} {mine : MerchantId} {e : Engine} {op : Operation}
  {ops : List (Moment × Operation)}

def Answer.own : Answer → Answer
  | rows _ => done
  | answer => answer

/-- The run without the operations that are addressed to another merchant. -/
def purge (mine : MerchantId) (e : Engine) : List (Moment × Operation) → List (Moment × Operation)
  | [] => []
  | (moment, op) :: rest =>
    let later := (e.perform moment op).1.purge mine rest
    if ∀ merchant ∈ op.addressee? e, merchant = mine then (moment, op) :: later else later

def answersTo (mine : MerchantId) (e : Engine) : List (Moment × Operation) → List (Operation × Except Fault Answer)
  | [] => []
  | (moment, op) :: rest =>
    let (next, answer) := e.perform moment op
    let later := next.answersTo mine rest
    if op.addressee? e = some mine then (op, answer.map Answer.own) :: later else later

/-! ## Steps in the slice -/

/-- An operation that is not for another merchant takes the slice to the slice of the next engine, and answers the
merchant alike. -/
theorem Apart.perform_slice (he : e.Apart holder) (hop : op.Apart holder e)
    (hkept : ∀ merchant ∈ op.addressee? e, merchant = mine) (moment : Moment) :
    ((slice holder mine e).perform moment op).1 = slice holder mine (e.perform moment op).1 ∧
      (op.addressee? e = some mine → ((slice holder mine e).perform moment op).2.map Answer.own =
        (e.perform moment op).2.map Answer.own) := by
  by_cases hopen : ∃ merchant, op = .openAccount merchant
  · obtain ⟨merchant, rfl⟩ := hopen
    cases hkept merchant rfl
    refine ⟨Eq.symm ?_, fun _ => rfl⟩
    exact congrArg (fun ledger => { slice holder mine e with ledger }) (e.ledger.part_openAccount moment.now)
  · by_cases hsweep : op = .sweepExpired
    · subst hsweep
      exact ⟨(slice_sweepExpired moment).symm, nofun⟩
    · have hconfined : (op.action moment).Confined (slice holder mine) e := by
        cases h : op.addressee? e with
        | some merchant =>
          cases hkept merchant h
          exact he.confined_of_mine hop h (not_exists.mp hopen)
        | none => exact he.confined_of_none hop.single h hsweep
      unfold perform
      rw [hconfined]
      exact ⟨rfl, fun _ => rfl⟩

theorem Apart.payee?_slice (he : e.Apart holder) (reference : PaymentReference) :
    (slice holder mine e).payee? reference = (e.payee? reference).filter (· = mine) := by
  unfold payee?
  rw [reference_slice]
  cases hid : e.payments.references.get? reference with
  | none => rfl
  | some id =>
    obtain ⟨p, hp, rfl⟩ := he.leads reference id hid
    have hheld := he.holds id p hp
    by_cases h : p.merchantId = mine <;> simp [Option.filter, hheld, hp, h]

theorem Apart.addressee?_slice (he : e.Apart holder) (hkept : ∀ merchant ∈ op.addressee? e, merchant = mine) :
    op.addressee? (slice holder mine e) = op.addressee? e := by
  have hfilter {owner : Option MerchantId} (h : ∀ merchant, owner = some merchant → merchant = mine) :
      owner.filter (· = mine) = owner := by
    cases owner with
    | none => rfl
    | some merchant => simp [Option.filter, h merchant rfl]
  cases op with
  | handleEvent event => exact (he.payee?_slice event.reference).trans (hfilter hkept)
  | findPayment reference => exact (he.payee?_slice reference).trans (hfilter hkept)
  | readPayment id =>
    refine Eq.trans ?_ (hfilter hkept)
    show ((slice holder mine e).payment? id).map _ = ((e.payment? id).map _).filter _
    rw [payment?_slice, Option.filter_map]
    rfl
  | actOnPayout id | resubmit id | readPayout id =>
    refine Eq.trans ?_ (hfilter hkept)
    show ((slice holder mine e).payout? id).map _ = ((e.payout? id).map _).filter _
    rw [payout?_slice, Option.filter_map]
    rfl
  | _ => rfl

/-! ## Runs -/

theorem Apart.run_purge (he : e.Apart holder) (mine : MerchantId) (h : e.Along (fun e _ op => op.Apart holder e) ops) :
    (slice holder mine e).run (e.purge mine ops) = slice holder mine (e.run ops) ∧
      (slice holder mine e).answersTo mine (e.purge mine ops) = e.answersTo mine ops := by
  induction ops generalizing e with
  | nil => exact ⟨rfl, rfl⟩
  | cons step rest ih =>
    obtain ⟨moment, op⟩ := step
    obtain ⟨hop, hrest⟩ := h
    have hstep := e.perform_step moment op hop.single
    obtain ⟨hrun, hanswers⟩ := ih (he.step hstep hop) hrest
    by_cases hkept : ∀ merchant ∈ op.addressee? e, merchant = mine
    · obtain ⟨hnext, hanswer⟩ := he.perform_slice hop hkept moment
      simp only [purge, if_pos hkept, run, answersTo, hnext, hrun, hanswers, he.addressee?_slice hkept, true_and]
      split
      case isTrue hmine => rw [hanswer hmine]
      case isFalse => rfl
    · -- the operation of another merchant is left out of the one run, and changes nothing in the other
      obtain ⟨other, haddressed, hne⟩ : ∃ other, op.addressee? e = some other ∧ other ≠ mine := by
        simpa using hkept
      have hother : op.addressee? e ≠ some mine := fun h => hne (Option.some.inj (haddressed.symm.trans h))
      rw [hstep.slice_eq hop haddressed hne] at hrun hanswers
      simp only [purge, if_neg hkept, run, answersTo, if_neg hother, hrun, hanswers, and_self]

/-! ## References -/

/-- The references that the invoices of a run use, each with the merchant that it is used by. -/
def uses (ops : List (Moment × Operation)) : List (PaymentReference × MerchantId) :=
  ops.filterMap fun step => step.2.uses?

/-- No reference is used by two merchants. -/
def ReferencesApart (ops : List (Moment × Operation)) : Prop :=
  ∀ first ∈ uses ops, ∀ second ∈ uses ops, first.1 = second.1 → first.2 = second.2

def holder? (ops : List (Moment × Operation)) (reference : PaymentReference) : Option MerchantId :=
  ((uses ops).find? fun use => use.1 = reference).map Prod.snd

theorem ReferencesApart.holder?_eq (h : ReferencesApart ops) {reference : PaymentReference} {merchant : MerchantId}
    (hmem : (reference, merchant) ∈ uses ops) : holder? ops reference = some merchant := by
  unfold holder?
  cases hfound : (uses ops).find? fun use => use.1 = reference with
  | none => exact absurd (decide_eq_true rfl) (List.find?_eq_none.mp hfound _ hmem)
  | some found =>
    have hreference : found.1 = reference := by simpa using List.find?_some hfound
    exact congrArg some (h found (List.mem_of_find?_eq_some hfound) _ hmem hreference)

/-- Along a run of single steps with fresh identifiers every merchant uses its own references. -/
theorem along_apart (single : ∀ step ∈ ops, step.2.Single) (fresh : e.Along (fun e _ op => op.Fresh e) ops)
    (held : ∀ step ∈ ops, ∀ reference merchant, step.2.uses? = some (reference, merchant) →
      holder reference = some merchant) : e.Along (fun e _ op => op.Apart holder e) ops := by
  induction ops generalizing e with
  | nil => trivial
  | cons step rest ih =>
    obtain ⟨moment, op⟩ := step
    obtain ⟨hsingle, hsingleRest⟩ := List.forall_mem_cons.mp single
    obtain ⟨hfresh, hfreshRest⟩ := fresh
    obtain ⟨hheld, hheldRest⟩ := List.forall_mem_cons.mp held
    exact ⟨⟨hsingle, hfresh, hheld⟩, ih hsingleRest hfreshRest hheldRest⟩

theorem slice_opened (config : SettlementConfig) : slice holder mine (opened config) = opened config := rfl

/-- Merchants do not interfere. Take a run in which new records get fresh identifiers and no reference is used by two
merchants, and leave out what is addressed to others than `mine`. What is addressed to `mine` is answered as before, and
its balance, its profile, its payments and its payouts are the same in the end. -/
theorem merchants_do_not_interfere (config : SettlementConfig) (mine : MerchantId) (ops : List (Moment × Operation))
    (single : ∀ step ∈ ops, step.2.Single) (fresh : (opened config).Along (fun e _ op => op.Fresh e) ops)
    (apart : ReferencesApart ops) :
    let alone := (opened config).purge mine ops
    let e := (opened config).run ops
    let f := (opened config).run alone
    (opened config).answersTo mine alone = (opened config).answersTo mine ops ∧
    f.balance? mine = e.balance? mine ∧
    f.gate.profile? mine = e.gate.profile? mine ∧
    (∀ id p, p.merchantId = mine → (f.payment? id = some p ↔ e.payment? id = some p)) ∧
    ∀ id p, p.merchantId = mine → (f.payout? id = some p ↔ e.payout? id = some p) := by
  intro alone e f
  have hheld : ∀ step ∈ ops, ∀ reference merchant, step.2.uses? = some (reference, merchant) →
      holder? ops reference = some merchant := fun step hstep reference merchant h =>
    apart.holder?_eq (List.mem_filterMap.mpr ⟨step, hstep, h⟩)
  obtain ⟨hrun, hanswers⟩ := (apart_opened config).run_purge mine (along_apart single fresh hheld)
  rw [slice_opened] at hrun hanswers
  have hf : f = slice (holder? ops) mine e := hrun
  refine ⟨hanswers, ?_, ?_, fun id p hp => ?_, fun id p hp => ?_⟩
  · rw [hf, balance?_slice]
  · rw [hf]
    exact e.gate.profile?_part
  · rw [hf, payment?_slice]
    simp [Option.filter_eq_some_iff, hp]
  · rw [hf, payout?_slice]
    simp [Option.filter_eq_some_iff, hp]

/-- A bakery signs up before the shop, and is paid and asks for a payout before the payout of the shop completes. -/
def neighbours : List (Moment × Operation) :=
  let now : Moment := ⟨.epoch, {}⟩
  let bank : BankDetails := ⟨"Bank", "654321", "Bakery", none⟩
  (now, .registerMerchant ⟨2⟩ .verified) :: withdrawn ++
    [(now, .createInvoice ⟨⟨8⟩, ⟨"PAY-8"⟩⟩ ⟨⟨2⟩, whole 2500000, none, "tron", "T-bakery", none⟩),
      (now, .handleEvent ⟨⟨"PAY-8"⟩, some "tx-8", "payer", whole 100, 20, true, none⟩),
      (now, .requestPayout ⟨10⟩ ⟨⟨2⟩, whole 1000000, bank, ⟨"bakery"⟩⟩),
      (now, .actOnPayout ⟨10⟩ ⟨"desk"⟩ .approve),
      (now, .sweepExpired),
      (now, .actOnPayout ⟨9⟩ ⟨"desk"⟩ (.complete "FT1"))]

/-- Nothing of the bakery is left, and the shop is paid out without it. -/
theorem neighbour_is_left_out :
    let now : Moment := ⟨.epoch, {}⟩
    let alone := withdrawn ++ [(now, .sweepExpired), (now, .actOnPayout ⟨9⟩ ⟨"desk"⟩ (.complete "FT1"))]
    (opened .default).Along (fun e _ op => op.Fresh e) neighbours ∧ ReferencesApart neighbours ∧
      (opened .default).purge ⟨1⟩ neighbours = alone ∧
      (opened .default).answersTo ⟨1⟩ alone = (opened .default).answersTo ⟨1⟩ neighbours ∧
      ((opened .default).run alone).balance? ⟨1⟩ = ((opened .default).run neighbours).balance? ⟨1⟩ := by
  intro now alone
  have single : ∀ step ∈ neighbours, step.2.Single := by
    unfold neighbours withdrawn invoiced
    simp [Operation.Single, paid]
  have fresh : (opened .default).Along (fun e _ op => op.Fresh e) neighbours := by
    refine ⟨trivial, trivial, trivial, trivial, rfl, trivial, rfl, trivial, ?_⟩
    exact ⟨rfl, trivial, rfl, trivial, trivial, trivial, trivial⟩
  have apart : ReferencesApart neighbours := by
    unfold ReferencesApart
    decide
  have hpurge : (opened .default).purge ⟨1⟩ neighbours = alone := rfl
  obtain ⟨hanswers, hbalance, -⟩ := merchants_do_not_interfere .default ⟨1⟩ neighbours single fresh apart
  rw [hpurge] at hanswers hbalance
  exact ⟨fresh, apart, hpurge, hanswers, hbalance⟩

end Engine
end Settlement
