import Settlement.Proofs.Replay.Rows
import Settlement.Proofs.Replay.Supply

/-! Replays that have enough identifiers left. A row draws three of them at most, and those that it leaves stay
unused. -/
namespace Settlement
namespace Replay

variable {r next : Replay} {row : LogRow} {quoted : PaymentReference → Prop} {k n : Nat}

/-- The next identifiers are unused and differ, and the references that they generate are not quoted. -/
structure Ready (quoted : PaymentReference → Prop) (n : Nat) (r : Replay) : Prop where
  distinct : ((r.supply.upcoming n).map PaymentReference.generate).Nodup
  unused : ∀ u ∈ r.supply.upcoming n, r.engine.Unused u
  unquoted : ∀ u ∈ r.supply.upcoming n, ¬ quoted (.generate u)

namespace Ready

theorem mono (h : r.Ready quoted n) (hk : k ≤ n) : r.Ready quoted k :=
  have hshorter : r.supply.upcoming k <+: r.supply.upcoming n := r.supply.upcoming_prefix hk
  { distinct := h.distinct.sublist (hshorter.sublist.map _)
    unused := fun u hu => h.unused u (hshorter.subset hu)
    unquoted := fun u hu => h.unquoted u (hshorter.subset hu) }

theorem congr (h : r.Ready quoted n) (supply : next.supply = r.supply) (engine : next.engine = r.engine) :
    next.Ready quoted n := by
  constructor
  · rw [supply]
    exact h.distinct
  · rw [supply, engine]
    exact h.unused
  · rw [supply]
    exact h.unquoted

theorem upcoming_fresh (r : Replay) (n : Nat) :
    r.supply.upcoming (n + 1) = r.fresh.1 :: r.fresh.2.supply.upcoming n := r.supply.upcoming_succ n

theorem fresh (h : r.Ready quoted (n + 1)) : r.fresh.2.Ready quoted n := by
  obtain ⟨distinct, unused, unquoted⟩ := h
  rw [upcoming_fresh, List.map_cons, List.nodup_cons] at distinct
  rw [upcoming_fresh] at unused unquoted
  exact ⟨distinct.2, fun u hu => unused u (.tail _ hu), fun u hu => unquoted u (.tail _ hu)⟩

theorem unused_fresh (h : r.Ready quoted (n + 1)) : r.engine.Unused r.fresh.1 := by
  refine h.unused _ ?_
  rw [upcoming_fresh]
  exact List.mem_cons_self

theorem unquoted_fresh (h : r.Ready quoted (n + 1)) : ¬ quoted (.generate r.fresh.1) := by
  refine h.unquoted _ ?_
  rw [upcoming_fresh]
  exact List.mem_cons_self

/-- The identifier that has been drawn is not drawn again, nor is one that generates the same reference. -/
theorem apart (h : r.Ready quoted (n + 1)) {u : Uuid} (hu : u ∈ r.fresh.2.supply.upcoming n) :
    PaymentReference.generate r.fresh.1 ≠ .generate u := by
  have hdistinct := h.distinct
  rw [upcoming_fresh, List.map_cons, List.nodup_cons] at hdistinct
  intro heq
  rw [heq] at hdistinct
  exact hdistinct.1 (List.mem_map_of_mem hu)

theorem ne_fresh (h : r.Ready quoted (n + 1)) {u : Uuid} (hu : u ∈ r.fresh.2.supply.upcoming n) : r.fresh.1 ≠ u :=
  fun heq => h.apart hu (congrArg _ heq)

theorem perform (h : r.Ready quoted n) {op : Engine.Operation} (single : op.Single)
    (spares : ∀ u ∈ r.supply.upcoming n, op.Spares u) : (r.perform op).1.Ready quoted n :=
  { h with unused := fun u hu =>
      (r.engine.perform_step ⟨r.clock, {}⟩ op single).unused (spares u hu) (h.unused u hu) }

theorem enrol (h : r.Ready quoted (n + 1)) (label : String) : (r.enrol label).1.Ready quoted n := by
  unfold Replay.enrol
  cases r.merchants.get? label with
  | some id => exact h.mono (Nat.le_succ n)
  | none =>
    have hregistered : (r.fresh.2.perform (.registerMerchant ⟨r.fresh.1⟩ r.tier)).1.Ready quoted n :=
      h.fresh.perform trivial fun u hu heq => h.ne_fresh hu (congrArg MerchantId.uuid heq)
    exact hregistered.congr rfl rfl

theorem invoiceOf (h : r.Ready quoted (n + 2)) (hquoted : quoted ⟨row.reference⟩) (m : MerchantId) :
    (invoiceOf row r m).1.Ready quoted n := by
  unfold Replay.invoiceOf
  cases row.amount with
  | none => exact h.mono (Nat.le_add_right n 2)
  | some amount =>
    refine h.fresh.fresh.perform trivial fun u hu => ⟨fun heq => ?_, ?_⟩
    · have hlater : u ∈ r.fresh.2.supply.upcoming (n + 1) := by
        rw [upcoming_fresh]
        exact .tail _ hu
      exact h.ne_fresh hlater (congrArg PaymentId.uuid heq)
    · dsimp only [newInvoice]
      split
      · exact h.fresh.apart hu
      · rintro heq
        exact h.fresh.fresh.unquoted u hu (heq ▸ hquoted)

theorem requestOf (h : r.Ready quoted (n + 1)) (m : MerchantId) : (requestOf row r m).1.Ready quoted n := by
  unfold Replay.requestOf
  split
  · exact h.mono (Nat.le_succ n)
  · cases row.amount with
    | none => exact h.mono (Nat.le_succ n)
    | some amount =>
      have hrequested :
          (r.fresh.2.perform (.requestPayout ⟨r.fresh.1⟩ (payoutRequest row m amount))).1.Ready quoted n :=
        h.fresh.perform trivial fun u hu heq => h.ne_fresh hu (congrArg PayoutId.uuid heq)
      dsimp only
      generalize r.fresh.2.perform _ = step at hrequested ⊢
      obtain ⟨next, error | answer⟩ := step
      · exact hrequested
      · exact hrequested.congr rfl rfl

theorem withMerchant {f : Replay → MerchantId → Replay × Except ReplayError Effect} (h : r.Ready quoted (k + 1))
    (hn : n ≤ k + 1) (hf : ∀ {r : Replay} m, r.Ready quoted k → (f r m).1.Ready quoted n) (label : String) :
    (r.withMerchant label f).1.Ready quoted n := by
  unfold Replay.withMerchant
  split
  · exact h.mono hn
  · exact hf _ (h.enrol label)

theorem apply (h : r.Ready quoted (n + 3)) (hquoted : quoted ⟨row.reference⟩) : (r.apply row).1.Ready quoted n := by
  have hless : n ≤ n + 3 := Nat.le_add_right n 3
  refine apply_cases row (P := fun f => (f r).1.Ready quoted n) ?_ ?_ ?_ ?_ ?_ ?_
  · exact fun _ => h.withMerchant hless (fun m hr => hr.invoiceOf hquoted m) _
  · intro _
    show (r.observe row).1.Ready quoted n
    unfold observe
    cases row.amount with
    | none => exact h.mono hless
    | some amount => exact (h.mono hless).perform trivial fun _ _ => trivial
  · exact fun _ => h.withMerchant hless (fun m hr => (hr.mono (Nat.le_succ _)).requestOf m) _
  · intro _ action
    show (r.act row action).1.Ready quoted n
    unfold act
    cases r.payouts.get? row.reference with
    | none => exact h.mono hless
    | some id => exact (h.mono hless).perform trivial fun _ _ => trivial
  · intro _
    show (r.sweep row).1.Ready quoted n
    unfold sweep
    cases r.clock.plusSeconds? (row.amount.getD .zero).wholePart with
    | none => exact h.mono hless
    | some clock => exact { h.mono hless with unused := fun u hu =>
        (show Engine.Step _ ⟨clock, {}⟩ .sweepExpired _ from .sweep).unused trivial ((h.mono hless).unused u hu) }
  · exact fun _ => h.mono hless

end Ready

def Names (rows : List LogRow) (reference : PaymentReference) : Prop := ∃ row ∈ rows, row.reference = reference.text

/-- A supply that is as good as random for the rows: the identifiers that they may draw generate different references,
which none of them names. -/
structure FreshFor (rows : List LogRow) (s : Uuid.Supply) : Prop where
  distinct : ((s.upcoming (3 * rows.length)).map PaymentReference.generate).Nodup
  unnamed : ∀ u ∈ s.upcoming (3 * rows.length), ∀ row ∈ rows, row.reference ≠ (PaymentReference.generate u).text

theorem take_generate (u : Uuid) : (PaymentReference.generate u).text.toList.take 4 = ['P', 'A', 'Y', '-'] := by
  simp [PaymentReference.generate]

theorem FreshFor.of_unlike {rows : List LogRow} {supply : Uuid.Supply}
    (distinct : ((supply.upcoming (3 * rows.length)).map PaymentReference.generate).Nodup)
    (unlike : ∀ row ∈ rows, row.reference.toList.take 4 ≠ ['P', 'A', 'Y', '-']) : FreshFor rows supply :=
  ⟨distinct, fun u _ row hrow heq => unlike row hrow (heq ▸ take_generate u)⟩

theorem FreshFor.ready {rows : List LogRow} {supply : Uuid.Supply} (h : FreshFor rows supply)
    (config : SettlementConfig) (rate usdRate : Decimal) (tier : KycTier) (clock : Instant) :
    (opened config rate usdRate tier clock supply).Ready (Names rows) (3 * rows.length) where
  distinct := h.distinct
  unused _ _ := ⟨rfl, rfl, rfl, rfl, rfl⟩
  unquoted u hu := by
    rintro ⟨row, hrow, hname⟩
    exact h.unnamed u hu row hrow hname

end Replay
end Settlement
