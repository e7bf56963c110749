import Settlement.Codec.Config
import Settlement.Codec.Payment
import Settlement.Codec.Payout
import Settlement.Proofs.Codec.Lawful

/-! Payments, payouts, events, profiles and settings are the same after they have been written and read. -/
namespace Settlement

open Coded Record

/-! ## The records, where a zero has no sign -/

def ChainEvent.plain (e : ChainEvent) : ChainEvent := { e with observedAmount := e.observedAmount.plain }

def Payment.plain (p : Payment) : Payment :=
  { p with
    invoiceAmount := p.invoiceAmount.plain
    tokenAmount := p.tokenAmount.plain
    exchangeRate := p.exchangeRate.plain
    usdEquivalent := p.usdEquivalent.plain
    feePercent := p.feePercent.plain
    feeAmount := p.feeAmount.plain
    netAmount := p.netAmount.plain }

def Payout.plain (p : Payout) : Payout :=
  { p with amount := p.amount.plain, fee := p.fee.plain, netAmount := p.netAmount.plain }

def ComplianceProfile.plain (p : ComplianceProfile) : ComplianceProfile :=
  { p with dailyVolume := p.dailyVolume.plain, monthlyVolume := p.monthlyVolume.plain }

def TierLimits.plain (l : TierLimits) : TierLimits := ⟨l.daily.map Decimal.plain, l.monthly.map Decimal.plain⟩

def TierTable.plain (t : TierTable) : TierTable :=
  ⟨t.unverified.plain, t.basic.plain, t.verified.plain, t.enhanced.plain⟩

def SettlementConfig.plain (c : SettlementConfig) : SettlementConfig :=
  { c with
    paymentFeePercent := c.paymentFeePercent.plain
    amountTolerance := c.amountTolerance.plain
    travelRuleThresholdUsd := c.travelRuleThresholdUsd.plain
    minimumPayout := c.minimumPayout.plain
    payoutFeePercent := c.payoutFeePercent.plain
    tiers := c.tiers.plain }

def nulls (names : List String) : List (String × Json) := names.map fun name => (name, .null)

/-! ## Their written forms

The proofs go through the fields of a record in their order. -/

instance : Lawful KycTier id 0 := lawful_ofNames fun t => by cases t <;> rfl
instance : Lawful PaymentStatus id 0 := lawful_ofNames fun s => by cases s <;> rfl
instance : Lawful PayoutStatus id 0 := lawful_ofNames fun s => by cases s <;> rfl

instance : LawfulRecord Currency id 1 [] where
  decode_encode c := by
    refine of?_bind.trans ?_
    repeat refine Eq.trans (required_bind _ rfl) ?_
    rfl
  writable c := .obj (of_decide_eq_true rfl) <| by
    repeat refine List.forall_mem_cons.mpr ⟨within (by decide) _, ?_⟩
    exact nofun
  encode_ne_null _ := nofun
  decode_completed c written completed h := by
    refine of?_bind.trans (Eq.trans ?_ of?_bind.symm)
    repeat refine bind_congr (required_completed (h _ rfl) rfl) fun _ => ?_
    rfl

instance : LawfulRecord PayerIdentity id 1 (nulls ["id_document"]) where
  decode_encode p := by
    refine of?_bind.trans ?_
    repeat first
      | refine Eq.trans (required_bind _ rfl) ?_
      | refine Eq.trans (optional_bind _ rfl) ?_
    simp only [Option.map_id]
    rfl
  writable p := .obj (of_decide_eq_true rfl) <| by
    repeat refine List.forall_mem_cons.mpr ⟨within (by decide) _, ?_⟩
    exact nofun
  encode_ne_null _ := nofun
  decode_completed p written completed h := by
    refine of?_bind.trans (Eq.trans ?_ of?_bind.symm)
    repeat first
      | refine bind_congr (required_completed (h _ rfl) rfl) fun _ => ?_
      | refine bind_congr (optional_completed (h _ rfl) rfl) fun _ => ?_
    rfl

instance : LawfulRecord BankDetails id 1 (nulls ["branch"]) where
  decode_encode b := by
    refine of?_bind.trans ?_
    repeat first
      | refine Eq.trans (required_bind _ rfl) ?_
      | refine Eq.trans (optional_bind _ rfl) ?_
    simp only [Option.map_id]
    rfl
  writable b := .obj (of_decide_eq_true rfl) <| by
    repeat refine List.forall_mem_cons.mpr ⟨within (by decide) _, ?_⟩
    exact nofun
  encode_ne_null _ := nofun
  decode_completed b written completed h := by
    refine of?_bind.trans (Eq.trans ?_ of?_bind.symm)
    repeat first
      | refine bind_congr (required_completed (h _ rfl) rfl) fun _ => ?_
      | refine bind_congr (optional_completed (h _ rfl) rfl) fun _ => ?_
    rfl

instance : LawfulRecord ChainEvent ChainEvent.plain 1 (nulls ["tx_hash", "error"]) where
  decode_encode e := by
    refine of?_bind.trans ?_
    repeat first
      | refine Eq.trans (required_bind _ rfl) ?_
      | refine Eq.trans (optional_bind _ rfl) ?_
    simp only [Option.map_id]
    rfl
  writable e := .obj (of_decide_eq_true rfl) <| by
    repeat refine List.forall_mem_cons.mpr ⟨within (by decide) _, ?_⟩
    exact nofun
  encode_ne_null _ := nofun
  decode_completed e written completed h := by
    refine of?_bind.trans (Eq.trans ?_ of?_bind.symm)
    repeat first
      | refine bind_congr (required_completed (h _ rfl) rfl) fun _ => ?_
      | refine bind_congr (optional_completed (h _ rfl) rfl) fun _ => ?_
    rfl

instance : LawfulRecord Payment Payment.plain 2
    (nulls ["payer", "paid_at", "confirmed_at", "tx_hash", "sender_address", "failure_reason"]) where
  decode_encode p := by
    refine of?_bind.trans ?_
    repeat first
      | refine Eq.trans (required_bind _ rfl) ?_
      | refine Eq.trans (optional_bind _ rfl) ?_
    simp only [Option.map_id]
    rfl
  writable p := .obj (of_decide_eq_true rfl) <| by
    repeat refine List.forall_mem_cons.mpr ⟨within (by decide) _, ?_⟩
    exact nofun
  encode_ne_null _ := nofun
  decode_completed p written completed h := by
    refine of?_bind.trans (Eq.trans ?_ of?_bind.symm)
    repeat first
      | refine bind_congr (required_completed (h _ rfl) rfl) fun _ => ?_
      | refine bind_congr (optional_completed (h _ rfl) rfl) fun _ => ?_
    rfl

instance : LawfulRecord Payout Payout.plain 2
    (nulls ["approved_by", "approved_at", "processed_by", "processed_at",
      "completed_at", "rejected_by", "rejected_at", "failed_at", "bank_reference", "rejection_reason", "failure_reason",
      "retry_of", "resubmitted_as"]) where
  decode_encode p := by
    refine of?_bind.trans ?_
    repeat first
      | refine Eq.trans (required_bind _ rfl) ?_
      | refine Eq.trans (optional_bind _ rfl) ?_
    simp only [Option.map_id]
    rfl
  writable p := .obj (of_decide_eq_true rfl) <| by
    repeat refine List.forall_mem_cons.mpr ⟨within (by decide) _, ?_⟩
    exact nofun
  encode_ne_null _ := nofun
  decode_completed p written completed h := by
    refine of?_bind.trans (Eq.trans ?_ of?_bind.symm)
    repeat first
      | refine bind_congr (required_completed (h _ rfl) rfl) fun _ => ?_
      | refine bind_congr (optional_completed (h _ rfl) rfl) fun _ => ?_
    rfl

instance : LawfulRecord ComplianceProfile ComplianceProfile.plain 1 [] where
  decode_encode p := by
    refine of?_bind.trans ?_
    repeat refine Eq.trans (required_bind _ rfl) ?_
    rfl
  writable p := .obj (of_decide_eq_true rfl) <| by
    repeat refine List.forall_mem_cons.mpr ⟨within (by decide) _, ?_⟩
    exact nofun
  encode_ne_null _ := nofun
  decode_completed p written completed h := by
    refine of?_bind.trans (Eq.trans ?_ of?_bind.symm)
    repeat refine bind_congr (required_completed (h _ rfl) rfl) fun _ => ?_
    rfl

instance : LawfulRecord TierLimits TierLimits.plain 1 (members TierLimits.unlimited) where
  decode_encode l := by
    refine of?_bind.trans ?_
    repeat refine Eq.trans (optional_bind _ rfl) ?_
    rfl
  writable l := .obj (of_decide_eq_true rfl) <| by
    repeat refine List.forall_mem_cons.mpr ⟨within (by decide) _, ?_⟩
    exact nofun
  encode_ne_null _ := nofun
  decode_completed l written completed h := by
    refine of?_bind.trans (Eq.trans ?_ of?_bind.symm)
    repeat refine bind_congr (optional_completed (h _ rfl) rfl) fun _ => ?_
    rfl

instance : LawfulRecord TierTable TierTable.plain 2 (members TierTable.default) where
  decode_encode t := by
    refine of?_bind.trans ?_
    repeat refine Eq.trans (defaulted_bind _ rfl) ?_
    rfl
  writable t := .obj (of_decide_eq_true rfl) <| by
    repeat refine List.forall_mem_cons.mpr ⟨within (by decide) _, ?_⟩
    exact nofun
  encode_ne_null _ := nofun
  decode_completed t written completed h := by
    refine of?_bind.trans (Eq.trans ?_ of?_bind.symm)
    repeat refine bind_congr (defaulted_completed (h _ rfl) rfl rfl) fun _ => ?_
    rfl

instance : LawfulRecord SettlementConfig SettlementConfig.plain 3 (members SettlementConfig.default) where
  decode_encode c := by
    refine of?_bind.trans ?_
    repeat refine Eq.trans (defaulted_bind _ rfl) ?_
    rfl
  writable c := .obj (of_decide_eq_true rfl) <| by
    repeat refine List.forall_mem_cons.mpr ⟨within (by decide) _, ?_⟩
    exact nofun
  encode_ne_null _ := nofun
  decode_completed c written completed h := by
    refine of?_bind.trans (Eq.trans ?_ of?_bind.symm)
    repeat refine bind_congr (defaulted_completed (h _ rfl) rfl rfl) fun _ => ?_
    rfl

/-- Every payment, payout, event, profile and configuration is read back from the JSON text that is written for it,
with the places of every decimal: all that changes is that a zero has no minus sign. So it is whatever text it has
been read from before. There, members of other names count for nothing, optional ones that are missing are null,
missing settings and tiers are those of the default configuration, and a tier that is there is unlimited where it
does not name a limit. -/
theorem records_survive_text :
    Faithful ChainEvent ChainEvent.plain (nulls ["tx_hash", "error"]) ∧
    Faithful Payment Payment.plain
      (nulls ["payer", "paid_at", "confirmed_at", "tx_hash", "sender_address", "failure_reason"]) ∧
    Faithful Payout Payout.plain
      (nulls ["approved_by", "approved_at", "processed_by", "processed_at", "completed_at", "rejected_by", "rejected_at",
        "failed_at", "bank_reference", "rejection_reason", "failure_reason", "retry_of", "resubmitted_as"]) ∧
    Faithful ComplianceProfile ComplianceProfile.plain [] ∧
    Faithful SettlementConfig SettlementConfig.plain (members SettlementConfig.default) ∧
    Faithful TierTable TierTable.plain (members TierTable.default) ∧
    Faithful TierLimits TierLimits.plain (members TierLimits.unlimited) ∧
    Faithful Currency id [] ∧
    Faithful PayerIdentity id (nulls ["id_document"]) ∧
    Faithful BankDetails id (nulls ["branch"]) := by
  refine ⟨?_, ?_, ?_, ?_, ?_, ?_, ?_, ?_, ?_, ?_⟩ <;> exact LawfulRecord.faithful (by decide)

end Settlement
