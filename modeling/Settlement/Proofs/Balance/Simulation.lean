import Mathlib.Algebra.Order.BigOperators.Group.List
import Settlement.Proofs.Balance.Credit
import Settlement.Proofs.Balance.Exact

/-! A balance against a ledger of exact numbers. Amounts of moderate size leave room for every sum that a movement
forms, those of a movement that is refused in the end included, so that the two ledgers accept, refuse and store the
same. -/
namespace Settlement

open Decimal

namespace ExactBalance

/-- Why the exact ledger refuses a movement. -/
inductive Refusal
  | notPositive
  | funds
  | pending (left : ℚ)

/-- A movement of the exact ledger: amounts are positive, and no more is taken than there is. -/
def attempt (x : ExactBalance) (op : LedgerOp) : Except Refusal ExactBalance :=
  if op.amount.toRat ≤ 0 then .error .notPositive
  else match op with
    | .credit _ => .ok (x.move op)
    | .reserve amount => if x.available < amount.toRat then .error .funds else .ok (x.move op)
    | .release amount | .settle amount =>
      if x.pending < amount.toRat then .error (.pending (x.pending - amount.toRat)) else .ok (x.move op)

def next (x : ExactBalance) (op : LedgerOp) : ExactBalance :=
  match x.attempt op with
  | .ok y => y
  | .error _ => x

def run (x : ExactBalance) (ops : List LedgerOp) : ExactBalance := ops.foldl next x

/-- What a movement asks to credit, if it is more than zero. -/
def credit : LedgerOp → ℚ
  | .credit amount => max 0 amount.toRat
  | _ => 0

/-- The positive amounts that a series of movements asks to credit. -/
def credited (ops : List LedgerOp) : ℚ := (ops.map credit).sum

/-- All amounts are multiples of `10 ^ -s` below half the range that decimals have there. -/
structure Moderate (s : Nat) (ops : List LedgerOp) : Prop where
  multipleOf : ∀ op ∈ ops, MultipleOf s op.amount.toRat
  amount_lt : ∀ op ∈ ops, |op.amount.toRat| < 2 ^ 95 / 10 ^ s

/-- The movements to come keep the numbers below half the range. -/
structure Roomy (s : Nat) (x : ExactBalance) (ops : List LedgerOp) : Prop where
  onGrid : x.OnGrid s
  within : x.Within (2 ^ 95 / 10 ^ s)
  moderate : Moderate s ops
  credited_lt : x.totalReceived + credited ops < 2 ^ 95 / 10 ^ s

variable {s : Nat} {x y : ExactBalance} {op : LedgerOp} {ops : List LedgerOp}

theorem credit_nonneg (op : LedgerOp) : 0 ≤ credit op := by
  cases op with
  | credit amount => exact le_max_left _ _
  | reserve amount => exact le_rfl
  | release amount => exact le_rfl
  | settle amount => exact le_rfl

theorem credited_nonneg (ops : List LedgerOp) : 0 ≤ credited ops := by
  refine List.sum_nonneg fun q hq => ?_
  obtain ⟨op, -, rfl⟩ := List.mem_map.mp hq
  exact credit_nonneg op

theorem credited_cons (op : LedgerOp) (ops : List LedgerOp) : credited (op :: ops) = credit op + credited ops :=
  List.sum_cons

theorem attempt_cases (x : ExactBalance) (op : LedgerOp) :
    (op.amount.toRat ≤ 0 ∧ x.attempt op = .error .notPositive) ∨
    (0 < op.amount.toRat ∧ (∀ bound, x.totalReceived + credit op < bound → x.Covers bound op) ∧
      x.attempt op = .ok (x.move op)) ∨
    (∃ amount, op = .reserve amount ∧ 0 < amount.toRat ∧ x.available < amount.toRat ∧
      x.attempt op = .error .funds) ∨
    ∃ amount, (op = .release amount ∨ op = .settle amount) ∧ 0 < amount.toRat ∧ x.pending < amount.toRat ∧
      x.attempt op = .error (.pending (x.pending - amount.toRat)) := by
  by_cases hpositive : op.amount.toRat ≤ 0
  · exact .inl ⟨hpositive, if_pos hpositive⟩
  have hamount : 0 < op.amount.toRat := not_le.mp hpositive
  unfold attempt
  rw [if_neg hpositive]
  refine .inr ?_
  cases op with
  | credit amount =>
    refine .inl ⟨hamount, fun bound hbound => ?_, rfl⟩
    rwa [credit, max_eq_right (show 0 ≤ amount.toRat from hamount.le)] at hbound
  | reserve amount =>
    by_cases hfunds : x.available < amount.toRat
    · exact .inr (.inl ⟨amount, rfl, hamount, hfunds, if_pos hfunds⟩)
    · exact .inl ⟨hamount, fun _ _ => not_lt.mp hfunds, if_neg hfunds⟩
  | release amount =>
    by_cases hpending : x.pending < amount.toRat
    · exact .inr (.inr ⟨amount, .inl rfl, hamount, hpending, if_pos hpending⟩)
    · exact .inl ⟨hamount, fun _ _ => not_lt.mp hpending, if_neg hpending⟩
  | settle amount =>
    by_cases hpending : x.pending < amount.toRat
    · exact .inr (.inr ⟨amount, .inr rfl, hamount, hpending, if_pos hpending⟩)
    · exact .inl ⟨hamount, fun _ _ => not_lt.mp hpending, if_neg hpending⟩

theorem attempt_eq_notPositive : x.attempt op = .error .notPositive ↔ op.amount.toRat ≤ 0 := by
  refine ⟨fun h => ?_, fun h => if_pos h⟩
  rcases attempt_cases x op with ⟨hamount, -⟩ | ⟨-, -, ha⟩ | ⟨_, -, -, -, ha⟩ | ⟨_, -, -, -, ha⟩
  · exact hamount
  all_goals cases ha.symm.trans h

theorem attempt_eq_funds (hx : 0 ≤ x.available) :
    x.attempt op = .error .funds ↔ ∃ amount, op = .reserve amount ∧ x.available < amount.toRat := by
  constructor
  · intro h
    rcases attempt_cases x op with ⟨-, ha⟩ | ⟨-, -, ha⟩ | ⟨amount, hop, -, hfunds, -⟩ | ⟨_, -, -, -, ha⟩
    case inr.inr.inl => exact ⟨amount, hop, hfunds⟩
    all_goals cases ha.symm.trans h
  · rintro ⟨amount, rfl, hfunds⟩
    exact (if_neg (not_le.mpr (lt_of_le_of_lt hx hfunds))).trans (if_pos hfunds)

theorem attempt_eq_pending (hx : 0 ≤ x.pending) :
    (∃ left, x.attempt op = .error (.pending left)) ↔
      ∃ amount, (op = .release amount ∨ op = .settle amount) ∧ x.pending < amount.toRat := by
  constructor
  · rintro ⟨left, h⟩
    rcases attempt_cases x op with ⟨-, ha⟩ | ⟨-, -, ha⟩ | ⟨_, -, -, -, ha⟩ | ⟨amount, hop, -, hpending, -⟩
    case inr.inr.inr => exact ⟨amount, hop, hpending⟩
    all_goals cases ha.symm.trans h
  · rintro ⟨amount, hop, hpending⟩
    have hamount : ¬ amount.toRat ≤ 0 := not_le.mpr (lt_of_le_of_lt hx hpending)
    refine ⟨x.pending - amount.toRat, ?_⟩
    rcases hop with rfl | rfl
    · exact (if_neg hamount).trans (if_pos hpending)
    · exact (if_neg hamount).trans (if_pos hpending)

theorem move_release_move_reserve (x : ExactBalance) (amount : Decimal) :
    (x.move (.reserve amount)).move (.release amount) = x := by
  simp only [move, sub_add_cancel, add_sub_cancel_right]

theorem totalReceived_move_le (x : ExactBalance) (op : LedgerOp) :
    (x.move op).totalReceived ≤ x.totalReceived + credit op := by
  cases op with
  | credit amount => exact add_le_add_right (le_max_right 0 amount.toRat) x.totalReceived
  | reserve amount => exact le_add_of_nonneg_right (credit_nonneg _)
  | release amount => exact le_add_of_nonneg_right (credit_nonneg _)
  | settle amount => exact le_add_of_nonneg_right (credit_nonneg _)

theorem Moderate.tail (h : Moderate s (op :: ops)) : Moderate s ops where
  multipleOf := fun later hlater => h.multipleOf later (List.mem_cons_of_mem _ hlater)
  amount_lt := fun later hlater => h.amount_lt later (List.mem_cons_of_mem _ hlater)

theorem Within.mono {bound bound' : ℚ} (h : x.Within bound) (hle : bound ≤ bound') : x.Within bound' :=
  { h with totalReceived_lt := lt_of_lt_of_le h.totalReceived_lt hle }

namespace Roomy

theorem room (h : Roomy s x (op :: ops)) : x.totalReceived + credit op < 2 ^ 95 / 10 ^ s := by
  have hlt := h.credited_lt
  have hnonneg := credited_nonneg ops
  rw [credited_cons] at hlt
  linarith

theorem move (h : Roomy s x (op :: ops)) (hpositive : 0 < op.amount.toRat)
    (hcovers : ∀ bound, x.totalReceived + credit op < bound → x.Covers bound op) : Roomy s (x.move op) ops where
  onGrid := h.onGrid.move (h.moderate.multipleOf op List.mem_cons_self)
  within := h.within.move hpositive.le (hcovers _ h.room)
  moderate := h.moderate.tail
  credited_lt := by
    have hlt := h.credited_lt
    have hle := totalReceived_move_le x op
    rw [credited_cons] at hlt
    linarith

theorem tail (h : Roomy s x (op :: ops)) : Roomy s x ops where
  onGrid := h.onGrid
  within := h.within
  moderate := h.moderate.tail
  credited_lt := by
    have hlt := h.credited_lt
    have hnonneg := credit_nonneg op
    rw [credited_cons] at hlt
    linarith

theorem next (h : Roomy s x (op :: ops)) : Roomy s (x.next op) ops := by
  unfold ExactBalance.next
  rcases attempt_cases x op with ⟨-, ha⟩ | ⟨hpositive, hcovers, ha⟩ | ⟨_, -, -, -, ha⟩ | ⟨_, -, -, -, ha⟩ <;> rw [ha]
  · exact h.tail
  · exact h.move hpositive hcovers
  · exact h.tail
  · exact h.tail

end Roomy

end ExactBalance

namespace Balance

open ExactBalance

/-- The answer of a balance says what the exact ledger says. -/
inductive Mirrors : Except Fault Balance → Except Refusal ExactBalance → Prop
  | accepted {b : Balance} {x : ExactBalance} (h : b.exact = x) : Mirrors (.ok b) (.ok x)
  | notPositive : Mirrors (.error (.refused .invalidAmount)) (.error .notPositive)
  | funds : Mirrors (.error (.refused .insufficientFunds)) (.error .funds)
  | pending {d : Decimal} {left : ℚ} (h : d.toRat = left) :
      Mirrors (.error (.refused (.ledgerInvariantViolation s!"pending would go negative: {d}")))
        (.error (.pending left))

namespace Mirrors

variable {answer : Except Fault Balance} {exactAnswer : Except Refusal ExactBalance}

theorem invalidAmount_iff (h : Mirrors answer exactAnswer) :
    answer = .error (.refused .invalidAmount) ↔ exactAnswer = .error .notPositive := by
  cases h <;> simp

theorem insufficientFunds_iff (h : Mirrors answer exactAnswer) :
    answer = .error (.refused .insufficientFunds) ↔ exactAnswer = .error .funds := by
  cases h <;> simp

theorem violation_iff (h : Mirrors answer exactAnswer) :
    (∃ reason, answer = .error (.refused (.ledgerInvariantViolation reason))) ↔
      ∃ left, exactAnswer = .error (.pending left) := by
  cases h <;> simp

end Mirrors

variable {s : Nat} {b : Balance} {op : LedgerOp} {ops : List LedgerOp}

theorem apply_of_pending_negative {m : Balance} (now : Instant) (hpositive : op.amount.Positive) (hmoves : b.Moves op m)
    (havailable : Decimal.zero ≤ m.available) (hpending : ¬ Decimal.zero ≤ m.pending) :
    b.apply op now =
      .error (.refused (.ledgerInvariantViolation s!"pending would go negative: {m.pending}")) := by
  rw [apply, check_of hpositive, moved_eq_ok.mpr hmoves]
  simp only [bind, Except.bind, checkSums, check_of havailable, check_of_not hpending]

theorem apply_of_not_funds {amount : Decimal} (now : Instant) (hpositive : amount.Positive)
    (hfunds : ¬ amount ≤ b.available) : b.apply (.reserve amount) now = .error (.refused .insufficientFunds) := by
  rw [apply, LedgerOp.amount, check_of hpositive, moved, check_of_not hfunds]
  rfl

theorem exists_overdrawn (hs : s ≤ 28) (h : Roomy s b.exact (op :: ops)) {amount : Decimal}
    (hop : op = .release amount ∨ op = .settle amount) (hpositive : 0 < amount.toRat) :
    ∃ m, b.Moves op m ∧ 0 ≤ m.available.toRat ∧ m.pending.toRat = b.pending.toRat - amount.toRat := by
  have hwithin := h.within
  have havailable : 0 ≤ b.available.toRat := hwithin.available_nonneg
  have hamount : op.amount = amount := by rcases hop with rfl | rfl <;> rfl
  have hmultiple := h.moderate.multipleOf op List.mem_cons_self
  have hlt := h.moderate.amount_lt op List.mem_cons_self
  rw [hamount] at hmultiple hlt
  rw [abs_of_pos hpositive] at hlt
  have hdouble : (2 ^ 96 / 10 ^ s : ℚ) = 2 ^ 95 / 10 ^ s + 2 ^ 95 / 10 ^ s := by ring
  have sum {q : ℚ} (hq : MultipleOf s q) (hnonneg : 0 ≤ q) (hle : q ≤ b.exact.totalReceived) :
      Representable (q + amount.toRat) := by
    refine (hq.add hmultiple).representable hs ?_
    have := hwithin.totalReceived_lt
    rw [abs_of_pos (by linarith), hdouble]
    linarith
  have difference : Representable (b.pending.toRat - amount.toRat) := by
    refine (h.onGrid.pending.sub hmultiple).representable hs ?_
    have hnonneg : 0 ≤ b.pending.toRat := hwithin.pending_nonneg
    have hle : b.pending.toRat ≤ b.exact.totalReceived := hwithin.pending_le
    have hlt' := hwithin.totalReceived_lt
    rw [hdouble, abs_lt]
    show -(_ + _) < b.pending.toRat - _ ∧ b.pending.toRat - _ < _ + _
    constructor <;> linarith
  obtain ⟨pending, hp, hpv⟩ := sub?_of_representable difference
  rcases hop with rfl | rfl
  · obtain ⟨available, ha, hav⟩ := add?_of_representable (sum h.onGrid.available havailable hwithin.available_le)
    refine ⟨_, ⟨pending, available, hp, ha, rfl⟩, ?_, hpv⟩
    show 0 ≤ available.toRat
    rw [hav]
    exact add_nonneg havailable hpositive.le
  · obtain ⟨totalPaidOut, ht, -⟩ :=
      add?_of_representable (sum h.onGrid.totalPaidOut hwithin.totalPaidOut_nonneg hwithin.totalPaidOut_le)
    exact ⟨_, ⟨pending, totalPaidOut, hp, ht, rfl⟩, havailable, hpv⟩

theorem apply_mirrors (hs : s ≤ 28) (h : Roomy s b.exact (op :: ops)) (now : Instant) :
    Mirrors (b.apply op now) (b.exact.attempt op) := by
  rcases attempt_cases b.exact op with ⟨hamount, ha⟩ | ⟨hpositive, hcovers, ha⟩ | ⟨amount, rfl, hpositive, hfunds, ha⟩ |
    ⟨amount, hop, hpositive, hpending, ha⟩ <;> rw [ha]
  · rw [apply_of_not_positive now (mt positive_iff_toRat.mp (not_lt.mpr hamount))]
    exact .notPositive
  · obtain ⟨next, happly, hexact⟩ := apply_of_within hs now h.onGrid (h.moderate.multipleOf op List.mem_cons_self)
      (positive_iff_toRat.mpr hpositive) ((h.move hpositive hcovers).within.mono (by gcongr <;> norm_num))
    rw [happly]
    exact .accepted hexact
  · have hnot : ¬ amount ≤ b.available := Decimal.not_le.mpr (lt_iff_toRat.mpr hfunds)
    rw [apply_of_not_funds now (positive_iff_toRat.mpr hpositive) hnot]
    exact .funds
  · obtain ⟨m, hm, havailable, hleft⟩ := exists_overdrawn hs h hop hpositive
    have hamount : op.amount = amount := by rcases hop with rfl | rfl <;> rfl
    have hnegative : m.pending < Decimal.zero := by
      rw [lt_iff_toRat, toRat_zero, hleft]
      exact sub_neg.mpr hpending
    rw [apply_of_pending_negative now (hamount ▸ positive_iff_toRat.mpr hpositive) hm
      (by rwa [le_iff_toRat, toRat_zero]) (Decimal.not_le.mpr hnegative)]
    exact .pending hleft

theorem exact_apply (hs : s ≤ 28) (h : Roomy s b.exact (op :: ops)) (now : Instant) :
    (match b.apply op now with
      | .ok next => next
      | .error _ => b).exact = b.exact.next op := by
  have hmirrors := apply_mirrors hs h now
  unfold ExactBalance.next
  revert hmirrors
  generalize b.apply op now = answer
  generalize b.exact.attempt op = exactAnswer
  rintro (hexact | - | - | -)
  · exact hexact
  all_goals rfl

/-- After a series of movements the row still shows the exact numbers, and there is room for the movements to come. -/
theorem exact_after (hs : s ≤ 28) {done : List (LedgerOp × Instant)} (h : Roomy s b.exact (done.map Prod.fst ++ ops)) :
    (b.after done).exact = b.exact.run (done.map Prod.fst) ∧ Roomy s (b.after done).exact ops := by
  induction done generalizing b with
  | nil => exact ⟨rfl, h⟩
  | cons step done ih =>
    obtain ⟨op, now⟩ := step
    have hexact := exact_apply hs h now
    have hnext := h.next
    rw [List.map_cons, run, List.foldl_cons, after]
    rw [← hexact] at hnext ⊢
    cases happly : b.apply op now with
    | ok next =>
      simp only [happly] at hnext ⊢
      exact ih hnext
    | error fault =>
      simp only [happly] at hnext ⊢
      exact ih hnext

theorem release_of_reserve (hs : s ≤ 28) {amount : Decimal} (h : Roomy s b.exact (.reserve amount :: ops))
    {now : Instant} {next : Balance} (hnext : b.apply (.reserve amount) now = .ok next) (later : Instant) :
    ∃ back, next.apply (.release amount) later = .ok back ∧ back.exact = b.exact := by
  have hmirrors := apply_mirrors hs h now
  rw [hnext] at hmirrors
  rcases attempt_cases b.exact (.reserve amount) with
    ⟨-, ha⟩ | ⟨hpositive, -, ha⟩ | ⟨_, -, -, -, ha⟩ | ⟨_, -, -, -, ha⟩ <;> rw [ha] at hmirrors <;> cases hmirrors
  case inr.inl.accepted hexact =>
    have hmultiple := h.moderate.multipleOf _ List.mem_cons_self
    have hundone := move_release_move_reserve b.exact amount
    rw [← hexact] at hundone
    have hwithin : (next.exact.move (.release amount)).Within (2 ^ 96 / 10 ^ s) :=
      hundone ▸ h.within.mono (by gcongr <;> norm_num)
    obtain ⟨back, hback, hvalue⟩ : ∃ back, next.apply (.release amount) later = .ok back ∧
        back.exact = next.exact.move (.release amount) :=
      apply_of_within hs later (hexact ▸ h.onGrid.move hmultiple) hmultiple (positive_iff_toRat.mpr hpositive) hwithin
    exact ⟨back, hback, hvalue.trans hundone⟩

/-- As long as the amounts are moderate, a fresh row answers each movement of a series as the ledger of exact numbers
does and shows its numbers. It refuses what is not positive, what is not available, and what is not pending, and
nothing else; and a reservation can be taken back. -/
theorem fresh_row_simulates_exact_ledger (merchant : MerchantId) (start : Instant) (hs : s ≤ 28)
    {moves : List (LedgerOp × Instant)} (hmoderate : Moderate s (moves.map Prod.fst))
    (hcredited : credited (moves.map Prod.fst) < 2 ^ 95 / 10 ^ s) {done : List (LedgerOp × Instant)} {now : Instant}
    (hinitial : done ++ [(op, now)] <+: moves) :
    let b := (Balance.opened merchant start).after done
    let x := ExactBalance.zero.run (done.map Prod.fst)
    b.exact = x ∧ Mirrors (b.apply op now) (x.attempt op) ∧
      (b.apply op now = .error (.refused .invalidAmount) ↔ op.amount.toRat ≤ 0) ∧
      (b.apply op now = .error (.refused .insufficientFunds) ↔
        ∃ amount, op = .reserve amount ∧ x.available < amount.toRat) ∧
      ((∃ reason, b.apply op now = .error (.refused (.ledgerInvariantViolation reason))) ↔
        ∃ amount, (op = .release amount ∨ op = .settle amount) ∧ x.pending < amount.toRat) ∧
      ∀ amount next later, op = .reserve amount → b.apply op now = .ok next →
        ∃ back, next.apply (.release amount) later = .ok back ∧ back.exact = x := by
  intro b x
  obtain ⟨rest, hrest⟩ := hinitial
  have hsplit : done.map Prod.fst ++ op :: rest.map Prod.fst = moves.map Prod.fst := by
    rw [← hrest]
    simp
  have hroomy : Roomy s (Balance.opened merchant start).exact (done.map Prod.fst ++ op :: rest.map Prod.fst) := by
    refine ⟨?_, ?_, ?_, ?_⟩
    · constructor <;> simp only [Balance.exact, Balance.opened, toRat_zero] <;> exact MultipleOf.zero s
    · constructor <;> simp [Balance.exact, Balance.opened]
    · rw [hsplit]
      exact hmoderate
    · rw [hsplit]
      simpa [Balance.exact, Balance.opened] using hcredited
  obtain ⟨hexact, hafter⟩ := exact_after hs hroomy
  have hstart : (Balance.opened merchant start).exact = ExactBalance.zero := by
    simp [Balance.exact, Balance.opened, ExactBalance.zero]
  rw [hstart] at hexact
  have hmirrors := apply_mirrors hs hafter now
  have hwithin := hafter.within
  change b.exact = x at hexact
  rw [hexact] at hmirrors hwithin
  refine ⟨hexact, hmirrors, hmirrors.invalidAmount_iff.trans attempt_eq_notPositive,
    hmirrors.insufficientFunds_iff.trans (attempt_eq_funds hwithin.available_nonneg),
    hmirrors.violation_iff.trans (attempt_eq_pending hwithin.pending_nonneg), ?_⟩
  rintro amount next later rfl hnext
  rw [← hexact]
  exact release_of_reserve hs hafter hnext later

/-- Half of ten is reserved, and then seven and a half cannot be paid out. -/
theorem settlement_above_pending_refused :
    ∃ reason, ((Balance.opened ⟨0⟩ .epoch).after
      [(.credit (.ofParts 1000 2), .epoch), (.reserve (.ofParts 5 0), .epoch)]).apply (.settle (.ofParts 75 1)) .epoch =
        .error (.refused (.ledgerInvariantViolation reason)) := by
  have hten : (ofParts 1000 2).toRat = 10 := by norm_num [toRat, ofParts]
  have hfive : (ofParts 5 0).toRat = 5 := by norm_num [toRat, ofParts]
  have hmore : (ofParts 75 1).toRat = 15 / 2 := by norm_num [toRat, ofParts]
  let moves : List (LedgerOp × Instant) :=
    [(.credit (.ofParts 1000 2), .epoch), (.reserve (.ofParts 5 0), .epoch), (.settle (.ofParts 75 1), .epoch)]
  have hmoderate : Moderate 2 (moves.map Prod.fst) := by
    constructor
    · simp only [moves, List.map_cons, List.map_nil, List.forall_mem_cons, LedgerOp.amount]
      exact ⟨⟨1000, rfl⟩, ⟨500, by rw [hfive]; norm_num⟩, ⟨750, by rw [hmore]; norm_num⟩, List.forall_mem_nil _⟩
    · simp only [moves, List.map_cons, List.map_nil, List.forall_mem_cons, LedgerOp.amount, hten, hfive, hmore]
      norm_num
  have hcredited : credited (moves.map Prod.fst) < 2 ^ 95 / 10 ^ 2 := by
    simp only [moves, List.map_cons, List.map_nil, credited, credit, hten]
    norm_num
  have hmoves : [(.credit (.ofParts 1000 2), .epoch), (.reserve (.ofParts 5 0), .epoch)] ++
      [(.settle (.ofParts 75 1), .epoch)] <+: moves := List.prefix_refl _
  obtain ⟨-, -, -, -, hviolation, -⟩ :=
    fresh_row_simulates_exact_ledger ⟨0⟩ .epoch (by decide) hmoderate hcredited hmoves
  refine hviolation.mpr ⟨_, .inr rfl, ?_⟩
  simp only [List.map_cons, List.map_nil, run, List.foldl_cons, List.foldl_nil, ExactBalance.next, attempt,
    LedgerOp.amount, ExactBalance.move, ExactBalance.zero, hten, hfive, hmore]
  norm_num

end Balance
end Settlement
