import Settlement.Arguments
import Settlement.Proofs.Replay.Statement

/-! How far a replay depends on the moment at which it starts. Deadlines do not: they move along with the clock. The limits
of merchants do, as they are kept by calendar days and months: two replays of a log give one statement if the days and
months that limits refer to divide its rows alike. -/
namespace Settlement

theorem Instant.ofParts?_eq_some {second : Int} {nano : Nat} {d : Instant} (h : ofParts? second nano = some d) :
    d.second = second ∧ d.nano = nano := by
  unfold ofParts? at h
  split at h
  · cases h
    exact ⟨rfl, rfl⟩
  · cases h

theorem Instant.plusSeconds?_eq_some {t d : Instant} {seconds : Int} (common : t.nano < 1000000000)
    (h : t.plusSeconds? seconds = some d) : d.second = t.second + seconds ∧ d.nano = t.nano := by
  unfold plusSeconds? at h
  split at h
  · cases h
  split at h
  · cases h
    exact ⟨by omega, rfl⟩
  split at h
  all_goals
    obtain ⟨hsecond, hnano⟩ := ofParts?_eq_some h
    exact ⟨by omega, by omega⟩

theorem rel_of_isSome {α β : Type} {R : α → β → Prop} {x : Option α} {y : Option β} (hsome : y.isSome = x.isSome)
    (h : ∀ {a b}, x = some a → y = some b → R a b) : Option.Rel R x y := by
  cases x <;> cases y
  case none.none => exact .none
  case some.some => exact .some (h rfl rfl)
  all_goals cases hsome

namespace Replay

structure Stop where
  row : LogRow
  clock : Instant
  clock' : Instant

/-- The way of two clocks through a log. -/
def course (clock clock' : Instant) : List LogRow → List Stop
  | [] => []
  | row :: rest => ⟨row, clock, clock'⟩ :: course (row.tick clock) (row.tick clock') rest

/-- The row checks or counts the volume of a merchant. -/
def Stop.Counts (s : Stop) : Prop := s.row.operation = "invoice" ∨ s.row.operation = "observe"

instance (s : Stop) : Decidable s.Counts := inferInstanceAs (Decidable (_ ∨ _))

/-- Such rows are on one day by one clock if they are by the other. -/
def SameDays (stops : List Stop) : Prop :=
  ∀ s ∈ stops, s.Counts → ∀ t ∈ stops, t.Counts → (s.clock'.day = t.clock'.day ↔ s.clock.day = t.clock.day)

/-- Such rows are in one month by one clock if they are by the other. -/
def SameMonths (stops : List Stop) : Prop :=
  ∀ s ∈ stops, s.Counts → ∀ t ∈ stops, t.Counts →
    (s.clock'.day.SameMonth t.clock'.day ↔ s.clock.day.SameMonth t.clock.day)

instance (stops : List Stop) : Decidable (SameDays stops) :=
  inferInstanceAs (Decidable (∀ s ∈ stops, s.Counts → ∀ t ∈ stops, t.Counts → _))

instance (stops : List Stop) : Decidable (SameMonths stops) :=
  inferInstanceAs (Decidable (∀ s ∈ stops, s.Counts → ∀ t ∈ stops, t.Counts → _))

/-- Two clocks that go through a log alike. Both start in a common second, the calendar reaches as far for both, and what
a tier is limited by divides the rows alike. -/
structure Parallel (config : SettlementConfig) (tier : KycTier) (start start' : Instant) (stops : List Stop) : Prop where
  common : start.nano < 1000000000
  common' : start'.nano < 1000000000
  sweeps : ∀ s ∈ stops, s.row.operation = "sweep" →
    (s.clock'.plusSeconds? s.row.span).isSome = (s.clock.plusSeconds? s.row.span).isSome
  deadlines : ∀ s ∈ stops, s.row.operation = "invoice" →
    (config.paymentTtl?.bind s.clock'.plusSeconds?).isSome = (config.paymentTtl?.bind s.clock.plusSeconds?).isSome
  days : (config.tiers.limits tier).daily.isSome → SameDays stops
  months : (config.tiers.limits tier).monthly.isSome → SameMonths stops

variable {config : SettlementConfig} {tier : KycTier} {start start' t t' u u' : Instant} {seconds : Int}
  {rows : List LogRow} {π : Comparison} {r r' : Replay}

theorem row_mem_of_mem_course {s : Stop} (h : s ∈ course t t' rows) : s.row ∈ rows := by
  induction rows generalizing t t' with
  | nil => cases h
  | cons row rest ih =>
    cases h with
    | head => exact List.mem_cons_self
    | tail _ h => exact List.mem_cons_of_mem _ (ih h)

/-! ## Shifted clocks -/

/-- The readings are as far from each other as the starts are, and in no leap second. -/
structure Shifted (start start' t t' : Instant) : Prop where
  distance : t'.second - t.second = start'.second - start.second
  nano : t.nano = start.nano
  nano' : t'.nano = start'.nano

theorem Shifted.lt_iff (h : Shifted start start' t t') (hu : Shifted start start' u u') : t' < u' ↔ t < u := by
  have hfirst := h.distance
  have hsecond := hu.distance
  rw [Instant.lt_iff, Instant.lt_iff, h.nano, h.nano', hu.nano, hu.nano']
  omega

theorem Shifted.plusSeconds (h : Shifted start start' t t') (common : start.nano < 1000000000)
    (common' : start'.nano < 1000000000) (hu : t.plusSeconds? seconds = some u)
    (hu' : t'.plusSeconds? seconds = some u') : Shifted start start' u u' := by
  obtain ⟨hsecond, hnano⟩ := Instant.plusSeconds?_eq_some (h.nano ▸ common) hu
  obtain ⟨hsecond', hnano'⟩ := Instant.plusSeconds?_eq_some (h.nano' ▸ common') hu'
  have hdistance := h.distance
  exact ⟨by omega, hnano.trans h.nano, hnano'.trans h.nano'⟩

/-- Replays that start at two times are compared at the rows of their log. -/
def comparison (tier : KycTier) (start start' : Instant) (rows : List LogRow) : Comparison where
  paired := Shifted start start'
  counted t t' := ∃ s ∈ course start start' rows, s.Counts ∧ s.clock = t ∧ s.clock' = t'
  daily := SameDays (course start start' rows)
  monthly := SameMonths (course start start' rows)
  quoted := Names rows
  tier
  days := by
    rintro h _ _ _ _ ⟨s, hs, hcounts, rfl, rfl⟩ ⟨t, ht, htcounts, rfl, rfl⟩
    exact h s hs hcounts t ht htcounts
  months := by
    rintro h _ _ _ _ ⟨s, hs, hcounts, rfl, rfl⟩ ⟨t, ht, htcounts, rfl, rfl⟩
    exact h s hs hcounts t ht htcounts

theorem Parallel.permits (h : Parallel config tier start start' (course start start' rows)) {s : Stop}
    (hs : s ∈ course start start' rows) (shifted : Shifted start start' s.clock s.clock') :
    Permits (comparison tier start start' rows) config s.row s.clock s.clock' where
  quoted := ⟨s.row, row_mem_of_mem_course hs, rfl⟩
  counted asks := ⟨s, hs, asks, rfl, rfl⟩
  deadline asks := by
    refine rel_of_isSome (h.deadlines s hs asks) fun {d d'} hd hd' {t t'} (ht : Shifted start start' t t') => ?_
    obtain ⟨ttl, httl, hd⟩ := Option.bind_eq_some_iff.mp hd
    rw [httl] at hd'
    exact (shifted.plusSeconds h.common h.common' hd hd').lt_iff ht
  sweep asks := rel_of_isSome (h.sweeps s hs asks) fun hu hu' => shifted.plusSeconds h.common h.common' hu hu'

/-! ## Runs -/

theorem Agrees.ends (h : r.Agrees π r') (ready : r.Ready π.quoted (3 * rows.length))
    (ready' : r'.Ready π.quoted (3 * rows.length))
    (permits : ∀ s ∈ course r.clock r'.clock rows, π.paired s.clock s.clock' →
      Permits π r.engine.config s.row s.clock s.clock') : Ends π (r.carryOut rows) (r'.carryOut rows) := by
  induction rows generalizing r r' with
  | nil => exact .both h
  | cons row rest ih =>
    have hpermits : Permits π r.engine.config row r.clock r'.clock := permits _ List.mem_cons_self h.clocks
    have hframed := framed_apply row r
    have hframed' := framed_apply row r'
    obtain ⟨survives, survives', agrees⟩ | ⟨full, full'⟩ | ⟨lax, full⟩ := (h.apply ready ready' hpermits).cases
    · rw [carryOut_of_ne_overflow survives, carryOut_of_ne_overflow survives']
      refine ih agrees (ready.apply hpermits.quoted) (ready'.apply hpermits.quoted) fun s hs => ?_
      rw [hframed.clock, hframed'.clock] at hs
      rw [hframed.config]
      exact permits s (List.mem_cons_of_mem _ hs)
    · rw [carryOut_of_overflow full, carryOut_of_overflow full']
      exact .neither
    · exact .parted lax (full.imp carryOut_of_overflow carryOut_of_overflow)

/-- What is printed of a log does not depend on the moment at which the replay starts, nor on the identifiers that it draws,
as far as clocks that start there go through the log alike. It is the same if both replays get through; and if all
volumes are counted alike, one gets through if the other one does. -/
theorem printed_reproducible {config : SettlementConfig} (rate usdRate : Decimal) {tier : KycTier} {log : String}
    {start start' : Instant} {supply supply' : Uuid.Supply} (fresh : FreshFor (rowsOf log) supply)
    (fresh' : FreshFor (rowsOf log) supply')
    (parallel : Parallel config tier start start' (course start start' (rowsOf log))) :
    (∀ text ∈ printed config rate usdRate tier log start supply,
      ∀ text' ∈ printed config rate usdRate tier log start' supply', text' = text) ∧
    (SameDays (course start start' (rowsOf log)) → SameMonths (course start start' (rowsOf log)) →
      printed config rate usdRate tier log start' supply' = printed config rate usdRate tier log start supply) := by
  have hends : Ends (comparison tier start start' (rowsOf log))
      ((opened config rate usdRate tier start supply).carryOut (rowsOf log))
      ((opened config rate usdRate tier start' supply').carryOut (rowsOf log)) := by
    have hagrees : Agrees (comparison tier start start' (rowsOf log)) (opened config rate usdRate tier start supply)
        (opened config rate usdRate tier start' supply') :=
      agrees_opened config rate usdRate start start' supply supply' ⟨rfl, rfl, rfl⟩ parallel.days parallel.months
    exact hagrees.ends (fresh.ready ..) (fresh'.ready ..) fun s hs shifted => parallel.permits hs shifted
  rw [printed_eq, printed_eq]
  generalize hrun : (opened config rate usdRate tier start supply).carryOut (rowsOf log) = run at hends
  generalize hrun' : (opened config rate usdRate tier start' supply').carryOut (rowsOf log) = run' at hends
  cases hends with
  | both agrees =>
    have hstatement := agrees.statement_eq fun label => by rw [mem_keys_carryOut hrun, mem_keys_carryOut hrun']; rfl
    refine ⟨?_, fun _ _ => congrArg some hstatement⟩
    rintro _ ⟨⟩ _ ⟨⟩
    exact hstatement
  | neither => exact ⟨nofun, fun _ _ => rfl⟩
  | parted lax h =>
    refine ⟨?_, fun hdays hmonths => absurd ⟨hdays, hmonths⟩ lax⟩
    rcases h with rfl | rfl
    · exact nofun
    · exact fun _ _ => nofun

def twoInvoices : String :=
  "type,merchant,reference,amount,depth,finalized,actor,detail\n" ++
  "invoice,cafe,ORD-1,50000000,,,,\n" ++
  "observe,,ORD-1,2000,20,true,T,0x1\n" ++
  "sweep,,,60,,,,\n" ++
  "invoice,cafe,ORD-2,50000000,,,,\n" ++
  "observe,,ORD-2,2000,20,true,T,0x2\n"

theorem rowsOf_twoInvoices : rowsOf twoInvoices =
    [⟨"invoice", "cafe", "ORD-1", some (.ofNat 50000000), none, none, "", ""⟩,
      ⟨"observe", "", "ORD-1", some (.ofNat 2000), some 20, some true, "T", "0x1"⟩,
      ⟨"sweep", "", "", some (.ofNat 60), none, none, "", ""⟩,
      ⟨"invoice", "cafe", "ORD-2", some (.ofNat 50000000), none, none, "", ""⟩,
      ⟨"observe", "", "ORD-2", some (.ofNat 2000), some 20, some true, "T", "0x2"⟩] := by
  decide +kernel

def printedOfTwo (start : Instant) (supply : Uuid.Supply) : Option String :=
  printed .default Arguments.defaultRate (.ofNat 1000000) .basic twoInvoices start supply

def noon : Instant := ⟨1704110400, 0, by decide, by decide, .inl (by decide)⟩

def lateEvening : Instant := ⟨1704153570, 0, by decide, by decide, .inl (by decide)⟩

theorem printedOfTwo_noon : printedOfTwo noon (.seeded 1) =
    some "merchant,available,pending,total_received,total_paid_out\ncafe,49500000,0,49500000,0\n" := by
  rw [printedOfTwo, printed_eq, rowsOf_twoInvoices]
  decide +kernel

/-- On another day at noon the same is printed. -/
theorem printed_at_both_noons : printedOfTwo ⟨1712750400, 0, by decide, by decide, .inl (by decide)⟩ (.seeded 2) =
    some "merchant,available,pending,total_received,total_paid_out\ncafe,49500000,0,49500000,0\n" := by
  rw [← printedOfTwo_noon]
  refine (printed_reproducible _ _ (.of_unlike ?_ ?_) (.of_unlike ?_ ?_) ?_).2 ?_ ?_ <;> rw [rowsOf_twoInvoices]
  case refine_5 =>
    exact ⟨by decide, by decide, by decide +kernel, by decide +kernel, fun _ => by decide +kernel,
      fun _ => by decide +kernel⟩
  all_goals decide +kernel

/-- When midnight comes between the two invoices, both are within the limit of their days. -/
theorem printed_differs_around_midnight : printedOfTwo lateEvening (.seeded 1) ≠ printedOfTwo noon (.seeded 1) := by
  have hlate : printedOfTwo lateEvening (.seeded 1) =
      some "merchant,available,pending,total_received,total_paid_out\ncafe,99000000,0,99000000,0\n" := by
    rw [printedOfTwo, printed_eq, rowsOf_twoInvoices]
    decide +kernel
  rw [hlate, printedOfTwo_noon]
  decide

end Replay
end Settlement
