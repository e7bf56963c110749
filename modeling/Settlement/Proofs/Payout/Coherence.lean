import Settlement.Engine.Payouts
import Settlement.Proofs.Payout.Life
import Settlement.Proofs.Time.Order

/-! Which fields of a payout are set in which status, and in which order its times are. Every action, and
the link to a retry, keeps both. -/
namespace Settlement
namespace Text

/-- The text is not blank, and has no white space around it. -/
structure Tidy (s : String) : Prop where
  text : isBlankString s = false
  first : ∀ c ∈ s.toList.head?, isBlank c = false
  last : ∀ c ∈ s.toList.getLast?, isBlank c = false

theorem isBlank_head?_trimStart (cs : List Char) : ∀ c ∈ (trimStart cs).head?, isBlank c = false := by
  intro c hc
  have hhead := List.head?_dropWhile_not isBlank cs
  rw [show (cs.dropWhile isBlank).head? = some c from hc] at hhead
  exact hhead

/-- What remains of a text starts as the text does without the white space in front. -/
theorem trim_prefix (cs : List Char) : trim cs <+: trimStart cs := by
  have hsuffix : trimStart (trimStart cs).reverse <:+ (trimStart cs).reverse := List.dropWhile_suffix _
  rw [trim, ← List.reverse_suffix, List.reverse_reverse]
  exact hsuffix

theorem tidy_trimString {s : String} (h : isBlankString s = false) : Tidy (trimString s) := by
  have htrim : trim s.toList ≠ [] := by
    rw [Ne, trim_eq_nil, Bool.not_eq_true]
    exact h
  have hfirst : ∀ c ∈ (trim s.toList).head?, isBlank c = false := by
    obtain ⟨rest, hrest⟩ := trim_prefix s.toList
    intro c hc
    refine isBlank_head?_trimStart s.toList c ?_
    rw [← hrest, List.head?_append, show (trim s.toList).head? = some c from hc]
    rfl
  refine ⟨?_, ?_, ?_⟩
  · rw [isBlankString, trimString, String.toList_ofList]
    obtain ⟨c, rest, hcons⟩ := List.exists_cons_of_ne_nil htrim
    rw [hcons, List.all_cons, hfirst c (by rw [hcons]; rfl), Bool.false_and]
  · rw [trimString, String.toList_ofList]
    exact hfirst
  · rw [trimString, String.toList_ofList, trim, List.getLast?_reverse]
    exact isBlank_head?_trimStart _

end Text

namespace Payout

variable {p q : Payout} {minimum : Decimal} {actor : ActorId} {action : PayoutAction} {now : Instant}

/-- Each of the fields is set exactly in these statuses. -/
def SetIn (p : Payout) (statuses : List PayoutStatus) (fields : List Bool) : Prop :=
  ∀ field ∈ fields, field = true ↔ p.status ∈ statuses

/-- The payout is one that can be asked for. -/
structure Valid (minimum : Decimal) (p : Payout) : Prop where
  bank : p.bank.validate = .ok ()
  positive : p.amount.Positive
  enough : minimum ≤ p.amount

/-- The fields of a valid payout agree with its status. -/
structure Coherent (minimum : Decimal) (p : Payout) : Prop where
  valid : p.Valid minimum
  approval : p.SetIn [.approved, .processing, .completed, .failed] [p.approvedBy.isSome, p.approvedAt.isSome]
  rejection : p.SetIn [.rejected] [p.rejectedBy.isSome, p.rejectedAt.isSome, p.rejectionReason.isSome]
  completion : p.SetIn [.completed] [p.completedAt.isSome, p.bankReference.isSome]
  failure : p.SetIn [.failed] [p.failedAt.isSome, p.failureReason.isSome]
  processor : p.SetIn [.processing, .completed, .failed] [p.processedBy.isSome]
  processed : p.status ∈ [.processing, .completed] → p.processedAt.isSome
  processed_only : p.processedAt.isSome → p.status ∈ [.processing, .completed, .failed]
  tidy : ∀ text ∈ p.bankReference.toList ++ p.rejectionReason.toList ++ p.failureReason.toList, Text.Tidy text
  resubmitted : p.resubmittedAs.isSome → p.status = .failed

section

variable {source target : PayoutStatus} {statuses : List PayoutStatus} {fields : List Bool}

theorem SetIn.keep (h : p.SetIn statuses fields) (moved : p.status = source ∧ q.status = target)
    (same : source ∈ statuses ↔ target ∈ statuses) : q.SetIn statuses fields := by
  obtain ⟨rfl, rfl⟩ := moved
  exact fun field hfield => (h field hfield).trans same

theorem SetIn.set (moved : p.status = source ∧ q.status = target) (reached : target ∈ statuses)
    (set : ∀ field ∈ fields, field = true) : q.SetIn statuses fields := by
  obtain ⟨-, rfl⟩ := moved
  exact fun field hfield => iff_of_true (set field hfield) reached

end

theorem SetIn.eq_none {statuses : List PayoutStatus} {fields : List Bool} {α : Type} {field : Option α}
    (h : p.SetIn statuses fields) (hfield : field.isSome ∈ fields) (other : p.status ∉ statuses) : field = none := by
  rw [← Option.not_isSome_iff_eq_none]
  exact fun hset => other ((h _ hfield).mp hset)

theorem Coherent.unprocessed (h : p.Coherent minimum) (early : p.status ∉ [.processing, .completed, .failed]) :
    p.processedAt = none := by
  rw [← Option.not_isSome_iff_eq_none]
  exact fun hset => early (h.processed_only hset)

theorem Coherent.unlinked (h : p.Coherent minimum) (unfailed : p.status ≠ .failed) : p.resubmittedAs = none := by
  rw [← Option.not_isSome_iff_eq_none]
  exact fun hset => unfailed (h.resubmitted hset)

theorem not_mem_of_open (alive : p.status.isTerminal = false) :
    p.status ∉ [.completed] ∧ p.status ∉ [.rejected] ∧ p.status ∉ [.failed] := by
  revert alive
  cases p.status <;> decide

theorem Coherent.texts_of_open (h : p.Coherent minimum) (alive : p.status.isTerminal = false) :
    p.bankReference = none ∧ p.rejectionReason = none ∧ p.failureReason = none := by
  obtain ⟨hcompleted, hrejected, hfailed⟩ := not_mem_of_open alive
  exact ⟨h.completion.eq_none (by simp) hcompleted, h.rejection.eq_none (by simp) hrejected,
    h.failure.eq_none (by simp) hfailed⟩

theorem Coherent.times_of_open (h : p.Coherent minimum) (alive : p.status.isTerminal = false) :
    p.completedAt = none ∧ p.rejectedAt = none ∧ p.failedAt = none := by
  obtain ⟨hcompleted, hrejected, hfailed⟩ := not_mem_of_open alive
  exact ⟨h.completion.eq_none (by simp) hcompleted, h.rejection.eq_none (by simp) hrejected,
    h.failure.eq_none (by simp) hfailed⟩

/-! ## Actions -/

theorem Coherent.acts (h : p.Coherent minimum) {moved : Payout × PayoutTransition}
    (hacts : p.Acts actor now action moved) : moved.1.Coherent minimum := by
  obtain ⟨bank, positive, enough⟩ := h.valid
  cases hacts with
  | repeated => exact h
  | approve hs =>
    obtain ⟨hbank, hrejection, hfailure⟩ := h.texts_of_open (by rw [hs]; rfl)
    have hunprocessed := h.unprocessed (by rw [hs]; decide)
    have hunlinked := h.unlinked (by rw [hs]; decide)
    have hmoved : p.status = .requested ∧ PayoutStatus.approved = .approved := ⟨hs, rfl⟩
    exact
      { valid := ⟨bank, positive, enough⟩
        approval := .set hmoved (by decide) (by simp [move])
        rejection := h.rejection.keep hmoved (by decide)
        completion := h.completion.keep hmoved (by decide)
        failure := h.failure.keep hmoved (by decide)
        processor := h.processor.keep hmoved (by decide)
        processed := by simp [move]
        processed_only := by simp [move, hunprocessed]
        tidy := by simp [move, hbank, hrejection, hfailure]
        resubmitted := by simp [move, hunlinked] }
  | startProcessing hs =>
    obtain ⟨hbank, hrejection, hfailure⟩ := h.texts_of_open (by rw [hs]; rfl)
    have hunlinked := h.unlinked (by rw [hs]; decide)
    have hmoved : p.status = .approved ∧ PayoutStatus.processing = .processing := ⟨hs, rfl⟩
    exact
      { valid := ⟨bank, positive, enough⟩
        approval := h.approval.keep hmoved (by decide)
        rejection := h.rejection.keep hmoved (by decide)
        completion := h.completion.keep hmoved (by decide)
        failure := h.failure.keep hmoved (by decide)
        processor := .set hmoved (by decide) (by simp [move, processing])
        processed := fun _ => rfl
        processed_only := by simp [move]
        tidy := by simp [move, processing, hbank, hrejection, hfailure]
        resubmitted := by simp [move, processing, hunlinked] }
  | skip hs named =>
    obtain ⟨-, hrejection, hfailure⟩ := h.texts_of_open (by rw [hs]; rfl)
    have hunlinked := h.unlinked (by rw [hs]; decide)
    have hmoved : p.status = .approved ∧ PayoutStatus.completed = .completed := ⟨hs, rfl⟩
    exact
      { valid := ⟨bank, positive, enough⟩
        approval := h.approval.keep hmoved (by decide)
        rejection := h.rejection.keep hmoved (by decide)
        completion := .set hmoved (by decide) (by simp [move])
        failure := h.failure.keep hmoved (by decide)
        processor := .set hmoved (by decide) (by simp [move, processing])
        processed := fun _ => rfl
        processed_only := by simp [move]
        tidy := by simp [move, processing, hrejection, hfailure, Text.tidy_trimString named]
        resubmitted := by simp [move, processing, hunlinked] }
  | complete hs named =>
    obtain ⟨-, hrejection, hfailure⟩ := h.texts_of_open (by rw [hs]; rfl)
    have hunlinked := h.unlinked (by rw [hs]; decide)
    have hprocessed := h.processed (by rw [hs]; decide)
    have hmoved : p.status = .processing ∧ PayoutStatus.completed = .completed := ⟨hs, rfl⟩
    exact
      { valid := ⟨bank, positive, enough⟩
        approval := h.approval.keep hmoved (by decide)
        rejection := h.rejection.keep hmoved (by decide)
        completion := .set hmoved (by decide) (by simp [move])
        failure := h.failure.keep hmoved (by decide)
        processor := h.processor.keep hmoved (by decide)
        processed := fun _ => hprocessed
        processed_only := by simp [move]
        tidy := by simp [move, hrejection, hfailure, Text.tidy_trimString named]
        resubmitted := by simp [move, hunlinked] }
  | reject hs named =>
    obtain ⟨hbank, -, hfailure⟩ := h.texts_of_open (by rw [hs]; rfl)
    have hunprocessed := h.unprocessed (by rw [hs]; decide)
    have hunlinked := h.unlinked (by rw [hs]; decide)
    have hmoved : p.status = .requested ∧ PayoutStatus.rejected = .rejected := ⟨hs, rfl⟩
    exact
      { valid := ⟨bank, positive, enough⟩
        approval := h.approval.keep hmoved (by decide)
        rejection := .set hmoved (by decide) (by simp [move])
        completion := h.completion.keep hmoved (by decide)
        failure := h.failure.keep hmoved (by decide)
        processor := h.processor.keep hmoved (by decide)
        processed := by simp [move]
        processed_only := by simp [move, hunprocessed]
        tidy := by simp [move, hbank, hfailure, Text.tidy_trimString named]
        resubmitted := by simp [move, hunlinked] }
  | fail hs named =>
    have alive : p.status.isTerminal = false := by obtain hs | hs := hs <;> rw [hs] <;> rfl
    obtain ⟨hbank, hrejection, -⟩ := h.texts_of_open alive
    obtain hmoved | hmoved : p.status = .approved ∧ PayoutStatus.failed = .failed ∨
        p.status = .processing ∧ PayoutStatus.failed = .failed := by
      exact hs.imp (⟨·, rfl⟩) (⟨·, rfl⟩)
    all_goals exact
      { valid := ⟨bank, positive, enough⟩
        approval := h.approval.keep hmoved (by decide)
        rejection := h.rejection.keep hmoved (by decide)
        completion := h.completion.keep hmoved (by decide)
        failure := .set hmoved (by decide) (by simp [move])
        processor := .set hmoved (by decide) (by simp [move])
        processed := by simp [move]
        processed_only := by simp [move]
        tidy := by simp [move, hbank, hrejection, Text.tidy_trimString named]
        resubmitted := fun _ => rfl }

theorem Coherent.linked (h : p.Coherent minimum) (failed : p.status = .failed) (retry : PayoutId) (now : Instant) :
    (p.linked retry now).Coherent minimum where
  valid := ⟨h.valid.bank, h.valid.positive, h.valid.enough⟩
  approval := h.approval
  rejection := h.rejection
  completion := h.completion
  failure := h.failure
  processor := h.processor
  processed := h.processed
  processed_only := h.processed_only
  tidy := h.tidy
  resubmitted := fun _ => failed

theorem coherent_of_validate {config : SettlementConfig} {request : PayoutRequest} {fee : Exchange.FeeBreakdown}
    (valid : request.validate config = .ok fee) (id : PayoutId) (retry : Option Retry) (now : Instant) :
    (request.payout id fee retry now).Coherent config.minimumPayout := by
  simp only [PayoutRequest.validate, bind_eq_ok, check_eq_ok] at valid
  obtain ⟨_, positive, _, enough, ⟨⟩, bank, -⟩ := valid
  have hvalid : (request.payout id fee retry now).Valid config.minimumPayout := ⟨bank, positive, enough⟩
  refine ⟨hvalid, ?_, ?_, ?_, ?_, ?_, ?_, ?_, ?_, ?_⟩ <;> simp [SetIn, PayoutRequest.payout]

/-! ## Times -/

/-- When the payout was requested, approved, processed, completed, failed and rejected. -/
def timeline (p : Payout) : Timeline :=
  ⟨p.requestedAt :: (p.approvedAt.toList ++ p.processedAt.toList ++ p.completedAt.toList ++ p.failedAt.toList ++
    p.rejectedAt.toList), p.updatedAt⟩

theorem extends_linked (p : Payout) (retry : PayoutId) (now : Instant) :
    p.timeline.Extends now (p.linked retry now).timeline := Timeline.extends_of_changed rfl rfl

theorem Coherent.extends_acts (h : p.Coherent minimum) {moved : Payout × PayoutTransition}
    (hacts : p.Acts actor now action moved) : p.timeline.Extends now moved.1.timeline := by
  cases hacts with
  | repeated => exact .inl rfl
  | approve hs =>
    obtain ⟨hcompleted, hrejected, hfailed⟩ := h.times_of_open (by rw [hs]; rfl)
    have hunprocessed := h.unprocessed (by rw [hs]; decide)
    have hunapproved : p.approvedAt = none := h.approval.eq_none (by simp) (by rw [hs]; decide)
    refine .inr ⟨rfl, [now], ?_, by simp⟩
    simp [timeline, move, hcompleted, hfailed, hrejected, hunprocessed, hunapproved]
  | startProcessing hs =>
    obtain ⟨hcompleted, hrejected, hfailed⟩ := h.times_of_open (by rw [hs]; rfl)
    have hunprocessed := h.unprocessed (by rw [hs]; decide)
    refine .inr ⟨rfl, [now], ?_, by simp⟩
    simp [timeline, move, processing, hcompleted, hfailed, hrejected, hunprocessed]
  | skip hs =>
    obtain ⟨hcompleted, hrejected, hfailed⟩ := h.times_of_open (by rw [hs]; rfl)
    have hunprocessed := h.unprocessed (by rw [hs]; decide)
    refine .inr ⟨rfl, [now, now], ?_, by simp⟩
    simp [timeline, move, processing, hcompleted, hfailed, hrejected, hunprocessed]
  | complete hs | reject hs =>
    obtain ⟨hcompleted, hrejected, hfailed⟩ := h.times_of_open (by rw [hs]; rfl)
    refine .inr ⟨rfl, [now], ?_, by simp⟩
    simp [timeline, move, hcompleted, hfailed, hrejected]
  | fail hs =>
    obtain ⟨hcompleted, hrejected, hfailed⟩ := h.times_of_open (by obtain hs | hs := hs <;> rw [hs] <;> rfl)
    refine .inr ⟨rfl, [now], ?_, by simp⟩
    simp [timeline, move, hcompleted, hfailed, hrejected]

/-- An action opens no payout anew. If it does not complete it, it starts its processing or leaves the time of that
as it was. -/
theorem Acts.processedAt {source target : PayoutStatus} (h : p.Acts actor now action (q, .applied source target))
    (incomplete : q.status ≠ .completed) : p.status ≠ .completed ∧ q.status ≠ .requested ∧
      (q.status = .processing ∧ q.processedAt.isSome ∨ q.status ≠ .processing ∧ q.processedAt = p.processedAt) := by
  generalize hm : (q, PayoutTransition.applied source target) = moved at h
  cases h with
  | repeated => cases hm
  | skip | complete =>
    cases hm
    exact absurd rfl incomplete
  | startProcessing hs =>
    cases hm
    exact ⟨by rw [hs]; decide, nofun, .inl ⟨rfl, rfl⟩⟩
  | approve hs | reject hs =>
    cases hm
    exact ⟨by rw [hs]; decide, nofun, .inr ⟨nofun, rfl⟩⟩
  | fail hs =>
    cases hm
    exact ⟨by obtain hs | hs := hs <;> rw [hs] <;> decide, nofun, .inr ⟨nofun, rfl⟩⟩

end Payout
end Settlement
