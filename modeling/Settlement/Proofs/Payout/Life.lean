import Settlement.Payout.Basic

/-! What an action can do to a payout. What was requested stays as it was, and a terminal
payout stays altogether as it is. -/
namespace Settlement

theorem Payout.requireText_eq_ok {text trimmed : String} {missing : SettlementError} :
    requireText text missing = .ok trimmed ↔ Text.isBlankString text = false ∧ Text.trimString text = trimmed := by
  simp only [requireText, bind_eq_ok, check_eq_ok, pure, Except.pure, Except.ok.injEq]
  constructor
  · rintro ⟨_, h⟩
    exact h
  · exact fun h => ⟨(), h⟩

def PayoutAction.target : PayoutAction → PayoutStatus
  | approve => .approved
  | startProcessing => .processing
  | complete _ => .completed
  | reject _ => .rejected
  | fail _ => .failed

def PayoutAction.misplaced : PayoutAction → PayoutStatus → SettlementError
  | approve, status => .cannotApprove status
  | startProcessing, status | complete _, status | reject _, status | fail _, status => .invalidPayoutStatus status

namespace Payout

def draft (p : Payout) : Payout :=
  { p with
    status := .requested
    approvedBy := none
    approvedAt := none
    processedBy := none
    processedAt := none
    completedAt := none
    rejectedBy := none
    rejectedAt := none
    failedAt := none
    bankReference := none
    rejectionReason := none
    failureReason := none
    retryCount := 0
    resubmittedAs := none
    updatedAt := p.requestedAt }

theorem merchantId_eq_of_draft {p q : Payout} (h : q.draft = p.draft) : q.merchantId = p.merchantId := by
  have hdraft := congrArg merchantId h
  exact hdraft

theorem amount_eq_of_draft {p q : Payout} (h : q.draft = p.draft) : q.amount = p.amount := by
  have hdraft := congrArg amount h
  exact hdraft

/-- What an action that is not refused makes of a payout, and under which conditions. -/
inductive Acts (p : Payout) (actor : ActorId) (now : Instant) : PayoutAction → Payout × PayoutTransition → Prop
  | approve (status : p.status = .requested) :
    Acts p actor now .approve ({ p with approvedBy := some actor, approvedAt := some now }.move .approved now)
  | startProcessing (status : p.status = .approved) :
    Acts p actor now .startProcessing ((p.processing actor now).move .processing now)
  /-- An approved payout completes without having been processed. -/
  | skip {text : String} (status : p.status = .approved) (named : Text.isBlankString text = false) :
    Acts p actor now (.complete text)
      ({ p.processing actor now with
        bankReference := some (Text.trimString text), completedAt := some now }.move .completed now)
  | complete {text : String} (status : p.status = .processing) (named : Text.isBlankString text = false) :
    Acts p actor now (.complete text)
      ({ p with bankReference := some (Text.trimString text), completedAt := some now }.move .completed now)
  | reject {text : String} (status : p.status = .requested) (named : Text.isBlankString text = false) :
    Acts p actor now (.reject text)
      ({ p with
        rejectedBy := some actor
        rejectedAt := some now
        rejectionReason := some (Text.trimString text) }.move .rejected now)
  | fail {text : String} (status : p.status = .approved ∨ p.status = .processing)
    (named : Text.isBlankString text = false) :
    Acts p actor now (.fail text)
      ({ p with
        processedBy := p.processedBy.or (some actor)
        failedAt := some now
        failureReason := some (Text.trimString text)
        retryCount := p.retryCount + 1 }.move .failed now)
  /-- The action has been applied before. -/
  | repeated {action : PayoutAction} (status : p.status = action.target) (terminal : p.status.isTerminal = true) :
    Acts p actor now action (p, .unchanged p.status)

theorem acts_of_act {p : Payout} {actor : ActorId} {now : Instant} {action : PayoutAction}
    {moved : Payout × PayoutTransition} (h : p.act actor now action = .ok moved) :
    p.Acts actor now action moved := by
  cases action with
  | approve =>
    simp only [act, Payout.approve] at h
    cases hs : p.status <;> rw [hs] at h <;> cases h
    rw [← hs]
    exact .approve hs
  | startProcessing =>
    simp only [act, Payout.startProcessing] at h
    cases hs : p.status <;> rw [hs] at h <;> cases h
    exact .startProcessing hs
  | complete text =>
    simp only [act, Payout.complete] at h
    cases hs : p.status <;> rw [hs] at h
    case requested | rejected | failed => cases h
    case completed =>
      cases h
      rw [← hs]
      exact .repeated hs (by rw [hs]; rfl)
    case approved =>
      obtain ⟨reference, hr, hm⟩ := bind_eq_ok.mp h
      obtain ⟨hnamed, rfl⟩ := requireText_eq_ok.mp hr
      cases hm
      exact .skip hs hnamed
    case processing =>
      obtain ⟨reference, hr, hm⟩ := bind_eq_ok.mp h
      obtain ⟨hnamed, rfl⟩ := requireText_eq_ok.mp hr
      cases hm
      rw [← hs]
      exact .complete hs hnamed
  | reject text =>
    simp only [act, Payout.reject] at h
    cases hs : p.status <;> rw [hs] at h
    case approved | processing | completed | failed => cases h
    case rejected =>
      cases h
      rw [← hs]
      exact .repeated hs (by rw [hs]; rfl)
    case requested =>
      obtain ⟨reason, hr, hm⟩ := bind_eq_ok.mp h
      obtain ⟨hnamed, rfl⟩ := requireText_eq_ok.mp hr
      cases hm
      rw [← hs]
      exact .reject hs hnamed
  | fail text =>
    simp only [act, Payout.fail] at h
    cases hs : p.status <;> rw [hs] at h
    case requested | completed | rejected => cases h
    case failed =>
      cases h
      rw [← hs]
      exact .repeated hs (by rw [hs]; rfl)
    case approved =>
      obtain ⟨reason, hr, hm⟩ := bind_eq_ok.mp h
      obtain ⟨hnamed, rfl⟩ := requireText_eq_ok.mp hr
      cases hm
      rw [← hs]
      exact .fail (.inl hs) hnamed
    case processing =>
      obtain ⟨reason, hr, hm⟩ := bind_eq_ok.mp h
      obtain ⟨hnamed, rfl⟩ := requireText_eq_ok.mp hr
      cases hm
      rw [← hs]
      exact .fail (.inr hs) hnamed

/-- An action keeps what was requested, and a payout that it moves was not terminal before and has the
status that the answer names. -/
theorem act_applied {p next : Payout} {actor : ActorId} {now : Instant} {action : PayoutAction}
    {source target : PayoutStatus} (h : p.act actor now action = .ok (next, .applied source target)) :
    p.status.isTerminal = false ∧ next.draft = p.draft ∧ next.status = target ∧ target = action.target := by
  have hacts := acts_of_act h
  generalize hm : (next, PayoutTransition.applied source target) = moved at hacts
  cases hacts with
  | repeated => cases hm
  | approve hs | startProcessing hs | skip hs | complete hs | reject hs =>
    cases hm
    exact ⟨by rw [hs]; rfl, rfl, rfl, rfl⟩
  | fail hs =>
    cases hm
    exact ⟨by rcases hs with hs | hs <;> rw [hs] <;> rfl, rfl, rfl, rfl⟩

theorem act_of_terminal {p : Payout} (h : p.status.isTerminal = true) (actor : ActorId) (now : Instant)
    (action : PayoutAction) : p.act actor now action =
      if action.target = p.status then .ok (p, .unchanged p.status)
      else .error (.refused (action.misplaced p.status)) := by
  obtain hs | hs | hs : p.status = .completed ∨ p.status = .rejected ∨ p.status = .failed := by
    revert h
    cases p.status <;> decide
  all_goals
    cases action <;>
      simp [act, Payout.approve, Payout.startProcessing, Payout.complete, Payout.reject, Payout.fail, hs,
        PayoutAction.target, PayoutAction.misplaced]

end Payout
end Settlement
