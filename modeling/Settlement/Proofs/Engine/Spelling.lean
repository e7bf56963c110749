import Settlement.Proofs.Engine.Atomicity
import Settlement.Proofs.Engine.Records

/-! Currency codes in other spellings. A price is found whatever the case of the letters in the codes of its pair; only
whether an amount is in US dollars already is told by the exact spelling of the code. -/
namespace Settlement

namespace Text

variable {s t : String}

/-- The texts differ in the case of ASCII letters at most. -/
def SameLetters (s t : String) : Prop := s.toList.map Char.toLower = t.toList.map Char.toLower

instance (s t : String) : Decidable (SameLetters s t) := inferInstanceAs (Decidable (_ = _))

theorem SameLetters.symm (h : SameLetters s t) : SameLetters t s := Eq.symm h

theorem upperChar_toLower_capital : ∀ n : Fin 26,
    upperChar (Char.ofNat (65 + n)).toLower = upperChar (Char.ofNat (65 + n)) := by decide +kernel

theorem upperChar_toLower (c : Char) : upperChar c.toLower = upperChar c := by
  by_cases h : 'A'.val ≤ c.val ∧ c.val ≤ 'Z'.val
  · have hlow : 65 ≤ c.toNat := UInt32.le_iff_toNat_le.mp h.1
    have hhigh : c.toNat ≤ 90 := UInt32.le_iff_toNat_le.mp h.2
    have hcapital := upperChar_toLower_capital ⟨c.toNat - 65, by omega⟩
    rwa [show 65 + (c.toNat - 65) = c.toNat by omega, Char.ofNat_toNat] at hcapital
  · exact congrArg upperChar (dif_neg h)

theorem SameLetters.upper_eq (h : SameLetters s t) : upper s = upper t := by
  have hlower (s : String) : (s.toList.map Char.toLower).flatMap upperChar = s.toList.flatMap upperChar := by
    rw [List.flatMap_map]
    simp only [upperChar_toLower]
  rw [upper, upper, ← hlower s, ← hlower t, h]

end Text

open Exchange Text

/-- The settings with other spellings of the two codes. -/
def SettlementConfig.respell (fiat token : String) (c : SettlementConfig) : SettlementConfig :=
  { c with
    settlementCurrency := { c.settlementCurrency with code := fiat }
    tokenCurrency := { c.tokenCurrency with code := token } }

/-- The payment with other spellings of the two codes, and the same in all else. -/
def Payment.respell (fiat token : String) (p : Payment) : Payment :=
  { p with
    currency := { p.currency with code := fiat }
    tokenCurrency := { p.tokenCurrency with code := token } }

theorem Exchange.CurrencyPair.ofCodes_congr {base quote base' quote' : String} (hbase : SameLetters base base')
    (hquote : SameLetters quote quote') : CurrencyPair.ofCodes base' quote' = .ofCodes base quote := by
  rw [ofCodes, ofCodes, hbase.upper_eq, hquote.upper_eq]

namespace Engine

variable {e : Engine} {fiat token : String} {fresh : FreshPayment} {invoice : NewInvoice} {now : Instant} {p : Payment}

/-- The engine with other spellings in its settings. -/
def respell (fiat token : String) (e : Engine) : Engine := { e with config := e.config.respell fiat token }

theorem bind_eq_map_bind {α β γ : Type} {first first' : Except Fault α} {next : α → Except Fault β}
    {next' : α → Except Fault γ} {g : β → γ} (hfirst : first' = first) (hnext : ∀ a, next' a = (next a).map g) :
    first' >>= next' = (first >>= next).map g := by
  subst hfirst
  cases first' with
  | error fault => rfl
  | ok a => exact hnext a

/-- Where the value in US dollars is the same, an invoice is refused for one reason or asks for one payment, whatever
the spelling. -/
theorem draftPayment_respell (hfiat : SameLetters e.config.settlementCurrency.code fiat)
    (htoken : SameLetters e.config.tokenCurrency.code token)
    (hvalue : (e.respell fiat token).usdEquivalent invoice.amount = e.usdEquivalent invoice.amount) :
    (e.respell fiat token).draftPayment fresh invoice now =
      (e.draftPayment fresh invoice now).map (Payment.respell fiat token) := by
  have hpair : CurrencyPair.ofCodes token fiat =
      .ofCodes e.config.tokenCurrency.code e.config.settlementCurrency.code := CurrencyPair.ofCodes_congr htoken hfiat
  refine bind_eq_map_bind rfl fun _ => ?_
  refine bind_eq_map_bind (congrArg e.rates.rate hpair) fun quote => ?_
  refine bind_eq_map_bind rfl fun tokenAmount => ?_
  refine bind_eq_map_bind rfl fun fee => ?_
  refine bind_eq_map_bind hvalue fun usdEquivalent => ?_
  refine bind_eq_map_bind rfl fun result => ?_
  refine bind_eq_map_bind rfl fun _ => ?_
  exact bind_eq_map_bind rfl fun expiresAt => rfl

theorem usdEquivalent_of_draft (h : e.draftPayment fresh invoice now = .ok p) :
    e.usdEquivalent invoice.amount = .ok p.usdEquivalent := by
  simp only [draftPayment, bind_eq_ok, check_eq_ok, pure, Except.pure, Except.ok.injEq] at h
  obtain ⟨_, -, quote, -, tokenAmount, -, fee, -, usdEquivalent, husd, result, -, -, -, expiresAt, -, rfl⟩ := h
  exact husd

/-- An invoice asks for a payment, which is answered unless its reference is in use. -/
theorem result_createInvoice (e : Engine) (fresh : FreshPayment) (invoice : NewInvoice) (now : Instant) :
    ((createInvoice fresh invoice now).on e).2 = (do
      let p ← e.draftPayment fresh invoice now
      check ((e.payments.references.get? p.reference).isNone) .duplicateReference
      return p) := by
  simp only [createInvoice, recordPayment, Action.on_bind, Action.on_get, Action.on_lift]
  cases e.draftPayment fresh invoice now with
  | error fault => rfl
  | ok p =>
    show _ = check ((e.payments.references.get? p.reference).isNone) .duplicateReference >>= fun _ => pure p
    by_cases unused : (e.payments.references.get? p.reference).isNone = true
    · simp only [check_of unused, Action.on_modify, Action.on_pure]
      rfl
    · simp only [check_of_not unused]
      rfl

theorem draft_of_created (h : ((createInvoice fresh invoice now).on e).2 = .ok p) :
    e.draftPayment fresh invoice now = .ok p := by
  rw [result_createInvoice] at h
  simp only [bind_eq_ok, pure, Except.pure, Except.ok.injEq] at h
  obtain ⟨_, drafted, _, -, rfl⟩ := h
  exact drafted

theorem createInvoice_respell (hfiat : SameLetters e.config.settlementCurrency.code fiat)
    (htoken : SameLetters e.config.tokenCurrency.code token)
    (hvalue : (e.respell fiat token).usdEquivalent invoice.amount = e.usdEquivalent invoice.amount) :
    ((createInvoice fresh invoice now).on (e.respell fiat token)).2 =
      ((createInvoice fresh invoice now).on e).2.map (Payment.respell fiat token) := by
  rw [result_createInvoice, result_createInvoice, draftPayment_respell hfiat htoken hvalue]
  cases e.draftPayment fresh invoice now with
  | error fault => rfl
  | ok p =>
    show check _ _ >>= _ = (check _ _ >>= _).map _
    exact bind_eq_map_bind rfl fun _ => rfl

/-- Two engines that differ in nothing but the case of letters in the codes of their currencies answer an invoice alike,
with the same refusal or with payments that are the same up to these codes, if both or neither of them spells its fiat
currency as US dollars are spelled. If just one of them does, an invoice that it accepts is answered alike just if the
dollar has a price in dollars which leaves the amount of the invoice as it is. -/
theorem spelling_shows_only_in_dollars (e : Engine) (fiat token : String)
    (hfiat : SameLetters e.config.settlementCurrency.code fiat)
    (htoken : SameLetters e.config.tokenCurrency.code token) (fresh : FreshPayment) (invoice : NewInvoice)
    (now : Instant) :
    let code := e.config.settlementCurrency.code
    let answer := ((createInvoice fresh invoice now).on e).2
    let other := ((createInvoice fresh invoice now).on (e.respell fiat token)).2
    ((code = usd ↔ fiat = usd) → other = answer.map (Payment.respell fiat token)) ∧
    (code = usd → fiat ≠ usd → ∀ p, answer = .ok p →
      (other = answer.map (Payment.respell fiat token) ↔
        ∃ quote, e.rates.rate (.ofCodes usd usd) = .ok quote ∧
          convert invoice.amount quote.rate = .ok invoice.amount)) := by
  intro code answer other
  constructor
  · intro hsame
    refine createInvoice_respell hfiat htoken ?_
    have hpair : CurrencyPair.ofCodes usd fiat = .ofCodes usd code := CurrencyPair.ofCodes_congr rfl hfiat
    show (if fiat = usd then _ else e.rates.rate (.ofCodes usd fiat) >>= _) = if code = usd then _ else _
    rw [hpair]
    simp only [hsame]
    rfl
  · intro hcode hother p hp
    have hvalue : e.usdEquivalent invoice.amount = .ok invoice.amount := if_pos hcode
    have hpair : CurrencyPair.ofCodes usd fiat = .ofCodes usd usd := CurrencyPair.ofCodes_congr rfl (hcode ▸ hfiat)
    have hquoted : (e.respell fiat token).usdEquivalent invoice.amount =
        e.rates.rate (.ofCodes usd usd) >>= fun quote => convert invoice.amount quote.rate := by
      rw [← hpair]
      exact if_neg hother
    constructor
    · intro halike
      rw [hp] at halike
      have husd : p.usdEquivalent = invoice.amount := by
        have hdrafted := usdEquivalent_of_draft (draft_of_created hp)
        exact (Except.ok.inj (hvalue.symm.trans hdrafted)).symm
      have hconverted := usdEquivalent_of_draft (draft_of_created halike)
      rw [hquoted, bind_eq_ok] at hconverted
      obtain ⟨quote, hrate, hconvert⟩ := hconverted
      exact ⟨quote, hrate, husd ▸ hconvert⟩
    · rintro ⟨quote, hrate, hconvert⟩
      refine createInvoice_respell hfiat htoken ?_
      rw [hquoted, hrate, hvalue]
      exact hconvert

/-- Settlement in a fiat currency for which tether has a price, as the dollar has one in euros. -/
def quoted (fiat : String) : Engine :=
  let now : Moment := ⟨.epoch, {}⟩
  (opened (SettlementConfig.default.respell fiat "USDT")).run
    [(now, .registerMerchant ⟨1⟩ .verified),
      (now, .setRate (.ofCodes "USDT" fiat) (whole 1)),
      (now, .setRate (.ofCodes usd "EUR") (whole 1))]

/-- The answer to an invoice of 100. -/
def invoicedHundred (e : Engine) : Except Fault Payment :=
  ((createInvoice ⟨⟨7⟩, ⟨"PAY-7"⟩⟩ ⟨⟨1⟩, whole 100, none, "tron", "T-shop", none⟩ .epoch).on e).2

theorem mixed_case_codes_priced_alike :
    (invoicedHundred (quoted "EUR")).map Payment.tokenAmount = .ok (whole 100) ∧
      invoicedHundred ((quoted "EUR").respell "eur" "Usdt") =
        (invoicedHundred (quoted "EUR")).map (Payment.respell "eur" "Usdt") := by
  have haccepted : (invoicedHundred (quoted "EUR")).map Payment.tokenAmount = .ok (whole 100) := rfl
  have hshown := spelling_shows_only_in_dollars (quoted "EUR") "eur" "Usdt" (by decide) (by decide) ⟨⟨7⟩, ⟨"PAY-7"⟩⟩
    ⟨⟨1⟩, whole 100, none, "tron", "T-shop", none⟩ .epoch
  exact ⟨haccepted, hshown.1 (by decide)⟩

/-- An invoice in `USD` is accepted, and refused in `usd` since a dollar has no price in dollars. -/
theorem lower_case_dollars_refused :
    SameLetters "USD" "usd" ∧ (invoicedHundred (quoted "USD")).map Payment.usdEquivalent = .ok (whole 100) ∧
      invoicedHundred ((quoted "USD").respell "usd" "USDT") = .error (.refused (.rateUnavailable "USD/USD")) := by
  have haccepted : (invoicedHundred (quoted "USD")).map Payment.usdEquivalent = .ok (whole 100) := rfl
  exact ⟨by decide, haccepted, rfl⟩

end Engine
end Settlement
