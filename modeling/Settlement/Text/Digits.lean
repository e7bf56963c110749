/-! Digits of natural numbers as text, and numbers from digits. -/
namespace Settlement
namespace Text

def digitValue? (c : Char) : Option Nat :=
  if '0' ≤ c ∧ c ≤ '9' then some (c.toNat - 48) else none

def hexValue? (c : Char) : Option Nat :=
  if '0' ≤ c ∧ c ≤ '9' then some (c.toNat - 48)
  else if 'a' ≤ c ∧ c ≤ 'f' then some (c.toNat - 87)
  else if 'A' ≤ c ∧ c ≤ 'F' then some (c.toNat - 55)
  else none

def isDigit (c : Char) : Bool := (digitValue? c).isSome

def digitChar (n : Nat) : Char :=
  if n < 10 then Char.ofNat (48 + n) else Char.ofNat (87 + n)

/-- The last `width` digits of `n` in the given base, with leading zeros. -/
def fixedDigits (base : Nat) : (width : Nat) → Nat → List Char
  | 0, _ => []
  | width + 1, n => fixedDigits base width (n / base) ++ [digitChar (n % base)]

@[simp] theorem fixedDigits_length (base width n : Nat) : (fixedDigits base width n).length = width := by
  induction width generalizing n with
  | zero => rfl
  | succ width ih => simp [fixedDigits, ih]

def digitCount (n : Nat) : Nat := (Nat.toDigits 10 n).length

def decimalDigits (n : Nat) : List Char := fixedDigits 10 (digitCount n) n

def paddedDigits (width n : Nat) : List Char := fixedDigits 10 (max width (digitCount n)) n

/-- The number that the values read by `value?` spell in the given base; `none` on any other
character. -/
def readDigits (value? : Char → Option Nat) (base : Nat) (cs : List Char) : Option Nat :=
  cs.foldl (fun n? c => n?.bind fun n => (value? c).map fun d => base * n + d) (some 0)

def readDecimal? (cs : List Char) : Option Nat :=
  if cs.isEmpty then none else readDigits digitValue? 10 cs

def readHex? (cs : List Char) : Option Nat :=
  if cs.isEmpty then none else readDigits hexValue? 16 cs

/-- A number below `bound`, with an optional plus sign in front of its digits. -/
def readBelow? (bound : Nat) (cs : List Char) : Option Nat :=
  let digits := match cs with
    | '+' :: rest => rest
    | _ => cs
  (readDecimal? digits).filter (· < bound)

def readHexBelow? (bound : Nat) (cs : List Char) : Option Nat :=
  let digits := match cs with
    | '+' :: rest => rest
    | _ => cs
  (readHex? digits).filter (· < bound)

end Text
end Settlement
