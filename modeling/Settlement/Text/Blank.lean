/-! White space: the Unicode property White_Space, and trimming by it. -/
namespace Settlement
namespace Text

/-- The characters with the property White_Space, by code point. -/
def blankRanges : List (Nat × Nat) :=
  [(0x9, 0xD), (0x20, 0x20), (0x85, 0x85), (0xA0, 0xA0), (0x1680, 0x1680), (0x2000, 0x200A),
   (0x2028, 0x2029), (0x202F, 0x202F), (0x205F, 0x205F), (0x3000, 0x3000)]

def isBlank (c : Char) : Bool :=
  blankRanges.any fun range => range.1 ≤ c.toNat && c.toNat ≤ range.2

def trimStart (cs : List Char) : List Char := cs.dropWhile isBlank

def trim (cs : List Char) : List Char := (trimStart (trimStart cs).reverse).reverse

def trimString (s : String) : String := String.ofList (trim s.toList)

def isBlankString (s : String) : Bool := s.toList.all isBlank

@[simp] theorem trimStart_nil : trimStart [] = [] := rfl

theorem trimStart_cons (c : Char) (cs : List Char) :
    trimStart (c :: cs) = if isBlank c then trimStart cs else c :: cs := List.dropWhile_cons

theorem trimStart_eq_nil {cs : List Char} : trimStart cs = [] ↔ cs.all isBlank = true := by
  induction cs with
  | nil => simp
  | cons c cs ih => cases h : isBlank c <;> simp [trimStart_cons, h, ih]

theorem all_isBlank_trimStart {cs : List Char} :
    (trimStart cs).all isBlank = true ↔ cs.all isBlank = true := by
  induction cs with
  | nil => simp
  | cons c cs ih => cases h : isBlank c <;> simp [trimStart_cons, h, ih]

theorem trim_eq_nil {cs : List Char} : trim cs = [] ↔ cs.all isBlank = true := by
  rw [trim, List.reverse_eq_nil_iff, trimStart_eq_nil, List.all_reverse, all_isBlank_trimStart]

end Text
end Settlement
