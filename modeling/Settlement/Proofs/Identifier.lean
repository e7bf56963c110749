import Settlement.Identifier
import Settlement.Proofs.Text.Digits

/-! An identifier is read back from its written form. -/
namespace Settlement
namespace Uuid

open Text

theorem digits_length (u : Uuid) : (digits u).length = 32 := fixedDigits_length 16 32 u.toNat

theorem ofDigits?_digits (u : Uuid) : ofDigits? (digits u) = some u := by
  rw [ofDigits?, if_pos (digits_length u), digits, readHex?_fixedDigits (by decide) u.isLt, Option.map_some,
    BitVec.ofNat_toNat, BitVec.setWidth_eq]

/-- The digits in five groups with a hyphen between each two. -/
structure Grouped (digits grouped : List Char) (a b c d e : List Char) : Prop where
  first : a.length = 8
  second : b.length = 4
  third : c.length = 4
  fourth : d.length = 4
  fifth : e.length = 12
  digits_eq : digits = a ++ b ++ c ++ d ++ e
  grouped_eq : grouped = a ++ '-' :: b ++ '-' :: c ++ '-' :: d ++ '-' :: e

theorem grouped_write (u : Uuid) : ∃ a b c d e, Grouped (digits u) (write u) a b c d e := by
  have hlength := digits_length u
  have hgroup (i n : Nat) : ((digits u).drop i).take n ++ (digits u).drop (i + n) = (digits u).drop i := by
    rw [← List.drop_drop, List.take_append_drop]
  refine ⟨_, _, _, _, _, ?_, ?_, ?_, ?_, ?_, ?_, rfl⟩
  case refine_6 =>
    simp only [List.append_assoc]
    rw [hgroup 16 4, hgroup 12 4, hgroup 8 4, List.take_append_drop]
  all_goals simp [hlength]

theorem Grouped.length {digits grouped a b c d e : List Char} (h : Grouped digits grouped a b c d e) :
    grouped.length = 36 := by
  obtain ⟨ha, hb, hc, hd, he, -, rfl⟩ := h
  simp [ha, hb, hc, hd, he]

theorem Grouped.readGroups? {digits grouped a b c d e : List Char} (h : Grouped digits grouped a b c d e) :
    readGroups? grouped = ofDigits? digits := by
  have hlength := h.length
  obtain ⟨ha, hb, hc, hd, he, rfl, rfl⟩ := h
  rw [Uuid.readGroups?, if_pos ⟨by simp [List.getElem?_append, ha, hb, hc, hd], hlength⟩]
  simp [List.drop_append, List.drop_of_length_le, ha, hb, hc, hd]

theorem ofString?_toString (u : Uuid) : ofString? u.toString = some u := by
  obtain ⟨a, b, c, d, e, h⟩ := grouped_write u
  have hlength := h.length
  have hprefix : (u.write.take 9).map Char.toLower ≠ "urn:uuid:".toList := by
    intro heq
    have hlast := congrArg (·[8]?) heq
    simp [h.grouped_eq, h.first] at hlast
  rw [Uuid.toString, ofString?]
  simp only [String.toList_ofList, hlength]
  rw [if_neg (by decide), if_neg (by omega), if_neg hprefix, h.readGroups?, ofDigits?_digits]

end Uuid
end Settlement
