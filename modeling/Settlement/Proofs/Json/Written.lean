import Mathlib.Data.List.TakeDrop
import Settlement.Json.Parser
import Settlement.Json.Printer
import Settlement.Proofs.Text.Digits

/-! JSON texts are read back as they were written: strings of any characters, whole numbers of 64 bits, and lists and
objects as deep as they may be nested. -/
namespace Settlement

attribute [local instance (high)] instPowNat

theorem Table.put_of_not_mem {κ ν : Type} [DecidableEq κ] {key : κ} {value : ν} {entries : List (κ × ν)}
    (h : key ∉ entries.map Prod.fst) : put key value entries = entries ++ [(key, value)] := by
  induction entries with
  | nil => rfl
  | cons entry entries ih =>
    rw [List.map_cons, List.mem_cons, not_or] at h
    rw [put, if_neg (Ne.symm h.1), ih h.2, List.cons_append]

namespace Json

open Text

variable {depth fuel n : Nat} {rest : List Char}

/-! ## Strings -/

theorem escaped?_of_escapeLetter? {c letter : Char} (h : escapeLetter? c = some letter) :
    escaped? letter = some c ∧ letter ≠ 'u' := by
  unfold escapeLetter? at h
  split at h <;> cases h <;> decide

theorem readString_unit (h : n < 0x20) (rest : List Char) :
    readString (.unit 0 0 none) (fixedDigits 16 4 n ++ rest) =
      (readString .plain rest).map fun r => (Char.ofNat n :: r.1, r.2) := by
  have hdigit (k : Nat) : hexValue? (digitChar (k % 16)) = some (k % 16) :=
    hexValue?_digitChar _ (Nat.mod_lt k (by decide))
  have hvalue : 16 * (16 * (16 * (16 * 0 + n / 16 / 16 / 16 % 16) + n / 16 / 16 % 16) + n / 16 % 16) + n % 16 = n := by
    omega
  have hunit : endUnit n none = some (some (Char.ofNat n), .plain) := by
    rw [endUnit, if_neg (by omega), if_neg (by omega)]
  simp only [fixedDigits, List.cons_append, List.nil_append, readString, hdigit, Option.bind_some, hvalue, hunit,
    Nat.reduceAdd, Nat.reduceLT, Nat.lt_irrefl, reduceIte]
  rfl

theorem readString_writeChar (c : Char) (rest : List Char) :
    readString .plain (writeChar c ++ rest) = (readString .plain rest).map fun r => (c :: r.1, r.2) := by
  unfold writeChar
  split
  · next letter hletter =>
    obtain ⟨hescaped, hu⟩ := escaped?_of_escapeLetter? hletter
    simp [readString, hescaped, hu]
  · next hnone =>
    have hplain : c ≠ '"' ∧ c ≠ '\\' := by
      constructor <;> (rintro rfl; cases hnone)
    split
    · next hcontrol =>
      show readString (.unit 0 0 none) (fixedDigits 16 4 c.toNat ++ rest) = _
      rw [readString_unit hcontrol, Char.ofNat_toNat]
    · next hshown => simp [readString, hplain, hshown]

theorem readString_flatMap (cs rest : List Char) :
    readString .plain (cs.flatMap writeChar ++ '"' :: rest) = some (cs, rest) := by
  induction cs with
  | nil => rfl
  | cons c cs ih => rw [List.flatMap_cons, List.append_assoc, readString_writeChar, ih, Option.map_some]

/-! ## Numbers -/

/-- Nothing that follows belongs to a number. -/
def Stops (rest : List Char) : Prop := ∀ c ∈ rest.head?, isDigit c = false ∧ c ≠ '.' ∧ c ≠ 'e' ∧ c ≠ 'E'

theorem decimalDigits_eq_cons (n : Nat) :
    ∃ d < 10, ∃ cs, decimalDigits n = digitChar d :: cs ∧ (d = 0 → cs = []) := by
  obtain ⟨width, hwidth⟩ := Nat.exists_eq_add_one.mpr (digitCount_pos n)
  refine ⟨n / 10 ^ width % 10, Nat.mod_lt _ (by decide), fixedDigits 10 width n, ?_, fun hzero => ?_⟩
  · rw [decimalDigits, hwidth, fixedDigits_succ]
  · cases width with
    | zero => rfl
    | succ width =>
      have hlow : 10 ^ (width + 1) ≤ n := pow_le_of_lt_digitCount (by omega) (by omega)
      have hhigh : n < 10 ^ (width + 1) * 10 := by
        rw [← Nat.pow_succ, Nat.succ_eq_add_one, ← hwidth]
        exact lt_pow_digitCount n
      have hdigit : n / 10 ^ (width + 1) < 10 := Nat.div_lt_of_lt_mul hhigh
      have hpos : 0 < n / 10 ^ (width + 1) := Nat.div_pos hlow (Nat.pow_pos (by decide))
      omega

theorem spanDigits_decimalDigits (n : Nat) (h : Stops rest) :
    spanDigits (decimalDigits n ++ rest) = (decimalDigits n, rest) := by
  have hnone : rest.takeWhile isDigit = [] ∧ rest.dropWhile isDigit = rest := by
    cases rest with
    | nil => exact ⟨rfl, rfl⟩
    | cons c cs =>
      have hc := (h c rfl).1
      exact ⟨List.takeWhile_cons_of_neg (by simp [hc]), List.dropWhile_cons_of_neg (by simp [hc])⟩
  rw [spanDigits, List.span_eq_takeWhile_dropWhile, decimalDigits, takeWhile_fixedDigits,
    List.dropWhile_append_of_pos (all_isDigit_fixedDigits _ n), hnone.1, hnone.2, List.append_nil]

theorem digitChar_eq_zero : ∀ d < 10, digitChar d = '0' → d = 0 := by decide

theorem readWhole_decimalDigits (n : Nat) (h : Stops rest) :
    readWhole (decimalDigits n ++ rest) = some (decimalDigits n, rest) := by
  obtain ⟨d, hd, cs, hcons, hzero⟩ := decimalDigits_eq_cons n
  rw [readWhole, spanDigits_decimalDigits n h, hcons]
  split
  · next heq => cases heq
  · next heq =>
    rw [Prod.mk.injEq] at heq
    rw [heq.1, heq.2]
  · next _ cs' _ hne heq =>
    rw [Prod.mk.injEq, List.cons.injEq] at heq
    obtain ⟨⟨hhead, rfl⟩, rfl⟩ := heq
    rw [hzero (digitChar_eq_zero d hd hhead)] at hne
    exact absurd rfl hne
  · next heq =>
    rw [heq]

theorem digitsValue_decimalDigits (n : Nat) : digitsValue (decimalDigits n) = n := by
  rw [digitsValue, decimalDigits, readDigits_fixedDigits (by decide) digitValue?_digitChar,
    Nat.mod_eq_of_lt (lt_pow_digitCount n), Option.getD_some]

theorem readFraction_of_stops (h : Stops rest) : readFraction rest = some ([], rest) := by
  unfold readFraction
  split
  · exact absurd rfl (h '.' rfl).2.1
  · rfl

theorem readExponent_of_stops (h : Stops rest) : readExponent rest = some (false, [], rest) := by
  cases rest with
  | nil => rfl
  | cons c cs => exact if_neg (not_or.mpr (h c rfl).2.2)

theorem readNumber_decimalDigits {negative : Bool}
    (hn : if negative then 0 < n ∧ n ≤ 2 ^ (63 : Nat) else n < 2 ^ (64 : Nat)) (h : Stops rest) :
    readNumber negative (decimalDigits n ++ rest) = some (int (if negative then -(n : Int) else n), rest) := by
  rw [readNumber, readWhole_decimalDigits n h]
  show (readFraction rest).bind _ = _
  rw [readFraction_of_stops h]
  show (readExponent rest).bind _ = _
  rw [readExponent_of_stops h]
  dsimp only [Option.bind_some]
  rw [digitsValue_decimalDigits, if_pos ⟨rfl, rfl, hn⟩]
  rfl

/-! ## Values -/

/-- What is read back as it was written: whole numbers fit 64 bits, the keys of an object differ, and lists and objects
are nested at most `depth` deep. -/
inductive Writable : Nat → Json → Prop
  | null {depth : Nat} : Writable depth null
  | bool {depth : Nat} (b : Bool) : Writable depth (bool b)
  | int {depth : Nat} {n : Int} (low : -2 ^ (63 : Nat) ≤ n) (high : n < 2 ^ (64 : Nat)) : Writable depth (int n)
  | str {depth : Nat} (s : String) : Writable depth (str s)
  | arr {depth : Nat} {items : List Json} (h : ∀ item ∈ items, Writable depth item) : Writable (depth + 1) (arr items)
  | obj {depth : Nat} {members : List (String × Json)} (keys : (members.map Prod.fst).Nodup)
      (h : ∀ member ∈ members, Writable depth member.2) : Writable (depth + 1) (obj members)

theorem Writable.mono {j : Json} {depth' : Nat} (h : Writable depth j) (hle : depth ≤ depth') : Writable depth' j := by
  induction h generalizing depth' with
  | null => exact .null
  | bool b => exact .bool b
  | int low high => exact .int low high
  | str s => exact .str s
  | arr h ih =>
    obtain ⟨depth', rfl⟩ := Nat.exists_eq_add_one.mpr (Nat.lt_of_lt_of_le (Nat.succ_pos _) hle)
    exact .arr fun item hitem => ih item hitem (Nat.le_of_succ_le_succ hle)
  | obj keys h ih =>
    obtain ⟨depth', rfl⟩ := Nat.exists_eq_add_one.mpr (Nat.lt_of_lt_of_le (Nat.succ_pos _) hle)
    exact .obj keys fun member hmember => ih member hmember (Nat.le_of_succ_le_succ hle)

theorem readValue_digit (d : Nat) (h : d < 10) (cs : List Char) :
    readValue (fuel + 1) depth (digitChar d :: cs) = readNumber false (digitChar d :: cs) := by
  match d, h with
  | 0, _ | 1, _ | 2, _ | 3, _ | 4, _ | 5, _ | 6, _ | 7, _ | 8, _ | 9, _ => rw [readValue]; rfl

theorem readValue_writeInt {n : Int} (low : -2 ^ (63 : Nat) ≤ n) (high : n < 2 ^ (64 : Nat)) (h : Stops rest) :
    readValue (fuel + 1) depth (writeInt n ++ rest) = some (int n, rest) := by
  unfold writeInt
  split
  · next hneg =>
    have hread : readNumber true (decimalDigits n.natAbs ++ rest) = _ :=
      readNumber_decimalDigits (show 0 < n.natAbs ∧ n.natAbs ≤ 2 ^ (63 : Nat) by omega) h
    rw [List.cons_append, readValue]
    show readNumber true (decimalDigits n.natAbs ++ rest) = _
    rw [hread, if_pos rfl, show -(n.natAbs : Int) = n by omega]
  · next hnonneg =>
    have hread : readNumber false (decimalDigits n.natAbs ++ rest) = _ :=
      readNumber_decimalDigits (show n.natAbs < 2 ^ (64 : Nat) by omega) h
    obtain ⟨d, hd, cs, hcons, -⟩ := decimalDigits_eq_cons n.natAbs
    rw [hcons, List.cons_append, readValue_digit d hd, ← List.cons_append, ← hcons, hread, if_neg (by decide),
      show (n.natAbs : Int) = n by omega]

theorem readValue_writeString (s : String) (rest : List Char) :
    readValue (fuel + 1) depth (writeString s ++ rest) = some (str s, rest) := by
  rw [writeString, List.append_assoc, List.cons_append, List.singleton_append, readValue]
  show (readString .plain (s.toList.flatMap writeChar ++ '"' :: rest)).map _ = _
  rw [readString_flatMap, Option.map_some, String.ofList_toList]

theorem write_eq_cons {j : Json} (h : Writable depth j) :
    ∃ c cs, j.write = c :: cs ∧ isSpace c = false ∧ c ≠ ']' := by
  have hdigit : ∀ d < 10, isSpace (digitChar d) = false ∧ digitChar d ≠ ']' := by decide
  cases h with
  | null => exact ⟨_, _, rfl, rfl, by decide⟩
  | bool b => cases b <;> exact ⟨_, _, rfl, rfl, by decide⟩
  | int low high =>
    rename_i n
    obtain ⟨d, hd, cs, hcons, -⟩ := decimalDigits_eq_cons n.natAbs
    unfold write writeInt
    split
    · exact ⟨_, _, rfl, rfl, by decide⟩
    · exact ⟨_, _, hcons, hdigit d hd⟩
  | str s => exact ⟨_, _, rfl, rfl, by decide⟩
  | arr h => exact ⟨_, _, rfl, rfl, by decide⟩
  | obj keys h => exact ⟨_, _, rfl, rfl, by decide⟩

/-! ## Lists and objects -/

theorem stops_cons {c : Char} (h : isDigit c = false ∧ c ≠ '.' ∧ c ≠ 'e' ∧ c ≠ 'E') : Stops (c :: rest) := by
  rintro _ ⟨⟩
  exact h

/-- The value is read back from its text, whatever follows that is no part of a number. -/
def ReadsBack (depth : Nat) (j : Json) : Prop :=
  ∀ fuel rest, 2 * j.write.length ≤ fuel → Stops rest → readValue fuel depth (j.write ++ rest) = some (j, rest)

theorem writeItems_cons (item next : Json) (items : List Json) :
    writeItems (item :: next :: items) = item.write ++ ',' :: writeItems (next :: items) := rfl

theorem writeMembers_cons (key : String) (value : Json) (next : String × Json) (members : List (String × Json)) :
    writeMembers ((key, value) :: next :: members) =
      writeString key ++ ':' :: value.write ++ ',' :: writeMembers (next :: members) := rfl

theorem readItems_writeItems {items : List Json} (hne : items ≠ []) (h : ∀ item ∈ items, ReadsBack depth item)
    (hfuel : 2 * (writeItems items).length < fuel) :
    readItems fuel depth (writeItems items ++ ']' :: rest) = some (items, rest) := by
  induction items generalizing fuel with
  | nil => exact absurd rfl hne
  | cons item items ih =>
    obtain ⟨fuel, rfl⟩ := Nat.exists_eq_add_one.mpr (Nat.zero_lt_of_lt hfuel)
    cases items with
    | nil =>
      rw [writeItems] at hfuel ⊢
      rw [readItems, h item List.mem_cons_self fuel (']' :: rest) (by omega) (stops_cons (by decide))]
      rfl
    | cons next items =>
      rw [writeItems_cons, List.length_append, List.length_cons] at hfuel
      have hrest : readItems fuel depth (writeItems (next :: items) ++ ']' :: rest) = some (next :: items, rest) :=
        ih (List.cons_ne_nil _ _) (fun item hmem => h item (List.mem_cons_of_mem _ hmem)) (by omega)
      rw [writeItems_cons, List.append_assoc, List.cons_append, readItems,
        h item List.mem_cons_self fuel _ (by omega) (stops_cons (by decide))]
      show (readItems fuel depth (writeItems (next :: items) ++ ']' :: rest)).map _ = _
      rw [hrest, Option.map_some]

def readBehind (fuel depth : Nat) (members : List (String × Json)) (tail : List Char) :
    Option (List (String × Json) × List Char) :=
  match skipSpace tail with
  | ',' :: rest => readMembers fuel depth members rest
  | '\x7d' :: rest => some (members, rest)
  | _ => none

theorem readMembers_cons {before : List (String × Json)} {key : String} {value : Json} {tail : List Char}
    (h : ReadsBack depth value) (hfuel : 2 * value.write.length ≤ fuel) (fresh : key ∉ before.map Prod.fst)
    (hstops : Stops tail) :
    readMembers (fuel + 1) depth before (writeString key ++ ':' :: value.write ++ tail) =
      readBehind fuel depth (before ++ [(key, value)]) tail := by
  have hkey : readString .plain (key.toList.flatMap writeChar ++ '"' :: ':' :: (value.write ++ tail)) =
      some (key.toList, ':' :: (value.write ++ tail)) := readString_flatMap _ _
  have hopen (cs : List Char) : skipSpace ('"' :: cs) = '"' :: cs := rfl
  have hcolon (cs : List Char) : skipSpace (':' :: cs) = ':' :: cs := rfl
  simp only [writeString, List.cons_append, List.append_assoc, List.nil_append, readMembers, hopen, hkey, hcolon,
    h fuel tail hfuel hstops, String.ofList_toList, Table.put_of_not_mem fresh]
  rfl

theorem readMembers_writeMembers {before members : List (String × Json)} (hne : members ≠ [])
    (keys : ((before ++ members).map Prod.fst).Nodup) (h : ∀ member ∈ members, ReadsBack depth member.2)
    (hfuel : 2 * (writeMembers members).length < fuel) :
    readMembers fuel depth before (writeMembers members ++ '\x7d' :: rest) = some (before ++ members, rest) := by
  induction members generalizing fuel before with
  | nil => exact absurd rfl hne
  | cons member members ih =>
    obtain ⟨key, value⟩ := member
    obtain ⟨fuel, rfl⟩ := Nat.exists_eq_add_one.mpr (Nat.zero_lt_of_lt hfuel)
    have fresh : key ∉ before.map Prod.fst := by
      rw [List.map_append, List.nodup_append] at keys
      exact fun hmem => keys.2.2 key hmem key List.mem_cons_self rfl
    have hvalue : ReadsBack depth value := h (key, value) List.mem_cons_self
    cases members with
    | nil =>
      simp only [writeMembers, List.length_append, List.length_cons] at hfuel
      rw [writeMembers, readMembers_cons hvalue (by omega) fresh (stops_cons (by decide))]
      rfl
    | cons next members =>
      simp only [writeMembers_cons, List.length_append, List.length_cons] at hfuel
      have hrest : readMembers fuel depth (before ++ [(key, value)])
          (writeMembers (next :: members) ++ '\x7d' :: rest) =
          some (before ++ [(key, value)] ++ next :: members, rest) :=
        ih (List.cons_ne_nil _ _) (by rwa [List.append_assoc])
          (fun member hmem => h member (List.mem_cons_of_mem _ hmem)) (by omega)
      rw [writeMembers_cons, List.append_assoc, List.cons_append,
        readMembers_cons hvalue (by omega) fresh (stops_cons (by decide))]
      show readMembers fuel depth _ (writeMembers (next :: members) ++ '\x7d' :: rest) = _
      rw [hrest, List.append_assoc, List.singleton_append]

theorem readValue_list {c : Char} {cs : List Char} (hspace : isSpace c = false) (hne : c ≠ ']') :
    readValue (fuel + 1) (depth + 1) ('[' :: c :: cs) =
      (readItems fuel depth (c :: cs)).map fun r => (arr r.1, r.2) := by
  have hskip : skipSpace (c :: cs) = c :: cs := List.dropWhile_cons_of_neg (by simp [hspace])
  rw [readValue]
  show (if depth + 1 = 0 then none else _) = _
  rw [if_neg (by omega), hskip]
  split
  · next heq => exact absurd (List.cons.inj heq).1 hne
  · rfl

theorem readValue_object (cs : List Char) :
    readValue (fuel + 1) (depth + 1) ('\x7b' :: '"' :: cs) =
      (readMembers fuel depth [] ('"' :: cs)).map fun r => (obj r.1, r.2) := by
  rw [readValue]
  rfl

theorem writeItems_eq_cons {item : Json} (h : Writable depth item) (items : List Json) :
    ∃ c cs, writeItems (item :: items) = c :: cs ∧ isSpace c = false ∧ c ≠ ']' := by
  obtain ⟨c, cs, hcons, hc⟩ := write_eq_cons h
  cases items with
  | nil => exact ⟨c, cs, hcons, hc⟩
  | cons next items => exact ⟨c, _, by rw [writeItems_cons, hcons, List.cons_append], hc⟩

theorem writeMembers_eq_cons {members : List (String × Json)} (h : members ≠ []) :
    ∃ cs, writeMembers members = '"' :: cs := by
  cases members with
  | nil => exact absurd rfl h
  | cons member members => cases members <;> exact ⟨_, rfl⟩

theorem readsBack_of_step {j : Json} (h : Writable depth j)
    (hstep : ∀ fuel rest, 2 * j.write.length ≤ fuel + 1 → Stops rest →
      readValue (fuel + 1) depth (j.write ++ rest) = some (j, rest)) : ReadsBack depth j := by
  intro fuel rest hfuel hstops
  have hlength : 0 < j.write.length := by
    obtain ⟨c, cs, hcons, -⟩ := write_eq_cons h
    rw [hcons]
    exact Nat.succ_pos _
  obtain ⟨fuel, rfl⟩ := Nat.exists_eq_add_one.mpr (show 0 < fuel by omega)
  exact hstep fuel rest hfuel hstops

/-- A value is read back, whatever follows that is no part of a number. The induction is on how deep it is nested. -/
theorem Writable.readsBack {j : Json} (h : Writable depth j) : ReadsBack depth j := by
  induction h with
  | null =>
    refine readsBack_of_step .null fun fuel rest _ _ => ?_
    rw [readValue]
    rfl
  | bool b =>
    refine readsBack_of_step (.bool b) fun fuel rest _ _ => ?_
    rw [readValue]
    cases b <;> rfl
  | int low high => exact readsBack_of_step (.int low high) fun _ _ _ hstops => readValue_writeInt low high hstops
  | str s => exact readsBack_of_step (.str s) fun _ rest _ _ => readValue_writeString s rest
  | @arr depth items h ih =>
    refine readsBack_of_step (.arr h) fun fuel rest hfuel _ => ?_
    cases items with
    | nil =>
      rw [readValue]
      rfl
    | cons item items =>
      rw [write, List.length_append, List.length_cons, List.length_singleton] at hfuel
      have hitems : readItems fuel depth (writeItems (item :: items) ++ ']' :: rest) = some (item :: items, rest) :=
        readItems_writeItems (List.cons_ne_nil item items) ih (by omega)
      obtain ⟨c, cs, hcons, hspace, hne⟩ := writeItems_eq_cons (h item List.mem_cons_self) items
      rw [write, List.cons_append, List.cons_append, List.append_assoc, List.singleton_append, hcons, List.cons_append,
        readValue_list hspace hne, ← List.cons_append, ← hcons, hitems]
      rfl
  | @obj depth members keys h ih =>
    refine readsBack_of_step (.obj keys h) fun fuel rest hfuel _ => ?_
    cases members with
    | nil =>
      rw [readValue]
      rfl
    | cons member members =>
      rw [write, List.length_append, List.length_cons, List.length_singleton] at hfuel
      have hmembers : readMembers fuel depth [] (writeMembers (member :: members) ++ '\x7d' :: rest) = _ :=
        readMembers_writeMembers (List.cons_ne_nil member members) keys ih (by omega)
      obtain ⟨cs, hcons⟩ := writeMembers_eq_cons (List.cons_ne_nil member members)
      rw [write, List.cons_append, List.cons_append, List.append_assoc, List.singleton_append, hcons, List.cons_append,
        readValue_object, ← List.cons_append, ← hcons, hmembers]
      rfl

theorem parse?_toString {j : Json} (h : Writable 127 j) : parse? j.toString = some j := by
  have hread := h.readsBack (2 * j.write.length + 2) [] (by omega) nofun
  rw [List.append_nil] at hread
  rw [parse?, Json.toString, String.toList_ofList, hread]
  rfl

end Json
end Settlement
