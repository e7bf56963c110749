import Settlement.Codec.Basic
import Settlement.Proofs.Decimal.Printed
import Settlement.Proofs.Identifier
import Settlement.Proofs.Json.Written
import Settlement.Proofs.Time.Written

/-! Written forms that lose nothing: what is written for a value is read as that value again, also when it has been a
text in between. Decimals make the one difference, as a zero loses its minus sign. -/
namespace Settlement

attribute [local instance (high)] instPowNat

theorem Table.find?_append {κ ν : Type} [DecidableEq κ] (key : κ) (first second : List (κ × ν)) :
    find? key (first ++ second) = (find? key first).or (find? key second) := by
  induction first with
  | nil => rfl
  | cons entry first ih =>
    rw [List.cons_append, find?, find?, ih]
    split <;> rfl

theorem Table.find?_filter_key {κ ν : Type} [DecidableEq κ] {key : κ} {keep : κ → Bool} (h : keep key = true)
    (entries : List (κ × ν)) : find? key (entries.filter (keep ·.1)) = find? key entries := by
  induction entries with
  | nil => rfl
  | cons entry entries ih =>
    rw [List.filter_cons]
    by_cases hkey : entry.1 = key
    · rw [if_pos (by rwa [hkey]), find?, find?, if_pos hkey, if_pos hkey]
    · split
      · rw [find?, find?, if_neg hkey, if_neg hkey, ih]
      · rw [find?, if_neg hkey, ih]

namespace Coded

/-- What is written for a value is nested at most `depth` deep, and is read as what `plain` makes of the value. -/
class Readable (α : Type) [Coded α] (plain : outParam (α → α)) (depth : outParam Nat) : Prop where
  decode_encode (a : α) : decode .json (encode a) = some (plain a)
  writable (a : α) : (encode a).Writable depth

/-- Nothing is written as the missing value is. -/
class Lawful (α : Type) [Coded α] (plain : outParam (α → α)) (depth : outParam Nat) : Prop
    extends Readable α plain depth where
  encode_ne_null (a : α) : encode a ≠ .null

export Readable (decode_encode writable)

section

variable {α β : Type} {plain : α → α} {depth : Nat}

theorem within [Coded α] [Readable α plain depth] {n : Nat} (h : depth ≤ n) (a : α) : (encode a).Writable n :=
  (writable a).mono h

instance : Lawful String id 0 where
  decode_encode _ := rfl
  writable _ := .str _
  encode_ne_null _ := nofun

instance : Lawful Bool id 0 where
  decode_encode _ := rfl
  writable _ := .bool _
  encode_ne_null _ := nofun

instance : Lawful UInt32 id 0 where
  decode_encode n := by
    have hlt := n.toNat_lt
    show (if 0 ≤ (n.toNat : Int) ∧ (n.toNat : Int) < 2 ^ (32 : Nat) then some (UInt32.ofNat (n.toNat : Int).toNat)
      else none) = _
    rw [if_pos (by omega), Int.toNat_natCast, UInt32.ofNat_toNat]
    rfl
  writable n := by
    have hlt := n.toNat_lt
    exact .int (by omega) (by omega)
  encode_ne_null _ := nofun

instance : Lawful UInt64 id 0 where
  decode_encode n := by
    have hlt := n.toNat_lt
    show (if 0 ≤ (n.toNat : Int) ∧ (n.toNat : Int) < 2 ^ (64 : Nat) then some (UInt64.ofNat (n.toNat : Int).toNat)
      else none) = _
    rw [if_pos (by omega), Int.toNat_natCast, UInt64.ofNat_toNat]
    rfl
  writable n := by
    have hlt := n.toNat_lt
    exact .int (by omega) (by omega)
  encode_ne_null _ := nofun

instance : Lawful Decimal Decimal.plain 0 where
  decode_encode := Decimal.ofString?_toString
  writable _ := .str _
  encode_ne_null _ := nofun

theorem lawful_ofText {write : α → String} {read : String → Option α} (h : ∀ a, read (write a) = some a) :
    @Lawful α (ofText write read) id 0 :=
  let _ := ofText write read
  { decode_encode := h, writable := fun _ => .str _, encode_ne_null := fun _ => nofun }

instance : Lawful Uuid id 0 := lawful_ofText Uuid.ofString?_toString
instance : Lawful Day id 0 := lawful_ofText Day.ofString?_toString
instance : Lawful Instant id 0 := lawful_ofText Instant.ofString?_toString

theorem lawful_wrapping [Coded β] [Lawful β id depth] {unwrap : α → β} {wrap : β → α} (h : ∀ a, wrap (unwrap a) = a) :
    @Lawful α (wrapping unwrap wrap) id depth :=
  let _ := wrapping unwrap wrap
  { decode_encode := fun a => by
      show (decode .json (encode (unwrap a))).map wrap = some a
      rw [decode_encode, Option.map_some, id, h]
    writable := fun a => writable (unwrap a)
    encode_ne_null := fun a => Lawful.encode_ne_null (unwrap a) }

instance : Lawful MerchantId id 0 := lawful_wrapping fun _ => rfl
instance : Lawful PaymentId id 0 := lawful_wrapping fun _ => rfl
instance : Lawful PayoutId id 0 := lawful_wrapping fun _ => rfl
instance : Lawful PaymentReference id 0 := lawful_wrapping fun _ => rfl
instance : Lawful ActorId id 0 := lawful_wrapping fun _ => rfl

theorem lawful_ofNames {all : List α} {name : α → String} (h : ∀ a, all.find? (name · = name a) = some a) :
    @Lawful α (ofNames all name) id 0 :=
  let _ := ofNames all name
  { decode_encode := h, writable := fun _ => .str _, encode_ne_null := fun _ => nofun }

theorem decode_option_of_ne_null [Coded α] {j : Json} (h : j ≠ .null) :
    (decode .json j : Option (Option α)) = (decode .json j).map some := by
  cases j with
  | null => exact absurd rfl h
  | _ => rfl

instance [Coded α] [Lawful α plain depth] : Readable (Option α) (Option.map plain) depth where
  decode_encode
    | none => rfl
    | some a => by
      show decode .json (encode a) = _
      rw [decode_option_of_ne_null (Lawful.encode_ne_null a), decode_encode]
      rfl
  writable
    | none => .null
    | some a => writable a

end
end Coded

open Coded

namespace Record

section

variable {α β : Type} [Coded α] {members omitted : List (String × Json)} {position : Nat} {name : String}

theorem required_named : (named members).required .json position name =
    (Table.find? name members).bind (decode .json : Json → Option α) := by
  rw [required, cell?]

theorem optional_named : (named members).optional .json position name =
    (Table.find? name members).elim (some none) (decode .json : Json → Option (Option α)) := by
  cases h : Table.find? name members <;> simp [optional, cell?, h]

theorem defaulted_named {value : α} : (named members).defaulted .json position name value =
    (Table.find? name members).elim (some value) (decode .json) := by
  cases h : Table.find? name members <;> simp [defaulted, cell?, h]

theorem of?_bind {fields : Nat} {next : Record → Option β} :
    (of? .json fields (.obj members) >>= next) = next (named members) := rfl

/-! A field that is there is read, and the reading of the record goes on. -/

variable {plain : α → α} {depth : Nat}

theorem required_bind [Readable α plain depth] {next : α → Option β} (a : α)
    (h : Table.find? name members = some (encode a)) :
    ((named members).required .json position name >>= next) = next (plain a) := by
  rw [required_named, h, Option.bind_some, decode_encode]
  rfl

theorem optional_bind [Lawful α plain depth] {next : Option α → Option β} (a : Option α)
    (h : Table.find? name members = some (encode a)) :
    ((named members).optional .json position name >>= next) = next (a.map plain) := by
  rw [optional_named, h, Option.elim_some, decode_encode]
  rfl

theorem defaulted_bind [Readable α plain depth] {value : α} {next : α → Option β} (a : α)
    (h : Table.find? name members = some (encode a)) :
    ((named members).defaulted .json position name value >>= next) = next (plain a) := by
  rw [defaulted_named, h, Option.elim_some, decode_encode]
  rfl

/-! A missing member is as good as one that is null, or as one with the default. -/

variable {written completed : List (String × Json)}

theorem required_completed
    (h : Table.find? name completed = (Table.find? name written).or (Table.find? name omitted))
    (hnone : Table.find? name omitted = none) :
    (named completed).required .json position name = ((named written).required .json position name : Option α) := by
  rw [required_named, required_named, h, hnone, Option.or_none]

theorem optional_completed
    (h : Table.find? name completed = (Table.find? name written).or (Table.find? name omitted))
    (hnull : Table.find? name omitted = some .null) :
    (named completed).optional .json position name =
      ((named written).optional .json position name : Option (Option α)) := by
  rw [optional_named, optional_named, h, hnull]
  cases Table.find? name written <;> rfl

theorem defaulted_completed [Readable α plain depth] {value a : α}
    (h : Table.find? name completed = (Table.find? name written).or (Table.find? name omitted))
    (hdefault : Table.find? name omitted = some (encode a)) (hvalue : plain a = value) :
    (named completed).defaulted .json position name value = (named written).defaulted .json position name value := by
  rw [defaulted_named, defaulted_named, h, hdefault]
  cases Table.find? name written with
  | none => exact (decode_encode a).trans (congrArg some hvalue)
  | some _ => rfl

end

theorem bind_congr {α β : Type} {first first' : Option α} {next next' : α → Option β} (h : first = first')
    (hnext : ∀ a, next a = next' a) : (first >>= next) = (first' >>= next') := by
  rw [h, funext hnext]

end Record

namespace Coded

def text {α : Type} [Coded α] (a : α) : String := (encode a).toString

def ofText? (α : Type) [Coded α] (text : String) : Option α := (Json.parse? text).bind (ofJson? α)

def members {α : Type} [Coded α] (a : α) : List (String × Json) :=
  match encode a with
  | .obj members => members
  | _ => []

def names {α : Type} [Coded α] (a : α) : List String := (members a).map Prod.fst

/-- A record that is read from the members with its own names, of which those in `omitted` may be left out. -/
class LawfulRecord (α : Type) [Coded α] (plain : outParam (α → α)) (depth : outParam Nat)
    (omitted : outParam (List (String × Json))) : Prop extends Lawful α plain depth where
  decode_completed (a : α) (written completed : List (String × Json))
    (h : ∀ name, (names a).contains name = true →
      Table.find? name completed = (Table.find? name written).or (Table.find? name omitted)) :
    decode .json (.obj completed) = (decode .json (.obj written) : Option α)

/-- Writing a record and reading it again loses nothing but what `plain` takes away. -/
structure Faithful (α : Type) [Coded α] (plain : α → α) (omitted : List (String × Json)) : Prop where
  ofText?_text (a : α) : ofText? α (text a) = some (plain a)
  ofText?_rewritten (source : String) (a : α) (h : ofText? α source = some a) : ofText? α (text a) = some (plain a)
  /-- Members with other names than those that are written count for nothing. -/
  unknown (a : α) (written : List (String × Json)) :
    ofJson? α (.obj (written.filter ((names a).contains ·.1))) = ofJson? α (.obj written)
  /-- A member that has been left out counts as the one with its name in `omitted`. -/
  omitted (a : α) (written : List (String × Json)) :
    ofJson? α (.obj written) = some a ↔ ofJson? α (.obj (written ++ omitted)) = some a

theorem ofText?_text {α : Type} [Coded α] {plain : α → α} {depth : Nat} [Readable α plain depth] (shallow : depth ≤ 127)
    (a : α) : ofText? α (text a) = some (plain a) := by
  rw [ofText?, text, Json.parse?_toString (within shallow a), Option.bind_some, ofJson?, decode_encode]

namespace LawfulRecord

variable {α : Type} [Coded α] {plain : α → α} {depth : Nat} {omitted : List (String × Json)}
  [law : LawfulRecord α plain depth omitted]

include law

theorem decode_append (a : α) (written : List (String × Json)) :
    decode .json (.obj (written ++ omitted)) = (decode .json (.obj written) : Option α) :=
  decode_completed a _ _ fun name _ => Table.find?_append name written omitted

theorem decode_filter (a : α) (written : List (String × Json)) :
    decode .json (.obj (written.filter ((names a).contains ·.1))) = (decode .json (.obj written) : Option α) := by
  rw [← decode_append a (written.filter ((names a).contains ·.1))]
  refine decode_completed a _ _ fun name hname => ?_
  rw [Table.find?_append, Table.find?_filter_key hname]

theorem faithful (shallow : depth ≤ 127) : Faithful α plain omitted where
  ofText?_text a := Coded.ofText?_text shallow a
  ofText?_rewritten _ a _ := Coded.ofText?_text shallow a
  unknown a written := decode_filter a written
  omitted a written := by rw [ofJson?, ofJson?, decode_append a]

end LawfulRecord
end Coded
end Settlement
