import Settlement.Decimal.Parser
import Settlement.Decimal.Printer
import Settlement.Identifier
import Settlement.Json.Basic
import Settlement.Time.Timestamp

/-! The written form of values as structured data, and its reading. A record is an
object with a member for each field, or a bare list of its fields in order;
members that belong to no field are passed over. -/
namespace Settlement

attribute [local instance (high)] instPowNat

/-- What differs between data formats in reading records. -/
structure DataFormat where
  decimal : Json → Option Decimal
  /-- Whether a list may be longer than the record that it stands for. -/
  surplus : Bool

def DataFormat.json : DataFormat where
  decimal
    | .str s => Decimal.ofString? s
    | _ => none
  surplus := false

/-- Types with a written form. -/
class Coded (α : Type) where
  encode : α → Json
  decode : DataFormat → Json → Option α

namespace Coded

instance : Coded String where
  encode := .str
  decode _
    | .str s => some s
    | _ => none

instance : Coded Bool where
  encode := .bool
  decode _
    | .bool b => some b
    | _ => none

instance : Coded UInt32 where
  encode n := .int n.toNat
  decode _
    | .int n => if 0 ≤ n ∧ n < 2 ^ (32 : Nat) then some (UInt32.ofNat n.toNat) else none
    | _ => none

instance : Coded UInt64 where
  encode n := .int n.toNat
  decode _
    | .int n => if 0 ≤ n ∧ n < 2 ^ (64 : Nat) then some (UInt64.ofNat n.toNat) else none
    | _ => none

instance : Coded Decimal where
  encode d := .str d.toString
  decode format := format.decimal

@[reducible] def ofText {α : Type} (write : α → String) (read : String → Option α) : Coded α where
  encode a := .str (write a)
  decode _
    | .str s => read s
    | _ => none

instance : Coded Uuid := ofText Uuid.toString Uuid.ofString?
instance : Coded Day := ofText Day.toString Day.ofString?
instance : Coded Instant := ofText Instant.toString Instant.ofString?

@[reducible] def wrapping {α β : Type} [Coded β] (unwrap : α → β) (wrap : β → α) : Coded α where
  encode a := encode (unwrap a)
  decode format j := (decode format j).map wrap

instance : Coded MerchantId := wrapping MerchantId.uuid MerchantId.mk
instance : Coded PaymentId := wrapping PaymentId.uuid PaymentId.mk
instance : Coded PayoutId := wrapping PayoutId.uuid PayoutId.mk
instance : Coded PaymentReference := wrapping PaymentReference.text PaymentReference.mk
instance : Coded ActorId := wrapping ActorId.name ActorId.mk

/-- Types with finitely many named values. A value is written as its name; it may also be read as
an object that maps the name to null. -/
@[reducible] def ofNames {α : Type} (all : List α) (name : α → String) : Coded α where
  encode a := .str (name a)
  decode _
    | .str s => all.find? (name · = s)
    | .obj [(s, .null)] => all.find? (name · = s)
    | _ => none

instance {α : Type} [Coded α] : Coded (Option α) where
  encode
    | some a => encode a
    | none => .null
  decode format
    | .null => some none
    | j => (decode format j).map some

end Coded

open Coded

inductive Record
  | named (members : List (String × Json))
  | listed (items : List Json)

namespace Record

def of? (format : DataFormat) (fields : Nat) : Json → Option Record
  | .obj members => some (.named members)
  | .arr items => if format.surplus ∨ items.length ≤ fields then some (.listed items) else none
  | _ => none

def cell? : Record → Nat → String → Option Json
  | named members, _, name => Table.find? name members
  | listed items, position, _ => items[position]?

def required {α : Type} [Coded α] (r : Record) (format : DataFormat) (position : Nat) (name : String) :
    Option α :=
  (r.cell? position name).bind (decode format)

/-- A field whose member may be missing from an object. -/
def optional {α : Type} [Coded α] (r : Record) (format : DataFormat) (position : Nat) (name : String) :
    Option (Option α) :=
  match r, r.cell? position name with
  | named _, none => some none
  | listed _, none => none
  | _, some j => decode format j

/-- A field with a value for when it is missing. -/
def defaulted {α : Type} [Coded α] (r : Record) (format : DataFormat) (position : Nat) (name : String)
    (value : α) : Option α :=
  match r.cell? position name with
  | none => some value
  | some j => decode format j

end Record

def ofJson? (α : Type) [Coded α] (j : Json) : Option α := decode .json j

end Settlement
