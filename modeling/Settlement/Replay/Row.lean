import Settlement.Decimal.Parser
import Settlement.Text.Digits

/-! Rows of an operation log. Which column a cell belongs to is said by a header. -/
namespace Settlement

attribute [local instance (high)] instPowNat

/-- A row of the log. What a cell means depends on the kind of the operation. -/
structure LogRow where
  kind : String
  merchant : String
  reference : String
  amount : Option Decimal
  depth : Option UInt32
  finalized : Option Bool
  actor : String
  detail : String
  deriving DecidableEq

namespace LogRow

inductive Column
  | kind | merchant | reference | amount | depth | finalized | actor | detail
  deriving DecidableEq

namespace Column

def all : List Column := [kind, merchant, reference, amount, depth, finalized, actor, detail]

theorem mem_all (c : Column) : c ∈ all := by cases c <;> decide

def name : Column → String
  | kind => "type"
  | merchant => "merchant"
  | reference => "reference"
  | amount => "amount"
  | depth => "depth"
  | finalized => "finalized"
  | actor => "actor"
  | detail => "detail"

def ofName? (s : String) : Option Column := all.find? (·.name = s)

/-- Columns of which a cell may be cut off; it then counts as empty. -/
def mayBeCut : Column → Bool
  | amount | depth | finalized => true
  | kind | merchant | reference | actor | detail => false

end Column

/-- A number of confirmations, to the base ten or behind `0x` to the base sixteen. -/
def readDepth? (s : String) : Option UInt32 :=
  (match s.toList with
    | '0' :: 'x' :: digits => Text.readHexBelow? (2 ^ (32 : Nat)) digits
    | digits => Text.readBelow? (2 ^ (32 : Nat)) digits).map UInt32.ofNat

def readFlag? : String → Option Bool
  | "true" => some true
  | "false" => some false
  | _ => none

def isHeader (header : List String) : Bool :=
  let columns := header.filterMap Column.ofName?
  columns.contains .kind && decide columns.Nodup

def isLongEnough (header record : List String) : Bool :=
  (header.drop record.length).all fun name => (Column.ofName? name).any Column.mayBeCut

/-- The row that a record spells under a header. Cells of other columns are passed over, cells that
cannot be read as a number or flag count as empty. -/
def ofRecord? (header record : List String) : Option LogRow :=
  let cell (c : Column) : String := ((header.zip record).lookup c.name).getD ""
  if isHeader header && isLongEnough header record then
    some {
      kind := cell .kind
      merchant := cell .merchant
      reference := cell .reference
      amount := Decimal.ofString? (cell .amount)
      depth := readDepth? (cell .depth)
      finalized := readFlag? (cell .finalized)
      actor := cell .actor
      detail := cell .detail }
  else none

end LogRow
end Settlement
