import Settlement.Csv.Reader
import Settlement.Csv.Writer
import Settlement.Replay.Basic

/-! Replaying a whole log from a CSV text, and writing the balances at its end. -/
namespace Settlement

/-- What is reported of a log. Rows are counted from one, behind the header. -/
inductive LogEntry
  | skipped (row : Nat) (kind : String) (error : ReplayError)
  | unreadable (row : Nat)
  | swept (count : Nat)
  deriving DecidableEq

namespace Replay

/-- The replay of the records behind a header, and its report. Rows that cannot be read or carried
out are skipped; a number out of range ends the replay without a result. -/
def runRecords (header : List String) (r : Replay) (row : Nat) :
    List (List String) → Option (Replay × List LogEntry)
  | [] => some (r, [])
  | record :: rest =>
    let (r, entries) : Replay × List LogEntry :=
      match LogRow.ofRecord? header record with
      | none => (r, [.unreadable row])
      | some cells =>
        match r.apply cells with
        | (r, .ok .applied) => (r, [])
        | (r, .ok (.swept count)) => (r, [.swept count])
        | (r, .error e) => (r, [.skipped row cells.kind e])
    if entries.any (· matches .skipped _ _ (.failed .overflow)) then none
    else (runRecords header r (row + 1) rest).map fun result => (result.1, entries ++ result.2)

/-- The replay of a log, which is text. A file may also hold bytes that are no UTF-8; a record with such bytes would be
one that cannot be read. -/
def run (r : Replay) (log : String) : Option (Replay × List LogEntry) :=
  match Csv.read log with
  | [] => some (r, [])
  | header :: records => r.runRecords header 1 records

/-- An amount in a statement of balances, in the settlement currency; a half goes to the even
neighbour. -/
def statementAmount (r : Replay) (d : Decimal) : String :=
  (d.round .halfToEven r.engine.config.settlementCurrency.scale.toNat).toString

def statementRow (r : Replay) (label : String) (b : Balance) : List String :=
  [label, r.statementAmount b.available, r.statementAmount b.pending,
    r.statementAmount b.totalReceived, r.statementAmount b.totalPaidOut]

def statementHeader : List String :=
  ["merchant", "available", "pending", "total_received", "total_paid_out"]

def statementRows (r : Replay) : List (List String) :=
  (r.merchants.entries.mergeSort fun a b => !decide (b.1 < a.1)).filterMap fun entry =>
    (r.engine.ledger.balance? entry.2).map (r.statementRow entry.1)

/-- The balances as a CSV text, with a header if there are any. -/
def statement (r : Replay) : String :=
  match r.statementRows with
  | [] => ""
  | rows => Csv.write (statementHeader :: rows)

end Replay
end Settlement
