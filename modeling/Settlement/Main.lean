import Settlement.Arguments
import Settlement.Config.Document
import Settlement.Replay.Log
import Std.Time.DateTime.Timestamp

/-! The replay command. It reads an operation log, reports what it skips on the
error stream, and writes the balances at the end of the log. -/
namespace Settlement
namespace Command

def usage : String :=
  "Replays a settlement operation log and prints merchant balances

Usage: settlement [OPTIONS] <FILE>

Arguments:
  <FILE>  CSV file with the columns
          type,merchant,reference,amount,depth,finalized,actor,detail

Options:
      --config <PATH>    TOML settlement configuration; defaults apply when omitted
      --rate <RATE>      Token price in the settlement currency [default: 25000]
      --usd-rate <RATE>  USD price in the settlement currency; defaults to --rate
      --tier <TIER>      KYC tier given to merchants on first sight [default: verified]
  -h, --help             Print help"

abbrev Run := ExceptT (String × UInt32) IO

def readFile (path : String) (failure : String) : Run String := do
  match ← (IO.FS.readFile path).toBaseIO with
  | .ok text => return text
  | .error e => throw (failure ++ toString e, 1)

def loadConfig : Option String → Run SettlementConfig
  | none => return .default
  | some path => do
    let failure := s!"Error loading config '{path}': "
    match SettlementConfig.ofToml (← readFile path failure) with
    | .ok config => return config
    | .error e => throw (failure ++ e.message, 1)

def report : LogEntry → Option String
  | .skipped row kind e => some s!"row {row}: skipping operation {kind}: {e.message}"
  | .unreadable row => some s!"row {row}: skipping malformed row"
  | .swept _ => none

def systemTime : Run Instant := do
  let stamp ← Std.Time.Timestamp.now
  let nanos := stamp.toNanosecondsSinceUnixEpoch.val
  match Instant.ofParts? (nanos / 1000000000) (nanos % 1000000000).toNat with
  | some now => return now
  | none => throw ("Error: the system clock is out of range", 1)

def randomSupply : IO Uuid.Supply := do
  let bytes ← IO.getRandomBytes 16
  return .seeded (BitVec.ofNat 128 (bytes.foldl (fun n b => 256 * n + b.toNat) 0))

def replay (arguments : Arguments) : Run String := do
  let config ← loadConfig arguments.config
  let log ← readFile arguments.input s!"Error opening file '{arguments.input}': "
  let start := Replay.opened config arguments.rate arguments.effectiveUsdRate arguments.tier
    (← systemTime) (← randomSupply)
  match start.run log with
  | none => throw ("Error: a number left the range of decimals", 101)
  | some (finished, entries) =>
    for line in entries.filterMap report do
      IO.eprintln line
    return finished.statement

end Command
end Settlement

open Settlement in
def main (arguments : List String) : IO UInt32 := do
  match Arguments.parse arguments with
  | .error .helpRequested =>
    IO.println Command.usage
    return 0
  | .error e =>
    IO.eprintln s!"error: {e.message}\n\nFor more information, try '--help'."
    return 2
  | .ok arguments =>
    match ← Command.replay arguments with
    | .ok statement =>
      IO.print statement
      return 0
    | .error (message, code) =>
      IO.eprintln message
      return code
