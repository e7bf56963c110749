import Settlement.Codec.Config
import Settlement.Toml.Document

/-! Settings from a configuration file in TOML. -/
namespace Settlement

inductive ConfigError
  | unreadable
  | ttlOutOfRange
  deriving DecidableEq

def ConfigError.message : ConfigError → String
  | unreadable => "failed to parse config"
  | ttlOutOfRange => SettlementConfig.ttlMessage

/-- Decimals are written as strings or numbers, and lists may have a surplus. -/
def DataFormat.toml : DataFormat where
  decimal
    | .str s => Decimal.ofString? s
    | .int n => Decimal.ofParts? n 0
    | .real literal => Decimal.ofString? literal
    | _ => none
  surplus := true

namespace SettlementConfig

/-- The settings in a TOML document, with defaults for those that it leaves out. -/
def ofToml (document : String) : Except ConfigError SettlementConfig :=
  match (Toml.parse? document).bind (Coded.decode .toml) with
  | none => .error .unreadable
  | some config => if isValid config then .ok config else .error .ttlOutOfRange

end SettlementConfig
end Settlement
