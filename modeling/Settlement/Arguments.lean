import Settlement.Compliance.Tier
import Settlement.Decimal.Parser

/-! The arguments of the replay command: one file, and options that have a value
each. The value of an option follows it, or stands behind an equals sign. -/
namespace Settlement

inductive Flag
  | config | rate | usdRate | tier
  deriving DecidableEq

namespace Flag

def all : List Flag := [config, rate, usdRate, tier]

theorem mem_all (f : Flag) : f ∈ all := by cases f <;> decide

def name : Flag → String
  | config => "config"
  | rate => "rate"
  | usdRate => "usd-rate"
  | tier => "tier"

def ofName? (s : String) : Option Flag := all.find? (·.name = s)

end Flag

inductive UsageError
  | missingFile
  | unexpected (argument : String)
  | missingValue (flag : Flag)
  | emptyName
  | invalidValue (flag : Flag) (value : String)
  | repeated (flag : Flag)
  | surplusValue (value : String)
  | helpRequested
  deriving DecidableEq

def UsageError.message : UsageError → String
  | missingFile => "the following required argument was not provided: <FILE>"
  | unexpected argument => s!"unexpected argument '{argument}' found"
  | missingValue flag => s!"a value is required for '--{flag.name}' but none was supplied"
  | emptyName => "a file name must not be empty"
  | invalidValue flag value => s!"invalid value '{value}' for '--{flag.name}'"
  | repeated flag => s!"the argument '--{flag.name}' cannot be used multiple times"
  | surplusValue value => s!"unexpected value '{value}' for '--help' found; no more were expected"
  | helpRequested => "help"

structure Arguments where
  input : String
  config : Option String
  rate : Decimal
  usdRate : Option Decimal
  tier : KycTier
  deriving DecidableEq

namespace Arguments

/-- The price of the US dollar, which is that of the token unless it is given. -/
def effectiveUsdRate (a : Arguments) : Decimal := a.usdRate.getD a.rate

def defaultRate : Decimal := .ofNat 25000

def defaultTier : KycTier := .verified

structure Given where
  input : Option String := none
  config : Option String := none
  rate : Option Decimal := none
  usdRate : Option Decimal := none
  tier : Option KycTier := none

namespace Given

def has (g : Given) : Flag → Bool
  | .config => g.config.isSome
  | .rate => g.rate.isSome
  | .usdRate => g.usdRate.isSome
  | .tier => g.tier.isSome

def setFile (g : Given) (name : String) : Except UsageError Given :=
  if name.isEmpty then .error .emptyName else .ok { g with input := some name }

/-- Gives an option its value; none is given twice. -/
def set (g : Given) (flag : Flag) (value : String) : Except UsageError Given :=
  if g.has flag then .error (.repeated flag)
  else
    match flag with
    | .config => if value.isEmpty then .error .emptyName else .ok { g with config := some value }
    | .rate =>
      match Decimal.ofString? value with
      | some d => .ok { g with rate := some d }
      | none => .error (.invalidValue flag value)
    | .usdRate =>
      match Decimal.ofString? value with
      | some d => .ok { g with usdRate := some d }
      | none => .error (.invalidValue flag value)
    | .tier =>
      match KycTier.ofString value with
      | .ok t => .ok { g with tier := some t }
      | .error _ => .error (.invalidValue flag value)

def finish (g : Given) : Except UsageError Arguments :=
  match g.input with
  | none => .error .missingFile
  | some input => .ok {
      input
      config := g.config
      rate := g.rate.getD defaultRate
      usdRate := g.usdRate
      tier := g.tier.getD defaultTier }

end Given

/-- The argument that was read last. It is judged only when the next one has turned out to be
known. -/
inductive Pending
  | nothing
  | file (name : String)
  | flag (f : Flag) (value : Option String)

def settle (g : Given) : Pending → Except UsageError Given
  | .nothing => .ok g
  | .file name => g.setFile name
  | .flag f none => .error (.missingValue f)
  | .flag f (some value) => g.set f value

inductive Token
  | separator
  | flag (f : Flag) (value : Option String)
  | help (value : Option String)
  | unknown
  | word

def tokenOfLong (cs : List Char) : Token :=
  let name := String.ofList (cs.takeWhile (· ≠ '='))
  let value := match cs.dropWhile (· ≠ '=') with
    | [] => none
    | _ :: value => some (String.ofList value)
  match Flag.ofName? name with
  | some f => .flag f value
  | none => if name = "help" then .help value else .unknown

/-- A single hyphen is a word, and there is one short option. -/
def tokenOf (argument : String) : Token :=
  match argument.toList with
  | ['-', '-'] => .separator
  | '-' :: '-' :: cs => tokenOfLong cs
  | '-' :: 'h' :: _ => .help none
  | '-' :: _ :: _ => .unknown
  | _ => .word

def takeFile (g : Given) (last : Pending) (word : String) : Except UsageError (Given × Pending) :=
  if g.input.isSome ∨ last matches .file _ then .error (.unexpected word)
  else (settle g last).map fun g => (g, .file word)

def readWords (g : Given) (last : Pending) : List String → Except UsageError Given
  | [] => settle g last
  | word :: rest => do
    let (g, last) ← takeFile g last word
    readWords g last rest

def readFrom (g : Given) (last : Pending) : List String → Except UsageError Given
  | [] => settle g last
  | argument :: rest =>
    match tokenOf argument with
    | .separator => readWords g last rest
    | .unknown => .error (.unexpected argument)
    | .help (some value) => .error (.surplusValue value)
    | .help none => do
      let _ ← settle g last
      .error .helpRequested
    | .flag f none => do
      let g ← settle g last
      readFrom g (.flag f none) rest
    | .flag f (some value) => do
      let g ← settle g last
      let g ← g.set f value
      readFrom g .nothing rest
    | .word =>
      match last with
      | .flag f none => readFrom g (.flag f (some argument)) rest
      | _ => do
        let (g, last) ← takeFile g last argument
        readFrom g last rest

def parse (arguments : List String) : Except UsageError Arguments := do
  let g ← readFrom {} .nothing arguments
  g.finish

end Arguments
end Settlement
