import Settlement.Text.Digits
import Settlement.Toml.Blank

/-! Quoted texts of TOML: in single or double quotes, on one line or on several. -/
namespace Settlement
namespace Toml

structure Quoting where
  quote : Char
  escapes : Bool
  lines : Bool

inductive Place
  /-- Plain text, in which white space is passed over behind an escaped line break. -/
  | plain (skipping : Bool)
  | escape
  /-- Behind a backslash and blanks, where a line break must follow. -/
  | breaking
  | code (missing value : Nat)

def escaped? : Char → Option Char
  | 'b' => some '\x08'
  | 't' => some '\t'
  | 'n' => some '\n'
  | 'f' => some '\x0c'
  | 'r' => some '\r'
  | '"' => some '"'
  | '\\' => some '\\'
  | _ => none

def scalar? (code : Nat) : Option Char := if code.isValidChar then some (Char.ofNat code) else none

inductive Step
  | pass (next : Place)
  | keep (c : Char) (next : Place)
  /-- The text ends; some quotes still belong to it, and some characters behind this one do not
  belong to the rest. -/
  | close (last : List Char) (used : Nat)
  | refuse

/-- A quote, with `more` of them behind it. In a text of several lines the last three of a run of
quotes close the text, and up to two in front of them belong to it. -/
def Quoting.stepQuote (q : Quoting) (more : Nat) : Step :=
  if q.lines then
    if more < 2 then .keep q.quote (.plain false)
    else if more ≤ 4 then .close (List.replicate (more - 2) q.quote) more
    else .refuse
  else .close [] 0

def Quoting.step (q : Quoting) (place : Place) (c : Char) (rest : List Char) : Step :=
  match place with
  | .plain skipping =>
    if skipping ∧ (isBlank c ∨ c = '\n') then .pass (.plain true)
    else if c = q.quote then q.stepQuote (rest.takeWhile (· == q.quote)).length
    else if c = '\\' ∧ q.escapes then .pass .escape
    else if isShown c ∨ c = '\n' ∧ q.lines then .keep c (.plain false)
    else .refuse
  | .escape =>
    if c = 'u' then .pass (.code 4 0)
    else if c = 'U' then .pass (.code 8 0)
    else if q.lines ∧ c = '\n' then .pass (.plain true)
    else if q.lines ∧ isBlank c then .pass .breaking
    else match escaped? c with
      | some e => .keep e (.plain false)
      | none => .refuse
  | .breaking =>
    if c = '\n' then .pass (.plain true)
    else if isBlank c then .pass .breaking
    else .refuse
  | .code missing value =>
    match Text.hexValue? c with
    | none => .refuse
    | some d =>
      if 1 < missing then .pass (.code (missing - 1) (16 * value + d))
      else match scalar? (16 * value + d) with
        | some e => .keep e (.plain false)
        | none => .refuse

def readQuoted (q : Quoting) : Place → List Char → Option (List Char × List Char)
  | _, [] => none
  | place, c :: rest =>
    match q.step place c rest with
    | .pass next => readQuoted q next rest
    | .keep c next => (readQuoted q next rest).map fun r => (c :: r.1, r.2)
    | .close last used => some (last, rest.drop used)
    | .refuse => none

def readLines (q : Quoting) : List Char → Option (List Char × List Char)
  | '\n' :: rest => readQuoted q (.plain false) rest
  | cs => readQuoted q (.plain false) cs

def readLine? : List Char → Option (List Char × List Char)
  | '"' :: rest => readQuoted ⟨'"', true, false⟩ (.plain false) rest
  | '\'' :: rest => readQuoted ⟨'\'', false, false⟩ (.plain false) rest
  | _ => none

def readText? : List Char → Option (List Char × List Char)
  | '"' :: '"' :: '"' :: rest => readLines ⟨'"', true, true⟩ rest
  | '\'' :: '\'' :: '\'' :: rest => readLines ⟨'\'', false, true⟩ rest
  | cs => readLine? cs

end Toml
end Settlement
