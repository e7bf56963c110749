import Settlement.Toml.DateTime
import Settlement.Toml.Number
import Settlement.Toml.Quoted
import Settlement.Toml.Tree

/-! Keys and values of TOML. Lists may run over several lines and inline tables
may not. -/
namespace Settlement
namespace Toml

/-- Keys have fewer parts than this, and lists and inline tables are nested less deep. -/
def depthLimit : Nat := 80

def isBare (c : Char) : Bool := c.isAlphanum || c == '_' || c == '-'

def readPart (cs : List Char) : Option (String × List Char) :=
  let bare := cs.takeWhile isBare
  if bare.isEmpty then (readLine? cs).map fun r => (String.ofList r.1, r.2)
  else some (String.ofList bare, cs.drop bare.length)

def readParts : (most : Nat) → List Char → Option (List String × List Char)
  | 0, _ => none
  | most + 1, cs =>
    match readPart (skipBlanks cs) with
    | none => none
    | some (part, rest) =>
      match skipBlanks rest with
      | '.' :: rest => (readParts most rest).map fun r => (part :: r.1, r.2)
      | rest => some ([part], rest)

def readKey (cs : List Char) : Option (List String × String × List Char) := do
  let (parts, rest) ← readParts (depthLimit - 1) cs
  let key ← parts.getLast?
  return (parts.dropLast, key, rest)

def skipWord (word : List Char) (cs : List Char) : Option (List Char) :=
  if word.isPrefixOf cs then some (cs.drop word.length) else none

/-- A value that holds no others. Of a date or time nothing is kept. -/
def readScalar (cs : List Char) : Option (Json × List Char) :=
  match cs with
  | '"' :: _ | '\'' :: _ => (readText? cs).map fun r => (.str (String.ofList r.1), r.2)
  | 't' :: _ => (skipWord ['t', 'r', 'u', 'e'] cs).map fun rest => (.bool true, rest)
  | 'f' :: _ => (skipWord ['f', 'a', 'l', 's', 'e'] cs).map fun rest => (.bool false, rest)
  | _ => ((skipMoment cs).map fun rest => (.obj [], rest)).or (readNumber cs)

mutual

def readValue : (fuel depth : Nat) → List Char → Option (Json × List Char)
  | 0, _, _ => none
  | fuel + 1, depth, cs =>
    match cs with
    | '[' :: rest =>
      if depth = 0 then none else (readItems fuel (depth - 1) rest).map fun r => (.arr r.1, r.2)
    | '\x7b' :: rest =>
      if depth = 0 then none
      else match skipBlanks rest with
        | '\x7d' :: rest => some (.obj [], rest)
        | rest => (readMembers fuel (depth - 1) [] rest).map fun r => (.obj (membersToJson r.1), r.2)
    | cs => readScalar cs

def readItems : (fuel depth : Nat) → List Char → Option (List Json × List Char)
  | 0, _, _ => none
  | fuel + 1, depth, cs =>
    match skipLines false cs with
    | none => none
    | some (']' :: rest) => some ([], rest)
    | some cs =>
      match readValue fuel depth cs with
      | none => none
      | some (item, rest) =>
        match skipLines false rest with
        | some (',' :: rest) => (readItems fuel depth rest).map fun r => (item :: r.1, r.2)
        | some (']' :: rest) => some ([item], rest)
        | _ => none

def readMembers : (fuel depth : Nat) → Members → List Char → Option (Members × List Char)
  | 0, _, _, _ => none
  | fuel + 1, depth, members, cs =>
    match readKey cs with
    | some (path, key, '=' :: rest) =>
      match readValue fuel depth (skipBlanks rest) with
      | none => none
      | some (v, rest) =>
        match members.define path key v with
        | none => none
        | some members =>
          match skipBlanks rest with
          | ',' :: rest => readMembers fuel depth members rest
          | '\x7d' :: rest => some (members, rest)
          | _ => none
    | _ => none

end

end Toml
end Settlement
