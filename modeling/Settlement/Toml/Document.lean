import Settlement.Toml.Value

/-! Whole TOML documents. -/
namespace Settlement
namespace Toml

structure Draft where
  members : Members
  current : List String

namespace Draft

def define (d : Draft) (path : List String) (key : String) (v : Json) : Option Draft :=
  (d.members.within (Members.define path key v) d.current).map fun members => { d with members }

def stateTable (d : Draft) (path : List String) (key : String) : Option Draft :=
  (d.members.stateTable path key).map fun members => ⟨members, path ++ [key]⟩

def stateItem (d : Draft) (path : List String) (key : String) : Option Draft :=
  (d.members.stateItem path key).map fun members => ⟨members, path ++ [key]⟩

end Draft

def readStatement (d : Draft) (cs : List Char) : Option (Draft × List Char) :=
  match cs with
  | '[' :: '[' :: rest => do
    let (path, key, rest) ← readKey rest
    match rest with
    | ']' :: ']' :: rest => return (← d.stateItem path key, ← endLine rest)
    | _ => none
  | '[' :: rest => do
    let (path, key, rest) ← readKey rest
    match rest with
    | ']' :: rest => return (← d.stateTable path key, ← endLine rest)
    | _ => none
  | cs => do
    let (path, key, rest) ← readKey cs
    match rest with
    | '=' :: rest =>
      let (v, rest) ← readValue (2 * rest.length + 2) (depthLimit - 1) (skipBlanks rest)
      return (← d.define path key v, ← endLine rest)
    | _ => none

/-- All statements. Each of them, and each empty line, passes on less `fuel`. -/
def readStatements : (fuel : Nat) → Draft → List Char → Option Members
  | 0, _, _ => none
  | fuel + 1, d, cs =>
    match skipBlanks cs with
    | [] => some d.members
    | '\n' :: rest => readStatements fuel d rest
    | '#' :: rest => (endLine ('#' :: rest)).bind (readStatements fuel d)
    | cs => (readStatement d cs).bind fun r => readStatements fuel r.1 r.2

def dropOrderMark : List Char → List Char
  | '\uFEFF' :: rest => rest
  | cs => cs

def parse? (s : String) : Option Json :=
  let cs := unifyBreaks (dropOrderMark s.toList)
  (readStatements (cs.length + 1) ⟨[], []⟩ cs).map fun members => .obj (membersToJson members)

end Toml
end Settlement
