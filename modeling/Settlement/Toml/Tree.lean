import Settlement.Json.Basic
import Settlement.Table

/-! The tables of a TOML document while it is read. Headers state tables and imply
the tables above them; dotted keys make tables of their own. No table is stated
twice, and none is extended by dotted keys after it was stated. -/
namespace Settlement
namespace Toml

/-- How a table came to be. -/
inductive Origin
  | stated
  | implied
  | dotted
  deriving DecidableEq

inductive Node
  | value (v : Json)
  | table (origin : Origin) (members : List (String × Node))
  | tables (items : List (List (String × Node)))

abbrev Members := List (String × Node)

mutual

def Node.toJson : Node → Json
  | .value v => v
  | .table _ members => .obj (membersToJson members)
  | .tables items => .arr (itemsToJson items).reverse

def membersToJson : List (String × Node) → List (String × Json)
  | [] => []
  | (key, node) :: rest => (key, node.toJson) :: membersToJson rest

def itemsToJson : List (List (String × Node)) → List Json
  | [] => []
  | members :: rest => .obj (membersToJson members) :: itemsToJson rest

end

namespace Members

/-- Changes the table that a path leads to; tables on the way are made if they are missing. Of a
list of tables the last one is meant. -/
def within (change : Members → Option Members) : List String → Members → Option Members
  | [], members => change members
  | key :: path, members =>
    match Table.find? key members with
    | none => (within change path []).map fun inner => Table.put key (.table .implied inner) members
    | some (.table origin inner) =>
      (within change path inner).map fun inner => Table.put key (.table origin inner) members
    | some (.tables (inner :: older)) =>
      (within change path inner).map fun inner => Table.put key (.tables (inner :: older)) members
    | some _ => none

/-- Changes the table that a dotted key leads to; of the tables on the way none may be stated, but
the last one of a list may be passed. The change is told how its table came to be. -/
def along (change : Origin → Members → Option Members) :
    List String → Origin → Members → Option Members
  | [], origin, members => change origin members
  | key :: path, _, members =>
    match Table.find? key members with
    | none => (along change path .dotted []).map fun inner => Table.put key (.table .dotted inner) members
    | some (.table .stated _) => none
    | some (.table origin inner) =>
      (along change path origin inner).map fun inner => Table.put key (.table origin inner) members
    | some (.tables (inner :: older)) =>
      (along change path .stated inner).map fun inner => Table.put key (.tables (inner :: older)) members
    | some _ => none

/-- Gives a value to a dotted key, which must be new. The table that a path of dots leads to must be
made by dots as well. -/
def define (path : List String) (key : String) (v : Json) (members : Members) : Option Members :=
  along (fun origin inner =>
    if (origin = .dotted ↔ path ≠ []) ∧ (Table.find? key inner).isNone then
      some (Table.put key (.value v) inner)
    else none) path .stated members

def stateTable (path : List String) (key : String) : Members → Option Members :=
  within (fun members =>
    match Table.find? key members with
    | none => some (Table.put key (.table .stated []) members)
    | some (.table .implied inner) => some (Table.put key (.table .stated inner) members)
    | some _ => none) path

def stateItem (path : List String) (key : String) : Members → Option Members :=
  within (fun members =>
    match Table.find? key members with
    | none => some (Table.put key (.tables [[]]) members)
    | some (.tables items) => some (Table.put key (.tables ([] :: items)) members)
    | some _ => none) path

end Members
end Toml
end Settlement
