import Settlement.Table

/-! Structured values as JSON has them. Whole numbers are told apart from other
numbers, of which only the written form is kept. -/
namespace Settlement

inductive Json
  | null
  | bool (value : Bool)
  | int (value : Int)
  | real (literal : String)
  | str (value : String)
  | arr (items : List Json)
  | obj (members : List (String × Json))

namespace Json

instance : Inhabited Json := ⟨null⟩

def member? (key : String) : Json → Option Json
  | obj members => Table.find? key members
  | _ => none

end Json
end Settlement
