/-! Writing CSV texts. A field is quoted only if it has to be. -/
namespace Settlement
namespace Csv

def isSpecial (c : Char) : Bool := c == ',' || c == '"' || c == '\n' || c == '\r'

def quoteField (field : List Char) : List Char :=
  '"' :: field.flatMap (fun c => if c = '"' then ['"', '"'] else [c]) ++ ['"']

def writeField (field : List Char) : List Char :=
  if field.any isSpecial then quoteField field else field

/-- A record without fields around it; an empty field that stands alone is quoted, for its line
would else be empty. -/
def writeRecord (fields : List String) : List Char :=
  let written :=
    if fields = [""] then quoteField [] else [','].intercalate (fields.map fun f => writeField f.toList)
  written ++ ['\n']

def write (records : List (List String)) : String := String.ofList (records.flatMap writeRecord)

end Csv
end Settlement
