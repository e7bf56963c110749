import Settlement.Text.Blank

/-! Reading CSV texts. Records end at a carriage return or a line feed, and empty
lines hold none. A quote counts only as the first character of a field; such a
field may hold commas and line breaks, and doubled quotes for single ones. -/
namespace Settlement
namespace Csv

inductive Place
  /-- At the start of a field, which may be the first one of its record. -/
  | start (first : Bool)
  | plain
  | quoted
  /-- Behind a quote that may close a quoted field. -/
  | closed

inductive Step
  | pass (next : Place)
  | keep (next : Place)
  | endField
  | endRecord

def isBreak (c : Char) : Bool := c == '\n' || c == '\r'

def step (place : Place) (c : Char) : Step :=
  match place with
  | .quoted => if c = '"' then .pass .closed else .keep .quoted
  | .closed =>
    if c = '"' then .keep .quoted
    else if c = ',' then .endField
    else if isBreak c then .endRecord
    else .keep .plain
  | .plain =>
    if c = ',' then .endField
    else if isBreak c then .endRecord
    else .keep .plain
  | .start first =>
    if c = '"' then .pass .quoted
    else if c = ',' then .endField
    else if isBreak c then if first then .pass (.start true) else .endRecord
    else .keep .plain

/-- A field from its characters, the last one first. -/
def closeField (field : List Char) : String := String.ofList field.reverse

def closeRecord (field : List Char) (fields : List String) : List String :=
  (closeField field :: fields).reverse

def readFrom : Place → List Char → List String → List Char → List (List String)
  | .start true, _, _, [] => []
  | _, field, fields, [] => [closeRecord field fields]
  | place, field, fields, c :: rest =>
    match step place c with
    | .pass next => readFrom next field fields rest
    | .keep next => readFrom next (c :: field) fields rest
    | .endField => readFrom (.start false) [] (closeField field :: fields) rest
    | .endRecord => closeRecord field fields :: readFrom (.start true) [] [] rest

def dropOrderMark : List Char → List Char
  | '\uFEFF' :: rest => rest
  | cs => cs

/-- The records of a text, with their fields trimmed of white space. -/
def read (s : String) : List (List String) :=
  (readFrom (.start true) [] [] (dropOrderMark s.toList)).map (·.map Text.trimString)

end Csv
end Settlement
