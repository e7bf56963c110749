import Settlement.Json.Basic
import Settlement.Text.Digits

/-! Writing JSON texts, without white space. -/
namespace Settlement
namespace Json

def escapeLetter? : Char → Option Char
  | '"' => some '"'
  | '\\' => some '\\'
  | '\x08' => some 'b'
  | '\x0c' => some 'f'
  | '\n' => some 'n'
  | '\r' => some 'r'
  | '\t' => some 't'
  | _ => none

/-- Quotes, backslashes and the common controls have short escapes, other controls are written by
their code. -/
def writeChar (c : Char) : List Char :=
  match escapeLetter? c with
  | some letter => ['\\', letter]
  | none => if c.toNat < 0x20 then '\\' :: 'u' :: Text.fixedDigits 16 4 c.toNat else [c]

def writeString (s : String) : List Char := '"' :: s.toList.flatMap writeChar ++ ['"']

def writeInt (n : Int) : List Char :=
  if n < 0 then '-' :: Text.decimalDigits n.natAbs else Text.decimalDigits n.natAbs

mutual

def write : Json → List Char
  | null => ['n', 'u', 'l', 'l']
  | bool true => ['t', 'r', 'u', 'e']
  | bool false => ['f', 'a', 'l', 's', 'e']
  | int n => writeInt n
  | real literal => literal.toList
  | str s => writeString s
  | arr items => '[' :: writeItems items ++ [']']
  | obj members => '\x7b' :: writeMembers members ++ ['\x7d']

def writeItems : List Json → List Char
  | [] => []
  | [item] => item.write
  | item :: rest => item.write ++ ',' :: writeItems rest

def writeMembers : List (String × Json) → List Char
  | [] => []
  | [(key, value)] => writeString key ++ ':' :: value.write
  | (key, value) :: rest => writeString key ++ ':' :: value.write ++ ',' :: writeMembers rest

end

protected def toString (j : Json) : String := String.ofList j.write

end Json
end Settlement
