/-! Line breaks, blanks and comments of TOML texts. A carriage return counts only in
front of a line feed, so every text is read with its line breaks unified. -/
namespace Settlement
namespace Toml

def unifyBreaks : List Char → List Char
  | '\r' :: '\n' :: rest => '\n' :: unifyBreaks rest
  | c :: rest => c :: unifyBreaks rest
  | [] => []

def isBlank (c : Char) : Bool := c == ' ' || c == '\t'

/-- Characters that comments and quoted texts may hold: tabs, and all but the ASCII controls. -/
def isShown (c : Char) : Bool := c == '\t' || (0x20 ≤ c.toNat && c.toNat != 0x7F)

def skipBlanks (cs : List Char) : List Char := cs.dropWhile isBlank

def skipComment (cs : List Char) : List Char :=
  if cs.head? = some '#' then cs.dropWhile isShown else cs

def endLine (cs : List Char) : Option (List Char) :=
  match skipComment (skipBlanks cs) with
  | [] => some []
  | '\n' :: rest => some rest
  | _ => none

def skipLines (inComment : Bool) : List Char → Option (List Char)
  | [] => if inComment then none else some []
  | c :: rest =>
    if c = '\n' then skipLines false rest
    else if inComment then if isShown c then skipLines true rest else none
    else if isBlank c then skipLines false rest
    else if c = '#' then skipLines true rest
    else some (c :: rest)

end Toml
end Settlement
