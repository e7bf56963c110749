import Settlement.Text.CaseTable
import Settlement.Text.Digits
import Settlement.Text.HiddenTable

/-! Quoted text: in double quotes, with everything escaped that would not show. -/
namespace Settlement
namespace Text

def escapeCode (c : Char) : List Char :=
  let width := (Nat.toDigits 16 c.toNat).length
  '\\' :: 'u' :: '\x7b' :: fixedDigits 16 width c.toNat ++ ['\x7d']

/-- Quotes, backslashes and the common controls have short escapes, other characters that do not
show are escaped by their code point, and the rest stand for themselves. -/
def quoteChar (c : Char) : List Char :=
  match c with
  | '"' => ['\\', '"']
  | '\\' => ['\\', '\\']
  | '\n' => ['\\', 'n']
  | '\r' => ['\\', 'r']
  | '\t' => ['\\', 't']
  | '\x00' => ['\\', '0']
  | c => if inRanges hiddenRanges c.toNat then escapeCode c else [c]

def quoted (s : String) : String :=
  String.ofList ('"' :: s.toList.flatMap quoteChar ++ ['"'])

end Text
end Settlement
