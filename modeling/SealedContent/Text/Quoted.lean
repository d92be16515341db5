import SealedContent.Bytes.Hex
import SealedContent.Text.Visible

/-!
Text in quotes, for the eyes of whoever inspects a value: quotes and backslashes are escaped, and
what shows nothing of its own is written as the number of its code point.
-/

namespace SealedContent.Text

/-- The digits of a number in base sixteen, without leading zeros. -/
def hexNumber (value : Nat) : List Char :=
  if value < 16 then [Bytes.hexDigit value]
  else hexNumber (value / 16) ++ [Bytes.hexDigit (value % 16)]

def quoteChar (char : Char) : List Char :=
  match char with
  | '"' => ['\\', '"']
  | '\\' => ['\\', '\\']
  | '\n' => ['\\', 'n']
  | '\r' => ['\\', 'r']
  | '\t' => ['\\', 't']
  | '\x00' => ['\\', '0']
  | _ =>
      if isHidden char ∨ isMark char then
        '\\' :: 'u' :: '\x7b' :: hexNumber char.toNat ++ ['\x7d']
      else [char]

def quoted (text : String) : String :=
  String.ofList ('"' :: text.toList.flatMap quoteChar ++ ['"'])

end SealedContent.Text
