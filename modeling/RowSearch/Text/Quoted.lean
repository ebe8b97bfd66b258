import RowSearch.Text.Hex
import RowSearch.Text.Printable

/-! # Quoted text

Text between double quotes in which every character that would not show is escaped, by a
letter where it has one and by its code point in hexadecimal otherwise.
-/
namespace RowSearch.Text

def escapeQuoted (c : Char) : List Char :=
  match c with
  | '\x00' => ['\\', '0']
  | '\t' => ['\\', 't']
  | '\r' => ['\\', 'r']
  | '\n' => ['\\', 'n']
  | '"' => ['\\', '"']
  | '\\' => ['\\', '\\']
  | c =>
    if !isCombining c && isPrintable c then [c]
    else ['\\', 'u', '{'] ++ hex c.toNat ++ ['}']

def quoted (s : String) : String :=
  String.ofList ('"' :: s.toList.flatMap escapeQuoted ++ ['"'])

end RowSearch.Text
