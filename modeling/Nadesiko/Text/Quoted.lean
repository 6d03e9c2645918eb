import Nadesiko.Text.Unprintable

/-!
# Quoted text

A text is shown between double quotes. Quotes, backslashes, NUL, tabs and line ends have short
escapes, every other character that cannot be shown by itself is written by its code point in
hexadecimal, and all else stands as it is.
-/

namespace Nadesiko.Text

/-- A character as it stands inside a quoted text. -/
def quotedChar (c : Char) : List Char :=
  match c with
  | '\x00' => ['\\', '0']
  | '\t' => ['\\', 't']
  | '\r' => ['\\', 'r']
  | '\n' => ['\\', 'n']
  | '"' => ['\\', '"']
  | '\\' => ['\\', '\\']
  | c =>
    if isUnprintable c then ['\\', 'u', '\x7b'] ++ Nat.toDigits 16 c.toNat ++ ['\x7d'] else [c]

/-- A text between double quotes. -/
def quoted (text : String) : String :=
  String.ofList ('"' :: text.toList.flatMap quotedChar ++ ['"'])

end Nadesiko.Text
