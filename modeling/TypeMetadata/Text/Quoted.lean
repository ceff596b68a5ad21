import TypeMetadata.Text.Combining
import TypeMetadata.Text.Unprintable

/-!
The quoted form of a text, as it appears in complaints: between double quotes, on one line, with
every character that would not show written as an escape.
-/

namespace TypeMetadata.Text

/-- The escape that names a code point by its lowercase hexadecimal digits, without leading
zeros. -/
def codePointEscape (c : Char) : List Char :=
  '\\' :: 'u' :: '\x7b' :: (Nat.toDigits 16 c.toNat ++ ['\x7d'])

/-- A character inside quotes. The quote, the backslash and the four controls with a short escape
come first; a character that shows no mark, or that would attach itself to its neighbour, is named
by its code point; every other character stands for itself. -/
def escapeChar (c : Char) : List Char :=
  match c with
  | '"' => ['\\', '"']
  | '\\' => ['\\', '\\']
  | '\t' => ['\\', 't']
  | '\r' => ['\\', 'r']
  | '\n' => ['\\', 'n']
  | '\x00' => ['\\', '0']
  | c => if isUnprintable c || isCombining c then codePointEscape c else [c]

def quoted (text : String) : String :=
  String.ofList ('"' :: (text.toList.flatMap escapeChar ++ ['"']))

end TypeMetadata.Text
