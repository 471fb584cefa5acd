import MtaCheck.Unicode.Property

/-!
# Text between quotes

Messages quote text between double quotes.  Quotes, backslashes and the common
control characters have short escapes there; other characters that are not
printable, or that would join the character before them, are written by their
code point.
-/

namespace MtaCheck.Text

/-- A natural number in hexadecimal. -/
def hexadecimal (number : Nat) : String := String.ofList (Nat.toDigits 16 number)

/-- A character as it is written between quotes. -/
def quotedChar (char : Char) : String :=
  match char with
  | '\x00' => "\\0"
  | '\t' => "\\t"
  | '\n' => "\\n"
  | '\r' => "\\r"
  | '"' => "\\\""
  | '\\' => "\\\\"
  | char =>
      if Unicode.isGraphemeExtender char || !Unicode.isPrintable char then
        "\\u\x7b" ++ hexadecimal char.toNat ++ "\x7d"
      else String.singleton char

/-- A text between quotes. -/
def quoted (text : String) : String :=
  "\"" ++ String.join (text.toList.map quotedChar) ++ "\""

end MtaCheck.Text
