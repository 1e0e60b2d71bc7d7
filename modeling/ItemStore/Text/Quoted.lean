import ItemStore.Text.Printable

/-!
# ItemStore.Text.Quoted

Texts in double quotes, for messages that show a value. A quote and a backslash get a backslash in
front, the usual control characters their letter, and every other character that cannot be printed
is written by its number in braces.
-/

namespace ItemStore.Text

/-- The hexadecimal digits of a number, most significant first, without leading zeros. -/
def hexDigits (n : Nat) : List Char := Nat.toDigits 16 n

/-- One character as a quoted text writes it. -/
def quotedChar (c : Char) : List Char :=
  match c with
  | '"' => ['\\', '"']
  | '\\' => ['\\', '\\']
  | '\n' => ['\\', 'n']
  | '\r' => ['\\', 'r']
  | '\t' => ['\\', 't']
  | '\x00' => ['\\', '0']
  | c =>
      if isPrintable c then [c]
      else ['\\', 'u', '\x7b'] ++ hexDigits c.toNat ++ ['\x7d']

/-- A text in double quotes. -/
def quoted (text : String) : String :=
  String.ofList ('"' :: text.toList.flatMap quotedChar ++ ['"'])

/-- A list of texts, each in double quotes, between brackets. -/
def quotedList (texts : List String) : String :=
  "[" ++ ", ".intercalate (texts.map quoted) ++ "]"

end ItemStore.Text
