import ItemStore.Json.Basic

/-!
# ItemStore.Json.Printer

The compact text of a document: no blanks, members in their order, and escapes only where JSON
demands them.
-/

namespace ItemStore.Json

/-- The hexadecimal digit of a number below 16. -/
def hexDigit (n : Nat) : Char :=
  if n < 10 then Char.ofNat ('0'.toNat + n) else Char.ofNat ('a'.toNat + (n - 10))

/--
One character inside a text. The quote, the backslash and the control characters below U+0020 are
escaped, five of them by a letter; nothing else is.
-/
def escaped (c : Char) : List Char :=
  if c = '"' then ['\\', '"']
  else if c = '\\' then ['\\', '\\']
  else if c = '\x08' then ['\\', 'b']
  else if c = '\x0c' then ['\\', 'f']
  else if c = '\n' then ['\\', 'n']
  else if c = '\r' then ['\\', 'r']
  else if c = '\t' then ['\\', 't']
  else if c.toNat < 0x20 then
    ['\\', 'u', '0', '0', hexDigit (c.toNat / 16), hexDigit (c.toNat % 16)]
  else [c]

/-- A text between quotes. -/
def quotedText (s : String) : List Char := '"' :: s.toList.flatMap escaped ++ ['"']

mutual

/-- The characters of a document. -/
def print : Json → List Char
  | .null => ['n', 'u', 'l', 'l']
  | .bool true => ['t', 'r', 'u', 'e']
  | .bool false => ['f', 'a', 'l', 's', 'e']
  | .number n => n.text.toList
  | .text s => quotedText s
  | .array [] => ['[', ']']
  | .array (item :: rest) => '[' :: print item ++ printItems rest
  | .object [] => ['\x7b', '\x7d']
  | .object ((name, value) :: rest) =>
      '\x7b' :: quotedText name ++ ':' :: print value ++ printMembers rest

/-- The items after the first, each behind a comma, and the closing bracket. -/
def printItems : List Json → List Char
  | [] => [']']
  | item :: rest => ',' :: print item ++ printItems rest

/-- The members after the first, each behind a comma, and the closing brace. -/
def printMembers : List (String × Json) → List Char
  | [] => ['\x7d']
  | (name, value) :: rest => ',' :: quotedText name ++ ':' :: print value ++ printMembers rest

end

/-- The text of a document. -/
def toText (document : Json) : String := String.ofList (print document)

end ItemStore.Json
