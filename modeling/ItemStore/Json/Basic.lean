import ItemStore.NameMap
import ItemStore.Decimal.Double

/-!
# ItemStore.Json.Basic

JSON documents. An object keeps its members in the order in which they are written, and a name may
occur in it more than once: which member then counts is for the reader of the document to say.
`Json.canonical` is the reading in which the last one counts and order means nothing.
-/

namespace ItemStore

open Decimal (Double Layout)

namespace Json

/-- A number: an integer, or a floating-point number. -/
inductive Number
  | integer (n : Int)
  | real (x : Double)
deriving DecidableEq

/--
Floating-point numbers are written with all their places from `10 ^ (-5)` up to but not including
`10 ^ 16`, and always with a point or an exponent. Of two equally near decimals the even one is
written.
-/
def realLayout : Layout := ⟨some (-5, 16), true, .even⟩

/-- The decimal digits of an integer, with a minus sign if it is negative. -/
def integerText (n : Int) : String :=
  String.ofList ((if n < 0 then ['-'] else []) ++ Decimal.digitsOf n.natAbs)

/-- A number as it is written. -/
def Number.text : Number → String
  | .integer n => integerText n
  | .real x => x.text realLayout

end Json

/-- A JSON document. -/
inductive Json
  /-- The null value. -/
  | null
  /-- A truth value. -/
  | bool (b : Bool)
  | number (n : Json.Number)
  | text (s : String)
  /-- A list. -/
  | array (items : List Json)
  /-- Named members, in order. -/
  | object (members : List (String × Json))

namespace Json

instance : Inhabited Json := ⟨.null⟩

/-- Whether a document is the null value. -/
def isNull : Json → Bool
  | .null => true
  | _ => false

mutual

/-- The document with the members of each object in order of name, the last of each name kept. -/
def canonical : Json → Json
  | .null => .null
  | .bool b => .bool b
  | .number n => .number n
  | .text s => .text s
  | .array items => .array (canonicalItems items)
  | .object members => .object (canonicalMembers members [])

/-- `canonical` on each item. -/
def canonicalItems : List Json → List Json
  | [] => []
  | item :: rest => canonical item :: canonicalItems rest

/-- Inserts the members, made canonical, into ordered ones. -/
def canonicalMembers : List (String × Json) → List (String × Json) → List (String × Json)
  | [], entries => entries
  | (name, value) :: rest, entries =>
      canonicalMembers rest (Entries.insert name (canonical value) entries)

end

end Json

end ItemStore
