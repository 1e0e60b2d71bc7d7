import ItemStore.Json.Basic

/-!
# ItemStore.Json.Outline

What a text spells, as far as it is JSON.

Someone who decodes a text into a type stops at the first thing that is wrong, be it a value of the
wrong kind or a character that no JSON text has there. So a text is not refused as a whole before it
is decoded: it has an outline, which holds all that comes before the first such character and says
where the text breaks off.

Design points:

* What the outline lacks can only be at its end: the last item of an unfinished array, the last
  member of an unfinished object.
* A string may spell no text (an unpaired surrogate, bytes that are no character) and a number may
  be beyond the range of floating point. Both are JSON all the same, and do no harm where nobody
  asks for their value.
-/

namespace ItemStore.Json

/-- A value that stands where another kind of value belongs. -/
inductive Found
  /-- The null value. -/
  | null
  /-- A truth value. -/
  | bool (b : Bool)
  | number (n : Number)
  | text (s : String)
  /-- The beginning of an array. -/
  | array
  /-- The beginning of an object. -/
  | object
deriving DecidableEq

/-- The outline of a text. -/
inductive Outline
  /-- The null value. -/
  | null
  /-- A truth value. -/
  | bool (b : Bool)
  /-- A number, unless it is beyond the range of floating point. -/
  | number (n : Option Number)
  /-- A string with the text it spells, if it spells one. -/
  | string (s : Option String)
  /-- An array, and whether it ends with its closing bracket. -/
  | array (items : List Outline) (closed : Bool)
  /-- An object: members with the texts their names spell, and whether it ends with its brace. -/
  | object (members : List (Option String × Outline)) (closed : Bool)
  /-- No value: the text breaks off. -/
  | broken

namespace Outline

instance : Inhabited Outline := ⟨.broken⟩

/-- What stands here, for a reader who wants something else. -/
def found? : Outline → Option Found
  | .null => some .null
  | .bool b => some (.bool b)
  | .number n => n.map .number
  | .string s => s.map .text
  | .array _ _ => some .array
  | .object _ _ => some .object
  | .broken => none

mutual

/-- Whether the text does not break off inside this value. -/
def isComplete : Outline → Bool
  | .null => true
  | .bool _ => true
  | .number _ => true
  | .string _ => true
  | .array items closed => allComplete items && closed
  | .object members closed => allMembersComplete members && closed
  | .broken => false

/-- Whether the text breaks off in none of the items. -/
def allComplete : List Outline → Bool
  | [] => true
  | item :: rest => isComplete item && allComplete rest

/-- Whether the text breaks off in none of the members. -/
def allMembersComplete : List (Option String × Outline) → Bool
  | [] => true
  | (_, value) :: rest => isComplete value && allMembersComplete rest

end

mutual

/-- The outline of the text of a document. -/
def ofJson : Json → Outline
  | .null => .null
  | .bool b => .bool b
  | .number n => .number (some n)
  | .text s => .string (some s)
  | .array items => .array (ofItems items) true
  | .object members => .object (ofMembers members) true

/-- The outlines of the items of an array. -/
def ofItems : List Json → List Outline
  | [] => []
  | item :: rest => ofJson item :: ofItems rest

/-- The outlines of the members of an object. -/
def ofMembers : List (String × Json) → List (Option String × Outline)
  | [] => []
  | (name, value) :: rest => (some name, ofJson value) :: ofMembers rest

end

end Outline

end ItemStore.Json
