import ItemStore.Base64
import ItemStore.Json.Reader
import ItemStore.Text.Quoted

/-!
# ItemStore.Json.Decoding

Decoding outlines into types: why it fails, and the decoders of the general kinds of value.

Design points:

* A decoder meets the parts of a value in the order in which the text has them and stops at the
  first fault, so of two faults the earlier one is reported, whether it is a value of the wrong kind
  or the place where the text breaks off.
* A decoder is told how many more levels of arrays and objects it may enter. Values that nobody asks
  for are skipped at any depth.
-/

namespace ItemStore.Json

/-- What a decoder wants in a place. -/
inductive Expected
  | text
  /-- A truth value. -/
  | bool
  /-- A floating-point number. -/
  | real
  /-- The null value. -/
  | null
  /-- An array. -/
  | list
  /-- An object read as a map. -/
  | map
  /-- The fields of a record with a name. -/
  | record (name : String)
  | attributeValue
deriving DecidableEq, Repr

/-- The expectation in words. -/
def Expected.description : Expected → String
  | .text => "a string"
  | .bool => "a boolean"
  | .real => "f64"
  | .null => "unit"
  | .list => "a sequence"
  | .map => "a map"
  | .record name => "struct " ++ name
  | .attributeValue => "an attribute value object with exactly one type key"

/-- The value in words. -/
def Found.description : Found → String
  | .null => "null"
  | .bool b => "boolean `" ++ (if b then "true" else "false") ++ "`"
  | .number (.integer n) => "integer `" ++ integerText n ++ "`"
  | .number (.real x) => "floating point `" ++ x.text realLayout ++ "`"
  | .text s => "string " ++ Text.quoted s
  | .array => "sequence"
  | .object => "map"

/-- Why a text does not decode. -/
inductive DecodeError
  /-- The text is not JSON, or not JSON that may stand here. -/
  | malformed
  /-- A value of another kind than the one expected. -/
  | mismatch (found : Found) (expected : Expected)
  /-- A list of the fields of a record that ends after `length` of its `count` fields. -/
  | tooShort (length : Nat) (record : String) (count : Nat)
  /-- A field that is not there. -/
  | missing (field : String)
  /-- A field that is there twice. -/
  | repeated (field : String)
  /-- A name that is none of the choices. -/
  | unknownChoice (name : String) (choices : List String)
  /-- A type key that is none of the attribute types. -/
  | unknownType (key : String) (types : List String)
  /-- An attribute value without a type key, or with a second one. -/
  | notOneType
  /-- Binary data that is not in Base64. -/
  | binary (cause : Base64.Error)
deriving DecidableEq

/-- A name between backquotes. -/
def ticked (name : String) : String := "`" ++ name ++ "`"

/-- The choices in words. -/
def oneOf : List String → String
  | [] => ""
  | [name] => ticked name
  | [first, second] => ticked first ++ " or " ++ ticked second
  | names => "one of " ++ ", ".intercalate (names.map ticked)

/-- The fault in words. -/
def DecodeError.message : DecodeError → String
  | .malformed => "<invalid JSON>"
  | .mismatch found expected =>
      "invalid type: " ++ found.description ++ ", expected " ++ expected.description
  | .tooShort length record count =>
      s!"invalid length {length}, expected struct {record} with {count} element"
        ++ (if count = 1 then "" else "s")
  | .missing field => "missing field " ++ ticked field
  | .repeated field => "duplicate field " ++ ticked field
  | .unknownChoice name choices =>
    "unknown variant " ++ ticked name ++ ", expected " ++ oneOf choices
  | .unknownType key types => "unknown field " ++ ticked key ++ ", expected " ++ oneOf types
  | .notOneType => "attribute value must have exactly one key"
  | .binary cause => cause.message

/-- A mapped result is a success exactly when what is mapped is one. -/
theorem map_eq_ok {ε α β : Type} {f : α → β} {result : Except ε α} {b : β}
    (h : result.map f = .ok b) : ∃ a, result = .ok a ∧ f a = b := by
  cases result with
  | error e => simp [Except.map] at h
  | ok a => exact ⟨a, rfl, by simpa [Except.map] using h⟩

/-- A sequence of two steps is a success exactly when both are. -/
theorem bind_eq_ok {ε α β : Type} {f : α → Except ε β} {result : Except ε α} {b : β}
    (h : result >>= f = .ok b) : ∃ a, result = .ok a ∧ f a = .ok b := by
  cases result with
  | error e => simp [bind, Except.bind] at h
  | ok a => exact ⟨a, rfl, h⟩

/-- Decodes an outline, given how many levels of arrays and objects it may enter. -/
abbrev Decoder (α : Type) := (room : Nat) → Outline → Except DecodeError α

/-- The levels of arrays and objects that a text may have. -/
def maxDepth : Nat := 127

/-- Decodes a text that holds one value and nothing else. -/
def Decoder.read {α : Type} (decode : Decoder α) (source : ItemStore.Text.Source) :
    Except DecodeError α :=
  let text := Outline.read source
  match decode maxDepth text.outline with
  | .error e => .error e
  | .ok a => if text.ended then .ok a else .error .malformed

/-- The fault of a value that is not what was expected. -/
def unexpected (outline : Outline) (expected : Expected) : DecodeError :=
  match outline.found? with
  | some found => .mismatch found expected
  | none => .malformed

namespace Decoder

variable {α : Type}

/-- A text. -/
def text : Decoder String
  | _, .string (some s) => .ok s
  | _, outline => .error (unexpected outline .text)

/-- A truth value. -/
def bool : Decoder Bool
  | _, .bool b => .ok b
  | _, outline => .error (unexpected outline .bool)

/-- A floating-point number; an integer counts as the nearest one. -/
def real : Decoder Decimal.Double
  | _, .number (some (.real x)) => .ok x
  | _, .number (some (.integer n)) =>
      match Decimal.Double.ofInt? n with
      | some x => .ok x
      | none => .error .malformed
  | _, outline => .error (unexpected outline .real)

/-- The null value, or a value. -/
def optional (decode : Decoder α) : Decoder (Option α)
  | _, .null => .ok none
  | room, outline => (decode room outline).map some

/-- The items of an array, one after the other; then the array must end. -/
def itemsOf (decode : Decoder α) (room : Nat) (closed : Bool) :
    List Outline → Except DecodeError (List α)
  | [] => if closed then .ok [] else .error .malformed
  | item :: rest => do
      let a ← decode room item
      let more ← itemsOf decode room closed rest
      return a :: more

/-- An array of values. -/
def list (decode : Decoder α) : Decoder (List α)
  | room + 1, .array items closed => itemsOf decode room closed items
  | 0, .array _ _ => .error .malformed
  | _, outline => .error (unexpected outline .list)

/-- The members of an object, one after the other; then the object must end. -/
def membersOf (decode : Decoder α) (room : Nat) (closed : Bool) :
    List (Option String × Outline) → Except DecodeError (List (String × α))
  | [] => if closed then .ok [] else .error .malformed
  | (none, _) :: _ => .error .malformed
  | (some name, value) :: rest => do
      let a ← decode room value
      let more ← membersOf decode room closed rest
      return (name, a) :: more

/-- An object as a map; of members with one name the last counts. -/
def map (decode : Decoder α) : Decoder (NameMap α)
  | room + 1, .object members closed => (membersOf decode room closed members).map NameMap.ofList
  | 0, .object _ _ => .error .malformed
  | _, outline => .error (unexpected outline .map)

/--
One of several choices, by its name. It may also be written as an object with the name as its only
member and null as the value.
-/
def choice (choices : List (String × α)) : Decoder α :=
  let find (name : String) : Except DecodeError α :=
    match Entries.find? name choices with
    | some a => .ok a
    | none => .error (.unknownChoice name (choices.map Prod.fst))
  fun room outline =>
    match room, outline with
    | _, .string (some name) => find name
    | 0, _ => .error .malformed
    | _ + 1, .object ((some name, value) :: more) closed => do
        let a ← find name
        match value with
        | .null => if more.isEmpty && closed then .ok a else .error .malformed
        | value => .error (unexpected value .null)
    | _, _ => .error .malformed

mutual

/-- Any value, as a document. -/
def document : Decoder Json
  | _, .null => .ok .null
  | _, .bool b => .ok (.bool b)
  | _, .number (some n) => .ok (.number n)
  | _, .string (some s) => .ok (.text s)
  | room + 1, .array items true => (documentItems room items).map .array
  | room + 1, .object members true => (documentMembers room members).map .object
  | _, _ => .error .malformed

/-- `document` on each item. -/
def documentItems (room : Nat) : List Outline → Except DecodeError (List Json)
  | [] => .ok []
  | item :: rest => do
      let a ← document room item
      let more ← documentItems room rest
      return a :: more

/-- `document` on the value of each member. -/
def documentMembers (room : Nat) :
    List (Option String × Outline) → Except DecodeError (List (String × Json))
  | [] => .ok []
  | (none, _) :: _ => .error .malformed
  | (some name, value) :: rest => do
      let a ← document room value
      let more ← documentMembers room rest
      return (name, a) :: more

end

end Decoder

end ItemStore.Json
