import ItemStore.Message.Options
import ItemStore.Text.Ascii

/-!
# ItemStore.Settings

What new builders start with, and how that is read from environment variables.

A variable that is not set leaves its setting as it is. So does the variable of the return values if
it names none; the variables of the truth values always decide, since a text that does not affirm
denies.
-/

namespace ItemStore

open Json (Field Fields Record)

/-- Environment variables with their values. -/
abbrev Environment := NameMap String

/-- What new builders start with. -/
structure Settings where
  /-- Whether reads are strongly consistent. -/
  consistentRead : Bool := false
  /-- Which attributes updates return. -/
  returnValues : ReturnValues := .allNew
  /-- Whether updates record when items were created and updated. -/
  auditTimestamps : Bool := true
deriving DecidableEq, Repr

namespace Settings

instance : Inhabited Settings := ⟨{}⟩

/-- The written form of `Settings`. -/
def record : Record Settings where
  name := "StoreConfig"
  types := [Bool, ReturnValues, Bool]
  fields :=
    .cons (.required "consistentRead" .bool) <|
    .cons (.required "returnValues" ReturnValues.choices.codec) <|
    .cons (.required "auditTimestamps" .bool) .nil
  toRow s := (s.consistentRead, s.returnValues, s.auditTimestamps, ())
  ofRow
    | (consistentRead, returnValues, auditTimestamps, ()) =>
      { consistentRead, returnValues, auditTimestamps }

/-- The texts that affirm. -/
def affirmative : List String := ["1", "true", "yes", "TRUE", "YES"]

/-- Whether a text affirms. -/
def affirms (text : String) : Bool := affirmative.contains text

/-- The settings with what the environment says about them. -/
def ofEnvironment (environment : Environment) : Settings where
  consistentRead :=
    match environment.find? "TABLEKIT_CONSISTENT_READ" with
    | some text => affirms text
    | none => ({} : Settings).consistentRead
  returnValues :=
    match environment.find? "TABLEKIT_RETURN_VALUES" with
    | some text =>
        match ReturnValues.choices.parse text with
        | .ok values => values
        | .error _ => ({} : Settings).returnValues
    | none => ({} : Settings).returnValues
  auditTimestamps :=
    match environment.find? "TABLEKIT_AUDIT_TIMESTAMPS" with
    | some text => affirms text
    | none => ({} : Settings).auditTimestamps

end Settings

end ItemStore
