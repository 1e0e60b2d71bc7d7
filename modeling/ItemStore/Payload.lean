import ItemStore.Refusal
import ItemStore.Value.Document

/-!
# ItemStore.Payload

Payloads of updates: attributes with their values, in order. A name may occur more than once.

A payload may also come as a document that somebody else writes, and writing it may fail.
-/

namespace ItemStore

/-- Attributes with their values, in order. -/
abbrev Payload := List (String × Value)

namespace Payload

/-- The attributes of a payload. -/
def attrs (payload : Payload) : List String := payload.map Prod.fst

/-- The payload of a document in order of name, unless it could not be written. -/
def ofDocument : Except Json.WriteError Json → Except Refusal Payload
  | .error error => .error (.unwritablePayload error)
  | .ok document =>
      match Item.ofJson? document with
      | some item => .ok item.entries
      | none => .error .payloadNotAnObject

end Payload

end ItemStore
