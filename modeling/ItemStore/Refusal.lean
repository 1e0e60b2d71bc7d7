import ItemStore.Audit
import ItemStore.Json.WriteError

/-!
# ItemStore.Refusal

Why a builder refuses a call. A builder speaks up at the call that breaks a rule, not when the
request is sent.
-/

namespace ItemStore

/-- The settings of an update that are fixed once its request has been built. -/
inductive Setting
  | table
  | key
  /-- The attributes whose empty values become null. -/
  | mark
  /-- The text of a timestamp. -/
  | stamp (audit : Audit)
  /-- That there is no timestamp. -/
  | disableStamp (audit : Audit)
deriving DecidableEq, Repr

/-- The call that changes a setting. -/
def Setting.call : Setting → String
  | .table => "table"
  | .key => "key"
  | .mark => "mark"
  | .stamp .created => "created_at"
  | .stamp .updated => "updated_at"
  | .disableStamp .created => "disable_created_at"
  | .disableStamp .updated => "disable_updated_at"

/-- What a read is aimed at. -/
inductive ReadMode
  | single
  | batch
deriving DecidableEq, Repr

/-- The name of a mode. -/
def ReadMode.name : ReadMode → String
  | .single => "single"
  | .batch => "batch"

/-- The calls that reads of only one mode have. -/
inductive ModeCall
  /-- Sets the key. -/
  | key
  /-- Sets the keys. -/
  | keys
  /-- Builds the request for one item. -/
  | itemRequest
  /-- Builds the request for several items. -/
  | batchRequest
  /-- Gives out the read of one item. -/
  | intoSingle
  /-- Gives out the read of several items. -/
  | intoBatch
deriving DecidableEq, Repr

/-- The name of a call. -/
def ModeCall.name : ModeCall → String
  | .key => "key"
  | .keys => "keys"
  | .itemRequest => "get_item_params"
  | .batchRequest => "get_batch_params"
  | .intoSingle => "into_single"
  | .intoBatch => "into_batch"

/-- Why a builder refuses a call. -/
inductive Refusal
  /-- The table name is blank. -/
  | blankTable
  /-- The key has no attributes. -/
  | emptyKey
  /-- There are no keys to read. -/
  | noKeys
  /-- The table of a batch read is fixed. -/
  | tableFixed
  /-- The text of a timestamp is blank. -/
  | blankStamp (audit : Audit)
  /-- The condition is blank. -/
  | blankCondition
  /-- The payload cannot be written as a document. -/
  | unwritablePayload (error : Json.WriteError)
  /-- The payload is a document, but no object. -/
  | payloadNotAnObject
  /-- The request has been built, and the setting is fixed. -/
  | finalized (setting : Setting)
  /-- A read of this mode does not have the call. -/
  | wrongMode (mode : ReadMode) (call : ModeCall)
deriving DecidableEq, Repr

/-- The kinds of refusal. -/
inductive RefusalKind
  /-- The call comes too late. -/
  | configuration
  /-- What is given is not valid. -/
  | validation
  /-- The builder is of the other mode. -/
  | modeMismatch
deriving DecidableEq, Repr

namespace Refusal

/-- The kind of a refusal. -/
def kind : Refusal → RefusalKind
  | .tableFixed | .finalized _ => .configuration
  | .wrongMode _ _ => .modeMismatch
  | .blankTable | .emptyKey | .noKeys | .blankStamp _ | .blankCondition | .unwritablePayload _
  | .payloadNotAnObject => .validation

/-- The refusal in words. -/
def message : Refusal → String
  | .blankTable => "The table name must be a non-empty string."
  | .emptyKey => "The key must be a non-empty map of attribute values."
  | .noKeys => "A batch get request needs at least one key."
  | .tableFixed =>
      "Cannot change the table of batch get request after initialization. Start over."
  | .blankStamp audit => "The " ++ audit.attr ++ " value must not be empty."
  | .blankCondition => "The condition expression must be a non-empty string."
  | .unwritablePayload error => "Cannot marshal item: " ++ error.text
  | .payloadNotAnObject => "An item must serialize to a map of attributes."
  | .finalized setting =>
      "Cannot call Updater." ++ setting.call ++ "() after you called Updater.execute(). Call "
        ++ setting.call ++ "() before calling execute()."
  | .wrongMode mode call =>
      "Cannot use ." ++ call.name ++ "() on a " ++ mode.name ++ " get request."

end Refusal

end ItemStore
