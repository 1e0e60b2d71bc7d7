import ItemStore.Http.Status

/-!
# ItemStore.Failure

Failures of requests, as the store reports them or as they happen on the way there.

Design points:

* A failure on the way to the store and back has the kind that the store itself would give it, so
  whoever sends a request looks at one kind of failure only.
* A store names a kind with or without its namespace. What counts is the part behind the last `#`.
-/

namespace ItemStore

open Http (Status)

/-- The kinds of failure that a store knows. -/
inductive FailureKind
  /-- The table does not exist. -/
  | tableNotFound
  /-- The condition of the request does not hold. -/
  | conditionFailed
  /-- Another transaction works on the item. -/
  | transactionConflict
  /-- The item collection has become too large. -/
  | collectionTooLarge
  /-- More throughput was used than provisioned. -/
  | throughputExceeded
  /-- Too many requests. -/
  | tooManyRequests
  /-- The request is not valid. -/
  | invalidRequest
  /-- A body cannot be written or read. -/
  | unreadableBody
  /-- Something else went wrong, in the store or on the way to it. -/
  | internal
  /-- The client may not do this. -/
  | accessDenied
  /-- The client is not known. -/
  | unknownClient
deriving DecidableEq, Repr

namespace FailureKind

instance : Inhabited FailureKind := ⟨.invalidRequest⟩

/-- All kinds. -/
def all : List FailureKind :=
  [.tableNotFound, .conditionFailed, .transactionConflict, .collectionTooLarge,
    .throughputExceeded, .tooManyRequests, .invalidRequest, .unreadableBody, .internal,
    .accessDenied, .unknownClient]

/-- The name that the store gives a kind. -/
def name : FailureKind → String
  | .tableNotFound => "ResourceNotFoundException"
  | .conditionFailed => "ConditionalCheckFailedException"
  | .transactionConflict => "TransactionConflictException"
  | .collectionTooLarge => "ItemCollectionSizeLimitExceededException"
  | .throughputExceeded => "ProvisionedThroughputExceededException"
  | .tooManyRequests => "RequestLimitExceeded"
  | .invalidRequest => "ValidationException"
  | .unreadableBody => "SerializationException"
  | .internal => "InternalServerError"
  | .accessDenied => "AccessDeniedException"
  | .unknownClient => "UnrecognizedClientException"

/-- The namespace of a kind's name. -/
def nameSpace : FailureKind → String
  | .invalidRequest => "com.amazon.coral.validate"
  | _ => "com.amazonaws.dynamodb.v20120810"

/-- The name of a kind with its namespace. -/
def qualifiedName (kind : FailureKind) : String := kind.nameSpace ++ "#" ++ kind.name

/-- The characters behind the last `#`, or all of them if there is none. -/
def localPart (name : List Char) : List Char :=
  (name.reverse.takeWhile (· ≠ '#')).reverse

/-- The kind with a name, whatever namespace the name has. -/
def ofName? (name : String) : Option FailureKind :=
  all.find? fun kind => kind.name == String.ofList (localPart name.toList)

/-- The status that goes with a kind unless there is a better one. -/
def status : FailureKind → Status
  | .internal => .internalServerError
  | _ => .badRequest

end FailureKind

/-- A failed request. -/
structure Failure where
  /-- What kind of failure it is. -/
  kind : FailureKind
  /-- What happened, in words. -/
  message : String
  /-- The status of the response. -/
  status : Status
  /-- What the failure follows from, in words, if it follows from another one. -/
  cause : Option String
deriving DecidableEq

namespace Failure

/--
A failure of a kind with its usual status; without other words the name of the kind stands in.
-/
def of (kind : FailureKind) (message : String := kind.name) : Failure :=
  ⟨kind, message, kind.status, none⟩

/-- The failure with another status. -/
def withStatus (failure : Failure) (status : Status) : Failure := { failure with status }

/-- The failure as it follows from another one. -/
def withCause (failure : Failure) (cause : String) : Failure := { failure with cause := some cause }

/-- Whether the store refused an update because its condition does not hold. -/
def isConditionFailed (failure : Failure) : Bool := failure.kind == .conditionFailed

/-- The failure on one line. -/
def text (failure : Failure) : String :=
  "StoreError(" ++ failure.kind.name ++ "): " ++ failure.message

end Failure

end ItemStore
