import ItemStore.Checksum
import ItemStore.Client
import ItemStore.Http.Endpoint
import ItemStore.Json.WriteError

/-!
# ItemStore.Http.Exchange

Requests and answers as HTTP bodies, and a client that consists of an exchange of the two.

Design points:

* A reply is looked at in a fixed order: first the checksum, if the store sent one, then the status,
  then the body. A reply that is damaged says nothing about the request, whatever its status.
* A body that reports a failure is read as a record of its own. Where it cannot be read, the status
  is all that is known.
* Faults of a body are told without their place in it.
* What moves bytes to the store and back is a function that this module is given.
-/

namespace ItemStore.Http

open Json (Codec Field Fields Record DecodeError)

/-! ### Requests -/

/-- The content type of bodies in both directions. -/
def contentType : String := "application/x-amz-json-1.0"

/-- A request on its way to a store. -/
structure Post where
  /-- The address. -/
  url : String
  /-- The content type of the body. -/
  contentType : String
  /-- The operation it asks for. -/
  target : String
  body : List UInt8
deriving DecidableEq

/-- The failure of a document that could not be written. -/
def unwritten (error : Json.WriteError) : Failure :=
  (Failure.of .unreadableBody ("Cannot encode request: " ++ error.message)).withCause error.text

/-- The body of a document, or a failure if the document could not be written. -/
def encode : Except Json.WriteError Json → Answer (List UInt8)
  | .ok document => .ok (Text.utf8 document.print)
  | .error error => .error (unwritten error)

/-! ### Replies -/

/-- What comes back from a store. -/
structure Reply where
  status : Status
  /-- The headers with their values, in order. -/
  headers : List (String × List UInt8)
  body : List UInt8
deriving DecidableEq

/-- The value of the first header with a name, in any letter case. -/
def Reply.header? (reply : Reply) (name : String) : Option (List UInt8) :=
  (reply.headers.find? fun header => Text.upper header.1 == Text.upper name).map Prod.snd

/-- The header that holds the checksum of the body. -/
def checksumHeader : String := "x-amz-crc32"

/-- The text of a header value, which may hold tabs and printable ASCII characters only. -/
def headerText? (value : List UInt8) : Option String :=
  if value.all fun byte => byte = 9 || (32 ≤ byte && byte < 127) then
    some (String.ofList (value.map fun byte => Char.ofNat byte.toNat))
  else none

/-- The checksum in a header value, a number of 32 bits. -/
def checksum? (value : List UInt8) : Option Nat :=
  (headerText? value).bind (Text.boundedNat? UInt32.size)

/-- What is wrong with the checksum of a reply, if anything is. -/
def Reply.checksumFault? (reply : Reply) : Option Failure :=
  match reply.header? checksumHeader with
  | none => none
  | some value =>
      match checksum? value with
      | none => some (.of .internal "Malformed x-amz-crc32 header")
      | some expected =>
          let actual := (Checksum.crc32 reply.body).toNat
          if expected = actual then none
          else some (.of .internal s!"Response checksum mismatch: header {expected}, body {actual}")

/-- What the body of a refusal says. -/
structure ErrorBody where
  /-- The name of the kind of failure. -/
  name : Option String := none
  /-- What happened, in words. -/
  message : Option String := none
deriving DecidableEq

/-- The written form of `ErrorBody`. -/
def ErrorBody.record : Record ErrorBody where
  name := "ErrorBody"
  types := [Option String, Option String]
  fields :=
    .cons (.optional "__type" .text) <|
    .cons { Field.optional "message" .text with aliases := ["Message"] } .nil
  toRow body := (body.name, body.message, ())
  ofRow | (name, message, ()) => { name, message }

/-- The failure that a body reports; a name that is not known, or none, is an internal failure. -/
def ErrorBody.failure (body : ErrorBody) (status : Status) : Failure :=
  let kind := (body.name.bind FailureKind.ofName?).getD .internal
  (Failure.of kind (body.message.getD kind.name)).withStatus status

/-- The failure that a reply without success reports. -/
def Reply.failure (reply : Reply) : Failure :=
  match ErrorBody.record.codec.read (.ofBytes reply.body) with
  | .ok body => body.failure reply.status
  | .error _ =>
      (Failure.of .internal ("Unexpected " ++ reply.status.text ++ " response")).withStatus
        reply.status

/-- The failure of a body that cannot be read. -/
def unreadable (fault : DecodeError) : Failure :=
  (Failure.of .unreadableBody ("Cannot decode response: " ++ fault.message)).withCause fault.message

/-- What a reply answers. -/
def Reply.decode {α : Type} (codec : Codec α) (reply : Reply) : Answer α :=
  match reply.checksumFault? with
  | some failure => .error failure
  | none =>
      if reply.status.isSuccess then
        match codec.read (.ofBytes reply.body) with
        | .ok a => .ok a
        | .error fault => .error (unreadable fault)
      else .error reply.failure

/-! ### The client -/

/--
Moves posts to a store and brings back a reply to each, or says why there is none. Which it is may
depend on the posts before.
-/
abbrev Exchange := Channel Post (Except String Reply)

/-- The failure of an exchange that brings back no reply. -/
def unreachable (reason : String) : Failure :=
  (Failure.of .internal ("Store request failed: " ++ reason)).withCause reason

/-- The post that carries a request to an endpoint. -/
def post (endpoint : Endpoint) (request : Request) (body : List UInt8) : Post :=
  ⟨endpoint.url, contentType, request.operation.target, body⟩

/-- Writes a request, exchanges it for a reply, and reads that. -/
def call {α : Type} (endpoint : Endpoint) (exchange : Exchange) (codec : Codec α)
    (request : Request) : Sending Post (Answer α) := do
  match encode (.ok request.toJson) with
  | .error failure => return .error failure
  | .ok body =>
      match ← exchange.send (post endpoint request body) with
      | .error reason => return .error (unreachable reason)
      | .ok reply => return reply.decode codec

/-- The client that reaches the store at an endpoint through an exchange. -/
def client (endpoint : Endpoint) (exchange : Exchange) : Client where
  get := .through fun request => call endpoint exchange GetResponse.record.codec (.get request)
  batchGet :=
    .through fun request => call endpoint exchange BatchGetResponse.record.codec (.batchGet request)
  update :=
    .through fun request => call endpoint exchange UpdateResponse.record.codec (.update request)

end ItemStore.Http
