import Mathlib
import ItemStore.Http.Exchange
import ItemStore.Proofs.Attempts
import ItemStore.Proofs.Runs

/-!
# ItemStore.Proofs.Sending

How requests get to the store: builders send what they build, and hand on what comes back.

A call that executes a builder does to it what a call for the request does. It sends the request
once and comes back with the answer as it is, and no other call sends anything (`Sender.Consults`).
So a run sends the requests that it could have built instead, and answers have no influence on it
(`sent_run`, `run_keepBack`). A client that works over HTTP posts what is written for the request,
once for each, and the answer is what the reply to this post says (`call_eq`, `conveys_through`).
-/

namespace ItemStore

open Json (Codec)

/-! ### Clients over HTTP -/

namespace Http

variable {α : Type}

/-- Whether an answer is what an exchange brings back: what the reply says, or else a failure. -/
def Conveys (codec : Codec α) : Except String Reply → Answer α → Prop
  | .ok reply, answer => answer = reply.decode codec
  | .error _, answer => ∃ failure, answer = .error failure ∧ failure.kind = .internal

/-- Whether a post carries a request to an endpoint, under an operation. -/
structure Post.Carries (post : Post) (endpoint : Endpoint) (target : String) (request : Request) :
    Prop where
  url : post.url = endpoint.url
  contentType : post.contentType = "application/x-amz-json-1.0"
  target : post.target = target
  body : encode (.ok request.toJson) = .ok post.body

/-- The post that is made for a request. -/
def posted (endpoint : Endpoint) (request : Request) : Post :=
  post endpoint request (Text.utf8 request.toJson.print)

variable {endpoint : Endpoint} {exchange : Exchange} {codec : Codec α}

/-- A request is posted once, behind whatever was posted before. -/
theorem call_eq (endpoint : Endpoint) (exchange : Exchange) (codec : Codec α) (request : Request)
    (earlier : List Post) :
    call endpoint exchange codec request earlier =
      (match exchange earlier (posted endpoint request) with
        | .error reason => .error (unreachable reason)
        | .ok reply => reply.decode codec,
      earlier ++ [posted endpoint request]) := by
  show (match exchange earlier (posted endpoint request) with
      | .error reason => pure (.error (unreachable reason))
      | .ok reply => pure (reply.decode codec) : Sending Post (Answer α))
    (earlier ++ [posted endpoint request]) = _
  cases exchange earlier (posted endpoint request) <;> rfl

/-- Requests that are sent on one by one are answered by the replies to their own posts. -/
theorem conveys_through {ρ : Type} (wire : ρ → Request) (earlier : List ρ) (request : ρ) :
    Conveys codec
      (exchange (earlier.map fun request => posted endpoint (wire request))
        (posted endpoint (wire request)))
      (Channel.through (fun request => call endpoint exchange codec (wire request)) earlier
        request) := by
  have posts : ∀ before : List Post, earlier.foldl
      (fun sent request => (call endpoint exchange codec (wire request) sent).2) before =
        before ++ earlier.map fun request => posted endpoint (wire request) := by
    induction earlier with
    | nil => simp
    | cons request rest ih =>
        intro before
        rw [List.foldl_cons, ih, call_eq, List.map_cons, List.append_assoc]
        rfl
  rw [Channel.through, posts, List.nil_append, call_eq]
  cases exchange _ (posted endpoint (wire request)) with
  | ok reply => rfl
  | error reason => exact ⟨_, rfl, rfl⟩

end Http

/-! ### Results without answers -/

namespace Call

variable {σ ρ α : Type}

/-- The answer that a call came back with, if it did. -/
def Result.answer? : Result ρ α → Option (Answer α)
  | .answer _ reply => some reply
  | _ => none

/-- The result that a call has if it builds its request and does not send it. -/
def Result.unsent : Result ρ α → Result ρ α
  | .answer [sent] _ => .request sent
  | result => result

theorem unsent_of_answer?_eq_none {result : Result ρ α} (h : result.answer? = none) :
    result.unsent = result := by
  cases result with
  | answer sent reply => cases h
  | _ => rfl

theorem sent_of_answer?_eq_none {result : Result ρ α} (h : result.answer? = none) :
    result.sent = [] := by
  cases result with
  | answer sent reply => cases h
  | _ => rfl

theorem answer?_take (builder : σ) (attempt : Attempt σ Unit) :
    (take (ρ := ρ) (α := α) builder attempt).1.answer? = none := by
  unfold take
  rcases attempt builder with ⟨_ | _, _⟩ <;> rfl

end Call

/-! ### Builders that send requests -/

/-- A kind of builder that sends requests `ρ` and hands on answers `α`. -/
structure Sender (γ σ ι ρ α : Type) where
  /-- Takes a call, in the world that it finds. -/
  step : γ → σ → ι → Call.Result ρ α × σ
  /-- The client of a world. -/
  client : γ → Client
  /-- The world with another client. -/
  withClient : γ → Client → γ
  /-- The request as it stands. -/
  request : σ → ρ
  /-- The call that builds the request. -/
  build : ι
  /-- Whether a call builds the request and sends it. -/
  sends : ι → Bool
  /-- The builder after its request has been built. -/
  built : σ → σ
  /-- What answers such requests, on the side of a client. -/
  channel : Client → Channel ρ (Answer α)
  /-- The request as one of any kind. -/
  wire : ρ → Request
  /-- The name of the operation that the request is for. -/
  target : String
  /-- The written form of answers. -/
  codec : Codec α

namespace Sender

/-- Updates. When the request has been built, this is all that they know of it. -/
def update : Sender Update.World Update Update.Call UpdateRequest UpdateResponse where
  step := Update.step
  client := Update.World.client
  withClient world client := { world with client }
  request := Update.request
  build := .request
  sends
    | .execute => true
    | _ => false
  built update := { update with phase := .finalized }
  channel := Client.update
  wire := .update
  target := "DynamoDB_20120810.UpdateItem"
  codec := UpdateResponse.record.codec

/-- Reads of one item. They do not know whether their request has been built. -/
def single : Sender Client SingleRead SingleRead.Call GetRequest GetResponse where
  step := SingleRead.step
  client := id
  withClient _ client := client
  request := SingleRead.request
  build := .request
  sends
    | .execute => true
    | _ => false
  built := id
  channel := Client.get
  wire := .get
  target := "DynamoDB_20120810.GetItem"
  codec := GetResponse.record.codec

/-- Reads of several items. They do not know whether their request has been built. -/
def batch : Sender Client BatchRead BatchRead.Call BatchGetRequest BatchGetResponse where
  step := BatchRead.step
  client := id
  withClient _ client := client
  request := BatchRead.request
  build := .request
  sends
    | .execute => true
    | _ => false
  built := id
  channel := Client.batchGet
  wire := .batchGet
  target := "DynamoDB_20120810.BatchGetItem"
  codec := BatchGetResponse.record.codec

variable {γ σ ι ρ α : Type} {sender : Sender γ σ ι ρ α}

/-- Takes calls one after the other, each in the world that it finds. -/
def run (sender : Sender γ σ ι ρ α) : σ → List (γ × ι) → List (Call.Result ρ α) × σ :=
  Call.run fun builder (world, call) => sender.step world builder call

/-- The calls of a run that send, each with the builder and the world that it finds. -/
def sending (sender : Sender γ σ ι ρ α) (builder : σ) (calls : List (γ × ι)) : List (σ × γ × ι) :=
  (Call.found (fun builder (world, call) => sender.step world builder call) builder calls).filter
    fun here => sender.sends here.2.2

/-- What a client answers to the request of a builder, if nothing was sent in the call before. -/
def answer (sender : Sender γ σ ι ρ α) (builder : σ) (world : γ) : Answer α :=
  sender.channel (sender.client world) [] (sender.request builder)

/-- The call that keeps the request back, and is the same otherwise. -/
def keepBack (sender : Sender γ σ ι ρ α) (call : ι) : ι :=
  if sender.sends call then sender.build else call

/-! ### Single calls -/

/-- How builders of a kind consult their clients, call by call. -/
structure Consults (sender : Sender γ σ ι ρ α) : Prop where
  /-- The request can be had at any time, as it stands. -/
  build : ∀ world builder,
    sender.step world builder sender.build =
      (.request (sender.request builder), sender.built builder)
  /-- A call that sends has sent this request and no other, and comes back with the answer. -/
  sends : ∀ world builder call, sender.sends call = true →
    sender.step world builder call =
      (.answer [sender.request builder] (sender.answer builder world), sender.built builder)
  /-- The other calls send nothing, and do the same whatever the client is. -/
  others : ∀ world client builder call, sender.sends call = false →
    (sender.step world builder call).1.answer? = none ∧
      sender.step (sender.withClient world client) builder call = sender.step world builder call
  /-- That a request has been built does not change it. -/
  again : ∀ builder, sender.request (sender.built builder) = sender.request builder

theorem consults_update : update.Consults where
  build _ _ := rfl
  sends _ _ call sends := by
    cases call with
    | execute => rfl
    | _ => cases sends
  others _ _ _ call sends := by
    cases call with
    | table _ | key _ | mark _ | disableStamp _ | stamp _ _ | mergeDocument _ | condition _ _ =>
        exact ⟨Call.answer?_take _ _, rfl⟩
    | lock revision => cases revision <;> exact ⟨rfl, rfl⟩
    | execute => cases sends
    | _ => exact ⟨rfl, rfl⟩
  again _ := rfl

theorem consults_single : single.Consults where
  build _ _ := rfl
  sends _ _ call sends := by
    cases call with
    | execute => rfl
    | _ => cases sends
  others _ _ _ call sends := by
    cases call with
    | table _ | key _ => exact ⟨Call.answer?_take _ _, rfl⟩
    | execute => cases sends
    | _ => exact ⟨rfl, rfl⟩
  again _ := rfl

theorem consults_batch : batch.Consults where
  build _ _ := rfl
  sends _ _ call sends := by
    cases call with
    | execute => rfl
    | _ => cases sends
  others _ _ _ call sends := by
    cases call with
    | table _ | keys _ => exact ⟨Call.answer?_take _ _, rfl⟩
    | execute => cases sends
    | _ => exact ⟨rfl, rfl⟩
  again _ := rfl

/-! ### Runs -/

namespace Consults

/-- A run sends the request as it stands at each call that sends, and nothing else. -/
theorem sent_run (h : sender.Consults) (builder : σ) (calls : List (γ × ι)) :
    (sender.run builder calls).1.flatMap Call.Result.sent =
      (sender.sending builder calls).map fun here => sender.request here.1 := by
  rw [run, Call.results_run, sending, List.flatMap_map]
  induction Call.found (fun builder (world, call) => sender.step world builder call) builder calls
    with
  | nil => rfl
  | cons here rest ih =>
      obtain ⟨builder, world, call⟩ := here
      rw [List.flatMap_cons, ih]
      show (sender.step world builder call).1.sent ++ _ = _
      cases sends : sender.sends call with
      | true =>
          simp only [h.sends world builder call sends, List.filter_cons, sends, if_true]
          rfl
      | false =>
          have none := (h.others world (sender.client world) builder call sends).1
          simp only [Call.sent_of_answer?_eq_none none, List.filter_cons, sends,
            Bool.false_eq_true, if_false, List.nil_append]

/-- The calls of a run that send come back with the answers of their clients, and no others do. -/
theorem answers_run (h : sender.Consults) (builder : σ) (calls : List (γ × ι)) :
    (sender.run builder calls).1.filterMap Call.Result.answer? =
      (sender.sending builder calls).map fun here => sender.answer here.1 here.2.1 := by
  rw [run, Call.results_run, sending, List.filterMap_map, ← List.filterMap_eq_map,
    List.filterMap_filter]
  refine List.filterMap_congr fun here _ => ?_
  obtain ⟨builder, world, call⟩ := here
  cases sends : sender.sends call with
  | true =>
      simp only [Function.comp_apply, h.sends world builder call sends, if_true]
      rfl
  | false =>
      have none := (h.others world (sender.client world) builder call sends).1
      simp only [Function.comp_apply, none, Bool.false_eq_true, if_false]

/-- A call that keeps its request back builds the one that it would have sent. -/
theorem step_keepBack (h : sender.Consults) (world : γ) (builder : σ) (call : ι) :
    sender.step world builder (sender.keepBack call) =
      ((sender.step world builder call).1.unsent, (sender.step world builder call).2) := by
  unfold keepBack
  cases sends : sender.sends call with
  | true =>
      rw [if_pos rfl, h.build, h.sends _ _ _ sends]
      rfl
  | false =>
      have none := (h.others world (sender.client world) builder call sends).1
      rw [if_neg (by simp), Call.unsent_of_answer?_eq_none none]

/-- A run that keeps its requests back builds the ones that it would have sent. -/
theorem run_keepBack (h : sender.Consults) (builder : σ) (calls : List (γ × ι)) :
    sender.run builder (calls.map fun call => (call.1, sender.keepBack call.2)) =
      ((sender.run builder calls).1.map Call.Result.unsent, (sender.run builder calls).2) := by
  induction calls generalizing builder with
  | nil => rfl
  | cons call rest ih =>
      -- Both runs go on with the same builder, so the answer has no influence on the rest.
      have first := h.step_keepBack call.1 builder call.2
      simp only [run, List.map_cons, Call.run_cons, first] at ih ⊢
      rw [ih]

end Consults

/-- How builders of a kind stand between their callers and the store. -/
structure Relays (sender : Sender γ σ ι ρ α) : Prop extends sender.Consults where
  /-- What a run sends is one request for each call that sends, in order, as it then stands. -/
  sent : ∀ builder calls,
    (sender.run builder calls).1.flatMap Call.Result.sent =
      (sender.sending builder calls).map fun here => sender.request here.1
  /-- Each of these calls comes back with what its client answers. -/
  answers : ∀ builder calls,
    (sender.run builder calls).1.filterMap Call.Result.answer? =
      (sender.sending builder calls).map fun here => sender.answer here.1 here.2.1
  /-- They do to the builder what they do if they keep their requests back. -/
  keepsBack : ∀ builder calls,
    sender.run builder (calls.map fun call => (call.1, sender.keepBack call.2)) =
      ((sender.run builder calls).1.map Call.Result.unsent, (sender.run builder calls).2)
  /-- Of two of them in a row the second sends what the first did, whatever the answer was. -/
  resends : ∀ world next builder call other, sender.sends call = true → sender.sends other = true →
    (sender.step next (sender.step world builder call).2 other).1.sent =
      (sender.step world builder call).1.sent
  /-- Over HTTP there is one post for each request, and the reply to it is the answer. -/
  posts : ∀ endpoint, ∃ post : ρ → Http.Post,
    (∀ request, (post request).Carries endpoint sender.target (sender.wire request)) ∧
      ∀ exchange earlier request,
        Http.Conveys sender.codec (exchange (earlier.map post) (post request))
          (sender.channel (Http.client endpoint exchange) earlier request)

theorem Consults.relays (h : sender.Consults)
    (target : ∀ request, (sender.wire request).operation.target = sender.target)
    (channel : ∀ endpoint exchange, sender.channel (Http.client endpoint exchange) =
      .through fun request => Http.call endpoint exchange sender.codec (sender.wire request)) :
    sender.Relays where
  toConsults := h
  sent := h.sent_run
  answers := h.answers_run
  keepsBack := h.run_keepBack
  resends world next builder call other first second := by
    rw [h.sends world builder call first, h.sends next _ other second]
    exact congrArg ([·]) (h.again builder)
  posts endpoint := by
    refine ⟨fun request => Http.posted endpoint (sender.wire request),
      fun request => ⟨rfl, rfl, target request, rfl⟩, fun exchange earlier request => ?_⟩
    rw [channel]
    exact Http.conveys_through sender.wire earlier request

end Sender

/--
Executing a builder sends the request that it would have built, and hands on the answer. This holds
of updates and of reads of one or several items, for all runs of calls and whatever clients answer.

* The requests that reach clients are those that the builder has at the calls that execute it, one
  for each, in order, and each call comes back with the answer of its client.
* These are the requests that the same run builds if it sends none, and it leads to the same
  builder: nothing changes but that an update is known to be built.
* So a builder that is executed again sends the same request, whatever the first answer was.
* A client over HTTP posts the body of each request once, under its operation, whatever was posted
  before. The answer is what the reply is read as, or an internal failure if there is no reply.
-/
theorem requests_relayed :
    Sender.update.Relays ∧ Sender.single.Relays ∧ Sender.batch.Relays :=
  ⟨Sender.consults_update.relays (fun _ => rfl) fun _ _ => rfl,
    Sender.consults_single.relays (fun _ => rfl) fun _ _ => rfl,
    Sender.consults_batch.relays (fun _ => rfl) fun _ _ => rfl⟩

/-- An update that is executed again because a client failed, and then a post got no reply. -/
def retryCalls : List (Update.World × Update.Call) :=
  [(default, .merge [("a", .text "1")]),
    ({ (default : Update.World) with client := .failing (.of .conditionFailed) }, .execute),
    ({ (default : Update.World) with client := Http.client {} fun _ _ => .error "no route" },
      .execute)]

theorem requests_relayed_of_retry :
    ∃ update request failure, Update.start {} "t" [("id", .text "1")] = .ok update ∧
      (Sender.update.run update retryCalls).1.flatMap Call.Result.sent = [request, request] ∧
      (Sender.update.run update retryCalls).1.filterMap Call.Result.answer? =
        [.error (.of .conditionFailed), .error failure] ∧
      failure.kind = .internal := by
  have started : Update.start {} "t" [("id", .text "1")] = .ok _ := rfl
  exact ⟨_, _, _, started, requests_relayed.1.sent _ retryCalls,
    requests_relayed.1.answers _ retryCalls, rfl⟩

end ItemStore
