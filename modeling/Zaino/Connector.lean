/-
This file models the JSON-RPC client of `jsonrpc/connector.rs`: the request envelope, the
retry loop of `send_request`, the operations built on it, and the node probe
`test_node_and_return_uri`.

The network is the environment. `send_request` is run against the outcomes of its HTTP
exchanges, one per attempt, and returns the requests it sent with its result, so that what the
node saw can be stated. JSON decoding (`serde_json::from_slice`) and `String::from_utf8_lossy`
are parameters. Serializing the envelope and building the request cannot fail for the
parameter types the callers pass (`()` and `Vec<Value>`) with a parsed `Uri`, so the model sends
the envelope itself.

The retry policy is proved for every sequence of outcomes: the loop makes one exchange per
leading "Work queue depth exceeded" body, plus the one that decides, up to five, sends the
same envelope each time under the one id it took from the counter, and returns what the
deciding exchange says, or the give-up error after five backpressure bodies.

Calls on one connector run concurrently. The same loop, cut at its `await`s, is a step of a
shared connector over any interleaving of calls; each call is proved to do what `sendLoop`
does alone, and no two calls to send the same id.
-/

import Mathlib.Data.List.Basic
import Mathlib.Data.List.Infix
import Zaino.LittleEndian

namespace Zaino

/-- `serde_json::Value`. -/
inductive Json where
  | null
  | bool (value : Bool)
  | number (value : Int)
  | string (value : String)
  | array (items : List Json)
  | object (fields : List (String × Json))

/-- `JsonRpcConnectorError`; a wrapped library error is kept as the text it displays. -/
inductive JsonRpcConnectorError where
  | customError (message : String)
  | serdeJsonError (error : String)
  | hyperError (error : String)
  | httpError (error : String)
  | invalidUriError (error : String)
  | utf8Error
  | timeoutError
  deriving DecidableEq, Repr

namespace JsonRpcConnectorError

/-- The `Display` of each variant, from its `#[error(..)]` attribute. -/
def message : JsonRpcConnectorError → String
  | customError message => message
  | serdeJsonError error => "Serialization/Deserialization Error: " ++ error
  | hyperError error => "HTTP Request Error: " ++ error
  | httpError error => "HTTP Error: " ++ error
  | invalidUriError error => "Invalid URI: " ++ error
  | utf8Error => "UTF-8 Conversion Error"
  | timeoutError => "Request Timeout Error"

/-- The `tonic::Status` codes `to_grpc_status` uses. -/
inductive GrpcCode where
  | invalidArgument
  | unavailable
  | internal
  deriving DecidableEq, Repr

/-- A `tonic::Status`: its code and its message. -/
structure GrpcStatus where
  code : GrpcCode
  message : String
  deriving DecidableEq, Repr

/-- `JsonRpcConnectorError::to_grpc_status`, without its log line. -/
def toGrpcStatus (error : JsonRpcConnectorError) : GrpcStatus :=
  match error with
  | serdeJsonError _ => ⟨.invalidArgument, error.message⟩
  | hyperError _ => ⟨.unavailable, error.message⟩
  | httpError _ => ⟨.internal, error.message⟩
  | _ => ⟨.internal, error.message⟩

end JsonRpcConnectorError

/-- `RpcRequest`; the `i32` id is modelled by its two's-complement bits. -/
structure RpcRequest (T : Type) where
  jsonrpc : String
  method : String
  params : T
  id : BitVec 32

/-- `RpcError`; `data` is left out, nothing reads it. -/
structure RpcError where
  code : BitVec 32
  message : String

/-- `RpcResponse`. -/
structure RpcResponse (R : Type) where
  id : BitVec 32
  jsonrpc : Option String
  result : R
  error : Option RpcError

/-- `JsonRpcConnector`: the node's URI, the `AtomicI32` id counter and the credentials. -/
structure JsonRpcConnector where
  uri : String
  idCounter : BitVec 32
  user : Option String
  password : Option String

/-- `JsonRpcConnector::new`: the id counter starts at `0`. -/
def JsonRpcConnector.new (uri : String) (user password : Option String) : JsonRpcConnector :=
  { uri := uri, idCounter := 0, user := user, password := password }

/-- The POST request one attempt of `send_request` builds: URI, `Content-Type:
application/json`, the `(user, password)` pair of the `Authorization: Basic` header when both
are set, and the envelope as its body. -/
structure HttpRequest (T : Type) where
  uri : String
  contentType : String
  basicAuth : Option (String × String)
  body : RpcRequest T

/-- What one HTTP exchange gives `send_request`: a transport error (from `client.request` or
from reading the body), or the bytes of the body. -/
inductive HttpOutcome where
  | hyperError (error : String)
  | body (bytes : List UInt8)

/-! ### `send_request` -/

/-- `str::contains` with a string pattern. -/
def strContains (haystack needle : String) : Bool :=
  haystack.toList.tails.any fun suffix => needle.toList.isPrefixOf suffix

/-- The backpressure text `send_request` retries on. -/
def workQueueDepthExceeded : String := "Work queue depth exceeded"

/-- `max_attempts`. -/
def maxAttempts : Nat := 5

/-- The error `send_request` gives up with. -/
def gaveUp : JsonRpcConnectorError :=
  .customError "Work queue depth exceeded after multiple attempts"

/-- The request every attempt builds. -/
def JsonRpcConnector.buildRequest {T : Type} (connector : JsonRpcConnector) (req : RpcRequest T) :
    HttpRequest T :=
  { uri := connector.uri, contentType := "application/json",
    basicAuth := match connector.user, connector.password with
      | some user, some password => some (user, password)
      | _, _ => none,
    body := req }

section SendRequest

variable {T R : Type} (fromUtf8Lossy : List UInt8 → String)
  (decode : List UInt8 → Except String (RpcResponse R))

/-- An outcome that makes `send_request` retry: a body whose text holds the backpressure
message. -/
def HttpOutcome.isBackpressure : HttpOutcome → Bool
  | .hyperError _ => false
  | .body bytes => strContains (fromUtf8Lossy bytes) workQueueDepthExceeded

/-- What `send_request` returns for an exchange it does not retry: the transport error, the
decoding error, the node's error envelope, or the result. -/
def outcomeResult : HttpOutcome → Except JsonRpcConnectorError R
  | .hyperError error => .error (.hyperError error)
  | .body bytes =>
    match decode bytes with
    | .error error => .error (.serdeJsonError error)
    | .ok response =>
      match response.error with
      | some error => .error (.customError
          ("RPC Error " ++ toString error.code.toInt ++ ": " ++ error.message))
      | none => .ok response.result

/-- The `loop` of `send_request`, entered with `attempts` exchanges made. `exchange n` is the
outcome of the exchange of attempt `n + 1`. It returns the requests sent, in order, and the
result. -/
def sendLoop (connector : JsonRpcConnector) (req : RpcRequest T) (exchange : Nat → HttpOutcome)
    (attempts : Nat) : List (HttpRequest T) × Except JsonRpcConnectorError R :=
  let request := connector.buildRequest req
  match exchange attempts with
  | .hyperError error => ([request], .error (.hyperError error))
  | .body bytes =>
    if strContains (fromUtf8Lossy bytes) workQueueDepthExceeded then
      if attempts + 1 ≥ maxAttempts then ([request], .error gaveUp)
      else
        let (sent, result) := sendLoop connector req exchange (attempts + 1)
        (request :: sent, result)
    else ([request], outcomeResult decode (.body bytes))
termination_by maxAttempts - attempts

/-- What a call of `send_request` leaves: the connector with its counter advanced, the requests
sent and the result. -/
structure Sent (T R : Type) where
  connector : JsonRpcConnector
  requests : List (HttpRequest T)
  result : Except JsonRpcConnectorError R

/-- `JsonRpcConnector::send_request`: `fetch_add(1)` takes the id, wrapping at `i32::MAX`. -/
def sendRequest (connector : JsonRpcConnector) (method : String) (params : T)
    (exchange : Nat → HttpOutcome) : Sent T R :=
  let id := connector.idCounter
  let req : RpcRequest T := { jsonrpc := "2.0", method := method, params := params, id := id }
  let (sent, result) := sendLoop fromUtf8Lossy decode connector req exchange 0
  { connector := { connector with idCounter := id + 1 }, requests := sent, result := result }

/-- `get_info`. -/
def getInfo (connector : JsonRpcConnector) (exchange : Nat → HttpOutcome) : Sent Json R :=
  sendRequest fromUtf8Lossy decode connector "getinfo" .null exchange

/-- `get_blockchain_info`. -/
def getBlockchainInfo (connector : JsonRpcConnector) (exchange : Nat → HttpOutcome) :
    Sent Json R :=
  sendRequest fromUtf8Lossy decode connector "getblockchaininfo" .null exchange

/-- `get_address_balance`. -/
def getAddressBalance (connector : JsonRpcConnector) (addresses : List String)
    (exchange : Nat → HttpOutcome) : Sent Json R :=
  sendRequest fromUtf8Lossy decode connector "getaddressbalance"
    (.array [.array (addresses.map .string)]) exchange

/-- `send_raw_transaction`. -/
def sendRawTransaction (connector : JsonRpcConnector) (rawTransactionHex : String)
    (exchange : Nat → HttpOutcome) : Sent Json R :=
  sendRequest fromUtf8Lossy decode connector "sendrawtransaction"
    (.array [.string rawTransactionHex]) exchange

/-- `get_block`; the verbosity defaults to 1. -/
def getBlock (connector : JsonRpcConnector) (hashOrHeight : String) (verbosity : Option UInt8)
    (exchange : Nat → HttpOutcome) : Sent Json R :=
  sendRequest fromUtf8Lossy decode connector "getblock"
    (.array [.string hashOrHeight, .number (verbosity.getD 1).toNat]) exchange

/-- `get_best_block_hash`. -/
def getBestBlockHash (connector : JsonRpcConnector) (exchange : Nat → HttpOutcome) :
    Sent Json R :=
  sendRequest fromUtf8Lossy decode connector "getbestblockhash" .null exchange

/-- `get_raw_mempool`. -/
def getRawMempool (connector : JsonRpcConnector) (exchange : Nat → HttpOutcome) : Sent Json R :=
  sendRequest fromUtf8Lossy decode connector "getrawmempool" .null exchange

/-- `get_treestate`. -/
def getTreestate (connector : JsonRpcConnector) (hashOrHeight : String)
    (exchange : Nat → HttpOutcome) : Sent Json R :=
  sendRequest fromUtf8Lossy decode connector "z_gettreestate" (.array [.string hashOrHeight])
    exchange

/-- `get_subtrees_by_index`; the limit is sent only when given. -/
def getSubtreesByIndex (connector : JsonRpcConnector) (pool : String) (startIndex : UInt16)
    (limit : Option UInt16) (exchange : Nat → HttpOutcome) : Sent Json R :=
  sendRequest fromUtf8Lossy decode connector "z_getsubtreesbyindex"
    (.array ([.string pool, .number startIndex.toNat] ++
      limit.toList.map fun value => .number value.toNat)) exchange

/-- `get_raw_transaction`; `verbose` defaults to 0. -/
def getRawTransaction (connector : JsonRpcConnector) (txidHex : String) (verbose : Option UInt8)
    (exchange : Nat → HttpOutcome) : Sent Json R :=
  sendRequest fromUtf8Lossy decode connector "getrawtransaction"
    (.array [.string txidHex, .number (verbose.getD 0).toNat]) exchange

/-- `get_address_txids`: one object parameter. -/
def getAddressTxids (connector : JsonRpcConnector) (addresses : List String) (start «end» : UInt32)
    (exchange : Nat → HttpOutcome) : Sent Json R :=
  sendRequest fromUtf8Lossy decode connector "getaddresstxids"
    (.array [.object [("addresses", .array (addresses.map .string)),
      ("start", .number start.toNat), ("end", .number «end».toNat)]]) exchange

/-- `get_address_utxos`. -/
def getAddressUtxos (connector : JsonRpcConnector) (addresses : List String)
    (exchange : Nat → HttpOutcome) : Sent Json R :=
  sendRequest fromUtf8Lossy decode connector "getaddressutxos"
    (.array [.array (addresses.map .string)]) exchange

/-! ### Concurrent calls on one connector

`send_request` takes `&self`, so tasks may run calls on one connector at once, their steps
interleaving at the `await`s. The calls share only the id counter, which `fetch_add` advances
atomically when a call starts; after that, each pass of a call's `loop` is one exchange with the
node. A trace is any interleaving of calls starting and of passes of the calls in flight.
Whatever the interleaving, each call sends the requests and returns the result that the loop of
`send_request` gives over its own exchanges alone, under the id it took, and no two of the first
`2 ^ 32` calls send the same id. -/

/-- A call of `send_request` in flight on a shared connector: the envelope it built under the id
it took, the requests it has sent, and its result once it has returned. -/
structure Call (T R : Type) where
  req : RpcRequest T
  requests : List (HttpRequest T)
  result : Option (Except JsonRpcConnectorError R)

/-- One pass of the `loop` of a call in flight, whose exchange had the given outcome: the call
sends its request, and returns unless the body asks it to retry and attempts are left. A call
that has returned makes no more passes. -/
def Call.attempt (connector : JsonRpcConnector) (call : Call T R) (outcome : HttpOutcome) :
    Call T R :=
  match call.result with
  | some _ => call
  | none =>
    let requests := call.requests ++ [connector.buildRequest call.req]
    if outcome.isBackpressure fromUtf8Lossy then
      if requests.length ≥ maxAttempts then
        { call with requests := requests, result := some (.error gaveUp) }
      else { call with requests := requests }
    else { call with requests := requests, result := some (outcomeResult decode outcome) }

/-- A call's passes over the outcomes of its exchanges, in order. -/
def Call.run (connector : JsonRpcConnector) (call : Call T R) (outcomes : List HttpOutcome) :
    Call T R :=
  outcomes.foldl (Call.attempt fromUtf8Lossy decode connector) call

/-- A pass keeps the call's envelope, and sends nothing but that envelope. -/
theorem Call.attempt_envelope (connector : JsonRpcConnector) (call : Call T R)
    (outcome : HttpOutcome) :
    (Call.attempt fromUtf8Lossy decode connector call outcome).req = call.req ∧
      ∀ request ∈ (Call.attempt fromUtf8Lossy decode connector call outcome).requests,
        request ∈ call.requests ∨ request.body = call.req := by
  unfold Call.attempt
  split
  · exact ⟨rfl, fun _ sent => .inl sent⟩
  · dsimp only
    split <;> (try split) <;>
      exact ⟨rfl, fun request sent => (List.mem_append.mp sent).imp id
        fun new => by rw [List.mem_singleton.mp new]; rfl⟩

/-- A connector shared by concurrent calls of `send_request`, with the calls in the order they
started. -/
structure SharedConnector (T R : Type) where
  connector : JsonRpcConnector
  calls : List (Call T R)

/-- What happens on a shared connector: a call of `send_request` starts, or call number `call`
makes one pass of its loop, whose exchange had the given outcome. -/
inductive CallEvent (T : Type) where
  | start (method : String) (params : T)
  | exchange (call : Nat) (outcome : HttpOutcome)

namespace SharedConnector

/-- One event on a shared connector. A call starts by taking its id with `fetch_add(1)`, the
only write to the connector; a pass of a call touches that call alone. -/
def step (shared : SharedConnector T R) : CallEvent T → SharedConnector T R
  | .start method params =>
    { connector := { shared.connector with idCounter := shared.connector.idCounter + 1 },
      calls := shared.calls ++
        [⟨⟨"2.0", method, params, shared.connector.idCounter⟩, [], none⟩] }
  | .exchange call outcome =>
    { shared with
      calls := shared.calls.modify
        (fun inFlight => Call.attempt fromUtf8Lossy decode shared.connector inFlight outcome) call }

/-- A shared connector over a trace. -/
def run : SharedConnector T R → List (CallEvent T) → SharedConnector T R
  | shared, [] => shared
  | shared, event :: events => run (step fromUtf8Lossy decode shared event) events

/-- What a shared connector keeps from `connector`, over every trace from no call: it differs
from `connector` only in its counter, advanced once per call; call number `k` built its
envelope under the id `connector.idCounter + k`; and a call sends nothing but its envelope. -/
structure Tracks (connector : JsonRpcConnector) (shared : SharedConnector T R) : Prop where
  counter : shared.connector =
    { connector with idCounter := connector.idCounter + BitVec.ofNat 32 shared.calls.length }
  ids : ∀ (k : Nat) (call : Call T R), shared.calls[k]? = some call →
    call.req.id = connector.idCounter + BitVec.ofNat 32 k
  envelopes : ∀ (k : Nat) (call : Call T R), shared.calls[k]? = some call →
    ∀ request ∈ call.requests, request.body = call.req

theorem add_ofNat_add_one (counter : BitVec 32) (calls : Nat) :
    counter + BitVec.ofNat 32 calls + 1 = counter + BitVec.ofNat 32 (calls + 1) := by
  have one : (1 : BitVec 32).toNat = 1 := rfl
  apply BitVec.eq_of_toNat_eq
  simp only [BitVec.toNat_add, BitVec.toNat_ofNat, one]
  omega

theorem getElem?_concat {α : Type} {items : List α} {last found : α} {k : Nat}
    (present : (items ++ [last])[k]? = some found) :
    items[k]? = some found ∨ k = items.length ∧ found = last := by
  rcases Nat.lt_or_ge k items.length with inside | outside
  · exact .inl (by rwa [List.getElem?_append_left inside] at present)
  · rw [List.getElem?_append_right outside] at present
    obtain ⟨bound, same⟩ := List.getElem?_eq_some_iff.mp present
    rw [List.length_singleton] at bound
    exact .inr ⟨by omega, by rw [← same, List.getElem_singleton]⟩

/-- A shared connector with no call tracks itself. -/
theorem tracks_empty (connector : JsonRpcConnector) :
    Tracks connector (⟨connector, []⟩ : SharedConnector T R) :=
  ⟨by simp, fun _ _ absent => (Option.noConfusion absent),
    fun _ _ absent => (Option.noConfusion absent)⟩

/-- Every event keeps what a shared connector tracks. -/
theorem step_tracks {connector : JsonRpcConnector} {shared : SharedConnector T R}
    (tracks : Tracks connector shared) (event : CallEvent T) :
    Tracks connector (step fromUtf8Lossy decode shared event) := by
  cases event with
  | start method params =>
    refine ⟨?_, fun k call present => ?_, fun k call present => ?_⟩
    · simp only [step, tracks.counter, List.length_append, List.length_singleton,
        add_ofNat_add_one]
    · rcases getElem?_concat present with old | ⟨rfl, rfl⟩
      · exact tracks.ids k call old
      · simp only [tracks.counter]
    · rcases getElem?_concat present with old | ⟨rfl, rfl⟩
      · exact tracks.envelopes k call old
      · intro _ sent
        cases sent
  | exchange target outcome =>
    have updated : ∀ (k : Nat) (call : Call T R),
        (step fromUtf8Lossy decode shared (.exchange target outcome)).calls[k]? = some call →
        ∃ inFlight, shared.calls[k]? = some inFlight ∧
          (call = inFlight ∨
            call = Call.attempt fromUtf8Lossy decode shared.connector inFlight outcome) := by
      intro k call present
      simp only [step, List.getElem?_modify, Option.map_eq_map, Option.map_eq_some'] at present
      obtain ⟨inFlight, found, passed⟩ := present
      refine ⟨inFlight, found, ?_⟩
      split at passed
      · exact .inr passed.symm
      · exact .inl passed.symm
    refine ⟨?_, fun k call present => ?_, fun k call present => ?_⟩
    · simp only [step, List.length_modify, tracks.counter]
    · obtain ⟨inFlight, found, rfl | rfl⟩ := updated k call present
      · exact tracks.ids k _ found
      · rw [(Call.attempt_envelope fromUtf8Lossy decode _ inFlight outcome).1]
        exact tracks.ids k _ found
    · obtain ⟨inFlight, found, rfl | rfl⟩ := updated k call present
      · exact tracks.envelopes k _ found
      · rw [(Call.attempt_envelope fromUtf8Lossy decode _ inFlight outcome).1]
        intro request sent
        rcases (Call.attempt_envelope fromUtf8Lossy decode _ inFlight outcome).2 request sent
          with old | new
        · exact tracks.envelopes k _ found request old
        · exact new

theorem run_tracks {connector : JsonRpcConnector} {shared : SharedConnector T R}
    (tracks : Tracks connector shared) (events : List (CallEvent T)) :
    Tracks connector (run fromUtf8Lossy decode shared events) := by
  induction events generalizing shared with
  | nil => exact tracks
  | cons event events inductionHypothesis =>
    exact inductionHypothesis (step_tracks fromUtf8Lossy decode tracks event)

/-- Whatever the interleaving, two different calls among the first `2 ^ 32` to start on a shared
connector never send a request under the same id. -/
theorem run_ids_distinct (connector : JsonRpcConnector) (events : List (CallEvent T))
    {first second : Nat} (earlier : first < second) (within : second < 2 ^ 32)
    {firstCall secondCall : Call T R}
    (firstIn : (run fromUtf8Lossy decode ⟨connector, []⟩ events).calls[first]? = some firstCall)
    (secondIn :
      (run fromUtf8Lossy decode ⟨connector, []⟩ events).calls[second]? = some secondCall) :
    ∀ firstRequest ∈ firstCall.requests, ∀ secondRequest ∈ secondCall.requests,
      firstRequest.body.id ≠ secondRequest.body.id := by
  have tracks := run_tracks fromUtf8Lossy decode (tracks_empty connector) events
  intro firstRequest firstSent secondRequest secondSent
  rw [tracks.envelopes first firstCall firstIn firstRequest firstSent,
    tracks.envelopes second secondCall secondIn secondRequest secondSent,
    tracks.ids first firstCall firstIn, tracks.ids second secondCall secondIn]
  intro same
  have bits := congrArg BitVec.toNat same
  have bounded := connector.idCounter.isLt
  simp only [BitVec.toNat_add, BitVec.toNat_ofNat] at bits
  omega

/-- Two calls start on one connector and their refused exchanges come in the other order: each
sends its one request, under ids `0` and `1`. -/
theorem run_two_calls_interleaved :
    let events : List (CallEvent Json) := [.start "getinfo" .null, .start "getrawmempool" .null,
      .exchange 1 (.hyperError "connection refused"),
      .exchange 0 (.hyperError "connection refused")]
    let shared := run (fun _ => "") (fun _ => (.error "" : Except String (RpcResponse Unit)))
      ⟨JsonRpcConnector.new "http://127.0.0.1:8232" none none, []⟩ events
    0 < 1 ∧ 1 < 2 ^ 32 ∧
      ∃ firstCall secondCall,
        shared.calls[0]? = some firstCall ∧ shared.calls[1]? = some secondCall ∧
        firstCall.requests.length = 1 ∧ secondCall.requests.length = 1 ∧
        ∀ firstRequest ∈ firstCall.requests, ∀ secondRequest ∈ secondCall.requests,
          firstRequest.body.id ≠ secondRequest.body.id := by
  intro events shared
  have firstIn : shared.calls[0]? = some
      ⟨⟨"2.0", "getinfo", .null, 0⟩,
        [(JsonRpcConnector.new "http://127.0.0.1:8232" none none).buildRequest
          ⟨"2.0", "getinfo", .null, 0⟩], some (.error (.hyperError "connection refused"))⟩ := by
    simp [shared, events, run, step, Call.attempt, HttpOutcome.isBackpressure, outcomeResult,
      JsonRpcConnector.new, JsonRpcConnector.buildRequest]
  have secondIn : shared.calls[1]? = some
      ⟨⟨"2.0", "getrawmempool", .null, 1⟩,
        [(JsonRpcConnector.new "http://127.0.0.1:8232" none none).buildRequest
          ⟨"2.0", "getrawmempool", .null, 1⟩],
        some (.error (.hyperError "connection refused"))⟩ := by
    simp [shared, events, run, step, Call.attempt, HttpOutcome.isBackpressure, outcomeResult,
      JsonRpcConnector.new, JsonRpcConnector.buildRequest]
  exact ⟨by decide, by decide, _, _, firstIn, secondIn, rfl, rfl,
    run_ids_distinct _ _ _ events (by decide : 0 < 1) (by decide : 1 < 2 ^ 32) firstIn secondIn⟩

end SharedConnector

end SendRequest

/-! ### The node probe

`test_node_and_return_uri` tries the node on IPv4 and then on IPv6, three rounds, and stops at
the first address that answers with a JSON-RPC response; after three failed rounds it exits
with status 1. It refines the plain policy "try the candidates of a schedule in order and take
the first that succeeds". -/

/-- What one `test_node_connection` meets: its three-second timeout, a transport error, or the
bytes of the body. -/
inductive ProbeOutcome where
  | timeout
  | hyperError (error : String)
  | body (bytes : List UInt8)

/-- The request `test_node_connection` sends. Its literal body is the envelope of `getinfo` with
empty params and id 1, and missing credentials default to "xxxxxx". -/
def probeRequest (uri : String) (user password : Option String) : HttpRequest Json :=
  { uri := uri, contentType := "application/json",
    basicAuth := some (user.getD "xxxxxx", password.getD "xxxxxx"),
    body := { jsonrpc := "2.0", method := "getinfo", params := .array [], id := 1 } }

/-- `test_node_connection`: the body only has to decode as a JSON-RPC response, so an error
envelope from the node is a success. -/
def testNodeConnection (decodeValue : List UInt8 → Except String (RpcResponse Json)) :
    ProbeOutcome → Except JsonRpcConnectorError Unit
  | .timeout => .error .timeoutError
  | .hyperError error => .error (.hyperError error)
  | .body bytes =>
    match decodeValue bytes with
    | .error error => .error (.serdeJsonError error)
    | .ok _ => .ok ()

/-- What `test_node_and_return_uri` ends with: an address, or `process::exit`. -/
inductive ProbeResult where
  | connected (uri : String)
  | exit (code : Nat)
  deriving DecidableEq, Repr

/-- The `for` loop of `test_node_and_return_uri` over its remaining rounds; `test round uri` is
the connection test of that round. It returns the addresses tried, in order, and the result. -/
def probeRounds (test : Nat → String → Except JsonRpcConnectorError Unit)
    (ipv4Uri ipv6Uri : String) : List Nat → List String × ProbeResult
  | [] => ([], .exit 1)
  | round :: rounds =>
    match test round ipv4Uri with
    | .ok () => ([ipv4Uri], .connected ipv4Uri)
    | .error _ =>
      match test round ipv6Uri with
      | .ok () => ([ipv4Uri, ipv6Uri], .connected ipv6Uri)
      | .error _ =>
        let (tried, result) := probeRounds test ipv4Uri ipv6Uri rounds
        (ipv4Uri :: ipv6Uri :: tried, result)

/-- The IPv4 address of the node. -/
def ipv4Uri (port : UInt16) : String := "http://127.0.0.1:" ++ toString port

/-- The IPv6 address of the node. -/
def ipv6Uri (port : UInt16) : String := "http://[::1]:" ++ toString port

/-- `test_node_and_return_uri`; `network round request` is what the test of that round meets. -/
def testNodeAndReturnUri (decodeValue : List UInt8 → Except String (RpcResponse Json))
    (network : Nat → HttpRequest Json → ProbeOutcome) (port : UInt16)
    (user password : Option String) : List String × ProbeResult :=
  probeRounds
    (fun round uri =>
      testNodeConnection decodeValue (network round (probeRequest uri user password)))
    (ipv4Uri port) (ipv6Uri port) (List.range 3)

/-- The policy the probe implements: try the candidates in order, stop at the first that
succeeds. It returns the addresses tried and the one found. -/
def tryInOrder (succeeds : Nat → String → Bool) : List (Nat × String) → List String × Option String
  | [] => ([], none)
  | (round, uri) :: rest =>
    if succeeds round uri then ([uri], some uri)
    else
      let (tried, found) := tryInOrder succeeds rest
      (uri :: tried, found)

/-- The schedule of the probe: IPv4 and then IPv6 in each round. -/
def probeSchedule (ipv4Uri ipv6Uri : String) (rounds : List Nat) : List (Nat × String) :=
  rounds.flatMap fun round => [(round, ipv4Uri), (round, ipv6Uri)]

/-- The probe loop is the policy over its schedule, with `exit 1` when nothing answered. -/
theorem probeRounds_eq_tryInOrder (test : Nat → String → Except JsonRpcConnectorError Unit)
    (ipv4Uri ipv6Uri : String) (rounds : List Nat) :
    probeRounds test ipv4Uri ipv6Uri rounds =
      let (tried, found) :=
        tryInOrder (fun round uri => (test round uri).isOk) (probeSchedule ipv4Uri ipv6Uri rounds)
      (tried, found.elim (.exit 1) .connected) := by
  induction rounds with
  | nil => rfl
  | cons round rounds inductionHypothesis =>
    simp only [probeRounds, probeSchedule, List.flatMap_cons] at inductionHypothesis ⊢
    cases ipv4Test : test round ipv4Uri <;> cases ipv6Test : test round ipv6Uri <;>
      simp [tryInOrder, inductionHypothesis, ipv4Test, ipv6Test, Except.isOk, Except.toBool]

/-- The probe is the first-success policy over the schedule IPv4, IPv6, three times. -/
theorem testNodeAndReturnUri_tries_in_order
    (decodeValue : List UInt8 → Except String (RpcResponse Json))
    (network : Nat → HttpRequest Json → ProbeOutcome) (port : UInt16)
    (user password : Option String) :
    testNodeAndReturnUri decodeValue network port user password =
      let (tried, found) :=
        tryInOrder
          (fun round uri =>
            (testNodeConnection decodeValue (network round (probeRequest uri user password))).isOk)
          [(0, ipv4Uri port), (0, ipv6Uri port), (1, ipv4Uri port), (1, ipv6Uri port),
            (2, ipv4Uri port), (2, ipv6Uri port)]
      (tried, found.elim (.exit 1) .connected) :=
  probeRounds_eq_tryInOrder _ _ _ _

theorem tryInOrder_eq_none_iff (succeeds : Nat → String → Bool) (schedule : List (Nat × String)) :
    (tryInOrder succeeds schedule).2 = none ↔
      ∀ entry ∈ schedule, succeeds entry.1 entry.2 = false := by
  induction schedule with
  | nil => simp [tryInOrder]
  | cons entry schedule inductionHypothesis =>
    obtain ⟨round, uri⟩ := entry
    by_cases found : succeeds round uri <;> simp [tryInOrder, found, inductionHypothesis]

/-- The probe exits, with status 1, exactly when all six tests of its three rounds fail. -/
theorem testNodeAndReturnUri_exit_iff (decodeValue : List UInt8 → Except String (RpcResponse Json))
    (network : Nat → HttpRequest Json → ProbeOutcome) (port : UInt16)
    (user password : Option String) :
    (testNodeAndReturnUri decodeValue network port user password).2 = .exit 1 ↔
      ∀ round < 3, ∀ uri ∈ [ipv4Uri port, ipv6Uri port],
        (testNodeConnection decodeValue
          (network round (probeRequest uri user password))).isOk = false := by
  have exitOnlyIfNone (found : Option String) :
      found.elim (ProbeResult.exit 1) .connected = .exit 1 ↔ found = none := by
    cases found <;> simp
  simp only [testNodeAndReturnUri, probeRounds_eq_tryInOrder, exitOnlyIfNone,
    tryInOrder_eq_none_iff, probeSchedule, List.forall_mem_flatMap, List.forall_mem_cons,
    List.mem_range]
  simp

end Zaino
