import DccCua.Lib.Runs
import DccCua.Lib.Script
import DccCua.Words
import DccCua.Protocol.Frame

/-! # The Host client

The operations of `HostClient` on one connection: single requests, batches and requests that can be
cancelled. An operation waits for what its connection gives it: responses in the order in which they arrive,
a read that fails, and the moment at which its caller cancels. It may be dropped at any of these waits, or
while it sends. -/

namespace DccCua

open Runs Script

def maxParallelDiscoveryRequests : Nat := 32

/-- `isError` says that the type of the value is `error`. -/
structure ReceivedResponse where
  requestId : String
  value : String
  isError : Bool
  deriving DecidableEq, Repr

inductive HostClientError where
  | io (message : String)
  | protocol (message : String)
  | remote (response : ReceivedResponse)
  deriving DecidableEq, Repr

def ReceivedResponse.intoResult (response : ReceivedResponse) : Except HostClientError ReceivedResponse :=
  if response.isError then .error (.remote response) else .ok response

inductive ConnectionState where
  | ready
  | inFlight
  | unusable
  deriving DecidableEq, Repr

/-- What an operation waits for. -/
inductive Incoming where
  | response (response : ReceivedResponse)
  | readFailed (error : HostClientError)
  | cancel
  deriving DecidableEq, Repr

/-- What becomes of a request that is written. -/
inductive Sending where
  | sent
  | failed
  | dropped
  deriving DecidableEq, Repr

/-- `outstanding` and `pending` are `outstanding_request_ids` and `pending_responses`, without repetitions. -/
structure HostClient where
  connectionState : ConnectionState
  outstanding : List String
  pending : List ReceivedResponse
  nextRequestId : Nat
  deriving DecidableEq, Repr

abbrev ClientProg (α : Type) := Prog HostClient Incoming (Except HostClientError α)

def validateRequestId (requestId : String) : Bool := requestId ≠ "" && requestId.length ≤ maxRequestIdChars

namespace HostClient

def connected : HostClient := ⟨.ready, [], [], 1⟩

def requestIdOf (n : Nat) : String := "cua-client-" ++ toString n

def registerOutstandingRequest (requestId : String) (c : HostClient) : Except HostClientError Unit × HostClient :=
  if maxParallelDiscoveryRequests ≤ c.outstanding.length then
    (.error (.protocol "one client operation tracks at most 32 request ids"), c)
  else if requestId ∈ c.outstanding then
    (.error (.protocol ("request_id " ++ requestId ++ " is already in flight")), c)
  else if c.pending.any fun response => response.requestId = requestId then
    (.error (.protocol ("request_id " ++ requestId ++ " is already in flight")),
      { c with outstanding := requestId :: c.outstanding })
  else (.ok (), { c with outstanding := requestId :: c.outstanding })

/-- The write of the frame. -/
def write (sending : Sending) : ClientProg Unit :=
  match sending with
  | .sent => Prog.ret (.ok ())
  | .failed => Prog.ret (.error (.io "host transport failed"))
  | .dropped => Prog.dropped

def sendRequestWithId (requestId : String) (sending : Sending) : ClientProg String :=
  if !validateRequestId requestId then Prog.ret (.error (.protocol "request_id must contain 1..128 characters"))
  else
    Prog.tryThen (Prog.update (registerOutstandingRequest requestId)) fun _ =>
      Prog.tryThen (write sending) fun _ => Prog.ret (.ok requestId)

def drawRequestId : Prog HostClient Incoming String :=
  Prog.update fun c => (requestIdOf c.nextRequestId, { c with nextRequestId := saturatingAdd c.nextRequestId 1 })

def sendRequest (sending : Sending) : ClientProg String :=
  Prog.andThen drawRequestId fun requestId => sendRequestWithId requestId sending

/-- The response is handed out. -/
def take (requestId : String) (c : HostClient) : HostClient :=
  { c with outstanding := c.outstanding.filter (· ≠ requestId),
           pending := c.pending.filter (·.requestId ≠ requestId) }

/-- How a wait for a response ends. -/
inductive Wake where
  | response (result : Except HostClientError ReceivedResponse)
  | cancelled

/-- One turn of the loop of `receive_for_request_raw`; `cancellable` waits also end when the caller cancels. -/
def receiveTurn (cancellable : Bool) (requestId : String) (incoming : Incoming) (c : HostClient) :
    Option Wake × HostClient :=
  match incoming with
  | .cancel => (if cancellable then some .cancelled else none, c)
  | .readFailed (.remote _) => (some (.response (.error (.protocol "Host closed the connection"))), c)
  | .readFailed error => (some (.response (.error error)), c)
  | .response response =>
    if response.requestId ∉ c.outstanding then
      (some (.response (.error (.protocol ("Host returned an untracked request_id: " ++ response.requestId)))), c)
    else if response.requestId = requestId then (some (.response (.ok response)), c.take requestId)
    else if c.pending.any fun other => other.requestId = response.requestId then
      (some (.response (.error (.protocol "Host returned a duplicate response for one request_id"))), c)
    else (none, { c with pending := response :: c.pending })

def receiveOrCancel (cancellable : Bool) (requestId : String) : Prog HostClient Incoming Wake := fun c script =>
  match c.pending.find? (fun response => response.requestId = requestId) with
  | some response => .done (.response (.ok response)) (c.take requestId) script
  | none => Prog.await (receiveTurn cancellable requestId) c script

def receiveForRequestRaw (requestId : String) : ClientProg ReceivedResponse :=
  Prog.andThen (receiveOrCancel false requestId) fun
    | .response result => Prog.ret result
    | .cancelled => Prog.dropped

def receiveForRequest (requestId : String) : ClientProg ReceivedResponse :=
  Prog.tryThen (receiveForRequestRaw requestId) fun response => Prog.ret response.intoResult

/-- The exchange of `request_inner`. -/
def exchange (sending : Sending) : ClientProg ReceivedResponse :=
  Prog.tryThen (sendRequest sending) receiveForRequest

/-- The exchange of `request_inner_with_id`. -/
def exchangeWithId (requestId : String) (sending : Sending) : ClientProg ReceivedResponse :=
  Prog.tryThen (sendRequestWithId requestId sending) receiveForRequest

def sendAll : List (String × Sending) → ClientProg Unit
  | [] => Prog.ret (.ok ())
  | (requestId, sending) :: rest => Prog.tryThen (sendRequestWithId requestId sending) fun _ => sendAll rest

def receiveAll : List String → ClientProg (List ReceivedResponse)
  | [] => Prog.ret (.ok [])
  | requestId :: rest =>
    Prog.tryThen (receiveForRequestRaw requestId) fun response =>
      Prog.tryThen (receiveAll rest) fun responses => Prog.ret (.ok (response :: responses))

/-- The exchange of `request_batch_with_ids_all`. -/
def exchangeAll (requests : List (String × Sending)) : ClientProg (List ReceivedResponse) :=
  Prog.tryThen (sendAll requests) fun _ => receiveAll (requests.map Prod.fst)

/-- The exchange of `request_with_cancel`: after a cancel both answers are read. -/
def exchangeWithCancel (sending cancelSending : Sending) : ClientProg ReceivedResponse :=
  Prog.tryThen (sendRequest sending) fun requestId =>
    Prog.andThen (receiveOrCancel true requestId) fun
      | .response result => Prog.tryThen (Prog.ret result) fun response => Prog.ret response.intoResult
      | .cancelled =>
        Prog.tryThen (sendRequest cancelSending) fun cancelId =>
          Prog.andThen (receiveForRequest cancelId) fun cancelResult =>
            Prog.andThen (receiveForRequest requestId) fun requestResult =>
              match cancelResult with
              | .error e => Prog.ret (.error e)
              | .ok _ => Prog.ret requestResult

/-- The exchange of `wait_for_window_with_cancel`: an error for the cancel is returned at once. -/
def exchangeWindowWait (sending cancelSending : Sending) : ClientProg ReceivedResponse :=
  Prog.tryThen (sendRequest sending) fun requestId =>
    Prog.andThen (receiveOrCancel true requestId) fun
      | .response result => Prog.tryThen (Prog.ret result) fun response => Prog.ret response.intoResult
      | .cancelled =>
        Prog.tryThen (sendRequest cancelSending) fun cancelId =>
          Prog.tryThen (receiveForRequest cancelId) fun _ => receiveForRequest requestId

end HostClient

/-- A result, or an operation that was dropped. -/
inductive OperationResult (α : Type) where
  | returned (result : Except HostClientError α)
  | dropped
  deriving DecidableEq, Repr

namespace HostClient

/-- `begin_request_operation`, the exchange and `finish_request_operation`: only a result or an error of the
    Host makes the connection ready again. -/
def operation {α : Type} (exchange : ClientProg α) (c : HostClient) (script : List Incoming) :
    OperationResult α × HostClient :=
  match c.connectionState with
  | .unusable => (.returned (.error (.protocol "Host connection is unusable after an interrupted or incomplete request; reconnect before sending another request")), c)
  | .inFlight => (.returned (.error (.protocol "another Host request is already in flight on this connection")), c)
  | .ready =>
    match exchange { c with connectionState := .inFlight } script with
    | .done (.ok a) c _ => (.returned (.ok a), { c with connectionState := .ready })
    | .done (.error (.remote r)) c _ => (.returned (.error (.remote r)), { c with connectionState := .ready })
    | .done (.error e) c _ => (.returned (.error e), { c with connectionState := .unusable })
    | .cut c => (.dropped, { c with connectionState := .unusable })

/-- `request_batch_with_ids_all`; `allowed` are the checks of the methods and of the shared-memory handoffs. -/
def requestBatchWithIdsAll (requests : List (String × Sending)) (allowed : Bool) (c : HostClient)
    (script : List Incoming) : OperationResult (List ReceivedResponse) × HostClient :=
  if maxParallelDiscoveryRequests < requests.length then
    (.returned (.error (.protocol "request_batch accepts at most 32 requests")), c)
  else if !allowed then (.returned (.error (.protocol "request_batch accepts read-only Host methods only")), c)
  else if !requests.all fun request => validateRequestId request.1 then
    (.returned (.error (.protocol "request_id must contain 1..128 characters")), c)
  else if ¬(requests.map Prod.fst).Nodup then
    (.returned (.error (.protocol "request_batch does not allow duplicate request ids")), c)
  else operation (exchangeAll requests) c script

end HostClient

inductive ClientOperation where
  | request (sending : Sending)
  | requestWithId (requestId : String) (sending : Sending)
  | batch (requests : List (String × Sending)) (allowed : Bool)
  | requestWithCancel (sending cancelSending : Sending)
  | waitForWindowWithCancel (sending cancelSending : Sending)
  deriving DecidableEq, Repr

inductive ClientReply where
  | single (result : OperationResult ReceivedResponse)
  | batch (result : OperationResult (List ReceivedResponse))
  deriving DecidableEq, Repr

namespace HostClient

/-- An operation with one response. -/
def single (exchange : ClientProg ReceivedResponse) (c : HostClient) (script : List Incoming) : ClientReply × HostClient :=
  let (result, c) := operation exchange c script
  (.single result, c)

def run (c : HostClient) (op : ClientOperation) (script : List Incoming) : ClientReply × HostClient :=
  match op with
  | .request sending => single (exchange sending) c script
  | .requestWithId requestId sending =>
    if !validateRequestId requestId then
      (.single (.returned (.error (.protocol "request_id must contain 1..128 characters"))), c)
    else single (exchangeWithId requestId sending) c script
  | .batch requests allowed =>
    let (result, c) := requestBatchWithIdsAll requests allowed c script
    (.batch result, c)
  | .requestWithCancel sending cancelSending => single (exchangeWithCancel sending cancelSending) c script
  | .waitForWindowWithCancel sending cancelSending => single (exchangeWindowWait sending cancelSending) c script

end HostClient

def clientMachine : Machine HostClient (ClientOperation × List Incoming) ClientReply where
  step c input := c.run input.1 input.2

end DccCua
