import Mathlib.Data.Nat.Notation
import Mathlib.Logic.Function.Basic
import CoreApi.Foundation.Json
import CoreApi.Foundation.TransitionSystem

/-!
# The idempotency interceptor

Requests that carry an `X-Idempotency-Key` header claim a row under that key
before their handler runs, store the handler's response in it, and delete it
when the handler throws. The lookup, the claim, the handler, the storing and the
deleting are awaited one by one, so the requests in flight interleave between
any two of them, and each database call may fail. A call that is reported as
failed may still take effect later.
-/

namespace CoreApi.Http

def mutationMethods : List String := ["POST", "PATCH", "PUT", "DELETE"]

/-- `TTL_MS`, a day. -/
def ttlMs : ℕ := 24 * 60 * 60 * 1000

/-- A request as it reaches the interceptor, with the caller the guards established. The request
line it was parsed from is one line. -/
structure Request where
  method : String
  url : String
  url_line : '\n' ∉ url.toList
  body : Option JsValue
  idempotencyKey : Option String
  userId : String
  orgId : Option String

/-- The text that is hashed to tell one request from another. -/
def fingerprint (method url : String) (body : Option JsValue) : String :=
  method ++ " " ++ url ++ "\n" ++ (body.getD .null).stringify

def hashRequest (sha256 : String → String) (method url : String) (body : Option JsValue) : String :=
  sha256 (fingerprint method url body)

/-- The key that guards a request: none if it has no key or an empty one, or is no mutation. -/
def Request.guardedKey (request : Request) : Option String :=
  match request.idempotencyKey with
  | none => none
  | some key => if key = "" ∨ request.method ∉ mutationMethods then none else some key

/-- What a handler answered, `none` for `undefined`, and which request's handler it was. The
latter is for the proofs alone: no step reads it. -/
structure Response where
  body : Option Json
  producer : ℕ

/-- `undefined` leaves the column as it was, and `null` is not accepted for it. -/
def Response.storable (response : Response) : Bool :=
  match response.body with
  | none | some .null => false
  | some _ => true

/-- A row of `idempotency_records`, under its key. -/
structure IdempotencyRecord where
  requestHash : String
  response : Option Response
  expiresAt : ℕ

/-- The row after its response was stored. -/
def IdempotencyRecord.update (record : IdempotencyRecord) (response : Response) :
    IdempotencyRecord :=
  if response.storable then { record with response := some response } else record

/-- What a request is answered with instead of a response. -/
inductive Exception where
  | unprocessableEntity (message : String)
  | conflict (message : String)
  | thrown (error : String)

/-- The key is there under another hash. -/
def differentRequest : Exception :=
  .unprocessableEntity "This idempotency key was already used for a different request"

/-- The key is claimed, and there is no response yet. -/
def alreadyInProgress : Exception :=
  .conflict "A request with this idempotency key is already in progress"

/-- Where a request stands. In `straying` and `stuck` the error is already delivered, but the
`create` or the `delete` that was reported as failed may still take effect. -/
inductive Phase where
  | arrived
  | passing
  | passed (response : Response)
  | creating
  | straying (error : String)
  | running
  | persisting (response : Response)
  | persisted (response : Response)
  | cleaning (error : String)
  | stuck (error : String)
  | replayed (response : Response)
  | rejected (exception : Exception)

namespace Phase

/-- The phases between the claim of a key and the end of the request's own changes to it. -/
def busy : Phase → Bool
  | running | persisting _ | cleaning _ | stuck _ => true
  | _ => false

/-- The response of the request's own handler. -/
def handled : Phase → Option Response
  | passed response | persisting response | persisted response => some response
  | _ => none

/-- The response the caller has received. -/
def delivered : Phase → Option Response
  | passed response | persisting response | persisted response | replayed response => some response
  | _ => none

end Phase

/-- What follows once `findUnique` has answered. -/
def afterFindUnique (requestHash : String) : Option IdempotencyRecord → Phase
  | some existing =>
      if existing.requestHash ≠ requestHash then .rejected differentRequest
      else match existing.response with
        | some response => .replayed response
        | none => .rejected alreadyInProgress
  | none => .creating

/-- The awaited operation that ends in a step, or `failure` if a call is reported as failed. -/
inductive Operation where
  | findUnique
  | create
  | handle
  | update
  | delete
  | failure

/-- One step of a guarded request, on itself and on the row under its key: the only row that any
of its calls names. -/
inductive Act (requestHash : String) (request : ℕ) : Operation →
    Phase → Option IdempotencyRecord → Phase → Option IdempotencyRecord → Prop where
  | found {row : Option IdempotencyRecord} :
      Act requestHash request .findUnique .arrived row (afterFindUnique requestHash row) row
  | findFailed {row : Option IdempotencyRecord} {error : String} :
      Act requestHash request .failure .arrived row (.rejected (.thrown error)) row
  | created {now : ℕ} :
      Act requestHash request .create .creating none .running
        (some ⟨requestHash, none, now + ttlMs⟩)
  | duplicate {existing : IdempotencyRecord} :
      Act requestHash request .create .creating (some existing) (.rejected alreadyInProgress)
        (some existing)
  | createFailed {row : Option IdempotencyRecord} {error : String} :
      Act requestHash request .failure .creating row (.straying error) row
  | createdLate {now : ℕ} {error : String} :
      Act requestHash request .create (.straying error) none (.rejected (.thrown error))
        (some ⟨requestHash, none, now + ttlMs⟩)
  | handled {row : Option IdempotencyRecord} {body : Option Json} :
      Act requestHash request .handle .running row (.persisting ⟨body, request⟩) row
  | threw {row : Option IdempotencyRecord} {error : String} :
      Act requestHash request .handle .running row (.cleaning error) row
  | updated {row : Option IdempotencyRecord} {response : Response} :
      Act requestHash request .update (.persisting response) row (.persisted response)
        (row.map fun record => record.update response)
  | deleted {row : Option IdempotencyRecord} {error : String} :
      Act requestHash request .delete (.cleaning error) row (.rejected (.thrown error)) none
  | deleteFailed {row : Option IdempotencyRecord} {error : String} :
      Act requestHash request .failure (.cleaning error) row (.stuck error) row
  | deletedLate {row : Option IdempotencyRecord} {error : String} :
      Act requestHash request .delete (.stuck error) row (.rejected (.thrown error)) none

/-- One step of a request without a key: its handler runs as if nobody intercepted it. -/
inductive Pass (request : ℕ) : Phase → Phase → Prop where
  | handle : Pass request .arrived .passing
  | answered {body : Option Json} : Pass request .passing (.passed ⟨body, request⟩)
  | threw {error : String} : Pass request .passing (.rejected (.thrown error))

/-- The rows under their keys, and where every request stands. -/
structure InterceptorState where
  records : String → Option IdempotencyRecord
  phase : ℕ → Phase

/-- What one request leaves: its own phase, and the row under a key. -/
def InterceptorState.put (state : InterceptorState) (request : ℕ) (phase : Phase) (key : String)
    (row : Option IdempotencyRecord) : InterceptorState where
  records := Function.update state.records key row
  phase := Function.update state.phase request phase

/-- `deleteMany` over the rows that have expired. -/
def purgeExpired (now : ℕ) (records : String → Option IdempotencyRecord) (key : String) :
    Option IdempotencyRecord :=
  (records key).filter fun record => ¬ record.expiresAt < now

/-- Who moves: a request with a key, a request without one, or the cleanup. -/
inductive InterceptorLabel where
  | call (request : ℕ) (operation : Operation)
  | pass (request : ℕ)
  | purge (now : ℕ)

variable (sha256 : String → String) (requests : ℕ → Request)

/-- What is compared with the stored hash. -/
def Request.hash (request : Request) : String :=
  hashRequest sha256 request.method request.url request.body

/-- A request with a key acts on its own row, one without a key passes, and the cleanup deletes
expired rows. -/
inductive InterceptorStep : InterceptorState → InterceptorLabel → InterceptorState → Prop where
  | call {state : InterceptorState} {request : ℕ} {operation : Operation} {key : String}
      {phase : Phase} {row : Option IdempotencyRecord}
      (guarded : (requests request).guardedKey = some key)
      (act : Act ((requests request).hash sha256) request operation
        (state.phase request) (state.records key) phase row) :
      InterceptorStep state (.call request operation) (state.put request phase key row)
  | pass {state : InterceptorState} {request : ℕ} {phase : Phase}
      (unguarded : (requests request).guardedKey = none)
      (act : Pass request (state.phase request) phase) :
      InterceptorStep state (.pass request)
        { state with phase := Function.update state.phase request phase }
  | purge {state : InterceptorState} {now : ℕ} :
      InterceptorStep state (.purge now)
        { state with records := purgeExpired now state.records }

/-- Any number of requests, one interceptor each, and the cleanup job. -/
def interceptor : TransitionSystem InterceptorState InterceptorLabel where
  Initial state := (∀ key, state.records key = none) ∧ ∀ request, state.phase request = .arrived
  Step := InterceptorStep sha256 requests

end CoreApi.Http
