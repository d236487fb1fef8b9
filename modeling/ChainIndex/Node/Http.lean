import ChainIndex.Http.Head
import ChainIndex.Node.Answer
import ChainIndex.Program.Query
import ChainIndex.Text.Charset

/-!
# Asking a node over HTTP

Every request is a numbered call, posted as JSON, and whatever comes back is made into what was asked for
or into an error that names it. An error that the node reports wins over a result in the same answer, but
an answer that is not of the expected shape is worth neither.
-/

namespace ChainIndex.Node

/-! ## Requests -/

def Request.method : Request → String
  | .block _ => "block"
  | .execution _ => "tx"
  | .latest => "status"
  | .health => "health"

def Request.params : Request → List (String × Json)
  | .block height => [("height", .str (toString height.toNat))]
  | .execution hash => [("hash", .str hash)]
  | .latest | .health => []

/-- What is posted for a request. -/
def Request.body (r : Request) (id : Nat) : Json :=
  .obj [("jsonrpc", .str "2.0"), ("id", .int id), ("method", .str r.method), ("params", .obj r.params)]

/-! ## What comes back -/

/-- What comes of posting a request. -/
inductive Exchange where
  /-- No one was there. -/
  | refused
  /-- The other side hung up. -/
  | closed
  | timedOut
  /-- An answer; `body` is absent if it could not be read to its end. -/
  | answered (status : Nat) (charset : Text.Charset) (body : Option (List UInt8))

/-- The value of a shape that a body is read as. -/
def readBody {α : Type} (shape : Json.Shape α) (body : Option (List UInt8)) : Option α := do
  shape Json.maxDepth (← Json.Syntax.parse? (← body))

/-- The result that an answer carries. -/
def resultOf {α : Type} (shape : Json.Shape α) (body : Option (List UInt8)) : Except Fault α :=
  match readBody (reply shape) body with
  | none => .error (.invalidResponse "error decoding response body")
  | some r =>
    match r.refusal, r.result with
    | some refusal, _ => .error (.refused refusal.code.toInt refusal.describe)
    | none, some result => .ok result
    | none, none => .error (.invalidResponse "response has no result")

/-- What is made of an exchange with the server at a URL. -/
def interpret {α : Type} (url : String) (shape : Json.Shape α) : Exchange → Except Fault α
  | .refused => .error (.transport ("connection failed: error sending request for url (" ++ url ++ ")"))
  | .closed => .error (.transport ("request failed: error sending request for url (" ++ url ++ ")"))
  | .timedOut => .error (.transport "request timed out")
  | .answered status charset body =>
    if Http.isSuccess status then
      resultOf shape body
    else
      .error (.transport ("http status " ++ Http.describe status ++ ": " ++ charset.decode (body.getD [])))

/-- The result of a request, or its failure under the name of what was asked for. -/
def Request.ask {α : Type} (r : Request) (url : String) (shape : Json.Shape α) (x : Exchange) : Except Error α :=
  (interpret url shape x).mapError fun fault => ⟨r.target, fault⟩

/-- The answer to a request. -/
def Request.answerOf (url : String) : (r : Request) → Exchange → r.Answer
  | .block height, x => do
    let parts ← (Request.block height).ask url blockParts x
    parts.toBlock height
  | .execution hash, x => do
    let parts ← (Request.execution hash).ask url executionParts x
    parts.toExecution
  | .latest, x => Request.latest.ask url latestHeight x
  | .health, x => do
    let _ ← Request.health.ask url Json.Shape.value x
    .ok ()

end ChainIndex.Node
