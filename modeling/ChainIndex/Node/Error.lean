/-!
# Failures of a node

Every failure names what was asked for. Only a request that was not answered, or not sent for want of
a token, is worth repeating: an answer of the node would come out the same.
-/

namespace ChainIndex.Node

/-- What is asked of a node. -/
inductive Target where
  | height (h : UInt64)
  | hash (h : String)
  | latest
  | health
  deriving DecidableEq, Repr

def Target.name : Target → String
  | .height h => "block #" ++ toString h.toNat
  | .hash h => "tx " ++ h
  | .latest => "latest height"
  | .health => "health"

/-- Why a request failed. -/
inductive Fault where
  /-- The request was not answered, or with a status that says so. -/
  | transport (text : String)
  /-- The node answered with an error of its own. -/
  | refused (code : Int) (text : String)
  /-- The answer is not what was asked for. -/
  | invalidResponse (text : String)
  /-- The request was not sent, because there was no token. -/
  | rateLimitExhausted
  deriving DecidableEq, Repr

structure Error where
  target : Target
  fault : Fault
  deriving DecidableEq, Repr

namespace Error

def retryable (e : Error) : Bool :=
  match e.fault with
  | .transport _ | .rateLimitExhausted => true
  | .refused .. | .invalidResponse _ => false

/-- A short label of the kind of failure. -/
def kind (e : Error) : String :=
  match e.fault with
  | .transport _ => "transport"
  | .refused .. => "node"
  | .invalidResponse _ => "invalid_response"
  | .rateLimitExhausted => "rate_limit_exhausted"

def message (e : Error) : String :=
  let target := e.target.name
  match e.fault with
  | .transport text => "Request for " ++ target ++ " failed: " ++ text
  | .refused code text => "Node returned error " ++ toString code ++ " for " ++ target ++ ": " ++ text
  | .invalidResponse text => "Unexpected response for " ++ target ++ ": " ++ text
  | .rateLimitExhausted => "Rate limit exhausted for " ++ target

end Error

end ChainIndex.Node
