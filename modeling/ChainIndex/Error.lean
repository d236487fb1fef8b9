import ChainIndex.Address.Role
import ChainIndex.Envelope.Address
import ChainIndex.Node.Error
import ChainIndex.Storage.Error

/-!
# Failures of the indexer

A failure of a part is passed on whole, so its message says what the part was doing. A request that
was not sent for want of a token is told apart from one that went wrong on its way.
-/

namespace ChainIndex

inductive IndexError where
  | transport (e : Node.Error)
  | decode (e : DecodeError)
  /-- An input that no run can make sense of. -/
  | validation (text : String)
  | persistence (e : Storage.Error)
  | rateLimitExhausted (target : Node.Target)
  /-- A row needs an address that has no id. -/
  | unresolvedAddress (role : AddressRole) (address : String)
  | config (text : String)
  | setup (text : String)
  | other (text : String)
  deriving DecidableEq, Repr

namespace IndexError

def ofNode (e : Node.Error) : IndexError :=
  match e.fault with
  | .rateLimitExhausted => .rateLimitExhausted e.target
  | _ => .transport e

/-- A short label of the kind of failure. -/
def kind : IndexError → String
  | .transport _ => "transport"
  | .decode _ => "decode"
  | .validation _ => "validation"
  | .persistence _ => "persistence"
  | .rateLimitExhausted _ => "rate_limit_exhausted"
  | .unresolvedAddress .. => "unresolved_address"
  | .config _ => "config"
  | .setup _ => "setup"
  | .other _ => "other"

def message : IndexError → String
  | .transport e => "Transport error: " ++ e.message
  | .decode e => "Decode error: " ++ e.message
  | .validation text => "Validation error: " ++ text
  | .persistence e => "Persistence error: " ++ e.message
  | .rateLimitExhausted target => "Rate limit exhausted for " ++ target.name
  | .unresolvedAddress role address => "Unresolved " ++ role.name ++ " address: " ++ address
  | .config text => "Configuration error: " ++ text
  | .setup text => "Setup Command Error: " ++ text
  | .other text => "Indexer Error: " ++ text

end IndexError

end ChainIndex
