/-!
# Address spaces

Storage replaces addresses by small ids. Accounts and validators get their ids from separate spaces,
and so do the chains: an id means something only together with its space.
-/

namespace ChainIndex

/-- What an address is used for. -/
inductive AddressRole where
  | account | validator
  deriving DecidableEq, Repr

namespace AddressRole

def name : AddressRole → String
  | .account => "account"
  | .validator => "validator"

/-- The table that hands out ids for the role. -/
def table : AddressRole → String
  | .account => "addresses"
  | .validator => "validator_addresses"

end AddressRole

/-- The addresses of one role on one chain. -/
structure AddressSpace where
  chain : String
  role : AddressRole
  deriving DecidableEq, Repr

end ChainIndex
