import ChainIndex.Bytes.Hex
import ChainIndex.Http.Head
import ChainIndex.Node.Http
import ChainIndex.Simulation.ChainForm
import ChainIndex.Url.Basic

/-!
# A scripted server

A server that has a response ready for every request, whatever is asked: the first response for the first
request, and so on. It may also hang up, keep silent, or break off in the middle of a body. When it has
no response left it hangs up.
-/

namespace ChainIndex.Simulation

open Node

/-- How a server treats a request. -/
inductive Manner where
  | answers | hangsUp | keepsSilent | breaksOff
  deriving DecidableEq, Repr

def Manner.ofName : String → Manner
  | "close" => .hangsUp
  | "hang" => .keepsSilent
  | "truncate" => .breaksOff
  | _ => .answers

structure Response where
  manner : Manner
  status : Nat
  contentType : String
  body : List UInt8

def Response.ofJson (j : Json) : Response where
  manner := .ofName (j.field "mode").text
  status := if j.has "status" then (j.field "status").nat else 200
  contentType := if j.has "content_type" then (j.field "content_type").text else "application/json"
  body :=
    if j.has "body_hex" then (Hex.decode? (j.field "body_hex").text).getD []
    else (j.field "body").text.toUTF8.toList

/-- What one who asks gets to see of a response. -/
def Response.exchange (r : Response) : Exchange :=
  let seen (body : Option (List UInt8)) : Exchange :=
    .answered r.status (Http.charset r.contentType) (if Http.hasBody r.status then body else some [])
  match r.manner with
  | .answers => seen (some r.body)
  | .hangsUp => .closed
  | .keepsSilent => .timedOut
  | .breaksOff => seen none

/-- Where a server is, and what it has to say; nothing if it is not there. -/
structure Server where
  url : String
  path : String
  responses : Option (List Response)

def Server.ofJson (j : Json) : Server :=
  let path := if j.has "path" then (j.field "path").text else "/"
  let url := "http://node"
  let whole :=
    match Url.parse (url ++ path) with
    | .ok u => u.toString
    | .error _ => url ++ path
  { url := whole
    path := (whole.drop url.length).toString
    responses := if (j.field "unreachable").flag then none else some ((j.field "responses").items.map .ofJson) }

/-- What comes of the request of a number, counted from one. -/
def Server.exchange (s : Server) (id : Nat) : Exchange :=
  match s.responses with
  | none => .refused
  | some responses =>
    match responses[id - 1]? with
    | some r => r.exchange
    | none => .closed

/-- What a server sees of a request. -/
def Server.sight (s : Server) (r : Request) (id : Nat) : Json :=
  .object
    [("line", .str ("POST " ++ s.path ++ " HTTP/1.1")), ("content_type", .str "application/json"),
      ("accept", .str "application/json"), ("body", .str (r.body id).render)]

/-- What a server sees of requests made one after another. -/
def Server.sights (s : Server) (requests : List Request) : List Json :=
  if s.responses.isSome then requests.mapIdx fun i r => s.sight r (i + 1) else []

end ChainIndex.Simulation
