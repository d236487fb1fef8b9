import Std.Data.TreeMap
import ChainIndex.Program.Query

/-!
# A node that follows a script

The node knows some blocks and some executed transactions, and the script says how long it takes to
answer, which calls fail, and which heights are answered with another block.
-/

namespace ChainIndex.Simulation

/-- The name under which a script speaks of a request. -/
def requestKey : Node.Request → String
  | .block height => "block:" ++ toString height.toNat
  | .execution hash => "tx:" ++ hash
  | .latest => "latest"
  | .health => "health"

structure ScriptedNode where
  blocks : Std.TreeMap Nat Block
  executions : Std.TreeMap String Execution
  latest : UInt64
  /-- For the next calls of a request, one after another, how they fail if they do. -/
  failing : Std.TreeMap String (List (Option Node.Fault))
  /-- Requests that always fail. -/
  dead : Std.TreeMap String Node.Fault
  /-- The milliseconds that a request takes. -/
  latency : Std.TreeMap String Nat
  /-- The heights of the blocks that stand in for others. -/
  standIns : Std.TreeMap Nat Nat

namespace ScriptedNode

def notFound (text : String) : Node.Fault := .refused (-32603) text

/-- What the node knows. -/
def lookup (n : ScriptedNode) : (r : Node.Request) → Except Node.Fault r.Payload
  | .block height =>
    if n.latest < height then
      .error (notFound "height not available")
    else
      match n.blocks[(n.standIns[height.toNat]?).getD height.toNat]? with
      | some b => .ok b
      | none => .error (notFound "block not found")
  | .execution hash =>
    match n.executions[hash]? with
    | some e => .ok e
    | none => .error (notFound "tx not found")
  | .latest => .ok n.latest
  | .health => .ok ()

/-- Answers a request. -/
def answer (n : ScriptedNode) (r : Node.Request) : r.Answer × ScriptedNode :=
  let key := requestKey r
  let fail (fault : Node.Fault) : r.Answer := .error ⟨r.target, fault⟩
  match n.dead[key]? with
  | some fault => (fail fault, n)
  | none =>
    let (next, n) :=
      match n.failing[key]? with
      | some (next :: later) => (next, { n with failing := n.failing.insert key later })
      | _ => (none, n)
    match next with
    | some fault => (fail fault, n)
    | none =>
      match n.lookup r with
      | .ok payload => (.ok payload, n)
      | .error fault => (fail fault, n)

end ScriptedNode

end ChainIndex.Simulation
