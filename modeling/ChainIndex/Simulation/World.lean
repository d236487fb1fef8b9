import ChainIndex.Address.Book
import ChainIndex.RateLimit.Limiter
import ChainIndex.Simulation.Attempts
import ChainIndex.Simulation.Node
import ChainIndex.Simulation.Storage

/-!
# A scripted world

A node, storage, address books and a rate limiter on one clock, with events from outside at set times.
The world answers every question that takes no time; how strands sleep and queue is left to those who
run them.
-/

namespace ChainIndex.Simulation

/-- What others do to the world. -/
inductive OutsideEvent where
  | newHead (height : UInt64)
  | stop
  /-- Another writer stores addresses in a space. -/
  | addAddresses (space : String) (addresses : List String)
  /-- A method of storage is to fail, or not, after what is said of it already. -/
  | failLater (method : String) (failure : Option Storage.Error)
  deriving Repr

structure World where
  /-- Milliseconds since the beginning. -/
  now : Nat
  limiter : RateLimit.Limiter
  node : ScriptedNode
  storage : ScriptedStorage
  books : Array AddressBook
  stopped : Bool
  /-- What is still to happen, in order. -/
  events : List (Nat × OutsideEvent)
  /-- The requests so far, the last one first. -/
  requests : List Node.Request

namespace World

def suffer (w : World) : OutsideEvent → World
  | .newHead height => { w with node := { w.node with latest := height } }
  | .stop => { w with stopped := true }
  | .addAddresses space addresses => { w with storage := w.storage.addAddresses space addresses }
  | .failLater method failure => { w with storage := w.storage.failLater method failure }

/-- Lets all ticks pass that are due by now. -/
def settle (w : World) : World := { w with limiter := (w.limiter.settle w.now).2 }

/-- Lets time pass without anyone acting but those outside. -/
def idleUntil (w : World) (ms : Nat) : World :=
  let (past, left) := w.events.partition fun (at_, _) => at_ ≤ ms
  let w := past.foldl (fun w (_, e) => w.suffer e) { w with events := left }
  { w with now := max w.now ms }.settle

/-- Notes a request and gives the milliseconds that it takes. -/
def begin (w : World) (r : Node.Request) : Nat × World :=
  ((w.node.latency[requestKey r]?).getD 0, { w with requests := r :: w.requests })

def finish (w : World) (r : Node.Request) : r.Answer × World :=
  let (answer, node) := w.node.answer r
  (answer, { w with node })

def call (w : World) (c : Storage.Call) : c.Answer × World :=
  let (answer, storage) := w.storage.answer c
  (answer, { w with storage })

def insertAll (w : World) (batches : List Storage.Batch) : Except Storage.Error UInt64 × World :=
  let (answer, storage) := w.storage.insertAll 0 batches
  (answer, { w with storage })

def book (w : World) (ref : BookRef) (step : BookStep) : step.Answer × World :=
  let (answer, book) := (w.books.getD ref.index .empty).step step
  (answer, { w with books := w.books.setIfInBounds ref.index book })

def tryToken (w : World) : Bool × World :=
  let (taken, bucket) := w.limiter.bucket.allow
  (taken, { w with limiter := { w.limiter with bucket } })

/-- Takes a token for a strand or puts the strand into the queue. -/
def token (w : World) (strand : Nat) : Bool × World :=
  let (taken, bucket) := w.limiter.bucket.wait strand
  (taken, { w with limiter := { w.limiter with bucket } })

end World

end ChainIndex.Simulation
