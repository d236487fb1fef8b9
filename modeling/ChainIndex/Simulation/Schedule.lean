import ChainIndex.Program.Plan
import ChainIndex.Simulation.World

/-!
# Running plans on a clock

Strands that run side by side start in order, and each goes on until it has to wait: for a time, for
the node, or for a token. When all of them wait, the clock moves to the next time at which one can go
on, and those that can go on do so in the order in which they began to wait. Strands that wait for a
time go before ticks of the rate limiter that are due at that time.
-/

namespace ChainIndex.Simulation

variable {α β : Type}

/-- How a strand goes on when it may. -/
abbrev Resume (β : Type) := World → Strand β × World

/-- A strand that waits for a time. -/
structure Sleeper (β : Type) where
  place : Nat
  due : Nat
  /-- Whether it goes on as soon as the run is told to stop. -/
  untilStop : Bool
  resume : Resume β

/-- Strands side by side, each with its place. -/
structure Strands (β : Type) where
  world : World
  /-- Those that can go on, the next one first. -/
  ready : List (Nat × Resume β)
  /-- Those that wait for a time, by time and then by arrival. -/
  asleep : List (Sleeper β)
  /-- Those that wait for a token. -/
  queued : List (Nat × Resume β)
  /-- What the others gave, the last one first. -/
  finished : List (Nat × β)

namespace Strands

def start (world : World) (strands : List (Strand β)) : Strands β :=
  ⟨world, strands.zipIdx.map fun (s, place) => (place, (s, ·)), [], [], []⟩

/-- Puts a sleeper behind all that are due no later. -/
def insertSleeper (s : Sleeper β) : List (Sleeper β) → List (Sleeper β)
  | [] => [s]
  | t :: rest => if t.due ≤ s.due then t :: insertSleeper s rest else s :: t :: rest

/-- Lets a strand go on before all others. -/
def goOn (r : Strands β) (place : Nat) (resume : Resume β) : Strands β :=
  { r with ready := (place, resume) :: r.ready }

/-- Puts the answer to a strand's question to the strand. -/
def put (r : Strands β) (place : Nat) (s : Strand β) (world : World) : Strands β :=
  { r with world }.goOn place (s, ·)

/-- Lets a strand wait for some milliseconds. -/
def sleepFor (r : Strands β) (place ms : Nat) (untilStop : Bool) (resume : Resume β) : Strands β :=
  if ms = 0 ∨ (untilStop ∧ r.world.stopped) then
    r.goOn place resume
  else
    { r with asleep := insertSleeper ⟨place, r.world.now + ms, untilStop, resume⟩ r.asleep }

/-- Lets a strand ask its next question. -/
def step (r : Strands β) (place : Nat) : Strand β → Strands β
  | .done b => { r with finished := (place, b) :: r.finished }
  | .ask (.request q) next =>
    let (ms, world) := r.world.begin q
    { r with world }.sleepFor place ms false fun w =>
      let (answer, w) := w.finish q
      (next answer, w)
  | .ask (.call c) next =>
    let (answer, world) := r.world.call c
    r.put place (next answer) world
  | .ask (.insertAll batches) next =>
    let (answer, world) := r.world.insertAll batches
    r.put place (next answer) world
  | .ask (.book ref b) next =>
    let (answer, world) := r.world.book ref b
    r.put place (next answer) world
  | .ask .token next =>
    match r.world.token place with
    | (true, world) => r.put place (next ()) world
    | (false, world) => { r with world, queued := r.queued ++ [(place, (next (), ·))] }
  | .ask .tryToken next =>
    let (taken, world) := r.world.tryToken
    r.put place (next taken) world
  | .ask (.sleep d) next => r.sleepFor place (sleepMillis d) false fun w => (next (), w)
  | .ask (.pause d) next => r.sleepFor place (sleepMillis d) true fun w => (next (), w)
  | .ask .stopped next => r.put place (next r.world.stopped) r.world

/-- Lets sleepers go on after all that can. -/
def wake (r : Strands β) (sleepers : List (Sleeper β)) : Strands β :=
  { r with ready := r.ready ++ sleepers.map fun s => (s.place, s.resume) }

/-- Moves the clock to the next time for which a sleeper waits. -/
def wakeAt (r : Strands β) (ms : Nat) : Strands β :=
  let (woken, asleep) := r.asleep.span (·.due ≤ ms)
  let limiter := if ms = 0 then r.world.limiter else (r.world.limiter.settle (ms - 1)).2
  { r with world := { r.world with now := ms, limiter }, asleep }.wake woken

/-- Moves the clock to the next tick and lets those go on that it gives a token. -/
def tickAt (r : Strands β) (ms : Nat) : Strands β :=
  let (served, limiter) := r.world.limiter.tick
  let now := max ms r.world.now
  let woken := served.filterMap fun place => (r.queued.lookup place).map (place, ·)
  { r with
    world := { r.world with now, limiter }
    ready := r.ready ++ woken
    queued := r.queued.filter fun (place, _) => !served.contains place }

/-- Lets the next event from outside happen. -/
def eventAt (r : Strands β) (ms : Nat) (e : OutsideEvent) (left : List (Nat × OutsideEvent)) : Strands β :=
  let now := max ms r.world.now
  let limiter := if r.queued.isEmpty then (r.world.limiter.settle now).2 else r.world.limiter
  let world := { r.world with now, limiter, events := left }.suffer e
  if world.stopped then
    let (woken, asleep) := r.asleep.partition (·.untilStop)
    { r with world, asleep }.wake woken
  else
    { r with world }

/-- Moves the clock to a time for which a sleeper waits or at which a tick is due. -/
def timerAt (r : Strands β) (ms : Nat) : Strands β :=
  if r.asleep.head?.map (·.due) = some ms then r.wakeAt ms else r.tickAt ms

/-- The next time for which a sleeper waits or at which a tick serves someone. -/
def nextTimer (r : Strands β) : Option Nat :=
  let tick := if r.queued.isEmpty ∨ r.world.limiter.bucket.closed then none else some r.world.limiter.nextDue
  match r.asleep.head?.map (·.due), tick with
  | some a, some b => some (min a b)
  | some a, none => some a
  | none, b => b

/-- Lets the next thing happen; nothing if there is nothing left. -/
def next? (r : Strands β) : Option (Strands β) :=
  match r.ready with
  | (place, resume) :: ready =>
    let (s, world) := resume r.world
    some ({ r with world, ready }.step place s)
  | [] =>
    if r.asleep.isEmpty ∧ r.queued.isEmpty then
      none
    else
      match r.world.events, r.nextTimer with
      | (ms, e) :: left, some timer => some (if ms < timer then r.eventAt ms e left else r.timerAt timer)
      | (ms, e) :: left, none => some (r.eventAt ms e left)
      | [], some timer => some (r.timerAt timer)
      | [], none => none

/-- Runs strands until all are done, for `fuel` steps at most. -/
def finish : (fuel : Nat) → Strands β → Strands β
  | 0, r => r
  | fuel + 1, r =>
    match r.next? with
    | none => r
    | some r => finish fuel r

end Strands

/-- More steps than any script takes. -/
def stepLimit : Nat := 1000000000000

/-- Runs a plan in a world. Gives nothing if it does not come to an end. -/
def runPlan : Plan α → World → Option α × World
  | .done a, w => (some a, w)
  | .run strand next, w =>
    let r := (Strands.start w [strand]).finish stepLimit
    match r.finished with
    | (_, b) :: _ => runPlan (next b) r.world
    | [] => (none, r.world)
  | .fork strands next, w =>
    let r := (Strands.start w strands).finish stepLimit
    runPlan (next r.finished.reverse) r.world

/-- Runs one strand in a world. -/
def runStrand (s : Strand α) (w : World) : Option α × World := runPlan (Plan.alone s) w

end ChainIndex.Simulation
