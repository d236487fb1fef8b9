import ChainIndex.Proofs.RateLimit.Settling
import Mathlib.Algebra.Order.Floor.Div

/-!
# A burst of callers

Callers that all ask a new limiter for a token before any time has passed get what is in the bucket, and the rest of
them queue. If nobody else asks, what becomes of them is fixed: each tick that comes when it is due gives its tokens to
the next callers in the queue.

**Callers in front of ticks** (`Served`). After `k` ticks as many callers got their token as the bucket held and `k`
ticks may give back, the others are queued, and what is left over is in the bucket, up to its capacity. A tick keeps
that: while callers are left the bucket is empty, so it has room for all that the tick gives back.

**The schedule** (`burst_served`) is read off: caller `i` is served at once, or by the tick at whose number the tokens
given back reach it, at the millisecond at which this tick is due.
-/

namespace ChainIndex.RateLimit

open Relation

namespace Pace

theorem dueAt_eq (p : Pace) (k : Nat) : p.dueAt k = (k * p.period.toNanos) ⌈/⌉ nanosPerMilli := by
  rw [dueAt, Nat.ceilDiv_eq_add_pred_div, Nat.add_sub_assoc (by decide)]

@[simp] theorem dueAt_zero (p : Pace) : p.dueAt 0 = 0 := by
  rw [dueAt, Nat.zero_mul, Nat.zero_add]
  rfl

theorem dueAt_mono (p : Pace) {k l : Nat} (le : k ≤ l) : p.dueAt k ≤ p.dueAt l :=
  Nat.div_le_div_right (Nat.add_le_add_right (Nat.mul_le_mul_right _ le) _)

/-- No two ticks are due at the same millisecond. -/
theorem dueAt_lt {p : Pace} (least : nanosPerMilli ≤ p.period.toNanos) (k : Nat) : p.dueAt k < p.dueAt (k + 1) := by
  have positive : 0 < nanosPerMilli := by decide
  rw [dueAt, dueAt, Nat.add_one_mul, ← Nat.succ_le_iff, ← Nat.add_one, ← Nat.add_div_right _ positive]
  exact Nat.div_le_div_right (by omega)

/-- How many tokens there are for those that ask until some tick, if none is put back in vain. -/
def offered (p : Pace) (ticks : Nat) : Nat := p.capacity + ticks * p.amount

theorem offered_zero (p : Pace) : p.offered 0 = p.capacity := by
  rw [offered, Nat.zero_mul, Nat.add_zero]

theorem offered_succ (p : Pace) (ticks : Nat) : p.offered (ticks + 1) = p.offered ticks + p.amount := by
  rw [offered, offered, Nat.add_one_mul, Nat.add_assoc]

section

variable (capacity : Nat) (window : Duration)

theorem least_period : nanosPerMilli ≤ (Pace.of capacity window).period.toNanos := by
  rw [toNanos_period]
  exact Nat.le_max_right _ _

theorem amount_le : (Pace.of capacity window).amount ≤ (Pace.of capacity window).capacity := by
  have some_ : 1 ≤ max capacity 1 := Nat.le_max_right _ _
  rw [amount_of, tokensPerTick]
  change _ ≤ max capacity 1
  split
  · exact Nat.le_refl _
  · exact Nat.max_le.2 ⟨some_, Nat.min_le_right _ _⟩

end

end Pace

namespace Shared

/-- Callers ask for a token and wait for it, one after another, before any time has passed. -/
def burst (capacity : Nat) (window : Duration) (callers : List Nat) : Shared :=
  callers.foldl (fun s caller => (s.wait caller).2) (new capacity window)

/-- What happens while nobody asks for tokens, the limiter is not closed, and ticks come when they are due. -/
structure Undisturbed (s s' : Shared) : Prop where
  drifts : s.Drifts s'
  running : s'.bucket.closed = false
  /-- No time passes between the two steps of a tick, or beyond the next tick that is due. -/
  prompt : s'.now = s.now ∨ s.seen = none ∧ s'.now ≤ s.limiter.nextDue

/-- What a limiter has come to between two ticks. -/
structure Served (p : Pace) (callers : List Nat) (s : Shared) : Prop extends s.Quiet where
  pace : s.limiter.pace = p
  size : s.bucket.capacity = p.capacity
  granted : s.granted = callers.take (p.offered s.limiter.ticks)
  queue : s.bucket.queue = callers.drop (p.offered s.limiter.ticks)
  available : s.bucket.available = min p.capacity (p.offered s.limiter.ticks - callers.length)
  /-- The last tick was due, and no other was before now. -/
  past : p.dueAt s.limiter.ticks ≤ s.now
  ahead : s.now ≤ p.dueAt (s.limiter.ticks + 1)

variable {p : Pace} {callers : List Nat} {s s' : Shared} {capacity : Nat} {window : Duration}

theorem burst_concat (callers : List Nat) (caller : Nat) :
    burst capacity window (callers ++ [caller]) = ((burst capacity window callers).wait caller).2 := by
  rw [burst, List.foldl_concat, ← burst]

/-- One more caller before the first tick. -/
theorem Served.wait (served : s.Served p callers) (first : s.limiter.ticks = 0) (caller : Nat) :
    (s.wait caller).2.Served p (callers ++ [caller]) := by
  have offered : p.offered s.limiter.ticks = p.capacity := by rw [first, Pace.offered_zero]
  have granted := served.granted
  have queue := served.queue
  have available := served.available
  rw [offered] at granted queue available
  have length : (callers ++ [caller]).length = callers.length + 1 := List.length_append
  rcases Nat.lt_or_ge callers.length p.capacity with room | crowd
  · have granted' : s.granted ++ [caller] = (callers ++ [caller]).take (p.offered s.limiter.ticks) := by
      rw [granted, offered, List.take_of_length_le (by omega), List.take_of_length_le (by omega)]
    have queue' : s.bucket.queue = (callers ++ [caller]).drop (p.offered s.limiter.ticks) := by
      rw [queue, offered, List.drop_of_length_le (by omega), List.drop_of_length_le (by omega)]
    have available' : s.bucket.available - 1 =
        min p.capacity (p.offered s.limiter.ticks - (callers ++ [caller]).length) := by omega
    rw [wait_of_pos (by omega)]
    exact { served with granted := granted', queue := queue', available := available' }
  · have granted' : s.granted = (callers ++ [caller]).take (p.offered s.limiter.ticks) := by
      rw [granted, offered, List.take_append_of_le_length crowd]
    have queue' : s.bucket.queue ++ [caller] = (callers ++ [caller]).drop (p.offered s.limiter.ticks) := by
      rw [queue, offered, List.drop_append_of_le_length crowd]
    have available' : s.bucket.available =
        min p.capacity (p.offered s.limiter.ticks - (callers ++ [caller]).length) := by omega
    rw [wait_of_zero (by omega)]
    exact { served with granted := granted', queue := queue', available := available' }

/-- Of the callers of a burst those in front get what is in the bucket. -/
theorem served_burst (capacity : Nat) (window : Duration) (callers : List Nat) :
    (burst capacity window callers).Served (.of capacity window) callers ∧
      (burst capacity window callers).limiter.ticks = 0 ∧ (burst capacity window callers).now = 0 := by
  induction callers using List.reverseRecOn with
  | nil =>
    have least := Nat.min_eq_left (Nat.le_of_eq (Pace.offered_zero (Pace.of capacity window)).symm)
    exact ⟨⟨⟨rfl, rfl, rfl⟩, rfl, rfl, List.take_nil.symm, List.drop_nil.symm, least.symm,
      Nat.le_of_eq (Pace.dueAt_zero _), Nat.zero_le _⟩, rfl, rfl⟩
  | append_singleton callers caller ih =>
    obtain ⟨served, ticks, now⟩ := ih
    rw [burst_concat]
    refine ⟨served.wait ticks caller, ?_⟩
    generalize burst capacity window callers = s at *
    rcases Nat.eq_zero_or_pos s.bucket.available with empty | filled
    · rw [wait_of_zero empty]
      exact ⟨ticks, now⟩
    · rw [wait_of_pos filled]
      exact ⟨ticks, now⟩

/-- **A tick serves the next callers.** -/
theorem Served.tick (served : s.Served p callers) (amount : p.amount ≤ p.capacity)
    (least : nanosPerMilli ≤ p.period.toNanos) (due : s.limiter.nextDue = s.now) : s.tick.Served p callers := by
  have size := served.size
  have pace := served.pace
  have queue := served.queue
  have available := served.available
  have ticks : s.tick.limiter.ticks = s.limiter.ticks + 1 := rfl
  have owed : s.look.owed = min p.amount (p.capacity - s.bucket.available) := by
    rw [Shared.owed, look, pace, Option.getD_some, Bucket.room, size]
  have left : s.bucket.queue.length = callers.length - p.offered s.limiter.ticks := by rw [queue, List.length_drop]
  -- The bucket has room for all that the tick gives back, or nobody is left to be served.
  have whole : s.look.owed = p.amount ∨ callers.length ≤ p.offered s.limiter.ticks := by omega
  have at_ : p.dueAt (s.limiter.ticks + 1) = s.now := by rw [← due, Limiter.nextDue, pace]
  refine { served.toQuiet.tick with pace, size, granted := ?_, queue := ?_, available := ?_, past := ?_, ahead := ?_ }
  · change s.granted ++ s.bucket.queue.take s.look.owed = _
    rw [ticks, Pace.offered_succ, served.granted, queue]
    rcases whole with all | nobody
    · rw [all, List.take_add]
    · rw [List.drop_of_length_le nobody, List.take_nil, List.append_nil, List.take_of_length_le nobody,
        List.take_of_length_le (Nat.le_add_right_of_le nobody)]
  · change s.bucket.queue.drop s.look.owed = _
    rw [ticks, Pace.offered_succ, queue]
    rcases whole with all | nobody
    · rw [all, List.drop_drop]
    · rw [List.drop_of_length_le nobody, List.drop_nil, List.drop_of_length_le (Nat.le_add_right_of_le nobody)]
  · change s.bucket.available + (s.look.owed - s.bucket.queue.length) = _
    rw [ticks, Pace.offered_succ]
    omega
  · exact Nat.le_of_eq at_
  · change s.now ≤ _
    rw [ticks, ← at_]
    exact Nat.le_of_lt (Pace.dueAt_lt least _)

/-- Between its ticks a limiter with nobody but the callers of a burst is where `Served` says; amid a tick, where the
tick's look leaves it. -/
def Serving (p : Pace) (callers : List Nat) (s : Shared) : Prop :=
  s.Served p callers ∨
    ∃ before : Shared, before.Served p callers ∧ before.limiter.nextDue = before.now ∧ s = before.look

theorem Served.nextDue (served : s.Served p callers) : s.limiter.nextDue = p.dueAt (s.limiter.ticks + 1) := by
  rw [Limiter.nextDue, served.pace]

/-- **Step by step** the limiter is where `Served` says. -/
theorem Serving.step (serving : s.Serving p callers) (amount : p.amount ≤ p.capacity)
    (least : nanosPerMilli ≤ p.period.toNanos) (step : s.Undisturbed s') : s'.Serving p callers := by
  obtain ⟨drifts, running, prompt⟩ := step
  rcases serving with served | ⟨before, served, due, rfl⟩
  · have ahead := served.ahead
    cases drifts with
    | pass ms =>
      have ahead : s.now + ms ≤ p.dueAt (s.limiter.ticks + 1) := by
        rcases prompt with still | ⟨-, early⟩
        · exact Nat.le_trans (Nat.le_of_eq still) ahead
        · exact served.nextDue ▸ early
      exact .inl { served with past := Nat.le_add_right_of_le served.past, ahead }
    | look rested ticking due =>
      exact .inr ⟨s, served, Nat.le_antisymm due (served.nextDue ▸ ahead), rfl⟩
    | putBack looked =>
      rw [served.rested] at looked
      cases looked
    | close => cases running
    | finish closed rested => exact nomatch closed.symm.trans running
  · cases drifts with
    | pass ms =>
      rcases prompt with still | ⟨rested, -⟩
      · obtain rfl : ms = 0 := Nat.add_left_cancel still
        exact .inr ⟨before, served, due, rfl⟩
      · cases rested
    | look rested ticking due => cases rested
    | putBack looked => exact .inl (served.tick amount least due)
    | close => cases running
    | finish closed rested => cases rested

/-- Whatever an undisturbed burst comes to between two ticks is where `Served` says. -/
theorem served_of_undisturbed (run : ReflTransGen Undisturbed (burst capacity window callers) s)
    (rested : s.seen = none) : s.Served (.of capacity window) callers := by
  have serving : s.Serving (.of capacity window) callers := by
    clear rested
    induction run with
    | refl => exact .inl (served_burst capacity window callers).1
    | tail _ step ih => exact ih.step (Pace.amount_le capacity window) (Pace.least_period capacity window) step
  rcases serving with served | ⟨before, -, -, rfl⟩
  · exact served
  · cases rested

/-- Time goes on, and every tick comes when it is due. -/
theorem exists_undisturbed (capacity : Nat) (window : Duration) (callers : List Nat) (ms : Nat) :
    ∃ s, ReflTransGen Undisturbed (burst capacity window callers) s ∧ s.seen = none ∧ s.now = ms ∧
      s.now < s.limiter.nextDue := by
  have least := Pace.least_period capacity window
  have amount := Pace.amount_le capacity window
  induction ms with
  | zero =>
    obtain ⟨served, ticks, now⟩ := served_burst capacity window callers
    refine ⟨_, .refl, served.rested, now, ?_⟩
    rw [served.nextDue, ticks, now]
    exact Nat.lt_of_le_of_lt (Nat.zero_le _) (Pace.dueAt_lt least 0)
  | succ ms ih =>
    obtain ⟨s, run, rested, now, early⟩ := ih
    have served := served_of_undisturbed run rested
    let later : Shared := { s with now := s.now + 1 }
    have passes : s.Undisturbed later := ⟨.pass 1, served.running, .inr ⟨rested, early⟩⟩
    have run := run.tail passes
    rcases Nat.lt_or_eq_of_le (Nat.succ_le_of_lt early) with before | due
    · exact ⟨later, run, rested, congrArg Nat.succ now, before⟩
    · have served : later.Served (.of capacity window) callers := served_of_undisturbed run rested
      have looks : later.Undisturbed later.look :=
        ⟨.look rested served.ticking (Nat.le_of_eq due.symm), served.running, .inl rfl⟩
      have putsBack : later.look.Undisturbed later.tick := ⟨.putBack rfl, served.running, .inl rfl⟩
      have at_ : later.now = (Pace.of capacity window).dueAt later.tick.limiter.ticks := due.trans served.nextDue
      have served := served.tick amount least due.symm
      refine ⟨later.tick, (run.tail looks).tail putsBack, rfl, congrArg Nat.succ now, ?_⟩
      rw [served.nextDue]
      exact Nat.lt_of_le_of_lt (Nat.le_of_eq at_) (Pace.dueAt_lt least _)

/-! ## Who is served when -/

/-- The tick that serves a caller is the one by which the tokens given back reach it. -/
theorem Served.le_granted_iff (served : s.Served p callers) (positive : 0 < p.amount) {i : Nat}
    (among : i ≤ callers.length) :
    i ≤ s.granted.length ↔ i ≤ p.capacity ∨ (i - p.capacity) ⌈/⌉ p.amount ≤ s.limiter.ticks := by
  have reached : (i - p.capacity) ⌈/⌉ p.amount ≤ s.limiter.ticks ↔ i - p.capacity ≤ s.limiter.ticks * p.amount := by
    rw [ceilDiv_le_iff_le_mul positive, Nat.mul_comm]
  rw [served.granted, List.length_take, reached, Pace.offered]
  omega

/-- With no tick overdue, the ticks that passed are those that are due. -/
theorem Served.dueAt_le_now_iff (served : s.Served p callers) (early : s.now < s.limiter.nextDue) {k : Nat} :
    p.dueAt k ≤ s.now ↔ k ≤ s.limiter.ticks := by
  rw [served.nextDue] at early
  constructor
  · intro due
    refine Nat.le_of_not_lt fun more => absurd due (Nat.not_le_of_lt ?_)
    exact Nat.lt_of_lt_of_le early (Pace.dueAt_mono p more)
  · intro passed
    exact Nat.le_trans (Pace.dueAt_mono p passed) served.past

/-- The tokens of a tick that finds nobody queued go into the bucket. -/
theorem Served.tick_available (served : s.Served p callers) (nobody : s.bucket.queue = []) :
    s.tick.bucket.available = min p.capacity (s.bucket.available + p.amount) := by
  have size := served.size
  have room : s.bucket.available ≤ p.capacity := served.available ▸ Nat.min_le_left _ _
  change s.bucket.available + (min s.limiter.pace.amount (s.bucket.capacity - s.bucket.available) -
    s.bucket.queue.length) = _
  rw [nobody, served.pace, size, List.length_nil]
  omega

end Shared

end ChainIndex.RateLimit
