import ChainIndex.Proofs.RateLimit.Burst

/-!
# How slow a limiter may be

A window of a millisecond or more is no shorter than the period that it is cut into, so what a tick owes is no more
than the bucket holds and nothing of it is cut off. What a tick gives back is rounded up, and with that the ticks of a
limiter never fall behind its capacity per window (`Pace.capacity_mul_period_le`).

The bucket keeps a tick from giving back all that only if tokens lie in it. **If every token is taken as soon as it is
there** (`Drained`), each tick gives back its full amount (`Spent.step`). So at any time at which no tick is overdue
the limiter has granted at least its capacity's share of the windows that have passed (`keeps_up`).
-/

namespace ChainIndex.RateLimit

open Relation

/-- Numbers of a hundred and twenty-eight bits lie below this one. -/
def doubleWord : Nat := UInt64.size * UInt64.size

namespace Pace

section

variable (capacity : Nat) {window : Duration}

theorem period_le (least : nanosPerMilli ≤ window.toNanos) :
    (Pace.of capacity window).period.toNanos ≤ window.toNanos := by
  rw [toNanos_period]
  exact Nat.max_le.2 ⟨Nat.div_le_self _ _, least⟩

/-- What the capacity owes for a period is counted in two words. Up to `mostParts` tokens share the window among
them; above that the period is as short as it can be. -/
theorem capacity_mul_period_lt (window : Duration) (word : capacity < UInt64.size) :
    max capacity 1 * (Pace.of capacity window).period.toNanos < doubleWord := by
  have longest := window.toNanos_lt
  have size : max capacity 1 < UInt64.size := Nat.max_lt.2 ⟨word, by decide⟩
  rw [toNanos_period, ← Nat.mul_max_mul_left, Nat.max_lt]
  constructor
  · rcases Nat.le_total (max capacity 1) mostParts with few | many
    · have shared : max capacity 1 * (window.toNanos / parts capacity) ≤ window.toNanos := by
        rw [parts, Nat.min_eq_left few]
        exact Nat.mul_div_le _ _
      exact Nat.lt_of_le_of_lt shared (Nat.lt_trans longest (by decide))
    · have short : window.toNanos / parts capacity ≤ UInt64.size * nanosPerSecond / mostParts := by
        rw [parts, Nat.min_eq_right many]
        exact Nat.div_le_div_right (Nat.le_of_lt longest)
      exact Nat.lt_of_le_of_lt (Nat.mul_le_mul (Nat.le_of_lt size) short) (by decide)
  · have most : max capacity 1 * nanosPerMilli < UInt64.size * nanosPerMilli :=
      Nat.mul_lt_mul_of_pos_right size (by decide)
    exact Nat.lt_trans most (by decide)

/-- **A window gives the capacity at least.** -/
theorem capacity_mul_period_le (least : nanosPerMilli ≤ window.toNanos) :
    max capacity 1 * (Pace.of capacity window).period.toNanos ≤
      (Pace.of capacity window).amount * window.toNanos := by
  have within := period_le capacity least
  have positive : 0 < window.toNanos := Nat.lt_of_lt_of_le (by decide) least
  rw [amount_of]
  generalize (Pace.of capacity window).period = period at within ⊢
  generalize max capacity 1 = most
  rw [tokensPerTick, if_neg (Nat.ne_of_gt positive)]
  generalize owed_eq : (most * period.toNanos + (window.toNanos - 1)) / window.toNanos = owed
  have rounded : owed = (most * period.toNanos) ⌈/⌉ window.toNanos := by
    rw [← owed_eq, Nat.ceilDiv_eq_add_pred_div, Nat.add_sub_assoc positive]
  have covers : most * period.toNanos ≤ owed * window.toNanos := by
    rw [Nat.mul_comm owed]
    exact (ceilDiv_le_iff_le_mul positive).1 (Nat.le_of_eq rounded.symm)
  -- A tick owes no more than the bucket holds, because it comes within a window.
  have held : owed ≤ most := by
    rw [rounded, ceilDiv_le_iff_le_mul positive, Nat.mul_comm window.toNanos]
    exact Nat.mul_le_mul_left _ within
  have kept : owed ≤ max 1 (min owed most) := by omega
  exact Nat.le_trans covers (Nat.mul_le_mul_right _ kept)

end

/-- Some ticks give back their share of the windows that pass while they come. -/
theorem share_le {p : Pace} {window : Duration} (rate : p.capacity * p.period.toNanos ≤ p.amount * window.toNanos)
    (k : Nat) : p.capacity * (k * p.period.toNanos) ≤ k * p.amount * window.toNanos := by
  rw [Nat.mul_left_comm, Nat.mul_assoc]
  exact Nat.mul_le_mul_left k rate

/-- A tick that is not due by a millisecond is beyond it. -/
theorem lt_of_lt_dueAt {p : Pace} {k ms : Nat} (early : ms < p.dueAt k) :
    ms * nanosPerMilli < k * p.period.toNanos := by
  have least : 0 < nanosPerMilli := by decide
  rw [dueAt_eq] at early
  refine Nat.lt_of_not_le fun passed => Nat.not_le_of_lt early ?_
  rw [ceilDiv_le_iff_le_mul least, Nat.mul_comm nanosPerMilli]
  exact passed

/-- Until the next tick is due, a full bucket's worth of tokens makes up for the time since the last. -/
theorem share_of_lt_dueAt {p : Pace} {window : Duration} {k ms : Nat}
    (rate : p.capacity * p.period.toNanos ≤ p.amount * window.toNanos) (within : p.period.toNanos ≤ window.toNanos)
    (early : ms < p.dueAt (k + 1)) : p.capacity * (ms * nanosPerMilli) ≤ p.offered k * window.toNanos := by
  have passed : ms * nanosPerMilli ≤ (k + 1) * p.period.toNanos := Nat.le_of_lt (lt_of_lt_dueAt early)
  calc p.capacity * (ms * nanosPerMilli)
      ≤ p.capacity * ((k + 1) * p.period.toNanos) := Nat.mul_le_mul_left _ passed
    _ = p.capacity * p.period.toNanos + p.capacity * (k * p.period.toNanos) := by
      rw [Nat.add_one_mul, Nat.mul_add, Nat.add_comm]
    _ ≤ p.capacity * window.toNanos + k * p.amount * window.toNanos :=
      Nat.add_le_add (Nat.mul_le_mul_left _ within) (share_le rate k)
    _ = p.offered k * window.toNanos := by rw [offered, Nat.add_mul]

end Pace

namespace Shared

/-- What happens while every token is taken as soon as it is there: callers may ask at any time, and the limiter goes
on as it does undisturbed, but only when its bucket is empty. -/
inductive Drained (s : Shared) : Shared → Prop
  | allow (caller : Nat) : Drained s (s.allow caller).2
  | wait (caller : Nat) : Drained s (s.wait caller).2
  | drift {s' : Shared} (taken : s.bucket.available = 0) (undisturbed : s.Undisturbed s') : Drained s s'

variable {p : Pace} {s s' : Shared} {capacity : Nat} {window : Duration}

theorem Drained.toStep (step : s.Drained s') : s.Step s' := by
  cases step with
  | allow caller => exact .allow caller
  | wait caller => exact .wait caller
  | drift taken undisturbed => exact .drift undisturbed.drifts

/-- No tick has kept back anything, and the one that is under way will not. -/
structure Spent (p : Pace) (s : Shared) : Prop extends s.Sound p where
  spent : s.returned + s.owed = s.limiter.ticks * p.amount

theorem spent_new (capacity : Nat) (window : Duration) : (new capacity window).Spent (.of capacity window) where
  toSound := sound_new capacity window
  spent := by simp [new, Limiter.new, owed]

/-- An empty bucket has room for all that a tick gives back. -/
theorem Spent.look (spent : s.Spent p) (amount : p.amount ≤ p.capacity) (taken : s.bucket.available = 0)
    (rested : s.seen = none) : s.look.returned + s.look.owed = s.look.limiter.ticks * p.amount := by
  have before := spent.spent
  rw [owed_rested rested, Nat.add_zero] at before
  have owed : s.look.owed = p.amount := by
    rw [Shared.owed, Shared.look, spent.pace, Option.getD_some, Bucket.room, spent.capacity, taken, Nat.sub_zero,
      Nat.min_eq_left amount]
  rw [owed]
  change s.returned + p.amount = (s.limiter.ticks + 1) * p.amount
  rw [before, Nat.add_one_mul]

/-- **Every tick gives back its full amount.** -/
theorem Spent.step (spent : s.Spent p) (amount : p.amount ≤ p.capacity) (positive : 0 < p.period.toNanos)
    (step : s.Drained s') : s'.Spent p := by
  refine { toSound := spent.toSound.step positive step.toStep, spent := ?_ }
  have before := spent.spent
  cases step with
  | allow caller =>
    rcases Nat.eq_zero_or_pos s.bucket.available with empty | filled
    · rw [allow_of_zero empty]
      exact before
    · rw [allow_of_pos filled]
      exact before
  | wait caller =>
    rcases Nat.eq_zero_or_pos s.bucket.available with empty | filled
    · rw [wait_of_zero empty]
      exact before
    · rw [wait_of_pos filled]
      exact before
  | drift taken undisturbed =>
    obtain ⟨drifts, running, -⟩ := undisturbed
    cases drifts with
    | pass ms => exact before
    | look rested ticking due => exact spent.look amount taken rested
    | putBack looked =>
      rw [owed_putBack, Nat.add_zero]
      exact before
    | close => cases running
    | finish closed rested => exact before

theorem spent_of_drained (run : ReflTransGen Drained (new capacity window) s) : s.Spent (.of capacity window) := by
  induction run with
  | refl => exact spent_new capacity window
  | tail _ step ih => exact ih.step (Pace.amount_le capacity window) (Pace.period_pos capacity window) step

/-! ## Such runs -/

/-- Callers take what is in the bucket. -/
theorem exists_taken (s : Shared) :
    ∃ s', ReflTransGen Drained s s' ∧ s'.bucket.available = 0 ∧ s'.seen = s.seen ∧ s'.now = s.now ∧
      s'.limiter.nextDue = s.limiter.nextDue ∧ s'.bucket.closed = s.bucket.closed := by
  induction filled : s.bucket.available generalizing s with
  | zero => exact ⟨s, .refl, filled, rfl, rfl, rfl, rfl⟩
  | succ n ih =>
    have some_ : 0 < s.bucket.available := by omega
    have left : (s.grant 0).bucket.available = n := by
      change s.bucket.available - 1 = n
      omega
    obtain ⟨s', run, rest⟩ := ih (s.grant 0) left
    have first : s.Drained (s.grant 0) := by
      have taken := Drained.allow (s := s) 0
      rwa [allow_of_pos some_] at taken
    exact ⟨s', .head first run, rest⟩

/-- Time goes on, every tick comes when it is due, and nothing is left in the bucket. -/
theorem exists_drained (capacity : Nat) (window : Duration) (ms : Nat) :
    ∃ s, ReflTransGen Drained (new capacity window) s ∧ s.seen = none ∧ s.bucket.available = 0 ∧
      s.bucket.closed = false ∧ s.now = ms ∧ s.now < s.limiter.nextDue := by
  have least := Pace.least_period capacity window
  have due {s : Shared} (run : ReflTransGen Drained (new capacity window) s) :
      s.limiter.nextDue = (Pace.of capacity window).dueAt (s.limiter.ticks + 1) := by
    rw [Limiter.nextDue, (spent_of_drained run).pace]
  induction ms with
  | zero =>
    obtain ⟨s, run, taken, rested, now, next, running⟩ := exists_taken (new capacity window)
    refine ⟨s, run, rested, taken, running, now, ?_⟩
    rw [now, next, due .refl]
    exact Nat.lt_of_le_of_lt (Nat.zero_le _) (Pace.dueAt_lt least 0)
  | succ ms ih =>
    obtain ⟨s, run, rested, taken, running, now, early⟩ := ih
    let later : Shared := { s with now := s.now + 1 }
    have passes : s.Undisturbed later := ⟨.pass 1, running, .inr ⟨rested, early⟩⟩
    have run_later : ReflTransGen Drained (new capacity window) later := run.tail (.drift taken passes)
    rcases Nat.lt_or_eq_of_le (Nat.succ_le_of_lt early) with before | reached
    · exact ⟨later, run_later, rested, taken, running, congrArg Nat.succ now, before⟩
    · have ticking : later.ended = false := (spent_of_drained run_later).ticking running
      have looks : later.Undisturbed later.look :=
        ⟨.look rested ticking (Nat.le_of_eq reached.symm), running, .inl rfl⟩
      have putsBack : later.look.Undisturbed later.tick := ⟨.putBack rfl, running, .inl rfl⟩
      have run_tick := (run_later.tail (.drift taken looks)).tail (.drift taken putsBack)
      have next_later : later.limiter.nextDue = _ := due run_later
      have at_ : later.now = (Pace.of capacity window).dueAt later.tick.limiter.ticks := reached.trans next_later
      obtain ⟨s', more, taken', rested', now', next, running'⟩ := exists_taken later.tick
      refine ⟨s', run_tick.trans more, rested', taken', running'.trans running,
        now'.trans (congrArg Nat.succ now), ?_⟩
      rw [now', next, due run_tick]
      exact Nat.lt_of_le_of_lt (Nat.le_of_eq at_) (Pace.dueAt_lt least _)

/-! ## What is granted -/

/-- What was granted is what was in the bucket and what the ticks gave back. -/
theorem Spent.length_granted (spent : s.Spent p) (rested : s.seen = none) (taken : s.bucket.available = 0) :
    s.granted.length = p.offered s.limiter.ticks := by
  have returned := spent.spent
  have balance := spent.balance
  rw [owed_rested rested, Nat.add_zero] at returned
  rw [taken, Nat.add_zero, returned] at balance
  exact balance

/-- **The refill keeps up**, for every capacity that a word can hold and every window of a millisecond or more. What
the capacity owes for a period is counted in two words. The period is a millisecond at least and within the window, and
a tick gives back a token at least and no more than the bucket holds. Any number of ticks give back their share of the
windows that pass while they come.

If every token is taken as soon as it is there, the ticks do give back that much: there is such a run to every time,
and on each, what was granted is the full bucket and the full amount of every tick, and the capacity's share of the
time that has passed at least, up to the time at which the next tick is due. -/
theorem keeps_up (positive : 1 ≤ capacity) (word : capacity < UInt64.size)
    (least : nanosPerMilli ≤ window.toNanos) :
    let p := Pace.of capacity window
    capacity * p.period.toNanos < doubleWord ∧
    nanosPerMilli ≤ p.period.toNanos ∧ p.period.toNanos ≤ window.toNanos ∧
    1 ≤ p.amount ∧ p.amount ≤ capacity ∧
    (∀ k, capacity * (k * p.period.toNanos) ≤ k * p.amount * window.toNanos) ∧
    (∀ ms, ∃ s, ReflTransGen Drained (new capacity window) s ∧ s.seen = none ∧ s.bucket.available = 0 ∧
      s.now = ms ∧ s.now < s.limiter.nextDue) ∧
    ∀ s, ReflTransGen Drained (new capacity window) s → s.seen = none →
      s.returned = s.limiter.ticks * p.amount ∧
      (s.bucket.available = 0 →
        s.granted.length = capacity + s.limiter.ticks * p.amount ∧
        capacity * (s.limiter.ticks * p.period.toNanos) ≤ s.granted.length * window.toNanos ∧
        (s.now < s.limiter.nextDue → capacity * (s.now * nanosPerMilli) ≤ s.granted.length * window.toNanos)) := by
  intro p
  have size : p.capacity = capacity := Nat.max_eq_left positive
  have within : p.period.toNanos ≤ window.toNanos := Pace.period_le capacity least
  have fits := Pace.capacity_mul_period_lt capacity window word
  have amount := Pace.amount_le capacity window
  have rate : p.capacity * p.period.toNanos ≤ p.amount * window.toNanos := Pace.capacity_mul_period_le capacity least
  have share := Pace.share_le rate
  rw [Nat.max_eq_left positive] at fits
  rw [size] at share
  refine ⟨fits, Pace.least_period capacity window, within, Pace.amount_pos capacity window, size ▸ amount, share,
    fun ms => ?times, fun s run rested => ?_⟩
  case times =>
    obtain ⟨s, run, rested, taken, -, now, early⟩ := exists_drained capacity window ms
    exact ⟨s, run, rested, taken, now, early⟩
  have spent : s.Spent p := spent_of_drained run
  have returned := spent.spent
  rw [owed_rested rested, Nat.add_zero] at returned
  refine ⟨returned, fun taken => ?_⟩
  have granted := spent.length_granted rested taken
  have offered : p.offered s.limiter.ticks = capacity + s.limiter.ticks * p.amount := congrArg (· + _) size
  refine ⟨granted.trans offered, ?ticks, fun early => ?now⟩
  case ticks =>
    rw [granted, offered]
    exact Nat.le_trans (share _) (Nat.mul_le_mul_right _ (Nat.le_add_left _ _))
  case now =>
    rw [Limiter.nextDue, spent.pace] at early
    have lately := Pace.share_of_lt_dueAt rate within early
    rwa [size, ← granted] at lately

/-- More tokens than a period can be cut into, in ten seconds: half a million come back in each millisecond, and after
twenty of them as many were granted as twenty milliseconds are due. -/
theorem five_billion_in_ten_seconds :
    let p := Pace.of 5000000000 (.ofSecs 10)
    p.period = .ofMillis 1 ∧ p.amount = 500000 ∧ 5000000000 * p.period.toNanos < doubleWord ∧
    ∃ s, ReflTransGen Drained (new 5000000000 (.ofSecs 10)) s ∧ s.now = 20 ∧
      5000000000 * (20 * nanosPerMilli) ≤ s.granted.length * (Duration.ofSecs 10).toNanos := by
  obtain ⟨fits, -, -, -, -, -, goes, is⟩ :=
    keeps_up (by decide : 1 ≤ 5000000000) (by decide) (by decide : nanosPerMilli ≤ (Duration.ofSecs 10).toNanos)
  obtain ⟨s, run, rested, taken, now, early⟩ := goes 20
  have granted := ((is s run rested).2 taken).2.2 early
  rw [now] at granted
  exact ⟨by decide, by decide, fits, s, run, now, granted⟩

end Shared

end ChainIndex.RateLimit
