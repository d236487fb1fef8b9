import ChainIndex.Proofs.RateLimit.Sharing

/-!
# Letting all due ticks pass at once

A limiter that settles lets ticks pass one by one only while callers are queued; the ticks after that only fill the
bucket, and it takes them in one step. **That is a run** of the shared limiter (`settles`): there is one that takes
every due tick for itself, with nobody between a tick's two steps, and leaves the same limiter and serves the same
callers in the same order.

A tick serves one caller at least while any is queued, so as many ticks as there are callers queued serve them all.
-/

namespace ChainIndex.RateLimit.Shared

variable {s s' : Shared} {p : Pace} {ms : Nat}

/-- A tick's two steps with nobody between them. -/
def tick (s : Shared) : Shared := s.look.putBack

/-- No tick is under way, and ticks go on. -/
structure Quiet (s : Shared) : Prop where
  rested : s.seen = none
  running : s.bucket.closed = false
  ticking : s.ended = false

theorem Quiet.tick (quiet : s.Quiet) : s.tick.Quiet := ⟨rfl, quiet.running, quiet.ticking⟩

theorem tick_limiter (quiet : s.Quiet) : s.tick.limiter = s.limiter.tick.2 := (putBack_look quiet.running).1

theorem tick_granted (quiet : s.Quiet) : s.tick.granted = s.granted ++ s.limiter.tick.1 :=
  (putBack_look quiet.running).2

theorem leads_tick (quiet : s.Quiet) (due : s.limiter.nextDue ≤ s.now) : s.Leads s.tick := by
  have looked : s.Leads s.look := .single (.drift (.look quiet.rested quiet.ticking due))
  exact looked.tail (.drift (.putBack rfl))

/-- A tick serves someone if anyone is queued. -/
theorem queue_tick_lt (sound : s.Sound p) (tokens : 0 < p.capacity) (amount : 0 < p.amount)
    (queued : s.bucket.queue ≠ []) : s.tick.bucket.queue.length < s.bucket.queue.length := by
  have empty : s.bucket.available = 0 := sound.idle.resolve_right queued
  have room : 0 < s.look.owed := by
    have size := sound.capacity
    have pace := sound.pace
    simp only [owed, look, Option.getD_some, Bucket.room, empty, size, pace, Nat.sub_zero]
    exact Nat.lt_min.2 ⟨amount, tokens⟩
  have length : s.tick.bucket.queue.length = s.bucket.queue.length - s.look.owed := List.length_drop
  have any : 0 < s.bucket.queue.length := List.length_pos_iff.2 queued
  omega

/-- Serving the queue is a run of ticks, at the end of which nobody is queued or no tick is due. -/
theorem serves (tokens : 0 < p.capacity) (amount : 0 < p.amount) (positive : 0 < p.period.toNanos) (fuel : Nat)
    {s : Shared} (sound : s.Sound p) (quiet : s.Quiet) (enough : s.bucket.queue.length ≤ fuel) :
    ∃ s', s.Leads s' ∧ s'.Quiet ∧ s'.now = s.now ∧ s'.limiter = (s.limiter.serve s.now fuel).2 ∧
      s'.granted = s.granted ++ (s.limiter.serve s.now fuel).1.map Prod.fst ∧
      (s'.bucket.queue = [] ∨ s.now < s'.limiter.nextDue) := by
  induction fuel generalizing s with
  | zero =>
    have nobody : s.bucket.queue = [] := List.eq_nil_of_length_eq_zero (Nat.le_zero.1 enough)
    exact ⟨s, .refl, quiet, rfl, rfl, (List.append_nil _).symm, .inl nobody⟩
  | succ fuel ih =>
    rw [Limiter.serve]
    by_cases goes : s.limiter.bucket.queue ≠ [] ∧ s.limiter.nextDue ≤ s.now
    · rw [if_pos goes]
      obtain ⟨queued, due⟩ := goes
      have first := leads_tick quiet due
      have fewer := queue_tick_lt sound tokens amount queued
      obtain ⟨s', rest, quiet', now, limiter, granted, done⟩ :=
        ih (sound.leads positive first) quiet.tick (by omega)
      rw [tick_limiter quiet] at limiter granted
      refine ⟨s', first.trans rest, quiet', now, limiter, ?_, done⟩
      rw [granted, tick_granted quiet, List.append_assoc, List.map_append, List.map_map]
      congr 2
      exact (List.map_id _).symm
    · rw [if_neg goes]
      refine ⟨s, .refl, quiet, rfl, rfl, (List.append_nil _).symm, ?_⟩
      rcases Decidable.not_and_iff_or_not.1 goes with nobody | early
      · exact .inl (Decidable.not_not.1 nobody)
      · exact .inr (Nat.lt_of_not_le early)

/-- One tick and `n` more fill the bucket as `n + 1` do. -/
theorem idleTicks_succ {b : Bucket} (running : b.closed = false) (nobody : b.queue = []) (amount n : Nat) :
    (b.putBack (min amount b.room)).2.idleTicks amount n = b.idleTicks amount (n + 1) := by
  have filled : max (b.available + min amount (b.capacity - b.available))
      (min b.capacity (b.available + min amount (b.capacity - b.available) + n * amount)) =
      max b.available (min b.capacity (b.available + (n + 1) * amount)) := by
    rw [Nat.succ_mul]
    omega
  simp [Bucket.idleTicks, Bucket.putBack, Bucket.room, running, nobody, filled]

theorem idleTicks_zero (b : Bucket) (amount : Nat) : b.idleTicks amount 0 = b := by
  rw [Bucket.idleTicks, Nat.zero_mul, Nat.add_zero, Nat.max_eq_left (Nat.min_le_right _ _)]
  split <;> rfl

/-- Filling the bucket is a run of ticks. -/
theorem fills (n : Nat) {s : Shared} (quiet : s.Quiet) (nobody : n = 0 ∨ s.bucket.queue = [])
    (counted : s.limiter.ticks + n ≤ s.limiter.pace.ticksBy s.now) :
    ∃ s', s.Leads s' ∧ s'.seen = none ∧ s'.now = s.now ∧ s'.granted = s.granted ∧
      s'.limiter = { s.limiter with
        bucket := s.bucket.idleTicks s.limiter.pace.amount n, ticks := s.limiter.ticks + n } := by
  induction n generalizing s with
  | zero =>
    refine ⟨s, .refl, quiet.rested, rfl, rfl, ?_⟩
    rw [idleTicks_zero]
    rfl
  | succ n ih =>
    have nobody : s.bucket.queue = [] := nobody.resolve_left (Nat.succ_ne_zero n)
    have due : s.limiter.nextDue ≤ s.now := Pace.dueAt_le (by omega)
    have next : s.limiter.ticks + 1 + n ≤ s.limiter.pace.ticksBy s.now := by omega
    have drained : s.tick.bucket.queue = [] := (congrArg (List.drop _) nobody).trans List.drop_nil
    obtain ⟨s', rest, rested, now, granted, limiter⟩ := ih quiet.tick (.inr drained) next
    have same : s.tick.granted = s.granted := by
      rw [tick_granted quiet, Limiter.tick, Bucket.tick, if_neg (by simp [quiet.running])]
      exact (congrArg (s.granted ++ List.take _ ·) nobody).trans (by rw [List.take_nil, List.append_nil])
    refine ⟨s', (leads_tick quiet due).trans rest, rested, now, granted.trans same, ?_⟩
    have ticks : s.limiter.ticks + (n + 1) = s.limiter.ticks + 1 + n := by omega
    rw [limiter, ← idleTicks_succ quiet.running nobody, ticks]
    rfl

theorem settle_eq {l : Limiter} (running : l.bucket.closed = false) :
    l.settle ms =
      let after := (l.serve ms l.bucket.queue.length).2
      ((l.serve ms l.bucket.queue.length).1,
        { after with
          bucket := after.bucket.idleTicks after.pace.amount (l.pace.ticksBy ms - after.ticks)
          ticks := max after.ticks (l.pace.ticksBy ms) }) := by
  rw [Limiter.settle, if_neg (Bool.eq_false_iff.1 running)]

/-- **Settling is a run** in which every due tick is taken for itself. -/
theorem settles {capacity : Nat} {window : Duration} (run : (new capacity window).Leads s) (quiet : s.Quiet)
    (later : s.now ≤ ms) :
    ∃ s', s.Leads s' ∧ s'.seen = none ∧ s'.now = ms ∧ s'.limiter = (s.limiter.settle ms).2 ∧
      s'.granted = s.granted ++ (s.limiter.settle ms).1.map Prod.fst := by
  have positive := Pace.period_pos capacity window
  have sound := (sound_new capacity window).leads positive run
  have tokens : 0 < (Pace.of capacity window).capacity := Nat.lt_of_lt_of_le Nat.one_pos (Nat.le_max_right _ _)
  obtain ⟨wait, rfl⟩ := Nat.exists_eq_add_of_le later
  let s₀ : Shared := { s with now := s.now + wait }
  have passed : s.Leads s₀ := .single (.drift (.pass wait))
  obtain ⟨s₁, first, quiet₁, now₁, limiter₁, granted₁, done⟩ :=
    serves tokens (Pace.amount_pos capacity window) positive s.bucket.queue.length (sound.leads positive passed)
      ⟨quiet.rested, quiet.running, quiet.ticking⟩ (Nat.le_refl _)
  have sound₁ := (sound.leads positive passed).leads positive first
  have ticks₁ : s₁.limiter.ticks ≤ s₁.limiter.pace.ticksBy s₁.now := sound₁.pace ▸ sound₁.due
  have pace₁ : s₁.limiter.pace = s.limiter.pace := sound₁.pace.trans sound.pace.symm
  -- The ticks that are left only fill the bucket: with callers queued there are none.
  have nobody : s₁.limiter.pace.ticksBy s₁.now - s₁.limiter.ticks = 0 ∨ s₁.bucket.queue = [] := by
    rcases done with drained | early
    · exact .inr drained
    · refine .inl (Nat.sub_eq_zero_of_le (Nat.le_of_not_lt fun more => ?_))
      rw [← now₁] at early
      exact absurd (Pace.dueAt_le more) (Nat.not_le_of_lt early)
  obtain ⟨s₂, second, rested, now₂, granted₂, limiter₂⟩ :=
    fills _ quiet₁ nobody (Nat.le_of_eq (Nat.add_sub_cancel' ticks₁))
  refine ⟨s₂, (passed.trans first).trans second, rested, now₂.trans now₁, ?_, ?_⟩
  · have now : s₁.now = s.now + wait := now₁
    rw [limiter₂, settle_eq quiet.running, ← limiter₁, ← pace₁, ← now, Nat.add_sub_cancel' ticks₁]
    dsimp only
    rw [Nat.max_eq_right ticks₁]
  · rw [granted₂, granted₁, settle_eq quiet.running]

end ChainIndex.RateLimit.Shared
