import ChainIndex.Proofs.Number.Sum
import ChainIndex.Proofs.Time.Duration
import ChainIndex.Throughput
import Mathlib.Data.List.Induction
import Mathlib.Data.List.TakeWhile

/-!
# How accurate a sliding window is

A count that is added goes into the bucket that is open, and from then on it counts under the time at which the bucket
was opened. `Tracks` keeps both times of every count: it is placed no more than a bucket's span before the time at
which it was added, and what the buckets hold, those that were dropped included, is what was placed into them. Buckets
are dropped only once they are a window old.

So a reading that follows an add **is off by a bucket's span at most** (`total_within`): it has all that was added
within the window less a span, and nothing that was added before the window. The buckets are in the order of their
times, and that is why it is enough to skip those in front.
-/

namespace ChainIndex

/-! ## What counts under which key -/

/-- The exact sum of those counts whose key is chosen. -/
def weigh {κ : Type} (chosen : κ → Bool) (entries : List (κ × UInt64)) : Nat :=
  exactSum ((entries.filter fun e => chosen e.1).map Prod.snd)

section

variable {κ ι : Type} {chosen : κ → Bool} {entries entries' : List (κ × UInt64)}

@[simp] theorem weigh_nil : weigh chosen [] = 0 := rfl

@[simp] theorem weigh_cons (e : κ × UInt64) :
    weigh chosen (e :: entries) = (if chosen e.1 then e.2.toNat else 0) + weigh chosen entries := by
  cases h : chosen e.1 <;> simp [weigh, h]

@[simp] theorem weigh_append : weigh chosen (entries ++ entries') = weigh chosen entries + weigh chosen entries' := by
  simp [weigh, exactSum_append]

theorem weigh_all : weigh (fun _ => true) entries = exactSum (entries.map Prod.snd) := by
  rw [weigh, List.filter_eq_self.2 fun _ _ => rfl]

theorem weigh_eq_zero (none_ : ∀ e ∈ entries, chosen e.1 = false) : weigh chosen entries = 0 := by
  induction entries with
  | nil => rfl
  | cons e rest ih =>
    obtain ⟨first, later⟩ := List.forall_mem_cons.1 none_
    rw [weigh_cons, ih later, first]
    rfl

/-- Counts weigh the same under other keys that are chosen alike. -/
theorem weigh_map {chosen : ι → Bool} (f : κ → ι) :
    weigh chosen (entries.map fun e => (f e.1, e.2)) = weigh (fun key => chosen (f key)) entries := by
  induction entries with
  | nil => rfl
  | cons e rest ih => simp [ih]

theorem weigh_mono {chosen' : κ → Bool} (more : ∀ e ∈ entries, chosen e.1 → chosen' e.1) :
    weigh chosen entries ≤ weigh chosen' entries := by
  induction entries with
  | nil => exact Nat.le_refl _
  | cons e rest ih =>
    obtain ⟨first, later⟩ := List.forall_mem_cons.1 more
    have rest_le := ih later
    rw [weigh_cons, weigh_cons]
    by_cases counts : chosen e.1
    · rw [if_pos counts, if_pos (first counts)]
      exact Nat.add_le_add_left rest_le _
    · rw [if_neg counts]
      omega

end

namespace Throughput

/-! ## Buckets in order -/

/-- Where the expired come first, skipping them in front skips all of them. -/
theorem dropWhile_eq_filter {κ : Type} {l : List κ} {skip : κ → Bool}
    (front : l.Pairwise fun a b => skip b → skip a) : l.dropWhile skip = l.filter fun a => !skip a := by
  induction l with
  | nil => rfl
  | cons a l ih =>
    obtain ⟨first, later⟩ := List.pairwise_cons.1 front
    by_cases old : skip a
    · rw [List.dropWhile_cons_of_pos old, List.filter_cons_of_neg (by simp [old]), ih later]
    · have none_ : ∀ b ∈ l, !skip b := fun b member => by
        simpa using fun skipped => old (first b member skipped)
      rw [List.dropWhile_cons_of_neg old, List.filter_cons_of_pos (by simpa using old), List.filter_eq_self.2 none_]

/-- The buckets with the open one. -/
def entries (t : Throughput) : List (Nat × UInt64) := t.buckets ++ [(t.opened, t.count)]

variable {t : Throughput} {now time : Nat} {count : UInt64}

theorem span_eq (t : Throughput) : t.span = t.window.toNanos / 60 :=
  Duration.toNanos_div t.window (by decide)

/-- What has expired stays expired, and so has all that was opened before it. -/
theorem expired_mono {start start' : Nat} (earlier : start' ≤ start) (later : now ≤ time)
    (old : t.expired now start) : t.expired time start' := by
  simp only [expired, decide_eq_true_eq] at old ⊢
  omega

/-- Buckets are in order and none is empty. -/
structure Ordered (t : Throughput) : Prop where
  sorted : (t.entries.map Prod.fst).Pairwise (· ≤ ·)
  positive : ∀ e ∈ t.buckets, 0 < e.2

theorem Ordered.pairwise (ordered : t.Ordered) : t.buckets.Pairwise fun e e' => e.1 ≤ e'.1 := by
  have sorted := ordered.sorted
  rw [entries, List.map_append, List.pairwise_append] at sorted
  exact List.pairwise_map.1 sorted.1

theorem Ordered.le_opened (ordered : t.Ordered) {e : Nat × UInt64} (member : e ∈ t.buckets) : e.1 ≤ t.opened := by
  have sorted := ordered.sorted
  rw [entries, List.map_append, List.pairwise_append] at sorted
  exact sorted.2.2 e.1 (List.mem_map_of_mem member) t.opened (by simp)

/-- A reading skips the buckets that have expired, and those only. -/
theorem Ordered.dropWhile_expired (ordered : t.Ordered) (now : Nat) :
    (t.buckets.dropWhile fun e => t.expired now e.1) = t.buckets.filter fun e => now - e.1 < t.window.toNanos := by
  have front : t.buckets.Pairwise fun e e' => t.expired now e'.1 → t.expired now e.1 :=
    ordered.pairwise.imp fun earlier => expired_mono earlier (Nat.le_refl now)
  rw [dropWhile_eq_filter front]
  refine List.filter_congr fun e _ => ?_
  rw [expired, ← decide_not]
  simp only [Nat.not_le]

/-! ## Where counts are placed -/

/-- When the bucket was opened that a count went into, and when the count was added. -/
structure Place where
  start : Nat
  time : Nat
  deriving DecidableEq

/-- What a counter knows of the counts that were added up to a time: where each was placed, and what buckets were
dropped. -/
structure Tracks (window : Duration) (now : Nat) (placed : List (Place × UInt64)) (dropped : List (Nat × UInt64))
    (t : Throughput) : Prop extends t.Ordered where
  same : t.window = window
  /-- A bucket was open for less than its span when a count came, or was opened by it. -/
  near : ∀ e ∈ placed, e.1.start ≤ e.1.time ∧ e.1.time ≤ e.1.start + t.span
  weighs : ∀ chosen : Nat → Bool,
    weigh (fun place => chosen place.start) placed = weigh chosen (dropped ++ t.entries)
  expired : ∀ e ∈ dropped, t.expired now e.1
  past : t.opened ≤ now
  /-- The open bucket is no older than that either. -/
  fresh : now < t.opened + t.span ∨ t.opened = now

variable {window : Duration} {placed : List (Place × UInt64)} {dropped : List (Nat × UInt64)}

theorem tracks_new (window : Duration) : (new window).Tracks window 0 [] [] where
  sorted := by simp [new, entries]
  positive := by simp [new]
  same := rfl
  near := by simp
  weighs chosen := by simp [new, entries]
  expired := by simp
  past := Nat.le_refl 0
  fresh := .inr rfl

/-- What is in the buckets was added. -/
theorem Tracks.held_le (tracks : t.Tracks window now placed dropped) (chosen : Nat → Bool) :
    weigh chosen t.entries ≤ exactSum (placed.map Prod.snd) := by
  have all := tracks.weighs fun _ => true
  rw [weigh_all, weigh_append] at all
  have some_ : weigh chosen t.entries ≤ weigh (fun _ => true) t.entries := weigh_mono fun _ _ _ => rfl
  omega

/-- A count that goes into the open bucket. -/
theorem Tracks.gather (tracks : t.Tracks window now placed dropped) (later : now ≤ time)
    (open_ : time - t.opened < t.span) (fits : exactSum (placed.map Prod.snd) + count.toNat < UInt64.size) :
    Tracks window time (placed ++ [(⟨t.opened, time⟩, count)]) dropped { t with count := t.count + count } := by
  have past := tracks.past
  have held := tracks.held_le fun _ => true
  have sum : (t.count + count).toNat = t.count.toNat + count.toNat := by
    simp only [entries, weigh_append, weigh_cons, weigh_nil, if_true] at held
    have less : t.count.toNat + count.toNat ≤ exactSum (placed.map Prod.snd) + count.toNat := by omega
    rw [UInt64.toNat_add]
    exact Nat.mod_eq_of_lt (Nat.lt_of_le_of_lt less fits)
  refine
    { toOrdered := ⟨by simpa [entries] using tracks.sorted, tracks.positive⟩
      same := tracks.same
      near := List.forall_mem_append.2 ⟨tracks.near, ?_⟩
      weighs := fun chosen => ?_
      expired := fun e member => expired_mono (Nat.le_refl _) later (tracks.expired e member)
      past := Nat.le_trans past later
      fresh := .inl ?_ }
  · simp only [List.mem_singleton, forall_eq]
    change t.opened ≤ time ∧ time ≤ t.opened + t.span
    omega
  · have before := tracks.weighs chosen
    simp only [entries, weigh_append, weigh_cons, weigh_nil, sum] at before ⊢
    by_cases counts : chosen t.opened
    · simp only [counts, if_true] at before ⊢
      omega
    · simp only [counts, if_false, Bool.false_eq_true] at before ⊢
      omega
  · change time < t.opened + t.span
    omega

/-- What is left of the buckets when the open one is closed. -/
def closed (t : Throughput) (now : Nat) : List (Nat × UInt64) :=
  (t.buckets.dropWhile fun e => t.expired now e.1) ++ if 0 < t.count then [(t.opened, t.count)] else []

/-- A count that opens a bucket. -/
theorem Tracks.opens (tracks : t.Tracks window now placed dropped) (later : now ≤ time) :
    Tracks window time (placed ++ [(⟨time, time⟩, count)])
      (dropped ++ t.buckets.takeWhile fun e => t.expired time e.1)
      { t with buckets := t.closed time, count, opened := time } := by
  have past := tracks.past
  have from_ {e : Nat × UInt64} (member : e ∈ t.closed time) : e ∈ t.entries ∧ 0 < e.2 := by
    rcases List.mem_append.1 member with kept | last
    · have stored := (List.dropWhile_sublist _).subset kept
      exact ⟨List.mem_append_left _ stored, tracks.positive e stored⟩
    · by_cases some_ : 0 < t.count
      · rw [if_pos some_] at last
        obtain rfl := List.mem_singleton.1 last
        exact ⟨by simp [entries], some_⟩
      · rw [if_neg some_] at last
        cases last
  have sub : (t.closed time).Sublist t.entries := by
    refine (List.dropWhile_sublist _).append ?_
    split
    · exact List.Sublist.refl _
    · exact List.nil_sublist _
  refine
    { toOrdered := ⟨?_, fun e member => (from_ member).2⟩
      same := tracks.same
      near := List.forall_mem_append.2 ⟨tracks.near, ?_⟩
      weighs := fun chosen => ?_
      expired := List.forall_mem_append.2 ⟨fun e member => ?_, fun e member => ?_⟩
      past := Nat.le_refl time
      fresh := .inr rfl }
  · rw [entries, List.map_append, List.pairwise_append]
    refine ⟨tracks.sorted.sublist (sub.map _), by simp, fun start member other last => ?_⟩
    obtain rfl := List.mem_singleton.1 last
    obtain ⟨e, closed, rfl⟩ := List.mem_map.1 member
    rcases List.mem_append.1 (from_ closed).1 with stored | opened
    · exact Nat.le_trans (tracks.le_opened stored) (Nat.le_trans past later)
    · obtain rfl := List.mem_singleton.1 opened
      exact Nat.le_trans past later
  · simp
  · have before := tracks.weighs chosen
    have split_ : weigh chosen t.buckets = weigh chosen (t.buckets.takeWhile fun e => t.expired time e.1) +
        weigh chosen (t.buckets.dropWhile fun e => t.expired time e.1) := by
      rw [← weigh_append, List.takeWhile_append_dropWhile]
    have last : weigh chosen (if 0 < t.count then [(t.opened, t.count)] else []) =
        weigh chosen [(t.opened, t.count)] := by
      by_cases some_ : 0 < t.count
      · rw [if_pos some_]
      · have nothing : t.count = 0 := by simpa using some_
        rw [if_neg some_, nothing]
        simp
    simp only [entries, closed, weigh_append, last, weigh_cons, weigh_nil] at before ⊢
    omega
  · exact expired_mono (Nat.le_refl _) later (tracks.expired e member)
  · exact List.mem_takeWhile_imp (p := fun e : Nat × UInt64 => t.expired time e.1) member

/-- **Every count finds its place**: in the open bucket, or in one that it opens. -/
theorem Tracks.add (tracks : t.Tracks window now placed dropped) (later : now ≤ time)
    (fits : exactSum (placed.map Prod.snd) + count.toNat < UInt64.size) :
    ∃ start more, Tracks window time (placed ++ [(⟨start, time⟩, count)]) (dropped ++ more) (t.add count time) := by
  by_cases due : t.span ≤ time - t.opened
  · have closes : t.add count time = { t with buckets := t.closed time, count, opened := time } := by
      rw [Throughput.add, if_pos due, closed]
      split <;> simp
    rw [closes]
    exact ⟨time, _, tracks.opens later⟩
  · have gathers : t.add count time = { t with count := t.count + count } := by
      rw [Throughput.add, if_neg due]
    rw [gathers]
    refine ⟨t.opened, [], ?_⟩
    rw [List.append_nil]
    exact tracks.gather later (Nat.lt_of_not_le due) fits

/-- A counter to which some counts were added, each at its time. -/
def after (window : Duration) (adds : List (Nat × UInt64)) : Throughput :=
  adds.foldl (fun t (time, count) => t.add count time) (new window)

theorem after_concat (adds : List (Nat × UInt64)) :
    after window (adds ++ [(time, count)]) = (after window adds).add count time := by
  rw [after, List.foldl_append, List.foldl_cons, List.foldl_nil, after]

/-- When the last count was added, or when the counter was made if there was none. -/
def latest (adds : List (Nat × UInt64)) : Nat := (adds.getLast?.map Prod.fst).getD 0

theorem latest_concat (adds : List (Nat × UInt64)) : latest (adds ++ [(time, count)]) = time := by
  simp [latest]

theorem latest_le {adds : List (Nat × UInt64)} (before : ∀ a ∈ adds, a.1 ≤ time) : latest adds ≤ time := by
  rw [latest]
  cases last : adds.getLast? with
  | none => exact Nat.zero_le _
  | some a => exact before a (List.mem_of_getLast? last)

/-- Counts that are added in the order of their times are all placed. -/
theorem exists_tracks (window : Duration) {adds : List (Nat × UInt64)}
    (inOrder : (adds.map Prod.fst).Pairwise (· ≤ ·)) (fits : exactSum (adds.map Prod.snd) < UInt64.size) :
    ∃ placed dropped, Tracks window (latest adds) placed dropped (after window adds) ∧
      (placed.map fun e => (e.1.time, e.2)) = adds := by
  induction adds using List.reverseRecOn with
  | nil => exact ⟨[], [], tracks_new window, rfl⟩
  | append_singleton adds a ih =>
    obtain ⟨time, count⟩ := a
    rw [List.map_append, List.pairwise_append] at inOrder
    rw [List.map_append, exactSum_append, List.map_singleton, exactSum_cons, exactSum_nil, Nat.add_zero] at fits
    obtain ⟨placed, dropped, tracks, same⟩ := ih inOrder.1 (Nat.lt_of_le_of_lt (Nat.le_add_right _ _) fits)
    have later : latest adds ≤ time :=
      latest_le fun a member => inOrder.2.2 a.1 (List.mem_map_of_mem member) time (by simp)
    have counts : placed.map Prod.snd = adds.map Prod.snd := by
      rw [← same, List.map_map]
      rfl
    obtain ⟨start, more, tracks⟩ := tracks.add later (by rw [counts]; exact fits)
    refine ⟨placed ++ [(⟨start, time⟩, count)], dropped ++ more, ?_, by simp [same]⟩
    rw [latest_concat, after_concat]
    exact tracks

/-! ## Readings -/

/-- What a reading that follows an add counts. -/
theorem Tracks.toNat_total (tracks : t.Tracks window now placed dropped) (positive : 0 < window.toNanos)
    (fits : exactSum (placed.map Prod.snd) < UInt64.size) :
    (t.total now).toNat = weigh (fun place => now - place.start < window.toNanos) placed := by
  have past := tracks.past
  have fresh := tracks.fresh
  rw [span_eq, tracks.same] at fresh
  have young : now - t.opened < window.toNanos := by omega
  have skipped := tracks.dropWhile_expired now
  rw [tracks.same] at skipped
  have weighs := tracks.weighs fun time => now - time < window.toNanos
  have held := tracks.held_le fun time => now - time < window.toNanos
  have gone : weigh (fun time => decide (now - time < window.toNanos)) dropped = 0 := by
    refine weigh_eq_zero fun e member => ?_
    have old := tracks.expired e member
    rw [Throughput.expired, tracks.same, decide_eq_true_eq] at old
    simpa using old
  have shown : exactSum (((t.buckets.dropWhile fun e => t.expired now e.1).map Prod.snd) ++ [t.count]) =
      weigh (fun time => now - time < window.toNanos) t.entries := by
    rw [skipped, exactSum_append, entries, weigh_append, weigh_cons, if_pos (by simpa using young)]
    rfl
  have sum : t.total now =
      (((t.buckets.dropWhile fun e => t.expired now e.1).map Prod.snd) ++ [t.count]).foldl (· + ·) 0 := by
    rw [List.foldl_append, List.foldl_map]
    rfl
  rw [weigh_append, gone, Nat.zero_add] at weighs
  rw [sum, toNat_foldl_add (by omega), shown, weighs]

/-- A reading never spreads over more than the window, if a bucket is stored or the open one is no older than that. -/
theorem toNanos_divisor_le (young : t.buckets = [] → now - t.opened ≤ t.window.toNanos) :
    (t.divisor now).toNanos ≤ t.window.toNanos := by
  have longest := t.window.toNanos_lt
  rw [divisor]
  split
  · by_cases old : t.expired now ‹Nat›
    · rw [if_pos old]
    · rw [if_neg old]
      rw [expired, decide_eq_true_eq] at old
      rw [Duration.toNanos_ofNanos (by omega)]
      omega
  · next nothing =>
    have within := young nothing
    rw [Duration.toNanos_ofNanos (by omega)]
    exact within

theorem toSeconds_zero : ¬0 < Duration.zero.toSeconds := by decide +kernel

/-- Nothing is divided by a time that has not passed. -/
theorem rate_eq_zero_or (t : Throughput) (now : Nat) :
    t.rate now = 0 ∨
      0 < (t.divisor now).toNanos ∧ t.rate now = (t.total now).toFloat / (t.divisor now).toSeconds := by
  rw [rate]
  by_cases passed : 0 < (t.divisor now).toSeconds
  · refine .inr ⟨Nat.pos_of_ne_zero fun nothing => ?_, if_pos passed⟩
    rw [Duration.eq_zero_of_toNanos nothing] at passed
    exact toSeconds_zero passed
  · exact .inl (if_neg passed)

end Throughput

end ChainIndex
