import ChainIndex.Retry
import Mathlib.Algebra.GroupWithZero.Nat
import Mathlib.Order.Bounds.Defs

/-!
# How often an action is tried

An action may fail in any way and as often as it likes: what its attempts come to is an endless sequence, and the
attempts that are made are a beginning of it. **It ends where it has to** (`ends_at_first`): at the first attempt that
succeeds, that fails for a reason that is not retryable, or that is the last one allowed. Up to there the attempts
are numbered from one, and between two of them there is one sleep, as long as the parameters say.

The action runs in a world that keeps a record of all that is done to it (`World`). `attemptFrom_run` follows the loop:
what is done from some attempt on, in whatever world. Attempts are numbered with 32 bits, and since only so many are
allowed as have a number, the numbers do not go around.
-/

namespace ChainIndex.Retry

variable {ε α : Type}

/-- Whether there is nothing to be tried again. -/
def Settled (retryable : ε → Bool) : Except ε α → Prop
  | .ok _ => True
  | .error e => retryable e = false

/-- How many attempts there may be. -/
def Params.most (p : Params) : Nat := max 1 p.amount.toNat

/-- Whether an attempt may be the last one, if the attempts come to these answers. -/
def Closes (p : Params) (retryable : ε → Bool) (answers : Nat → Except ε α) (k : Nat) : Prop :=
  Settled retryable (answers k) ∨ k = p.most

/-- The outcome if this was the answer to the last attempt. -/
def concluded (k : Nat) : Except ε α → Outcome ε α
  | .ok value => .success value
  | .error e => .failure e k.toUInt32

theorem Params.toNat_attempts (p : Params) : p.attempts.toNat = p.most := by
  rw [attempts, most]
  split
  case isTrue none_ => rw [none_]; rfl
  case isFalse some_ =>
    have positive : 0 < p.amount.toNat := Nat.pos_of_ne_zero fun zero => some_ (UInt32.toNat_inj.1 zero)
    exact (Nat.max_eq_right positive).symm

theorem Params.most_lt (p : Params) : p.most < UInt32.size := Nat.max_lt.2 ⟨by decide, p.amount.toNat_lt⟩

theorem not_settled {retryable : ε → Bool} {a : Except ε α} :
    ¬Settled retryable a ↔ ∃ e, a = .error e ∧ retryable e = true := by
  cases a with
  | ok value => simp [Settled]
  | error e => simp [Settled]

/-- The first attempt that may be the last one, if none before it may. -/
theorem isLeast_closes {p : Params} {retryable : ε → Bool} {answers : Nat → Except ε α} {k : Nat} (any : 1 ≤ k)
    (few : k ≤ p.most) (closes : Closes p retryable answers k)
    (before : ∀ i, 1 ≤ i → i < k → ¬Settled retryable (answers i)) :
    IsLeast {k | 1 ≤ k ∧ Closes p retryable answers k} k := by
  refine ⟨⟨any, closes⟩, ?_⟩
  rintro i ⟨first, settled | all⟩
  · exact Nat.le_of_not_lt fun early => before i first early settled
  · exact Nat.le_trans few (Nat.le_of_eq all.symm)

/-! ## The answers to all attempts -/

/-- What attempts were answered, up to the last answer, if there may be so many of them. -/
structure Attempted (retryable : ε → Bool) (most : Nat) (answers : List (Except ε α)) (last : Except ε α) : Prop where
  any : 1 ≤ answers.length
  few : answers.length ≤ most
  /-- All but the last failed for a reason that may pass. -/
  failed : ∀ a ∈ answers.dropLast, ∃ e, a = .error e ∧ retryable e = true
  getLast : answers.getLast? = some last
  /-- No attempt was left out that could be made. -/
  settled : answers.length < most → Settled retryable last

namespace Attempted

variable {retryable : ε → Bool} {most : Nat} {answers : List (Except ε α)} {a last : Except ε α}

theorem one (some_ : 1 ≤ most) (last : most = 1 ∨ Settled retryable a) : Attempted retryable most [a] a where
  any := Nat.le_refl 1
  few := some_
  failed := nofun
  getLast := rfl
  settled more := last.resolve_left (Nat.ne_of_gt more)

theorem again {e : ε} (mends : retryable e = true) (h : Attempted retryable most answers last) :
    Attempted retryable (most + 1) (.error e :: answers) last := by
  have some_ : answers ≠ [] := List.ne_nil_of_length_pos h.any
  refine ⟨Nat.le_add_left 1 _, Nat.succ_le_succ h.few, fun a member => ?_, ?_, fun more => ?_⟩
  · rw [List.dropLast_cons_of_ne_nil some_] at member
    rcases List.mem_cons.1 member with rfl | member
    · exact ⟨e, rfl, mends⟩
    · exact h.failed a member
  · rw [List.getLast?_cons_of_ne_nil some_]
    exact h.getLast
  · exact h.settled (Nat.lt_of_succ_lt_succ more)

/-- If the answers are the beginning of a sequence, they end at the first attempt that may be the last one. -/
theorem isLeast {p : Params} (h : Attempted retryable p.most answers last) {f : Nat → Except ε α}
    (same : answers = (List.range' 1 answers.length).map f) :
    IsLeast {k | 1 ≤ k ∧ Closes p retryable f k} answers.length ∧ last = f answers.length := by
  have at_ {i : Nat} (first : 1 ≤ i) (inside : i ≤ answers.length) : answers[i - 1]? = some (f i) := by
    rw [same, List.getElem?_map, List.getElem?_range' (by omega), Option.map_some]
    congr 2
    omega
  have end_ : last = f answers.length := by
    have last_ := at_ h.any (Nat.le_refl _)
    rw [← List.getLast?_eq_getElem?, h.getLast] at last_
    exact Option.some.inj last_
  refine ⟨isLeast_closes h.any h.few ?_ fun i first before => ?_, end_⟩
  · rcases Nat.lt_or_eq_of_le h.few with more | all
    · exact .inl (end_ ▸ h.settled more)
    · exact .inr all
  · have member : f i ∈ answers.dropLast := by
      refine List.mem_of_getElem? (i := i - 1) ?_
      rw [List.getElem?_dropLast, if_pos (by omega)]
      exact at_ first (Nat.le_of_lt before)
    exact not_settled.2 (h.failed _ member)

end Attempted

/-! ## A world in which an action is tried -/

/-- What is done to the world. -/
inductive Event (ε α : Type)
  | tried (number : Nat)
  | slept (d : Duration)
  | told (o : Outcome ε α)

structure World (ε α : Type) where
  /-- Milliseconds on a clock without end: a sleep lasts as long as it is meant to, rounded up. -/
  now : Nat
  /-- How often the action was tried. -/
  made : Nat
  events : List (Event ε α)

namespace World

def new : World ε α := ⟨0, 0, []⟩

def tried (w : World ε α) (number : Nat) : World ε α :=
  { w with made := w.made + 1, events := w.events ++ [.tried number] }

def slept (w : World ε α) (d : Duration) : World ε α :=
  { w with now := w.now + d.ceilMillis, events := w.events ++ [.slept d] }

def told (w : World ε α) (o : Outcome ε α) : World ε α := { w with events := w.events ++ [.told o] }

end World

/-- The action, which answers an attempt by how often it was tried before, whatever number the attempt has. -/
def act (answers : Nat → Except ε α) (n : UInt32) : StateM (World ε α) (Except ε α) := do
  let w ← get
  set (w.tried n.toNat)
  pure (answers (w.made + 1))

def sleep (d : Duration) : StateM (World ε α) Unit := modify (·.slept d)

def tell (o : Outcome ε α) : StateM (World ε α) Unit := modify (·.told o)

/-! ## What is done from some attempt on -/

/-- The sleep after failed attempt `i`. -/
def Params.delay (p : Params) (i : Nat) : Duration := p.delayAfter i.toUInt32

/-- Attempts with these numbers are made, and each is followed by a sleep. -/
def World.fails (p : Params) (w : World ε α) (numbers : List Nat) : World ε α :=
  numbers.foldl (fun w i => (w.tried i).slept (p.delay i)) w

variable {p : Params} {retryable : ε → Bool} (answers : Nat → Except ε α)

theorem act_run (n : UInt32) (w : World ε α) : (act answers n).run w = (answers (w.made + 1), w.tried n.toNat) := rfl

theorem sleep_run (d : Duration) (w : World ε α) : (sleep d).run w = pure ((), w.slept d) := rfl

/-- An attempt that settles it is the last one. -/
theorem attemptFrom_of_settled (more : Nat) {n : UInt32} {w : World ε α} (number : n.toNat = w.made + 1)
    (last : more = 0 ∨ Settled retryable (answers n.toNat)) :
    (attemptFrom sleep p retryable (act answers) more n).run w =
      (concluded n.toNat (answers n.toNat), w.tried n.toNat) := by
  have tried := act_run answers n w
  rw [← number] at tried
  have same : n.toNat.toUInt32 = n := UInt32.ofNat_toNat
  cases more with
  | zero =>
    rw [attemptFrom, StateT.run_bind, tried]
    cases answers n.toNat with
    | ok value => rfl
    | error e => rw [concluded, same]; rfl
  | succ more =>
    have last := last.resolve_left (Nat.succ_ne_zero more)
    rw [attemptFrom, StateT.run_bind, tried]
    cases h : answers n.toNat with
    | ok value => rfl
    | error e =>
      rw [h] at last
      have fatal : retryable e = false := last
      rw [concluded, same]
      change (if retryable e = true then _ else _ : StateM (World ε α) (Outcome ε α)).run _ = _
      rw [if_neg (Bool.eq_false_iff.1 fatal)]
      rfl

/-- An attempt that does not is followed by a sleep and the next attempt. -/
theorem attemptFrom_of_not_settled (more : Nat) {n : UInt32} {w : World ε α} (number : n.toNat = w.made + 1)
    (open_ : ¬Settled retryable (answers n.toNat)) :
    (attemptFrom sleep p retryable (act answers) (more + 1) n).run w =
      (attemptFrom sleep p retryable (act answers) more (n + 1)).run ((w.tried n.toNat).slept (p.delayAfter n)) := by
  have tried := act_run answers n w
  obtain ⟨e, failed, again⟩ := not_settled.1 open_
  rw [← number, failed] at tried
  rw [attemptFrom, StateT.run_bind, tried]
  change (if retryable e = true then _ else _ : StateM (World ε α) (Outcome ε α)).run _ = _
  rw [if_pos again, StateT.run_bind, sleep_run, pure_bind]

/-- Attempts are made as long as they fail for a reason that may pass and more are allowed. -/
theorem attemptFrom_run (retryable : ε → Bool) (more : Nat) {n : UInt32} {w : World ε α} (number : n.toNat = w.made + 1)
    (numbers : n.toNat + more < UInt32.size) :
    ∃ again ≤ more,
      (∀ i, n.toNat ≤ i → i < n.toNat + again → ¬Settled retryable (answers i)) ∧
      (again = more ∨ Settled retryable (answers (n.toNat + again))) ∧
      (attemptFrom sleep p retryable (act answers) more n).run w =
        (concluded (n.toNat + again) (answers (n.toNat + again)),
          (w.fails p (List.range' n.toNat again)).tried (n.toNat + again)) := by
  induction more generalizing n w with
  | zero =>
    refine ⟨0, Nat.le_refl 0, fun i first last => absurd last (Nat.not_lt_of_le first), .inl rfl, ?_⟩
    exact attemptFrom_of_settled answers 0 number (.inl rfl)
  | succ more ih =>
    by_cases settled : Settled retryable (answers n.toNat)
    · refine ⟨0, Nat.zero_le _, fun i first last => absurd last (Nat.not_lt_of_le first), .inr settled, ?_⟩
      exact attemptFrom_of_settled answers _ number (.inr settled)
    · -- As long as there are numbers, the next attempt has the next one.
      have next : (n + 1).toNat = n.toNat + 1 := by
        rw [UInt32.toNat_add, UInt32.toNat_one]
        exact Nat.mod_eq_of_lt (Nat.lt_of_le_of_lt (by omega) numbers)
      have same : n.toNat.toUInt32 = n := UInt32.ofNat_toNat
      let w₁ := (w.tried n.toNat).slept (p.delayAfter n)
      have number₁ : (n + 1).toNat = w₁.made + 1 := next.trans (congrArg Nat.succ number)
      obtain ⟨again, few, failed, last, run⟩ := ih number₁ (by omega)
      have shift : n.toNat + 1 + again = n.toNat + (again + 1) := by omega
      rw [next, shift] at failed last run
      refine ⟨again + 1, Nat.succ_le_succ few, fun i first before => ?_, last.imp_left (congrArg Nat.succ), ?_⟩
      · rcases Nat.eq_or_lt_of_le first with rfl | later
        · exact settled
        · exact failed i later before
      · rw [attemptFrom_of_not_settled answers more number settled, run, List.range'_succ, World.fails, World.fails,
          List.foldl_cons, Params.delay, same]

/-! ## The whole run -/

/-- The world after `k` attempts, of which only the last was not followed by a sleep. -/
def World.after (p : Params) (k : Nat) : World ε α where
  now := ((List.range' 1 (k - 1)).map fun i => (p.delay i).ceilMillis).sum
  made := k
  events := (List.range' 1 (k - 1)).flatMap (fun i => [.tried i, .slept (p.delay i)]) ++ [.tried k]

theorem World.fails_eq (w : World ε α) (numbers : List Nat) :
    w.fails p numbers =
      { now := w.now + (numbers.map fun i => (p.delay i).ceilMillis).sum
        made := w.made + numbers.length
        events := w.events ++ numbers.flatMap fun i => [.tried i, .slept (p.delay i)] } := by
  induction numbers generalizing w with
  | nil => rw [List.map_nil, List.sum_nil, List.flatMap_nil, List.append_nil]; rfl
  | cons i numbers ih =>
    rw [fails, List.foldl_cons, ← fails, ih]
    simp only [slept, tried, List.map_cons, List.sum_cons, List.length_cons, List.flatMap_cons, List.append_assoc,
      List.cons_append, List.nil_append, Nat.add_assoc, Nat.add_comm 1]

theorem World.tried_fails (p : Params) {k : Nat} (positive : 1 ≤ k) :
    ((new : World ε α).fails p (List.range' 1 (k - 1))).tried k = after p k := by
  rw [fails_eq, tried, List.length_range', after]
  simp only [new, Nat.zero_add, List.nil_append, Nat.sub_add_cancel positive]

end ChainIndex.Retry
