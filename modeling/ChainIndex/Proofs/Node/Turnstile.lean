import ChainIndex.Proofs.RateLimit.Sharing
import ChainIndex.Proofs.Running.Fleet
import Mathlib.Data.List.Perm.Subperm
import Mathlib.Data.Nat.Pairing
import Mathlib.Logic.Function.Basic

/-!
# Turnstiles

A turnstile is a shared limiter together with a record of those that went on with a token that they got from it. A
strand that waits for a token joins the limiter's queue once, and goes on when the limiter has granted it one more token
than it went on with. A strand that does not wait goes on at once or is turned away.

Towards the turnstile a strand stands in one of three ways: it waits for a token, it holds one, or neither. `Moves` are
all the ways in which that can change. **The account** (`Account`) says what tokens and requests have to do with each
other, place by place; every move keeps it (`Account.move`). So of the tokens that a place was granted each had its
request, but for one at most that the place waits for or holds (`Account.granted_eq`).
-/

namespace ChainIndex.Running

open RateLimit

/-- The name of a place in the limiter's queue. -/
def Place.id (p : Place) : Nat := Nat.pair p.caller p.strand

theorem Place.id_inj {p q : Place} : p.id = q.id ↔ p = q := by
  obtain ⟨k, i⟩ := p
  obtain ⟨l, j⟩ := q
  rw [id, id, Nat.pair_eq_pair, mk.injEq]

theorem Place.exists_id (c : Nat) : ∃ p : Place, p.id = c :=
  ⟨⟨(Nat.unpair c).1, (Nat.unpair c).2⟩, Nat.pair_unpair c⟩

/-- A limiter with those that went on with a token from it, in order. -/
structure Turnstile where
  shared : Shared
  passed : List Nat

namespace Turnstile

def new (capacity : Nat) (window : Duration) : Turnstile := ⟨.new capacity window, []⟩

/-- Asks for a token and waits for it if need be. -/
def wait (u : Turnstile) (c : Nat) : Turnstile := { u with shared := (u.shared.wait c).2 }

/-- Goes on with a token. -/
def pass (u : Turnstile) (c : Nat) : Turnstile := { u with passed := u.passed ++ [c] }

/-- Asks for a token without waiting, and goes on with it if there is one. -/
def allow (u : Turnstile) (c : Nat) : Bool × Turnstile :=
  let (taken, shared) := u.shared.allow c
  (taken, ⟨shared, if taken then u.passed ++ [c] else u.passed⟩)

variable {u : Turnstile} {c : Nat}

theorem allow_of_pos (filled : 0 < u.shared.bucket.available) :
    u.allow c = (true, ⟨u.shared.grant c, u.passed ++ [c]⟩) := by
  simp [allow, Shared.allow_of_pos filled]

theorem allow_of_zero (empty : u.shared.bucket.available = 0) : u.allow c = (false, u) := by
  simp [allow, Shared.allow_of_zero empty]

theorem allow_fst : (u.allow c).1 ↔ 0 < u.shared.bucket.available := Shared.allow_fst

end Turnstile

/-- How a strand stands towards the turnstile. -/
inductive Standing where
  | idle
  /-- It waits for a token. -/
  | awaiting
  /-- It took a token and has not sent its request. -/
  | holding
  deriving DecidableEq, Repr

namespace Standing

def isAwaiting : Standing → Bool
  | .awaiting => true
  | _ => false

def isHolding : Standing → Bool
  | .holding => true
  | _ => false

end Standing

/-- What can be seen of tokens and requests: one was taken, one was sent. -/
inductive Mark where
  | took
  | sent
  deriving DecidableEq, Repr

/-- All that the strand named `c` can do at the turnstile. -/
inductive Turnstile.Moves (c : Nat) (u : Turnstile) : Standing → List Mark → Turnstile → Standing → Prop where
  | stay {a : Standing} : Moves c u a [] u a
  | ask : Moves c u .idle [] u .awaiting
  | wait (fresh : u.shared.arrived.count c = u.passed.count c) : Moves c u .awaiting [] (u.wait c) .awaiting
  | pass (granted : u.passed.count c < u.shared.granted.count c) : Moves c u .awaiting [.took] (u.pass c) .holding
  | takeAtOnce (filled : 0 < u.shared.bucket.available) : Moves c u .idle [.took] (u.allow c).2 .holding
  | send : Moves c u .holding [.sent] u .idle

/-- What one step does at the turnstile: one place moves, nothing happens, or the limiter does something for itself. -/
inductive Turnstile.Change (u : Turnstile) (standing : Place → Standing) :
    List (Place × Mark) → Turnstile → (Place → Standing) → Prop where
  | move {p : Place} {more : List Mark} {u' : Turnstile} {b : Standing} (moves : u.Moves p.id (standing p) more u' b) :
    Change u standing (more.map (p, ·)) u' (Function.update standing p b)
  | none : Change u standing [] u standing
  | drift {s : Shared} (drifts : u.shared.Drifts s) : Change u standing [] { u with shared := s } standing

/-! ## Marks -/

/-- The marks of a place. -/
def marksOf (p : Place) (ms : List (Place × Mark)) : List Mark := (ms.filter (·.1 = p)).map (·.2)

/-- The places of a mark. -/
def placesOf (m : Mark) (ms : List (Place × Mark)) : List Nat := (ms.filter (·.2 = m)).map (·.1.id)

/-- Tokens and requests come in pairs, and what is left over is a token that is held. -/
def Paired (marks : List Mark) (holding : Bool) : Prop :=
  ∃ n, marks = (List.replicate n [Mark.took, Mark.sent]).flatten ++ if holding then [.took] else []

section

variable {p q : Place} {ms : List (Place × Mark)} {more marks : List Mark}

theorem marksOf_append_self : marksOf p (ms ++ more.map (p, ·)) = marksOf p ms ++ more := by
  simp [marksOf, List.filter_map, Function.comp_def]

theorem marksOf_append_of_ne (other : q ≠ p) : marksOf q (ms ++ more.map (p, ·)) = marksOf q ms := by
  simp [marksOf, List.filter_map, Function.comp_def, Ne.symm other]

theorem count_placesOf (m : Mark) : (placesOf m ms).count p.id = (marksOf p ms).count m := by
  induction ms with
  | nil => rfl
  | cons mark ms ih =>
    obtain ⟨q, m'⟩ := mark
    by_cases here : q = p <;> by_cases same : m' = m <;> simp_all [placesOf, marksOf, Place.id_inj]

theorem Paired.took (h : Paired marks false) : Paired (marks ++ [.took]) true := by
  obtain ⟨n, rfl⟩ := h
  exact ⟨n, by simp⟩

theorem Paired.sent (h : Paired marks true) : Paired (marks ++ [.sent]) false := by
  obtain ⟨n, rfl⟩ := h
  exact ⟨n + 1, by simp [List.replicate_succ', List.flatten_append]⟩

theorem Paired.count {holding : Bool} (h : Paired marks holding) :
    marks.count .took = marks.count .sent + holding.toNat := by
  obtain ⟨n, rfl⟩ := h
  have pairs : ∀ m : Mark, ((List.replicate n [Mark.took, Mark.sent]).flatten).count m = n := by
    intro m
    cases m <;> simp [List.count_flatten]
  cases holding <;> simp [pairs]

end

/-! ## The account -/

/-- What tokens and requests have to do with each other. -/
structure Account (pace : Pace) (u : Turnstile) (standing : Place → Standing) (ms : List (Place × Mark)) : Prop where
  sound : u.shared.Sound pace
  passed : u.passed = placesOf .took ms
  paired : ∀ p, Paired (marksOf p ms) (standing p).isHolding
  /-- Nobody goes on without a token that was granted to it. -/
  granted : ∀ p : Place, u.passed.count p.id ≤ u.shared.granted.count p.id
  /-- Nobody asks for another token before it went on with the one that it asked for. -/
  asked : ∀ p : Place, u.shared.arrived.count p.id ≤ u.passed.count p.id + (standing p).isAwaiting.toNat

namespace Account

variable {pace : Pace} {u u' : Turnstile} {standing : Place → Standing} {ms : List (Place × Mark)} {p : Place}

theorem new (capacity : Nat) (window : Duration) :
    Account (.of capacity window) (.new capacity window) (fun _ => .idle) [] where
  sound := Shared.sound_new capacity window
  passed := rfl
  paired _ := ⟨0, rfl⟩
  granted _ := Nat.le_refl _
  asked _ := Nat.le_refl _

/-- What the limiter does for itself takes no token from anyone. -/
theorem drift (account : Account pace u standing ms) (positive : 0 < pace.period.toNanos) {s : Shared}
    (drifts : u.shared.Drifts s) : Account pace { u with shared := s } standing ms where
  sound := account.sound.drifts positive drifts
  passed := account.passed
  paired := account.paired
  granted p := by
    have longer := (Shared.Step.drift drifts).extends.granted
    exact Nat.le_trans (account.granted p) (longer.sublist.count_le _)
  asked p := by
    have same : s.arrived = u.shared.arrived := by cases drifts <;> rfl
    rw [same]
    exact account.asked p

theorem count_append (l : List Nat) (p q : Place) :
    (l ++ [p.id]).count q.id = l.count q.id + if q = p then 1 else 0 := by
  by_cases same : q = p
  · simp [same]
  · simp [same, Place.id_inj, Ne.symm same]

/-- The marks of all places are paired if those of the place that moves are. -/
theorem paired_move (account : Account pace u standing ms) {more : List Mark} {b : Standing}
    (here : Paired (marksOf p ms ++ more) b.isHolding) (q : Place) :
    Paired (marksOf q (ms ++ more.map (p, ·))) (Function.update standing p b q).isHolding := by
  by_cases same : q = p
  · subst same
    rw [marksOf_append_self, Function.update_self]
    exact here
  · rw [marksOf_append_of_ne same, Function.update_of_ne same]
    exact account.paired q

theorem passed_move (account : Account pace u standing ms) :
    u.passed ++ [p.id] = placesOf .took (ms ++ [Mark.took].map (p, ·)) := by
  simp [placesOf, account.passed]

/-- Who asks and who goes on can only change for the place that moves. -/
theorem asked_move (account : Account pace u standing ms) {b : Standing}
    (others : ∀ q ≠ p, u'.shared.arrived.count q.id = u.shared.arrived.count q.id ∧
      u'.passed.count q.id = u.passed.count q.id)
    (here : u'.shared.arrived.count p.id ≤ u'.passed.count p.id + b.isAwaiting.toNat) (q : Place) :
    u'.shared.arrived.count q.id ≤ u'.passed.count q.id + (Function.update standing p b q).isAwaiting.toNat := by
  by_cases same : q = p
  · subst same
    rw [Function.update_self]
    exact here
  · rw [Function.update_of_ne same, (others q same).1, (others q same).2]
    exact account.asked q

/-- A move of one place keeps the account. -/
theorem move (account : Account pace u standing ms) (positive : 0 < pace.period.toNanos) {a b : Standing}
    {more : List Mark} (stands : standing p = a) (moves : u.Moves p.id a more u' b) :
    Account pace u' (Function.update standing p b) (ms ++ more.map (p, ·)) := by
  have paired := account.paired p
  have asked := account.asked p
  have idle : ∀ q ≠ p, u.shared.arrived.count q.id = u.shared.arrived.count q.id ∧
      u.passed.count q.id = u.passed.count q.id := fun _ _ => ⟨rfl, rfl⟩
  rw [stands] at paired asked
  cases moves with
  | stay =>
    rw [← stands, Function.update_eq_self, List.map_nil, List.append_nil]
    exact account
  | ask =>
    refine { account with passed := ?_, paired := account.paired_move ?_, asked := account.asked_move idle ?_ }
    · rw [List.map_nil, List.append_nil, account.passed]
    · rwa [List.append_nil]
    · exact Nat.le_succ_of_le asked
  | wait fresh =>
    have keeps : (u.wait p.id).shared.Sound pace := account.sound.step positive (.wait p.id)
    have longer : u.shared.Extends (u.wait p.id).shared := (Shared.Step.wait p.id).extends
    have joins : (u.wait p.id).shared.arrived = u.shared.arrived ++ [p.id] := by
      rcases Nat.eq_zero_or_pos u.shared.bucket.available with empty | filled
      · rw [Turnstile.wait, Shared.wait_of_zero empty, Shared.enqueue]
      · rw [Turnstile.wait, Shared.wait_of_pos filled, Shared.grant]
    refine ⟨keeps, ?_, account.paired_move ?_, fun q => ?_, account.asked_move (fun q other => ?_) ?_⟩
    · rw [List.map_nil, List.append_nil]
      exact account.passed
    · rwa [List.append_nil]
    · exact Nat.le_trans (account.granted q) (longer.granted.sublist.count_le _)
    · rw [joins, count_append, if_neg other]
      exact ⟨rfl, rfl⟩
    · rw [joins, count_append, if_pos rfl, fresh]
      exact Nat.le_refl _
  | pass granted =>
    refine ⟨account.sound, account.passed_move, account.paired_move paired.took, fun q => ?_,
      account.asked_move (fun q other => ⟨rfl, ?_⟩) ?_⟩
    · rw [Turnstile.pass, count_append]
      split
      · next same =>
        subst same
        exact granted
      · exact account.granted q
    · rw [Turnstile.pass, count_append, if_neg other, Nat.add_zero]
    · rw [Turnstile.pass, count_append, if_pos rfl]
      exact asked
  | takeAtOnce filled =>
    rw [Turnstile.allow_of_pos filled]
    refine ⟨account.sound.grant filled p.id, account.passed_move, account.paired_move paired.took, fun q => ?_,
      account.asked_move (fun q other => ?_) ?_⟩
    · rw [Shared.grant, count_append, count_append]
      exact Nat.add_le_add_right (account.granted q) _
    · rw [Shared.grant, count_append, count_append, if_neg other]
      exact ⟨rfl, rfl⟩
    · rw [Shared.grant, count_append, count_append, if_pos rfl]
      exact Nat.add_le_add_right asked 1
  | send =>
    refine { account with
      passed := ?_, paired := account.paired_move paired.sent, asked := account.asked_move idle asked }
    rw [account.passed]
    simp [placesOf]

/-- **Every step keeps the account.** -/
theorem change (account : Account pace u standing ms) (positive : 0 < pace.period.toNanos)
    {more : List (Place × Mark)} {standing' : Place → Standing} (change : u.Change standing more u' standing') :
    Account pace u' standing' (ms ++ more) := by
  cases change with
  | move moves => exact account.move positive rfl moves
  | none =>
    rw [List.append_nil]
    exact account
  | drift drifts =>
    rw [List.append_nil]
    exact account.drift positive drifts

/-- **One request for each token**, place by place: of the tokens that a place was granted each had its request, but
for one that the place holds or is about to get. -/
theorem granted_eq (account : Account pace u standing ms) (p : Place) :
    (placesOf .sent ms).count p.id ≤ u.shared.granted.count p.id ∧
    (standing p = .idle → u.shared.granted.count p.id = (placesOf .sent ms).count p.id) ∧
    (standing p = .holding → u.shared.granted.count p.id = (placesOf .sent ms).count p.id + 1) ∧
    u.shared.granted.count p.id ≤ (placesOf .sent ms).count p.id + 1 := by
  have took := (account.paired p).count
  rw [← count_placesOf, ← count_placesOf, ← account.passed] at took
  have granted := account.granted p
  have asked := account.asked p
  have order : u.shared.granted.count p.id ≤ u.shared.arrived.count p.id := by
    rw [← account.sound.order, List.count_append]
    exact Nat.le_add_right _ _
  cases stands : standing p <;> rw [stands] at took asked <;>
    simp only [Standing.isHolding, Standing.isAwaiting, Bool.toNat_false, Bool.toNat_true, Nat.add_zero] at took asked
  case idle => exact ⟨by omega, fun _ => by omega, nofun, by omega⟩
  case awaiting => exact ⟨by omega, nofun, nofun, by omega⟩
  case holding => exact ⟨by omega, nofun, fun _ => by omega, by omega⟩

/-- There were no more requests than granted tokens. -/
theorem sent_le (account : Account pace u standing ms) : (placesOf .sent ms).length ≤ u.shared.granted.length := by
  have each : ∀ c ∈ placesOf .sent ms, (placesOf .sent ms).count c ≤ u.shared.granted.count c := by
    intro c _
    obtain ⟨p, rfl⟩ := Place.exists_id c
    exact (account.granted_eq p).1
  exact (List.subperm_ext_iff.2 each).length_le

end Account

end ChainIndex.Running
