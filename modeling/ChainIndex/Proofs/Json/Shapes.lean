import ChainIndex.Json.Shape
import ChainIndex.Proofs.Text.Integer
import Mathlib.Data.List.Forall2

/-!
# What a shape takes

A shape is a reader; what it takes a tree for is a relation between trees and values. A reader is **`Exact`** for a
relation if it gives a value just where the relation holds. There is a relation for each way of building shapes, and
the shape that is built is exact if its parts are: so what a whole answer is taken for can be told field by field.

A structure is an object or an array. `Structured` says that a tree can be one with some known fields and `entry` what
it has for each of them, and all that a reader does with a structure comes down to these two (`bind_members`).
-/

namespace ChainIndex.Json

variable {α β : Type} {shape : Shape α} {depth : Nat} {R : Syntax → α → Prop} {j : Syntax} {names : List String}
  {name : String}

/-- A shape gives a value at a depth just where a relation holds. -/
def Exact (shape : Shape α) (depth : Nat) (R : Syntax → α → Prop) : Prop :=
  ∀ j a, shape depth j = some a ↔ R j a

theorem Exact.iff (part : Exact shape depth R) {a : α} : shape depth j = some a ↔ R j a := part j a

/-! ## Values -/

/-- A string that stands for a text. -/
inductive IsText : Syntax → String → Prop
  | str {raw s} (means : textOf? raw = some s) : IsText (.str raw) s

/-- A number of sixty-four bits without a sign in either spelling; the one without quotes has to fit sixty-four bits
with a sign. -/
inductive Counts : Syntax → UInt64 → Prop
  | number {n c} (means : n.value? = some (.int c.toNat)) (fits : c.toNat < signedBound) : Counts (.number n) c
  | str {raw s c} (means : textOf? raw = some s) (spelt : Text.Spelt s c.toNat) : Counts (.str raw) c

/-- A number of sixty-four bits with a sign, without quotes. -/
inductive IsWhole : Syntax → Int64 → Prop
  | number {n i} (means : n.value? = some (.int i)) (fits : -(signedBound : Int) ≤ i ∧ i < signedBound) :
    IsWhole (.number n) (.ofInt i)

/-- Null, or something of a kind. -/
inductive Nullable (R : Syntax → α → Prop) : Syntax → Option α → Prop
  | null : Nullable R .null none
  | value {j a} (some_ : j ≠ .null) (means : R j a) : Nullable R j (some a)

/-- Something of a kind, or null for its usual value. -/
inductive NullAs (usual : α) (R : Syntax → α → Prop) : Syntax → α → Prop
  | null : NullAs usual R .null usual
  | value {j a} (some_ : j ≠ .null) (means : R j a) : NullAs usual R j a

/-- An array of things of a kind. -/
inductive Lists (R : Syntax → α → Prop) : Syntax → List α → Prop
  | arr {elements as} (each : List.Forall₂ R elements as) : Lists R (.arr elements) as

theorem text_exact : Exact Shape.text depth IsText := by
  intro j s
  cases j with
  | str raw => exact ⟨.str, fun ⟨means⟩ => means⟩
  | _ => exact ⟨nofun, nofun⟩

theorem wholeNumber?_eq_some {n : Numeral} {i : Int} :
    Shape.wholeNumber? n = some i ↔ n.value? = some (.int i) ∧ -signedBound ≤ i ∧ i < signedBound := by
  unfold Shape.wholeNumber?
  split
  · next k read =>
    rw [read]
    by_cases fits : -signedBound ≤ k ∧ k < signedBound
    · rw [if_pos fits, Option.some_inj, Option.some_inj, Json.int.injEq]
      exact ⟨fun same => ⟨same, same ▸ fits⟩, fun ⟨same, _⟩ => same⟩
    · rw [if_neg fits, Option.some_inj, Json.int.injEq]
      exact ⟨nofun, fun ⟨same, fits'⟩ => absurd (same ▸ fits') fits⟩
  · next other =>
    exact ⟨nofun, fun ⟨read, _⟩ => absurd read (other i)⟩

theorem readNat64_toUInt64 {s : String} {c : UInt64} :
    Nat.toUInt64 <$> (Text.readNat64 s).toOption = some c ↔ Text.Spelt s c.toNat := by
  have small := c.toNat_lt
  have read : Text.readNat64 s = .ok c.toNat ↔ Text.Spelt s c.toNat := by
    rw [Text.readNat64, Text.readNat_eq_ok]
    exact and_iff_left (by simp only [UInt64.size]; omega)
  rw [← read]
  cases value : Text.readNat64 s with
  | error fault => exact ⟨nofun, nofun⟩
  | ok n =>
    have fits := (Text.readNat_eq_ok.1 value).2
    simp only [Except.toOption, Option.map_eq_map, Option.map_some, Option.some_inj, Except.ok.injEq]
    constructor
    · rintro rfl
      exact (UInt64.toNat_ofNat_of_lt' (Nat.lt_of_le_pred (by decide) fits)).symm
    · rintro rfl
      exact UInt64.ofNat_toNat

theorem word64_exact : Exact Shape.word64 depth Counts := by
  intro j c
  cases j with
  | number n =>
    simp only [Shape.word64, Option.bind_eq_bind, Option.bind_eq_some_iff, wholeNumber?_eq_some]
    constructor
    · rintro ⟨i, ⟨read, -, small⟩, taken⟩
      by_cases positive : 0 ≤ i
      · rw [if_pos positive, Option.some_inj] at taken
        have fits : i.toNat < UInt64.size := by
          simp only [signedBound, UInt64.size] at small ⊢
          omega
        have same : (c.toNat : Int) = i := by
          rw [← taken, Nat.toUInt64, UInt64.toNat_ofNat_of_lt' fits]
          exact Int.toNat_of_nonneg positive
        exact .number (same ▸ read) (by omega)
      · rw [if_neg positive] at taken
        cases taken
    · rintro ⟨read, small⟩
      refine ⟨c.toNat, ⟨read, ?_, by omega⟩, ?_⟩
      · simp only [signedBound]
        omega
      · rw [if_pos (Int.natCast_nonneg _), Int.toNat_natCast]
        exact congrArg some UInt64.ofNat_toNat
  | str raw =>
    simp only [Shape.word64, Option.bind_eq_bind, Option.bind_eq_some_iff, readNat64_toUInt64]
    exact ⟨fun ⟨s, means, spelt⟩ => .str means spelt, fun | .str means spelt => ⟨_, means, spelt⟩⟩
  | _ => exact ⟨nofun, nofun⟩

theorem nullable_exact (part : Exact shape depth R) : Exact (Shape.nullable shape) depth (Nullable R) := by
  intro j o
  by_cases null : j = .null
  · subst null
    have nothing : Shape.nullable shape depth .null = some none := by cases depth <;> rfl
    rw [nothing, Option.some_inj]
    constructor
    · rintro rfl
      exact .null
    · rintro (_ | ⟨some_, _⟩)
      · rfl
      · exact absurd rfl some_
  · have something : Shape.nullable shape depth j = (shape depth j).map some := by
      cases j with
      | null => exact absurd rfl null
      | _ => rfl
    rw [something, Option.map_eq_some_iff]
    constructor
    · rintro ⟨a, read, rfl⟩
      exact .value null (part.iff.1 read)
    · rintro (_ | ⟨_, means⟩)
      · exact absurd rfl null
      · exact ⟨_, part.iff.2 means, rfl⟩

theorem nullAs_exact {usual : α} (part : Exact shape depth R) :
    Exact (Shape.nullAs usual shape) depth (NullAs usual R) := by
  intro j a
  rw [Shape.nullAs, Option.map_eq_some_iff]
  simp only [(nullable_exact part).iff]
  constructor
  · rintro ⟨_, null | ⟨some_, means⟩, rfl⟩
    · exact .null
    · exact .value some_ means
  · rintro (_ | ⟨some_, means⟩)
    · exact ⟨none, .null, rfl⟩
    · exact ⟨some a, .value some_ means, rfl⟩

/-- A list is mapped if every element is, each to the element at its place. -/
theorem mapM_eq_some {f : α → Option β} {as : List α} {bs : List β} :
    as.mapM f = some bs ↔ List.Forall₂ (fun a b => f a = some b) as bs := by
  induction as generalizing bs with
  | nil => simp [eq_comm]
  | cons a as ih =>
    simp only [List.mapM_cons, Option.bind_eq_bind, Option.bind_eq_some_iff, Option.pure_def, Option.some_inj, ih,
      List.forall₂_cons_left_iff]
    exact ⟨fun ⟨b, at_, bs', rest, same⟩ => ⟨b, bs', at_, rest, same.symm⟩,
      fun ⟨b, bs', at_, rest, same⟩ => ⟨b, at_, bs', rest, same.symm⟩⟩

theorem list_exact (part : Exact shape depth R) : Exact (Shape.list shape) (depth + 1) (Lists R) := by
  intro j as
  cases j with
  | arr elements =>
    rw [Shape.list, mapM_eq_some]
    simp only [part.iff]
    exact ⟨.arr, fun ⟨each⟩ => each⟩
  | _ => exact ⟨nofun, nofun⟩

theorem map?_exact {f : α → Option β} (part : Exact shape depth R) :
    Exact (Shape.map? f shape) depth fun j b => ∃ a, R j a ∧ f a = some b := by
  intro j b
  simp only [Shape.map?, Option.bind_eq_bind, Option.bind_eq_some_iff, part.iff]

/-! ## Structures -/

/-- What stands in an object under a key. -/
def under (name : String) (fields : List (List UInt8 × Syntax)) : List Syntax :=
  (fields.filter fun f => textOf? f.1 = some name).map Prod.snd

/-- A tree can be a structure with some known fields: it is an object whose keys are texts and which has no known field
twice, or an array with no more elements than there are fields. -/
inductive Structured (names : List String) : Syntax → Prop
  | object {fields} (texts : ∀ f ∈ fields, (textOf? f.1).isSome)
      (once : ∀ name ∈ names, (under name fields).length ≤ 1) : Structured names (.obj fields)
  | array {elements} (fits : elements.length ≤ names.length) : Structured names (.arr elements)

/-- What a structure has for a field: in an object, what stands under its name; in an array, what is in its place. -/
def entry (names : List String) : Syntax → (name : String) → Option Syntax
  | .obj fields, name => (under name fields).head?
  | .arr elements, name => (names.zip elements).lookup name
  | _, _ => none

/-- A structure with some known fields, of which something holds. -/
def Record (names : List String) (holds : (field : String → Option Syntax) → α → Prop) (j : Syntax) (a : α) : Prop :=
  Structured names j ∧ holds (entry names j) a

/-- A field that has to be there. -/
inductive Given (R : Syntax → α → Prop) : Option Syntax → α → Prop
  | found {j a} (means : R j a) : Given R (some j) a

/-- A field with a usual value. -/
inductive GivenOr (usual : α) (R : Syntax → α → Prop) : Option Syntax → α → Prop
  | found {j a} (means : R j a) : GivenOr usual R (some j) a
  | absent : GivenOr usual R none usual

/-- A field of a structure that may be null, or absent from an object. -/
inductive Optional (R : Syntax → α → Prop) : (structure_ : Syntax) → Option Syntax → Option α → Prop
  | found {j v o} (means : Nullable R v o) : Optional R j (some v) o
  | absent {fields} : Optional R (.obj fields) none none

/-- What holds of the value of a field wherever it is read may stand beside the field. -/
theorem given_and {P : α → Prop} {found : Option Syntax} {a : α} :
    Given (fun j a => P a ∧ R j a) found a ↔ P a ∧ Given R found a := by
  constructor
  · rintro ⟨holds, means⟩
    exact ⟨holds, .found means⟩
  · rintro ⟨holds, ⟨means⟩⟩
    exact .found ⟨holds, means⟩

section

variable {fields : List (List UInt8 × Syntax)} {found : List (String × Syntax)} {raw : List UInt8} {v : Syntax}
  {key : String}

theorem under_cons_self (means : textOf? raw = some key) : under key ((raw, v) :: fields) = v :: under key fields := by
  simp [under, means]

theorem under_cons_of_ne (means : textOf? raw = some key) (other : name ≠ key) :
    under name ((raw, v) :: fields) = under name fields := by
  have skipped : ¬ textOf? raw = some name := by
    rw [means, Option.some_inj]
    exact other.symm
  simp [under, skipped]

theorem length_under_le_cons (f : List UInt8 × Syntax) :
    (under name fields).length ≤ (under name (f :: fields)).length := by
  rw [under, under, List.length_map, List.length_map]
  exact ((List.sublist_cons_self f fields).filter _).length_le

theorem of_knownFields (read : knownFields names fields = some found) :
    (∀ f ∈ fields, (textOf? f.1).isSome) ∧ ∀ name ∈ names, under name fields = (found.lookup name).toList := by
  induction fields generalizing found with
  | nil =>
    obtain rfl := Option.some_inj.1 read
    exact ⟨nofun, fun _ _ => rfl⟩
  | cons f rest ih =>
    obtain ⟨raw, v⟩ := f
    simp only [knownFields, Option.bind_eq_bind, Option.bind_eq_some_iff] at read
    obtain ⟨key, means, later, readLater, read⟩ := read
    obtain ⟨texts, each⟩ := ih readLater
    refine ⟨List.forall_mem_cons.2 ⟨by rw [means]; rfl, texts⟩, fun name known => ?_⟩
    by_cases same : name = key
    · subst same
      rw [under_cons_self means, each name known]
      simp only [List.contains_iff_mem.2 known, Bool.not_true, Bool.false_eq_true, if_false] at read
      cases again : later.lookup name with
      | some w => simp [again] at read
      | none =>
        simp only [again, Option.isSome_none, Bool.false_eq_true, if_false, Option.some_inj] at read
        subst read
        simp
    · rw [under_cons_of_ne means same, each name known]
      split at read
      · exact congrArg _ (congrArg _ (Option.some_inj.1 read))
      · split at read
        · cases read
        · obtain rfl := Option.some_inj.1 read
          rw [List.lookup_cons, beq_false_of_ne same]

theorem exists_knownFields (texts : ∀ f ∈ fields, (textOf? f.1).isSome)
    (once : ∀ name ∈ names, (under name fields).length ≤ 1) : ∃ found, knownFields names fields = some found := by
  induction fields with
  | nil => exact ⟨[], rfl⟩
  | cons f rest ih =>
    obtain ⟨raw, v⟩ := f
    obtain ⟨text, texts⟩ := List.forall_mem_cons.1 texts
    obtain ⟨later, read⟩ := ih texts fun name known => Nat.le_trans (length_under_le_cons _) (once name known)
    obtain ⟨key, means⟩ := Option.isSome_iff_exists.1 text
    simp only [knownFields, means, read, Option.bind_eq_bind, Option.bind_some]
    by_cases known : key ∈ names
    · have single := once key known
      rw [under_cons_self means, (of_knownFields read).2 key known] at single
      cases again : later.lookup key with
      | some w => simp [again] at single
      | none => simp [known]
    · simp [known]

end

/-- The known fields that were found are what a tree has for them. -/
structure Reads (names : List String) (depth : Nat) (j : Syntax) (m : Members) : Prop where
  depth : m.depth = depth
  lookup : ∀ name ∈ names, m.found.lookup name = entry names j name
  positional : m.positional = false ↔ ∃ fields, j = .obj fields

theorem members_reads {m : Members} (read : members names (depth + 1) j = some m) :
    Structured names j ∧ Reads names depth j m := by
  cases j with
  | obj fields =>
    simp only [members, Option.bind_eq_bind, Option.bind_eq_some_iff] at read
    obtain ⟨found, known, same⟩ := read
    obtain rfl := Option.some_inj.1 same
    obtain ⟨texts, each⟩ := of_knownFields known
    refine ⟨.object texts fun name member => ?_, rfl, fun name member => ?_, by simp⟩
    · rw [each name member]
      exact Option.length_toList_le
    · rw [entry, each name member, Option.head?_toList]
  | arr elements =>
    rw [members] at read
    by_cases long : names.length < elements.length
    · rw [if_pos long] at read
      cases read
    · rw [if_neg long] at read
      obtain rfl := Option.some_inj.1 read
      exact ⟨.array (Nat.le_of_not_lt long), rfl, fun _ _ => rfl, by simp⟩
  | _ => cases read

theorem exists_members (depth : Nat) (structured : Structured names j) : ∃ m, members names (depth + 1) j = some m := by
  cases structured with
  | object texts once =>
    obtain ⟨found, known⟩ := exists_knownFields texts once
    exact ⟨_, by rw [members, known]; rfl⟩
  | array fits => exact ⟨_, by rw [members, if_neg (Nat.not_lt.2 fits)]⟩

/-- **A structure is read if the tree is one**, and then as its fields say. -/
theorem bind_members {f : Members → Option β} {b : β} {P : Prop}
    (each : ∀ {m}, Reads names depth j m → (f m = some b ↔ P)) :
    (members names (depth + 1) j >>= f) = some b ↔ Structured names j ∧ P := by
  rw [Option.bind_eq_bind, Option.bind_eq_some_iff]
  constructor
  · rintro ⟨m, read, rest⟩
    obtain ⟨structured, reads⟩ := members_reads read
    exact ⟨structured, (each reads).1 rest⟩
  · rintro ⟨structured, holds⟩
    obtain ⟨m, read⟩ := exists_members depth structured
    exact ⟨m, read, (each (members_reads read).2).2 holds⟩

namespace Reads

variable {m : Members} {a : α}

theorem need (reads : Reads names depth j m) (part : Exact shape depth R) (known : name ∈ names) :
    m.need name shape = some a ↔ Given R (entry names j name) a := by
  rw [Members.need, reads.lookup name known, reads.depth]
  cases entry names j name with
  | none => exact ⟨nofun, nofun⟩
  | some v => exact ⟨fun read => .found (part.iff.1 read), fun ⟨means⟩ => part.iff.2 means⟩

theorem getOr {usual : α} (reads : Reads names depth j m) (part : Exact shape depth R) (known : name ∈ names) :
    m.getOr name usual shape = some a ↔ GivenOr usual R (entry names j name) a := by
  rw [Members.getOr, reads.lookup name known, reads.depth]
  cases entry names j name with
  | none =>
    rw [Option.some_inj]
    constructor
    · rintro rfl
      exact .absent
    · rintro ⟨⟩
      rfl
  | some v => exact ⟨fun read => .found (part.iff.1 read), fun | .found means => part.iff.2 means⟩

theorem optional {o : Option α} (reads : Reads names depth j m) (part : Exact shape depth R)
    (known : name ∈ names) : m.optional name shape = some o ↔ Optional R j (entry names j name) o := by
  rw [Members.optional, reads.lookup name known, reads.depth]
  cases entry names j name with
  | none =>
    cases positional : m.positional with
    | false =>
      obtain ⟨fields, rfl⟩ := reads.positional.1 positional
      rw [if_neg Bool.false_ne_true, Option.some_inj]
      constructor
      · rintro rfl
        exact .absent
      · rintro ⟨⟩
        rfl
    | true =>
      refine ⟨nofun, ?_⟩
      rintro ⟨⟩
      have object := reads.positional.2 ⟨_, rfl⟩
      rw [positional] at object
      cases object
  | some v =>
    have or_null := nullable_exact part
    exact ⟨fun read => .found (or_null.iff.1 read), fun | .found means => or_null.iff.2 means⟩

end Reads

end ChainIndex.Json
