import ChainIndex.Json.Value
import ChainIndex.Proofs.Json.Numerals
import ChainIndex.Proofs.Json.Shapes
import ChainIndex.Proofs.Json.Strings

/-!
# Values as they are written

Every value is written as the text of a tree that expresses it, on one line (`exists_render`). A tree expresses a value
if its strings stand for the texts of the value, its whole numbers are those of the value, and every other number in it
is rounded to the double in its place. The fields of an object stand in the order of their keys, so what an object has
under a key is expressed there once (`Expresses.lookup`).
-/

namespace ChainIndex.Json

/-- A field expresses another one: its key stands for the other's, and its value expresses the other's. -/
inductive ExpressesField (R : Syntax → Json → Prop) : List UInt8 × Syntax → String × Json → Prop
  | mk {raw : List UInt8} {t : Syntax} {key : String} {v : Json} (means : textOf? raw = some key) (value : R t v) :
      ExpressesField R (raw, t) (key, v)

/-- A tree expresses a value. A double that is no number has no spelling; null stands in its place. -/
inductive Expresses : Syntax → Json → Prop
  | null : Expresses .null .null
  | bool (b : Bool) : Expresses (.bool b) (.bool b)
  | int {n : Numeral} {k : Int} (whole : ¬n.IsBroken) (same : n.quantity = k) : Expresses (.number n) (.int k)
  | float {n : Numeral} {bits : UInt64} {negative : Bool} {m : Nat} {q : Int}
      (finite : Binary64.ofBits bits = .finite negative m q) (sign : n.negative = negative) (broken : n.IsBroken)
      (rounds : RoundsTo m q n.magnitude) : Expresses (.number n) (.float bits)
  | noFloat {bits : UInt64} (infinite : ∀ negative m q, Binary64.ofBits bits ≠ .finite negative m q) :
      Expresses .null (.float bits)
  | str {raw : List UInt8} {s : String} (means : textOf? raw = some s) : Expresses (.str raw) (.str s)
  | arr {ts : List Syntax} {js : List Json} (each : List.Forall₂ Expresses ts js) : Expresses (.arr ts) (.arr js)
  | obj {gs : List (List UInt8 × Syntax)} {fs : List (String × Json)}
      (each : List.Forall₂ (ExpressesField Expresses) gs fs) : Expresses (.obj gs) (.obj fs)

/-! ## As bytes -/

theorem toList_append (s s' : String) : bytesOf (s ++ s').toList = bytesOf s.toList ++ bytesOf s'.toList := by
  rw [String.toList_append, bytesOf_append]

theorem toList_push (s : String) (c : Char) : bytesOf (s.push c).toList = bytesOf s.toList ++ bytesOf [c] := by
  rw [String.toList_push, bytesOf_append]

/-- What is written before the value of a field. -/
theorem toList_key (out k : String) :
    bytesOf (out ++ quote k ++ ":").toList = bytesOf out.toList ++ 34 :: (rawOf k ++ [34] ++ [58]) := by
  rw [toList_append, toList_append, bytesOf_quote, List.append_assoc]
  rfl

theorem newline_not_mem_further {close : UInt8} (other : close ≠ 10) {texts : List (List UInt8)}
    (each : ∀ text ∈ texts, 10 ∉ text) : 10 ∉ further close texts := by
  induction texts with
  | nil => simpa [further] using other.symm
  | cons text texts ih =>
    obtain ⟨first, each⟩ := List.forall_mem_cons.1 each
    simp [further, first, ih each]

theorem newline_not_mem_enclosed {open_ close : UInt8} (other : open_ ≠ 10) (other' : close ≠ 10)
    {texts : List (List UInt8)} (each : ∀ text ∈ texts, 10 ∉ text) : 10 ∉ enclosed open_ close texts := by
  cases texts with
  | nil => simp [enclosed, other.symm, other'.symm]
  | cons text texts =>
    obtain ⟨first, each⟩ := List.forall_mem_cons.1 each
    simp [enclosed, other.symm, first, newline_not_mem_further other' each]

/-! ## Writing -/

/-- The text of a tree that expresses a value, on one line. -/
structure Writes (text : List UInt8) (t : Syntax) (j : Json) : Prop where
  denotes : Denotes text t
  oneLine : 10 ∉ text
  expresses : Expresses t j

/-- The texts of several values. -/
structure WritesElements (texts : List (List UInt8)) (ts : List Syntax) (js : List Json) : Prop where
  denotes : List.Forall₂ Denotes texts ts
  oneLine : ∀ text ∈ texts, 10 ∉ text
  expresses : List.Forall₂ Expresses ts js

/-- The keys and the texts of several fields. -/
structure WritesFields (parts : List (List UInt8 × List UInt8)) (gs : List (List UInt8 × Syntax))
    (fs : List (String × Json)) : Prop where
  denotes : List.Forall₂ DenotesField parts gs
  oneLine : ∀ text ∈ parts.map fieldText, 10 ∉ text
  expresses : List.Forall₂ (ExpressesField Expresses) gs fs

variable {text : List UInt8} {t : Syntax} {j : Json} {k : String}

theorem WritesElements.nil : WritesElements [] [] [] := ⟨.nil, nofun, .nil⟩

theorem WritesElements.cons {texts : List (List UInt8)} {ts : List Syntax} {js : List Json}
    (rest : WritesElements texts ts js) (first : Writes text t j) :
    WritesElements (text :: texts) (t :: ts) (j :: js) where
  denotes := .cons first.denotes rest.denotes
  oneLine := List.forall_mem_cons.2 ⟨first.oneLine, rest.oneLine⟩
  expresses := .cons first.expresses rest.expresses

theorem WritesElements.arr {texts : List (List UInt8)} {ts : List Syntax} {js : List Json}
    (h : WritesElements texts ts js) : Writes (enclosed 91 93 texts) (.arr ts) (.arr js) where
  denotes := .arr h.denotes
  oneLine := newline_not_mem_enclosed (by decide) (by decide) h.oneLine
  expresses := .arr h.expresses

theorem WritesFields.nil : WritesFields [] [] [] := ⟨.nil, nofun, .nil⟩

theorem WritesFields.cons {parts : List (List UInt8 × List UInt8)} {gs : List (List UInt8 × Syntax)}
    {fs : List (String × Json)} (rest : WritesFields parts gs fs) (k : String) (first : Writes text t j) :
    WritesFields ((rawOf k, text) :: parts) ((rawOf k, t) :: gs) ((k, j) :: fs) where
  denotes := .cons ⟨rfl, quotable_rawOf k, first.denotes⟩ rest.denotes
  oneLine := by
    rw [List.map_cons, List.forall_mem_cons]
    exact ⟨by simp [fieldText, newline_not_mem_rawOf, first.oneLine], rest.oneLine⟩
  expresses := .cons (.mk (textOf?_rawOf k) first.expresses) rest.expresses

theorem WritesFields.obj {parts : List (List UInt8 × List UInt8)} {gs : List (List UInt8 × Syntax)}
    {fs : List (String × Json)} (h : WritesFields parts gs fs) :
    Writes (enclosed 123 125 (parts.map fieldText)) (.obj gs) (.obj fs) where
  denotes := .obj h.denotes
  oneLine := newline_not_mem_enclosed (by decide) (by decide) h.oneLine
  expresses := .obj h.expresses

theorem exists_writeFloat (bits : UInt64) : ∃ t, Writes (bytesOf (writeFloat bits).toList) t (.float bits) := by
  rw [writeFloat]
  split
  · next negative m q finite =>
    obtain ⟨n, sound, bytes, sign, broken, rounds⟩ := exists_bytes_write floatLayout finite
    rw [bytes]
    exact ⟨_, denotes_number sound, newline_not_mem_bytes sound, .float finite sign broken rounds⟩
  · next infinite => exact ⟨_, denotes_null, by decide, .noFloat infinite⟩

theorem writes_toString (n : Int) : Writes (bytesOf (toString n).toList) (.number (numeralOf n)) (.int n) := by
  have whole : ¬(numeralOf n).IsBroken := by simp [Numeral.IsBroken, numeralOf]
  have sound := numeralOf_sound n
  rw [bytesOf_toString]
  exact ⟨denotes_number sound, newline_not_mem_bytes sound, .int whole (quantity_numeralOf n)⟩

theorem writes_quote (s : String) : Writes (bytesOf (quote s).toList) (.str (rawOf s)) (.str s) where
  denotes := denotes_quote s
  oneLine := by
    rw [bytesOf_quote]
    simp [newline_not_mem_rawOf]
  expresses := .str (textOf?_rawOf s)

mutual

/-- What is written for a value behind other text. -/
theorem exists_renderOnto (out : String) : ∀ j : Json,
    ∃ text t, bytesOf (renderOnto out j).toList = bytesOf out.toList ++ text ∧ Writes text t j
  | .null => ⟨_, _, toList_append _ _, denotes_null, by decide, .null⟩
  | .bool true => ⟨_, _, toList_append _ _, denotes_true, by decide, .bool true⟩
  | .bool false => ⟨_, _, toList_append _ _, denotes_false, by decide, .bool false⟩
  | .int n => ⟨_, _, toList_append _ _, writes_toString n⟩
  | .float bits => (exists_writeFloat bits).elim fun t writes => ⟨_, t, toList_append _ _, writes⟩
  | .str s => ⟨_, _, toList_append _ _, writes_quote s⟩
  | .arr [] => ⟨_, _, toList_append _ _, WritesElements.nil.arr⟩
  | .arr (v :: rest) => by
    -- The rest is written behind the first element, so both are found for what stands before them.
    obtain ⟨text, t, bytes, first⟩ := exists_renderOnto (out ++ "[") v
    obtain ⟨texts, ts, bytes', later⟩ := exists_renderElements (renderOnto (out ++ "[") v) rest
    refine ⟨_, _, ?_, (later.cons first).arr⟩
    rw [renderOnto, bytes', bytes, toList_append, List.append_assoc, List.append_assoc]
    rfl
  | .obj [] => ⟨_, _, by rw [renderOnto, toList_push, toList_push, List.append_assoc]; rfl, WritesFields.nil.obj⟩
  | .obj ((k, v) :: rest) => by
    obtain ⟨text, t, bytes, first⟩ := exists_renderOnto (out.push '\x7b' ++ quote k ++ ":") v
    obtain ⟨parts, gs, bytes', later⟩ := exists_renderFields (renderOnto (out.push '\x7b' ++ quote k ++ ":") v) rest
    refine ⟨_, _, ?_, (later.cons k first).obj⟩
    rw [renderOnto, bytes', bytes, toList_key, toList_push]
    simp only [enclosed, fieldText, List.map_cons, List.append_assoc, List.cons_append, List.nil_append]
    rfl

/-- What is written for further elements of an array. -/
theorem exists_renderElements (out : String) : ∀ js : List Json,
    ∃ texts ts, bytesOf (renderElements out js).toList = bytesOf out.toList ++ further 93 texts ∧
      WritesElements texts ts js
  | [] => ⟨[], [], by rw [renderElements, toList_append]; rfl, .nil⟩
  | v :: rest => by
    obtain ⟨text, t, bytes, first⟩ := exists_renderOnto (out ++ ",") v
    obtain ⟨texts, ts, bytes', later⟩ := exists_renderElements (renderOnto (out ++ ",") v) rest
    refine ⟨_, _, ?_, later.cons first⟩
    rw [renderElements, bytes', bytes, toList_append, List.append_assoc, List.append_assoc]
    rfl

/-- What is written for further fields of an object. -/
theorem exists_renderFields (out : String) : ∀ fs : List (String × Json),
    ∃ parts gs, bytesOf (renderFields out fs).toList = bytesOf out.toList ++ further 125 (parts.map fieldText) ∧
      WritesFields parts gs fs
  | [] => ⟨[], [], toList_push _ _, .nil⟩
  | (k, v) :: rest => by
    obtain ⟨text, t, bytes, first⟩ := exists_renderOnto (out ++ "," ++ quote k ++ ":") v
    obtain ⟨parts, gs, bytes', later⟩ := exists_renderFields (renderOnto (out ++ "," ++ quote k ++ ":") v) rest
    refine ⟨_, _, ?_, later.cons k first⟩
    rw [renderFields, bytes', bytes, toList_key, toList_append]
    simp only [further, fieldText, List.map_cons, List.append_assoc, List.cons_append, List.nil_append]
    rfl

end

/-- **Every value is written as the text of a tree that expresses it**, on one line. -/
theorem exists_render (j : Json) :
    ∃ t, Syntax.parse? j.render.toUTF8.toList = some t ∧ '\n' ∉ j.render.toList ∧ Expresses t j := by
  obtain ⟨text, t, bytes, writes⟩ := exists_renderOnto "" j
  have same : bytesOf j.render.toList = text := bytes
  have oneLine : '\n' ∉ j.render.toList := fun member =>
    writes.oneLine (same ▸ List.mem_flatMap.2 ⟨'\n', member, by decide⟩)
  have read : Syntax.parse? j.render.toUTF8.toList = some t := by
    rw [Base64.toList_toUTF8]
    exact (congrArg Syntax.parse? same).trans (parse?_of_denotes writes.denotes)
  exact ⟨t, read, oneLine, writes.expresses⟩

/-! ## Under a key -/

/-- What fields have under a key is expressed under that key. -/
theorem Expresses.under {gs : List (List UInt8 × Syntax)} {fs : List (String × Json)}
    (each : List.Forall₂ (ExpressesField Expresses) gs fs) (key : String) :
    List.Forall₂ Expresses (under key gs) ((fs.filter (·.1 = key)).map Prod.snd) := by
  induction each with
  | nil => exact .nil
  | cons first rest ih =>
    cases first with
    | @mk raw t key' v means value =>
      by_cases same : key' = key
      · subst same
        rw [under_cons_self means, List.filter_cons_of_pos (by simp), List.map_cons]
        exact .cons value ih
      · rw [under_cons_of_ne means (Ne.symm same), List.filter_cons_of_neg (by simpa using same)]
        exact ih

theorem Expresses.keys {gs : List (List UInt8 × Syntax)} {fs : List (String × Json)}
    (each : List.Forall₂ (ExpressesField Expresses) gs fs) : ∀ g ∈ gs, (textOf? g.1).isSome := by
  induction each with
  | nil => nofun
  | cons first rest ih =>
    cases first with
    | mk means value => exact List.forall_mem_cons.2 ⟨Option.isSome_of_eq_some means, ih⟩

/-- Each key stands before all that are greater. -/
def Ordered (fs : List (String × Json)) : Prop := fs.Pairwise fun f g => f.1 < g.1

variable {fs : List (String × Json)} {key name : String} {v : Json}

theorem lookup_cons_ite {α : Type} (k : String) (w : α) (fs : List (String × α)) (name : String) :
    ((k, w) :: fs).lookup name = if name = k then some w else fs.lookup name := by
  rw [List.lookup_cons]
  by_cases same : name = k
  · simp [same]
  · simp [same, beq_eq_false_iff_ne.2 same]

/-- In ordered fields a key stands once. -/
theorem Ordered.filter_key (ordered : Ordered fs) (name : String) :
    (fs.filter (·.1 = name)).map Prod.snd = (fs.lookup name).toList := by
  induction fs with
  | nil => rfl
  | cons f fs ih =>
    obtain ⟨k, w⟩ := f
    obtain ⟨before, ordered⟩ := List.pairwise_cons.1 ordered
    rw [lookup_cons_ite]
    by_cases same : name = k
    · have others : fs.filter (·.1 = name) = [] := List.filter_eq_nil_iff.2 fun g member equal => by
        have later := before g member
        rw [of_decide_eq_true equal, same] at later
        exact String.lt_irrefl _ later
      rw [List.filter_cons_of_pos (by simp [same]), others, if_pos same]
      rfl
    · rw [List.filter_cons_of_neg (by simpa using Ne.symm same), if_neg same]
      exact ih ordered

/-- **Under a key of ordered fields its value is expressed, once, and nothing under another key.** -/
theorem Expresses.lookup {gs : List (List UInt8 × Syntax)} (each : List.Forall₂ (ExpressesField Expresses) gs fs)
    (ordered : Ordered fs) (name : String) : List.Forall₂ Expresses (Json.under name gs) (fs.lookup name).toList :=
  ordered.filter_key name ▸ Expresses.under each name

theorem lookup_insertField (key : String) (v : Json) (fs : List (String × Json)) (name : String) :
    (insertField key v fs).lookup name = if name = key then some v else fs.lookup name := by
  induction fs with
  | nil => exact lookup_cons_ite key v [] name
  | cons f fs ih =>
    obtain ⟨k, w⟩ := f
    rw [insertField]
    split
    · next same =>
      subst same
      rw [lookup_cons_ite, lookup_cons_ite]
      split <;> rfl
    · next other =>
      split
      · rw [lookup_cons_ite]
      · rw [lookup_cons_ite, lookup_cons_ite, ih]
        by_cases same : name = k
        · have other' : name ≠ key := fun same' => other (same'.symm.trans same)
          rw [if_pos same, if_neg other', if_pos same]
        · rw [if_neg same, if_neg same]

theorem mem_insertField {f : String × Json} (member : f ∈ insertField key v fs) : f = (key, v) ∨ f ∈ fs := by
  induction fs with
  | nil => exact .inl (List.mem_singleton.1 member)
  | cons g fs ih =>
    obtain ⟨k, w⟩ := g
    rw [insertField] at member
    split at member
    · exact (List.mem_cons.1 member).imp_right (List.mem_cons_of_mem _)
    · split at member
      · exact List.mem_cons.1 member
      · rcases List.mem_cons.1 member with rfl | later
        · exact .inr List.mem_cons_self
        · exact (ih later).imp_right (List.mem_cons_of_mem _)

/-- A field that is put in stands in its place. -/
theorem Ordered.insertField (ordered : Ordered fs) (key : String) (v : Json) : Ordered (insertField key v fs) := by
  induction fs with
  | nil => exact List.pairwise_singleton _ _
  | cons f fs ih =>
    obtain ⟨k, w⟩ := f
    obtain ⟨before, later⟩ := List.pairwise_cons.1 ordered
    rw [Json.insertField]
    split
    · next same => exact List.pairwise_cons.2 ⟨same ▸ before, later⟩
    · next other =>
      split
      · next below =>
        have first : ∀ g ∈ (k, w) :: fs, key < g.1 :=
          List.forall_mem_cons.2 ⟨below, fun g member => String.lt_trans below (before g member)⟩
        exact List.pairwise_cons.2 ⟨first, ordered⟩
      · next above =>
        -- The order of texts is total, and `other` and `above` leave one case.
        have after : k < key := by grind
        have first : ∀ g ∈ Json.insertField key v fs, k < g.1 := by
          intro g member
          rcases mem_insertField member with rfl | member
          · exact after
          · exact before g member
        exact List.pairwise_cons.2 ⟨first, ih later⟩

theorem ordered_foldl (entries : List (String × Json)) (ordered : Ordered fs) :
    Ordered (entries.foldl (fun done (k, v) => Json.insertField k v done) fs) := by
  induction entries generalizing fs with
  | nil => exact ordered
  | cons e entries ih => exact ih (ordered.insertField e.1 e.2)

/-- Of entries that are put in one after another, the last with a key counts. -/
theorem lookup_foldl (entries fs : List (String × Json)) (name : String) :
    (entries.foldl (fun done (k, v) => Json.insertField k v done) fs).lookup name =
      (entries.reverse.lookup name).or (fs.lookup name) := by
  induction entries generalizing fs with
  | nil => rfl
  | cons e entries ih =>
    obtain ⟨k, v⟩ := e
    rw [List.foldl_cons, ih, List.reverse_cons, List.lookup_append, Option.or_assoc, lookup_insertField,
      lookup_cons_ite]
    split <;> rfl

end ChainIndex.Json
