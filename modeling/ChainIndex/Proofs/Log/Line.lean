import ChainIndex.Log.Line
import ChainIndex.Proofs.Json.Rendering

/-!
# What a log line shows

Spans open and close, and fields are recorded on those that are open. Whatever happened to the spans, the line of an
event is one object on a line of its own (`line_exact`). Its fields are those that the event and the spans give
(`shown?`): the name of the span that is open last, then what the event recorded, then what was recorded on the nearest
span that has the field.
-/

namespace ChainIndex.Log

open Json (under textOf? Ordered Expresses lookup_insertField lookup_cons_ite)

/-! ## Spans that are told -/

/-- What happens to the spans that are open, the outermost of which is the first. -/
inductive SpanStep
  | opens (name : String) (fields : List Field)
  | records (i : Nat) (fields : List Field)
  | closes

/-- The open spans after a step. -/
def Spans.after (spans : Spans) : SpanStep → Spans
  | .opens name fields => spans ++ [.start name fields]
  | .records i fields => spans.modify i fun s => fields.foldl .record s
  | .closes => spans.dropLast

/-- A span that is open, and every field that was recorded on it, the first first. -/
structure Told where
  name : String
  fields : List Field

/-- What is told of the open spans after a step. -/
def Told.after (told : List Told) : SpanStep → List Told
  | .opens name fields => told ++ [⟨name, fields⟩]
  | .records i fields => told.modify i fun t => { t with fields := t.fields ++ fields }
  | .closes => told.dropLast

/-- A span as it is kept. -/
def Told.span (t : Told) : Span := .start t.name t.fields

/-- Recording on a span is as if it had started with those fields too. -/
theorem Told.after_map (told : List Told) (step : SpanStep) :
    Spans.after (told.map span) step = (Told.after told step).map span := by
  cases step with
  | opens name fields => simp [Spans.after, Told.after, span]
  | records i fields =>
    have record (t : Told) : span { t with fields := t.fields ++ fields } = fields.foldl .record t.span := by
      rw [span, span, Span.start, Span.start, List.foldl_append]
    change (told.map span).modify i _ = (told.modify i _).map span
    refine List.ext_getElem? fun j => ?_
    rw [List.getElem?_modify, List.getElem?_map, List.getElem?_map, List.getElem?_modify]
    cases told[j]? with
    | none => rfl
    | some t => by_cases here : i = j <;> simp [here, record]
  | closes => simp [Spans.after, Told.after]

/-- **The open spans keep what is told of them**, after every run of steps. -/
theorem spans_of_steps (steps : List SpanStep) (told : List Told) :
    steps.foldl Spans.after (told.map Told.span) = (steps.foldl Told.after told).map Told.span := by
  induction steps generalizing told with
  | nil => rfl
  | cons step steps ih => rw [List.foldl_cons, List.foldl_cons, Told.after_map, ih]

/-! ## Fields -/

/-- The last of the fields with a name. -/
def lastField? (fields : List Field) (name : String) : Option Field := fields.reverse.find? (·.name = name)

/-- **What is shown under a name**: the name of the span that is open last, what the event recorded last if it is no
message, or what was recorded last on the nearest span that has the field. -/
def shown? (told : List Told) (e : Event) (name : String) : Option Json :=
  (if name = spanName then told.getLast?.map (.str ·.name) else none).or <|
    ((lastField? (e.fields.filter (·.message?.isNone)) name).map (·.value.toJson)).or <|
      (told.reverse.findSome? fun t => lastField? t.fields name).map (.str ·.value.kept)

/-- The last entry under a name is that of the last field with the name. -/
theorem lookup_reverse_map {α : Type} (f : Field → α) (fields : List Field) (name : String) :
    (fields.map fun x => (x.name, f x)).reverse.lookup name = (lastField? fields name).map f := by
  rw [← List.map_reverse, lastField?]
  induction fields.reverse with
  | nil => rfl
  | cons x xs ih =>
    rw [List.map_cons, lookup_cons_ite]
    by_cases same : name = x.name
    · simp [same]
    · simp [same, Ne.symm same, ih]

theorem eventFields_eq (fields : List Field) :
    eventFields fields =
      ((fields.filter (·.message?.isNone)).map fun f => (f.name, f.value.toJson)).foldl
        (fun done (k, v) => Json.insertField k v done) [] := by
  rw [eventFields, List.foldl_map]

/-- What is recorded is kept, the latest first. -/
theorem foldl_record (fields : List Field) (s : Span) :
    fields.foldl .record s =
      ⟨s.name, (fields.map fun f => (f.name, f.value.kept)).reverse ++ s.recorded⟩ := by
  induction fields generalizing s with
  | nil => rfl
  | cons f fields ih =>
    rw [List.foldl_cons, ih, List.map_cons, List.reverse_cons, List.append_assoc]
    rfl

theorem span_eq (t : Told) : t.span = ⟨t.name, (t.fields.map fun f => (f.name, f.value.kept)).reverse⟩ := by
  rw [Told.span, Span.start, foldl_record, List.append_nil]

/-- Of what was recorded on several spans the nearest counts. -/
theorem lookup_recorded (told : List Told) (name : String) :
    (Spans.recorded (told.map Told.span)).lookup name =
      (told.reverse.findSome? fun t => lastField? t.fields name).map (·.value.kept) := by
  rw [Spans.recorded, ← List.map_reverse]
  induction told.reverse with
  | nil => rfl
  | cons t told ih =>
    rw [List.map_cons, List.flatMap_cons, List.lookup_append, ih, span_eq, lookup_reverse_map, List.findSome?_cons]
    cases lastField? t.fields name <;> rfl

theorem lookup_addRecorded (fields : List (String × Json)) (recorded : List (String × String)) (name : String) :
    (addRecorded fields recorded).lookup name = (fields.lookup name).or ((recorded.lookup name).map .str) := by
  induction recorded generalizing fields with
  | nil => exact (Option.or_none).symm
  | cons entry recorded ih =>
    obtain ⟨k, v⟩ := entry
    rw [addRecorded, List.foldl_cons, ← addRecorded, ih, lookup_cons_ite]
    dsimp only
    split
    · next taken =>
      by_cases same : name = k
      · subst same
        rw [Option.or_of_isSome taken, Option.or_of_isSome taken]
      · rw [if_neg same]
    · next free =>
      rw [lookup_insertField]
      by_cases same : name = k
      · subst same
        rw [if_pos rfl, if_pos rfl, Option.not_isSome_iff_eq_none.1 free]
        rfl
      · rw [if_neg same, if_neg same]

theorem ordered_addRecorded {fields : List (String × Json)} (ordered : Ordered fields)
    (recorded : List (String × String)) : Ordered (addRecorded fields recorded) := by
  induction recorded generalizing fields with
  | nil => exact ordered
  | cons entry recorded ih =>
    rw [addRecorded, List.foldl_cons]
    refine ih ?_
    dsimp only
    split
    · exact ordered
    · exact ordered.insertField _ _

/-- **The fields of a line are those that the event and the spans give.** -/
theorem lookup_allFields (told : List Told) (e : Event) (name : String) :
    (allFields (told.map Told.span) e).lookup name = shown? told e name := by
  have own := (congrArg (List.lookup name) (eventFields_eq e.fields)).trans (Json.lookup_foldl _ [] name)
  rw [lookup_reverse_map, List.lookup_nil, Option.or_none] at own
  have current : Spans.current? (told.map Told.span) = told.getLast?.map Told.span := List.getLast?_map
  rw [allFields, lookup_addRecorded, lookup_recorded, Option.map_map, shown?, current]
  cases told.getLast? with
  | none =>
    have nameless : (if name = spanName then (none : Option Told).map (Json.str ·.name) else none) = none := by
      split <;> rfl
    rw [nameless, ← own]
    rfl
  | some t =>
    rw [← Option.or_assoc, ← own]
    simp only [Option.map_some, lookup_insertField, span_eq]
    split <;> rfl

theorem ordered_allFields (spans : Spans) (e : Event) : Ordered (allFields spans e) := by
  have own : Ordered (eventFields e.fields) := eventFields_eq e.fields ▸ Json.ordered_foldl _ .nil
  refine ordered_addRecorded ?_ _
  split
  · exact own.insertField _ _
  · exact own

/-! ## Lines -/

/-- The message of an event stands in its object, and so do its fields if there are any. -/
theorem exists_toJson (time : String) (spans : Spans) (e : Event) :
    ∃ fs, toJson time spans e = .obj fs ∧ Ordered fs ∧
      fs.lookup messageName = (message? e.fields).map .str ∧
      fs.lookup "fields" = if (allFields spans e).isEmpty then none else some (.obj (allFields spans e)) := by
  refine ⟨_, rfl, Json.ordered_foldl _ .nil, ?_, ?_⟩
  -- No name is given twice, so each is found whatever else there is.
  all_goals
    rw [Json.lookup_foldl]
    cases e.file <;> cases e.line <;> cases message? e.fields <;> cases (allFields spans e).isEmpty <;> rfl

theorem isEmpty_allFields (told : List Told) (e : Event) :
    (allFields (told.map Told.span) e).isEmpty ↔ ∀ name, shown? told e name = none := by
  simp only [← lookup_allFields]
  cases allFields (told.map Told.span) e with
  | nil => exact ⟨fun _ _ => rfl, fun _ => rfl⟩
  | cons f fs =>
    refine ⟨nofun, fun nothing => ?_⟩
    have first := nothing f.1
    rw [List.lookup_cons_self] at first
    cases first

/-- The keys of an object are texts, and under each name stands what is given for it, once, and nothing if nothing is
given. -/
def Shows (fields : List (List UInt8 × Json.Syntax)) (value? : String → Option Json) : Prop :=
  (∀ g ∈ fields, (textOf? g.1).isSome) ∧ ∀ name, List.Forall₂ Expresses (under name fields) (value? name).toList

/-- **The line of an event is one object on a line of its own.** It shows the message of the event, and under `fields`
what the event and the spans give, unless they give nothing. -/
theorem line_exact (time : String) (steps : List SpanStep) (e : Event) :
    let told := steps.foldl Told.after []
    ∃ text root, line time (steps.foldl Spans.after []) e = text ++ "\n" ∧ '\n' ∉ text.toList ∧
      Json.Syntax.parse? text.toUTF8.toList = some (.obj root) ∧
      (∀ g ∈ root, (textOf? g.1).isSome) ∧
      List.Forall₂ Expresses (under messageName root) ((message? e.fields).map .str).toList ∧
      ((under "fields" root = [] ∧ ∀ name, shown? told e name = none) ∨
        ∃ fields, under "fields" root = [.obj fields] ∧ Shows fields (shown? told e) ∧
          ∃ name, (shown? told e name).isSome) := by
  intro told
  have spans : steps.foldl Spans.after [] = told.map Told.span := spans_of_steps steps []
  obtain ⟨fs, object, ordered, message, whole⟩ := exists_toJson time (told.map Told.span) e
  obtain ⟨t, read, oneLine, expresses⟩ := Json.exists_render (.obj fs)
  cases expresses with
  | @obj root _ each =>
    have shows := Expresses.lookup each ordered
    refine ⟨(Json.obj fs).render, root, by rw [spans, line, object], oneLine, read, Expresses.keys each,
      message ▸ shows messageName, ?_⟩
    have under_fields := shows "fields"
    rw [whole] at under_fields
    by_cases empty : (allFields (told.map Told.span) e).isEmpty
    · rw [if_pos empty] at under_fields
      exact .inl ⟨List.forall₂_nil_right_iff.1 under_fields, (isEmpty_allFields told e).1 empty⟩
    · rw [if_neg empty] at under_fields
      obtain ⟨_, _, first, rest, same⟩ := List.forall₂_cons_right_iff.1 under_fields
      obtain rfl := List.forall₂_nil_right_iff.1 rest
      have some_ := mt (isEmpty_allFields told e).2 empty
      push Not at some_
      cases first with
      | @obj fields _ each' =>
        have shows' := Expresses.lookup each' (ordered_allFields (told.map Told.span) e)
        simp only [lookup_allFields] at shows'
        exact .inr ⟨fields, same, ⟨Expresses.keys each', shows'⟩,
          some_.imp fun name shown => Option.isSome_iff_ne_none.2 shown⟩

end ChainIndex.Log
