import Mathlib.Data.List.Forall2
import Mathlib.Data.List.Nodup
import Turnwise.Document.Codec

/-!
# Forms of a document

A record says the same in any order of its keys, beside keys that nobody asks for, and
without the keys of missing values.  So does the list of its values and, for a name, the
record of this one key.  All these forms are read alike: as the values of the fields, or
as the name.
-/

namespace Turnwise
namespace Document

/-- The first document says what the second one says. -/
inductive Restates : Document → Document → Prop where
  /-- Every document says what it says. -/
  | same (document : Document) : Restates document document
  /-- A record holds each value under its key, or lacks the key of a missing value. -/
  | record
      {fields others : List (Text × Document)}
      (found : ∀ field ∈ fields,
        lookup? field.1 others = some field.2 ∨
          field.2 = .null ∧ lookup? field.1 others = none) :
      Restates (.record others) (.record fields)
  /-- A list holds the values in the order of the fields. -/
  | list
      (fields : List (Text × Document)) :
      Restates (.list (fields.map (·.2))) (.record fields)
  /-- A name is the only key, without a value. -/
  | name
      (name : Text) :
      Restates (.record [(name, .null)]) (.text name)

/-! ## Looking up fields -/

/-- Among fields with different keys each one is found. -/
theorem lookup?_of_mem
    {fields : List (Text × Document)}
    (distinct : (fields.map (·.1)).Nodup)
    {field : Text × Document}
    (present : field ∈ fields) :
    lookup? field.1 fields = some field.2 := by
  obtain ⟨earlier, later, rfl⟩ := List.append_of_mem present
  have absent : ∀ other ∈ earlier, ¬(other.1 == field.1) = true := by
    intro other inside
    rw [beq_iff_eq]
    rw [List.map_append, List.map_cons] at distinct
    exact (List.nodup_append.mp distinct).2.2 other.1 (List.mem_map_of_mem inside) field.1
      List.mem_cons_self
  have first : (field :: later).find? (·.1 == field.1) = some field :=
    List.find?_cons_of_pos (beq_self_eq_true field.1)
  rw [lookup?, List.find?_append, List.find?_eq_none.mpr absent, Option.none_or, first]
  rfl

/-- Dropping a key does not change the value of another one. -/
theorem lookup?_filter_of_ne
    {key dropped : Text}
    (different : key ≠ dropped)
    (fields : List (Text × Document)) :
    lookup? key (fields.filter (·.1 != dropped)) = lookup? key fields := by
  rw [lookup?, lookup?, List.find?_filter]
  congr 2
  funext field
  by_cases same : field.1 = key
  · simp [same, different]
  · simp [same]

/-! ## Readers -/

/-- All items are read when each is read as the value in its place. -/
theorem mapM_eq_some_iff
    {read : α → Option β}
    {items : List α}
    {values : List β} :
    items.mapM read = some values ↔
      List.Forall₂ (fun item value => read item = some value) items values := by
  induction items generalizing values with
  | nil =>
      rw [List.mapM_nil, List.forall₂_nil_left_iff]
      exact ⟨fun same => (Option.some.inj same).symm, fun same => congrArg some same.symm⟩
  | cons item items inductionHypothesis =>
      rw [List.mapM_cons, List.forall₂_cons_left_iff]
      simp only [Option.bind_eq_bind, Option.bind_eq_some_iff, inductionHypothesis,
        Option.pure_def, Option.some.injEq]
      constructor
      · rintro ⟨value, read, values, reads, rfl⟩
        exact ⟨value, values, read, reads, rfl⟩
      · rintro ⟨value, values, read, reads, rfl⟩
        exact ⟨value, read, values, reads, rfl⟩

/-- Numbers below the bound are read back. -/
theorem natural?_natural
    {bound value : Nat}
    (below : value < bound) :
    (natural value).natural? bound = some value :=
  if_pos below

/-- Every number that is read is below the bound. -/
theorem lt_of_natural?
    {bound value : Nat}
    {document : Document}
    (read : document.natural? bound = some value) :
    value < bound := by
  unfold natural? at read
  split at read
  · split_ifs at read with below
    cases read
    exact below
  · cases read

/-- A list is read back when its items are. -/
theorem listOf?_list
    {encode : α → Document}
    {decode : Document → Option α}
    {values : List α}
    (reads : ∀ value ∈ values, decode (encode value) = some value) :
    (Document.list (values.map encode)).listOf? decode = some values := by
  change (values.map encode).mapM decode = some values
  rw [mapM_eq_some_iff, List.forall₂_map_left_iff, List.forall₂_same]
  exact reads

/-- Every value of a list that is read is read from a document. -/
theorem exists_of_mem_listOf?
    {decode : Document → Option α}
    {document : Document}
    {values : List α}
    (read : document.listOf? decode = some values)
    {value : α}
    (present : value ∈ values) :
    ∃ item, decode item = some value := by
  obtain ⟨items, _, reads⟩ := Option.bind_eq_some_iff.mp read
  obtain ⟨place, inside, rfl⟩ := List.getElem_of_mem present
  have each := mapM_eq_some_iff.mp reads
  exact ⟨_, each.get (each.length_eq ▸ inside) inside⟩

@[simp]
theorem texts?_texts (values : List Text) : (texts values).texts? = some values :=
  listOf?_list fun _ _ => rfl

@[simp]
theorem optional?_text (value : Option Text) :
    (optional .text value).optional? text? = some value := by
  cases value <;> rfl

/-! ## Values of fields -/

/-- What restates a record with different keys is a record that holds its fields or the list
of its values. -/
theorem Restates.record_or_list
    {fields : List (String × Document)}
    {form : Document}
    (restates : form.Restates (recordOf fields))
    (distinct : (fields.map (·.1)).Nodup) :
    (∃ others, form = .record others ∧
      ∀ field ∈ fields, lookup? field.1.toList others = some field.2 ∨
        field.2 = .null ∧ lookup? field.1.toList others = none) ∨
    form = .list (fields.map (·.2)) := by
  cases restates with
  | same =>
      have renamed : ((fields.map fun field => (field.1.toList, field.2)).map (·.1)).Nodup := by
        have mapped := distinct.map (fun _ _ => String.toList_injective)
        rwa [List.map_map] at mapped ⊢
      refine .inl ⟨_, rfl, fun field present => .inl ?_⟩
      exact lookup?_of_mem renamed (List.mem_map_of_mem
        (f := fun field => (field.1.toList, field.2)) present)
  | record found =>
      exact .inl ⟨_, rfl, fun field present => found _ (List.mem_map_of_mem present)⟩
  | list => exact .inr (by rw [List.map_map]; rfl)

/-- What restates a record is read as the values of its fields, if the keys of all missing
values are optional. -/
theorem fields?_of_restates
    {fields : List (String × Document)}
    {optionalKeys : List String}
    {form : Document}
    (distinct : (fields.map (·.1)).Nodup)
    (optional : ∀ field ∈ fields, field.2 = .null → field.1 ∈ optionalKeys)
    (restates : form.Restates (recordOf fields)) :
    form.fields? (fields.map (·.1)) optionalKeys = some (fields.map (·.2)) := by
  rcases restates.record_or_list distinct with ⟨others, rfl, found⟩ | rfl
  · rw [fields?, mapM_eq_some_iff, List.forall₂_map_left_iff, List.forall₂_map_right_iff,
      List.forall₂_same]
    intro field present
    rcases found field present with held | ⟨missing, lacked⟩
    · rw [held]
    · rw [lacked, missing]
      exact if_pos (optional field present missing)
  · rw [fields?, List.length_map, List.length_map, if_pos rfl]

/-- What restates a name is read as the name. -/
theorem name?_of_restates
    {name : Text}
    {form : Document}
    (restates : form.Restates (.text name)) :
    form.name? = some name := by
  cases restates <;> rfl

end Document
end Turnwise
