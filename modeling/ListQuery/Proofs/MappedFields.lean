import ListQuery.Mapping.Derivation
import Mathlib.Data.List.Nodup

/-!
# The fields of a mapping

Only the first declared field of a name is mapped, and the fields that every entity has come
before all declared ones.  So no two mapped fields have the same name
(`nodup_names_mappedFields`), and a name means a built-in field or else the first field that is
declared with it (`field?_mapping`).
-/

namespace ListQuery

/-! ## The first field of each name -/

namespace MappedField

variable {taken : List String} {fields : List MappedField}

/-- The names of the mapped fields are those of all fields that are not taken. -/
theorem mem_names_firstOfEachName {name : String} :
    name ∈ (firstOfEachName taken fields).map MappedField.field ↔
      name ∉ taken ∧ name ∈ fields.map MappedField.field := by
  induction fields generalizing taken with
  | nil => simp [firstOfEachName]
  | cons field rest ih =>
      rw [firstOfEachName]
      split
      next htaken =>
        rw [List.contains_iff_mem] at htaken
        rw [ih, List.map_cons, List.mem_cons]
        refine and_congr_right fun hname => (or_iff_right ?_).symm
        rintro rfl
        exact hname htaken
      next htaken =>
        rw [List.contains_iff_mem] at htaken
        rw [List.map_cons, List.map_cons, List.mem_cons, List.mem_cons, ih, List.mem_cons]
        by_cases heq : name = field.field
        · simp [heq, htaken]
        · simp [heq]

/-- Fields are left out and nothing else. -/
theorem firstOfEachName_sublist : (firstOfEachName taken fields).Sublist fields := by
  induction fields generalizing taken with
  | nil => exact .slnil
  | cons field rest ih =>
      rw [firstOfEachName]
      split
      · exact ih.cons field
      · exact ih.cons_cons field

/-- No two mapped fields have the same name. -/
theorem nodup_names_firstOfEachName :
    ((firstOfEachName taken fields).map MappedField.field).Nodup := by
  induction fields generalizing taken with
  | nil => exact List.nodup_nil
  | cons field rest ih =>
      rw [firstOfEachName]
      split
      · exact ih
      · rw [List.map_cons, List.nodup_cons]
        refine ⟨fun hmem => ?_, ih⟩
        exact (mem_names_firstOfEachName.mp hmem).1 List.mem_cons_self

/-- Under a name that is not taken the first field is kept. -/
theorem find?_firstOfEachName {name : String} (hname : name ∉ taken) :
    (firstOfEachName taken fields).find? (·.field == name) =
      fields.find? (·.field == name) := by
  induction fields generalizing taken with
  | nil => rfl
  | cons field rest ih =>
      rw [firstOfEachName]
      split
      next htaken =>
        have hother : field.field ≠ name := by
          rintro rfl
          exact hname (List.contains_iff_mem.mp htaken)
        rw [ih hname, List.find?_cons_of_neg (by simpa using hother)]
      next htaken =>
        rw [List.find?_cons, List.find?_cons]
        cases hfield : field.field == name with
        | true => rfl
        | false =>
            exact ih (List.not_mem_cons_of_ne_of_not_mem (beq_eq_false_iff_ne.mp hfield).symm hname)

/-- If no two fields have the same name, the first one with a name is the only one. -/
theorem filter_name_eq (hnames : (fields.map MappedField.field).Nodup) (name : String) :
    fields.filter (·.field == name) = (fields.find? (·.field == name)).toList := by
  induction fields with
  | nil => rfl
  | cons field rest ih =>
      rw [List.map_cons, List.nodup_cons] at hnames
      rw [List.filter_cons, List.find?_cons]
      cases hfield : field.field == name with
      | true =>
          have hrest : rest.filter (·.field == name) = [] := by
            refine List.filter_eq_nil_iff.mpr fun other hother hname => hnames.1 ?_
            rw [eq_of_beq hfield, ← eq_of_beq hname]
            exact List.mem_map_of_mem hother
          rw [if_pos rfl, hrest, Option.toList_some]
      | false => exact ih hnames.2

end MappedField

/-! ## The fields of an entity -/

namespace EntityDefinition

variable {entity : EntityDefinition}

/-- The fields of an entity are the built-in ones and those that are declared. -/
theorem mem_names_mappedFields {name : String} :
    name ∈ entity.mapping.fields.map MappedField.field ↔
      name = Mapping.idField ∨ name = Mapping.deletionMarker ∨
        ∃ field ∈ entity.fields, field.code = name := by
  show name ∈ (MappedField.firstOfEachName [] _).map MappedField.field ↔ _
  rw [MappedField.mem_names_firstOfEachName]
  simp [MappedField.builtIn, FieldDefinition.mapped]

theorem nodup_names_mappedFields : (entity.mapping.fields.map MappedField.field).Nodup :=
  MappedField.nodup_names_firstOfEachName

/-- What is found under a name is built-in, or else the first field that is declared with it. -/
theorem field?_mapping (name : String) :
    entity.mapping.field? name =
      if name = Mapping.idField then some (.builtIn Mapping.idField .string true)
      else if name = Mapping.deletionMarker then
        some (.builtIn Mapping.deletionMarker .boolean false)
      else (entity.field? name).map FieldDefinition.mapped := by
  show (MappedField.firstOfEachName [] _).find? _ = _
  rw [MappedField.find?_firstOfEachName List.not_mem_nil]
  split_ifs with hid hmarker
  · exact List.find?_cons_of_pos (by simp [hid, MappedField.builtIn])
  · rw [List.find?_cons_of_neg (by simpa [MappedField.builtIn] using Ne.symm hid)]
    exact List.find?_cons_of_pos (by simp [hmarker, MappedField.builtIn])
  · rw [List.find?_cons_of_neg (by simpa [MappedField.builtIn] using Ne.symm hid),
      List.find?_cons_of_neg (by simpa [MappedField.builtIn] using Ne.symm hmarker),
      List.find?_map]
    rfl

end EntityDefinition

end ListQuery
