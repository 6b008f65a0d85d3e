import ListQuery.Definition
import ListQuery.Proofs.MappedFields
import ListQuery.Proofs.Statement
import ListQuery.Proofs.Text.CamelCase

/-!
# The columns of an entity

The table and the columns of an entity are its code and the names of its fields in camel case.
A code is only asked not to be blank, and fields are told apart by their names, while camel case
makes nothing of a code without letters and numerals and makes the same of different names.
What it makes of names therefore says which columns have no name and which fields share one, the
identifier and the deletion marker included (`columns_of_mapping`).
-/

namespace ListQuery

namespace EntityDefinition

/-- Built-in or declared, a field lives in the column of its name in camel case. -/
theorem column_eq {entity : EntityDefinition} {field : MappedField}
    (hfield : field ∈ entity.mapping.fields) :
    field.column = Text.lowerCamelCase field.field := by
  have hmem := MappedField.firstOfEachName_sublist.subset hfield
  rcases List.mem_cons.mp hmem with rfl | hmem
  · show Mapping.idField = Text.lowerCamelCase Mapping.idField
    decide +kernel
  · rcases List.mem_cons.mp hmem with rfl | hdeclared
    · show Mapping.deletionMarker = Text.lowerCamelCase Mapping.deletionMarker
      decide +kernel
    · obtain ⟨declared, -, rfl⟩ := List.mem_map.mp hdeclared
      rfl

/-- Fields have different columns if camel case keeps their names apart. -/
theorem nodup_columns_iff {entity : EntityDefinition} :
    (entity.mapping.fields.map MappedField.column).Nodup ↔
      ∀ first ∈ entity.mapping.fields.map MappedField.field,
        ∀ second ∈ entity.mapping.fields.map MappedField.field,
          Text.lowerCamelCase first = Text.lowerCamelCase second → first = second := by
  have hcolumns : entity.mapping.fields.map MappedField.column =
      (entity.mapping.fields.map MappedField.field).map Text.lowerCamelCase := by
    rw [List.map_map]
    exact List.map_congr_left fun field hfield => column_eq hfield
  rw [hcolumns]
  exact List.nodup_map_iff_inj_on nodup_names_mappedFields

/-- The table or a column of an entity has no name exactly if its code has neither letters nor
numerals.  The columns are different exactly if camel case keeps the names of the fields apart.
Two fields with ASCII names share a column exactly if their names have the same outline, and
then they have the same letters and numerals, but for their case. -/
theorem columns_of_mapping (entity : EntityDefinition) :
    (entity.mapping.table = "" ↔ Text.letters entity.code = []) ∧
    (∀ field ∈ entity.mapping.fields, field.column = "" ↔ Text.letters field.field = []) ∧
    ((entity.mapping.fields.map MappedField.column).Nodup ↔
      ∀ first ∈ entity.mapping.fields.map MappedField.field,
        ∀ second ∈ entity.mapping.fields.map MappedField.field,
          Text.lowerCamelCase first = Text.lowerCamelCase second → first = second) ∧
    ∀ first ∈ entity.mapping.fields, ∀ second ∈ entity.mapping.fields,
      Text.IsAscii first.field → Text.IsAscii second.field →
        (first.column = second.column ↔
          Text.outline first.field = Text.outline second.field) ∧
        (first.column = second.column →
          (Text.letters first.field).map Char.toLower =
            (Text.letters second.field).map Char.toLower) := by
  refine ⟨Text.upperCamelCase_eq_empty_iff, fun field hfield => ?_, nodup_columns_iff,
    fun first hfirst second hsecond hascii hasciiSecond => ?_⟩
  · rw [column_eq hfield]
    exact Text.lowerCamelCase_eq_empty_iff
  · rw [column_eq hfirst, column_eq hsecond]
    exact ⟨Text.lowerCamelCase_eq_iff hascii hasciiSecond,
      Text.letters_eq_of_lowerCamelCase hascii hasciiSecond⟩

/-- The table and the columns of the sample have names, and the columns are different, as the
names of the fields have different outlines. -/
theorem columns_of_mapping_sample :
    sample.mapping.table ≠ "" ∧ (∀ field ∈ sample.mapping.fields, field.column ≠ "") ∧
      ∀ first ∈ sample.mapping.fields, ∀ second ∈ sample.mapping.fields,
        first.field ≠ second.field → first.column ≠ second.column := by
  obtain ⟨htable, hcolumns, -, hshared⟩ := columns_of_mapping sample
  have hletters : ∀ field ∈ sample.mapping.fields, Text.letters field.field ≠ [] := by
    decide +kernel
  have hascii : ∀ field ∈ sample.mapping.fields, Text.IsAscii field.field := by
    decide +kernel
  have houtlines : ∀ first ∈ sample.mapping.fields, ∀ second ∈ sample.mapping.fields,
      first.field ≠ second.field → Text.outline first.field ≠ Text.outline second.field := by
    decide +kernel
  refine ⟨fun hempty => ?_, fun field hfield hempty => ?_,
    fun first hfirst second hsecond hnames hsame => ?_⟩
  · exact absurd (htable.mp hempty) (by decide +kernel)
  · exact hletters field hfield ((hcolumns field hfield).mp hempty)
  · have houtline := (hshared first hfirst second hsecond (hascii first hfirst)
      (hascii second hsecond)).1.mp hsame
    exact houtlines first hfirst second hsecond hnames houtline

/-- An entity with a field that camel case does not tell from the deletion marker. -/
def doublyMarked : EntityDefinition :=
  ⟨"item", "Item", [⟨"marked_for_deletion", "Gone", .boolean, false, none⟩], false⟩

/-- An accepted entity may have two fields in one column. -/
theorem not_nodup_columns_doublyMarked : ¬∀ application : Application,
    application.fault? = none → ∀ entity ∈ application.entities,
      entity.mapping.table ≠ "" ∧ (∀ field ∈ entity.mapping.fields, field.column ≠ "") ∧
        (entity.mapping.fields.map MappedField.column).Nodup := by
  intro hall
  obtain ⟨-, -, hnodup⟩ := hall ⟨"shop", "Shop", [doublyMarked], []⟩ (by decide +kernel)
    doublyMarked List.mem_cons_self
  revert hnodup
  decide +kernel

/-- An entity of which all codes are dashes. -/
def dashed : EntityDefinition :=
  ⟨"-", "Dash", [⟨"--", "Dashes", .string, false, none⟩], false⟩

example : (⟨"shop", "Shop", [dashed], []⟩ : Application).fault? = none ∧
    dashed.mapping.table = "" ∧
      dashed.mapping.fields.map MappedField.column = ["id", "markedForDeletion", ""] := by
  decide +kernel

end EntityDefinition

end ListQuery
