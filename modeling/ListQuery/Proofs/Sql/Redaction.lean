import ListQuery.Proofs.Sql.Splitting

/-!
# Statements without their values

A value that a statement binds is not written: its place has a number and nothing else.
So the text of a statement is that of the same statement with null in the place of every
value (`text_withoutValues`), and so is the number of the values it binds.

What takes the values out of a fragment passes through everything that fragments are put
together with.  Two statements are therefore written alike as soon as their conditions are
the same without their values (`query_of_redacted`).
-/

namespace ListQuery.Sql

/-! ## Chunks -/

namespace Chunk

@[simp] theorem chars_withoutValue (chunk : Chunk) (index : Nat) :
    chunk.withoutValue.chars index = chunk.chars index := by
  cases chunk <;> rfl

@[simp] theorem isSome_value?_withoutValue (chunk : Chunk) :
    chunk.withoutValue.value?.isSome = chunk.value?.isSome := by
  cases chunk <;> rfl

@[simp] theorem spaceBetween_withoutValue (current next : Chunk) :
    current.withoutValue.spaceBetween next.withoutValue = current.spaceBetween next := by
  -- Next to a parameter it takes the token itself to tell.
  cases current <;> cases next
  case token.parameter token value => cases token <;> rfl
  case parameter.token value token => cases token <;> rfl
  all_goals rfl

theorem withoutValue_withoutValue (chunk : Chunk) :
    chunk.withoutValue.withoutValue = chunk.withoutValue := by
  cases chunk <;> rfl

end Chunk

/-! ## Fragments -/

namespace Fragment

theorem withoutValues_cons (chunk : Chunk) (rest : Fragment) :
    withoutValues (chunk :: rest) = chunk.withoutValue :: withoutValues rest :=
  List.map_cons

/-- Where a value stands is all of it that is written. -/
theorem charsFrom_withoutValues (fragment : Fragment) (index : Nat) :
    fragment.withoutValues.charsFrom index = fragment.charsFrom index := by
  induction fragment generalizing index with
  | nil => rfl
  | cons chunk rest ih =>
      cases rest with
      | nil => exact chunk.chars_withoutValue index
      | cons next rest =>
          rw [withoutValues_cons, withoutValues_cons, charsFrom, ← withoutValues_cons, ih,
            charsFrom, Chunk.chars_withoutValue, Chunk.spaceBetween_withoutValue,
            Chunk.isSome_value?_withoutValue]

/-- The text of a fragment does not depend on the values it binds. -/
theorem text_withoutValues (fragment : Fragment) : fragment.withoutValues.text = fragment.text := by
  rw [text, charsFrom_withoutValues, text]

theorem length_values_withoutValues (fragment : Fragment) :
    fragment.withoutValues.values.length = fragment.values.length := by
  induction fragment with
  | nil => rfl
  | cons chunk rest ih =>
      rw [withoutValues_cons, values_cons, values_cons chunk, List.length_append,
        List.length_append, ih, length_values_singleton, length_values_singleton,
        Chunk.isSome_value?_withoutValue]

/-- There are no values left to take out. -/
@[simp] theorem withoutValues_withoutValues (fragment : Fragment) :
    fragment.withoutValues.withoutValues = fragment.withoutValues := by
  unfold withoutValues
  rw [List.map_map]
  exact List.map_congr_left fun chunk _ => chunk.withoutValue_withoutValue

/-! ## How fragments are put together -/

@[simp] theorem withoutValues_append (first second : Fragment) :
    (first ++ second).withoutValues = first.withoutValues ++ second.withoutValues :=
  List.map_append

@[simp] theorem withoutValues_parenthesized (fragment : Fragment) :
    fragment.parenthesized.withoutValues = fragment.withoutValues.parenthesized := by
  simp [parenthesized, withoutValues, Chunk.withoutValue]

@[simp] theorem withoutValues_call (function : Token) (arguments : Fragment) :
    (call function arguments).withoutValues = call function arguments.withoutValues := by
  rw [call, withoutValues_cons, withoutValues_parenthesized]
  rfl

@[simp] theorem withoutValues_join (separator : Token) (fragments : List Fragment) :
    (join separator fragments).withoutValues = join separator (fragments.map withoutValues) := by
  induction fragments with
  | nil => rfl
  | cons first rest ih =>
      cases rest with
      | nil => simp
      | cons second rest =>
          rw [join_cons_cons, withoutValues_append, List.map_cons, List.map_cons, join_cons_cons,
            ← List.map_cons, ← ih]
          rfl

@[simp] theorem withoutValues_parameter (value : Scalar) (type : Option String) :
    (parameter value type).withoutValues = parameter .null type := by
  cases type <;> rfl

/-- Of several values it remains how many they are. -/
@[simp] theorem withoutValues_parameters (values : List Scalar) (type : Option String) :
    (parameters values type).withoutValues =
      parameters (List.replicate values.length .null) type := by
  simp [parameters, Function.comp_def, List.map_const']

end Fragment

/-! ## Statements -/

namespace Select

/-- A statement with null in the place of every value that its conditions bind. -/
def redacted (statement : Select) : Select :=
  { statement with conditions := statement.conditions.map Fragment.withoutValues }

theorem withoutValues_fragment_redacted (statement : Select) :
    statement.redacted.fragment.withoutValues = statement.fragment.withoutValues := by
  have hconditions : (conditionsFragment statement.redacted.conditions).withoutValues =
      (conditionsFragment statement.conditions).withoutValues := by
    unfold conditionsFragment redacted
    cases statement.conditions with
    | nil => rfl
    | cons first rest => simp [Function.comp_def]
  simp only [fragment, Fragment.withoutValues_append, hconditions]
  rfl

/-- Statements that are the same without the values of their conditions are written alike,
and bind as many values. -/
theorem query_of_redacted {statement other : Select}
    (hredacted : statement.redacted = other.redacted) :
    statement.query.text = other.query.text ∧
      statement.query.parameters.length = other.query.parameters.length := by
  have hfragments : statement.fragment.withoutValues = other.fragment.withoutValues := by
    rw [← withoutValues_fragment_redacted statement, hredacted, withoutValues_fragment_redacted]
  constructor
  · calc statement.fragment.text = statement.fragment.withoutValues.text :=
          (Fragment.text_withoutValues _).symm
      _ = other.fragment.withoutValues.text := congrArg Fragment.text hfragments
      _ = other.fragment.text := Fragment.text_withoutValues _
  · calc statement.fragment.values.length = statement.fragment.withoutValues.values.length :=
          (Fragment.length_values_withoutValues _).symm
      _ = other.fragment.withoutValues.values.length :=
          congrArg (fun fragment => (Fragment.values fragment).length) hfragments
      _ = other.fragment.values.length := Fragment.length_values_withoutValues _

end Select

end ListQuery.Sql
