import ListQuery.Sql.Fragment

/-!
# What fragments are made of

Equations for the ways in which fragments are put together, and which chunks the
result has.
-/

namespace ListQuery.Sql.Fragment

/-! ## Joining -/

@[simp] theorem join_nil (separator : Token) : join separator [] = [] := by
  simp [join]

@[simp] theorem join_singleton (separator : Token) (fragment : Fragment) :
    join separator [fragment] = fragment := by
  simp [join, List.intercalate]

@[simp] theorem join_cons_cons (separator : Token) (first second : Fragment)
    (rest : List Fragment) :
    join separator (first :: second :: rest) =
      first ++ .token separator :: join separator (second :: rest) := by
  simp [join, List.intercalate]

/-- A property of the separator and of every chunk of the parts is one of every chunk
of the whole. -/
theorem forall_mem_join {holds : Chunk → Prop} {separator : Token} {fragments : List Fragment}
    (hseparator : holds (.token separator))
    (hparts : ∀ fragment ∈ fragments, ∀ chunk ∈ fragment, holds chunk) :
    ∀ chunk ∈ join separator fragments, holds chunk := by
  induction fragments with
  | nil => simp
  | cons first rest ih =>
      have hfirst := hparts first List.mem_cons_self
      have hrest := ih fun fragment hfragment => hparts fragment (List.mem_cons_of_mem _ hfragment)
      cases rest with
      | nil => simpa using hfirst
      | cons second rest =>
          intro chunk hchunk
          rw [join_cons_cons] at hchunk
          rcases List.mem_append.mp hchunk with hchunk | hchunk
          · exact hfirst chunk hchunk
          · rcases List.mem_cons.mp hchunk with rfl | hchunk
            · exact hseparator
            · exact hrest chunk hchunk

/-! ## Values -/

@[simp] theorem values_append (first second : Fragment) :
    values (first ++ second) = values first ++ values second := by
  simp [values]

@[simp] theorem values_word (keyword : Keyword) : values (word keyword) = [] := rfl

@[simp] theorem values_ofToken (token : Token) : values (ofToken token) = [] := rfl

@[simp] theorem values_comparison (sign : Comparison) : values (comparison sign) = [] := rfl

@[simp] theorem values_column (table name : String) : values (column table name) = [] := rfl

@[simp] theorem values_castTo (type : Option String) : values (castTo type) = [] := by
  cases type <;> rfl

@[simp] theorem values_parameter (value : Scalar) (type : Option String) :
    values (parameter value type) = [value] := by
  cases type <;> rfl

@[simp] theorem values_parenthesized (fragment : Fragment) :
    values fragment.parenthesized = values fragment :=
  (values_append fragment _).trans (List.append_nil _)

@[simp] theorem values_call (token : Token) (arguments : Fragment) :
    values (call token arguments) = values arguments :=
  values_parenthesized arguments

/-- What is joined binds the values of its parts in turn. -/
@[simp] theorem values_join (separator : Token) (fragments : List Fragment) :
    values (join separator fragments) = fragments.flatMap values := by
  induction fragments with
  | nil => simp [values]
  | cons first rest ih =>
      cases rest with
      | nil => simp
      | cons second others =>
          rw [join_cons_cons, values_append, List.flatMap_cons, ← ih]
          rfl

@[simp] theorem values_parameters (values : List Scalar) (type : Option String) :
    Fragment.values (parameters values type) = values := by
  simp [parameters, List.flatMap_map]

end ListQuery.Sql.Fragment
