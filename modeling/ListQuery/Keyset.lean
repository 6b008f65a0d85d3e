import ListQuery.Sql.Select

/-!
# The condition that a row comes after another

Rows are ordered entry by entry.  A row comes strictly after given values if, for
some entry, it agrees with the values in all entries before and lies beyond the
value in this one:

  `(a > $1) OR (a IS NOT DISTINCT FROM $2 AND b > $3) OR …`

Nothing lies beyond a null that comes last, so such an entry contributes no
branch; beyond a null that comes first lies every value.
-/

namespace ListQuery.Sql.Order

/-- The condition that a row lies beyond a value in this entry alone, unless no row
can. -/
def beyond? (order : Order) (value : Scalar) : Option Fragment :=
  if value.isNull then
    -- Beyond a null that comes last there is nothing.
    if order.nullsFirst then
      some (order.expression ++ Fragment.word .is ++ Fragment.word .not ++ Fragment.word .null)
    else none
  else
    let sign := match order.direction with
      | .ascending => Comparison.gt
      | .descending => Comparison.lt
    let beyond :=
      order.expression ++ Fragment.comparison sign ++ Fragment.parameter value order.cast
    if order.nullsFirst then some beyond
    -- Nulls that come last lie beyond every value.
    else
      some (Fragment.parenthesized (beyond ++ Fragment.word .or
        ++ order.expression ++ Fragment.word .is ++ Fragment.word .null))

/-- The condition that a row agrees with a value in this entry. -/
def agrees (order : Order) (value : Scalar) : Fragment :=
  if value.isNull then order.expression ++ Fragment.word .is ++ Fragment.word .null
  else
    order.expression ++ Fragment.word .is ++ Fragment.word .not ++ Fragment.word .distinct
      ++ Fragment.word .fromWord ++ Fragment.parameter value order.cast

/-- One branch for each entry in which a row can lie beyond its value; `agreed` are
the conditions that it agrees in all entries before. -/
def branches (agreed : List Fragment) : List (Order × Scalar) → List Fragment
  | [] => []
  | (order, value) :: rest =>
    -- An entry in which nothing lies beyond its value still has to agree for the later ones.
    let remaining := branches (agreed ++ [order.agrees value]) rest
    match order.beyond? value with
    | some beyond => Fragment.join (.word .and) (agreed ++ [beyond]) :: remaining
    | none => remaining

/-- The condition that any of several branches holds. -/
def anyOf : List Fragment → Fragment
  | [] => Fragment.word .false
  | [branch] => branch
  | branches => Fragment.join (.word .or) (branches.map Fragment.parenthesized)

/-- The condition that a row comes strictly after the given values, one for each
entry of the ordering. -/
def strictlyAfter (ordering : List Order) (values : List Scalar) : Fragment :=
  anyOf (branches [] (ordering.zip values))

end ListQuery.Sql.Order
