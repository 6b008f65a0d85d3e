/-!
# Directions and the place of nulls

What a list request and an ordering of a statement both say about one sort
entry: which way it runs and where rows without a value go.
-/

namespace ListQuery

/-- Which way a sort entry runs. -/
inductive Direction where
  | ascending
  | descending
deriving DecidableEq

/-- The opposite direction. -/
def Direction.reversed : Direction → Direction
  | .ascending => .descending
  | .descending => .ascending

/-- Where a sort entry puts rows without a value, if it says so. -/
inductive NullPlacement where
  | first
  | last
  /-- Where the database puts them by itself. -/
  | standard
deriving DecidableEq

/-- The opposite end; the database's own choice follows the direction and stays. -/
def NullPlacement.reversed : NullPlacement → NullPlacement
  | .first => .last
  | .last => .first
  | .standard => .standard

/-- Whether rows without a value come first.  Left to itself the database ranks
them above every value, so they come first exactly when the entry descends. -/
def nullsComeFirst (direction : Direction) (nulls : Option NullPlacement) : Bool :=
  match nulls with
  | some .first => true
  | some .last => false
  | some .standard | none => direction = .descending

end ListQuery
