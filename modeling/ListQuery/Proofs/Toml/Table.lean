import ListQuery.Proofs.PageSize
import ListQuery.Toml.Table

/-!
# What is written stays

No later line of a file changes a value that is no table: a line that would add to it, or
replace it, is refused.  So a value that is written in brackets is found in the table of the
file as it was written.
-/

namespace ListQuery.Toml

open Json (lookup_insertMember_of_ne)

variable {members changed : Members} {path : List String} {key name : String} {value : Value}
variable {items : List Value}

/-- Whether a change of members keeps an array that is written in brackets under a name. -/
def Keeps (name : String) (items : List Value) (change : Members → Option Members) : Prop :=
  ∀ ⦃members changed⦄, change members = some changed →
    members.lookup name = some (.array false items) →
      changed.lookup name = some (.array false items)

/-- Another value may be put in the place of anything but the array. -/
theorem lookup_insertMember_of_lookup (hvalue : members.lookup key ≠ some (.array false items))
    (hname : members.lookup name = some (.array false items)) :
    (Json.insertMember key value members).lookup name = some (.array false items) := by
  have hne : name ≠ key := by
    rintro rfl
    exact hvalue hname
  rw [lookup_insertMember_of_ne hne, hname]

/-- No path leads into an array that is written in brackets. -/
theorem keeps_changeAt {dotted : Bool} {change : Origin → Members → Option Members}
    (origin : Origin) (hchange : ∀ origin, Keeps name items (change origin)) :
    Keeps name items (changeAt dotted change path origin) := by
  intro members changed hread hname
  cases path with
  | nil => exact hchange origin hread hname
  | cons key path =>
      rw [changeAt] at hread
      -- A path goes through a new table, a table, or the last table of an array of tables.
      split at hread
      next hlookup =>
        obtain ⟨inner, -, heq⟩ := Option.bind_eq_some_iff.mp hread
        cases heq
        exact lookup_insertMember_of_lookup (by simp [hlookup]) hname
      next hlookup =>
        split at hread
        · cases hread
        · obtain ⟨inner, -, heq⟩ := Option.bind_eq_some_iff.mp hread
          cases heq
          exact lookup_insertMember_of_lookup (by simp [hlookup]) hname
      next hlookup =>
        split at hread
        · obtain ⟨inner, -, heq⟩ := Option.bind_eq_some_iff.mp hread
          cases heq
          exact lookup_insertMember_of_lookup (by simp [hlookup]) hname
        · cases hread
      · cases hread

theorem keeps_insertValue (origin : Origin) :
    Keeps name items (insertValue path key value origin) := by
  refine keeps_changeAt origin fun origin members changed hread hname => ?_
  split at hread; · cases hread
  split at hread; · cases hread
  next hlookup =>
    cases hread
    exact lookup_insertMember_of_lookup (by simp [hlookup]) hname

theorem keeps_insertUnder (header : List String) :
    Keeps name items (insertUnder header path key value) :=
  keeps_changeAt .header keeps_insertValue

theorem keeps_openTable : Keeps name items (openTable path key) := by
  refine keeps_changeAt .header fun origin members changed hread hname => ?_
  split at hread
  next hlookup =>
    cases hread
    exact lookup_insertMember_of_lookup (by simp [hlookup]) hname
  next hlookup =>
    cases hread
    exact lookup_insertMember_of_lookup (by simp [hlookup]) hname
  next => cases hread

theorem keeps_openTableInArray : Keeps name items (openTableInArray path key) := by
  refine keeps_changeAt .header fun origin members changed hread hname => ?_
  split at hread
  next hlookup =>
    cases hread
    exact lookup_insertMember_of_lookup (by simp [hlookup]) hname
  next hlookup =>
    cases hread
    exact lookup_insertMember_of_lookup (by simp [hlookup]) hname
  next => cases hread

end ListQuery.Toml
