import ListQuery.Proofs.Sql.Database

/-!
# Rows that satisfy conditions

A conjunction is true of a row if all its parts are, and a disjunction if any part is,
provided that the parts can be read.  `Readable` says that they can; the tests that the
library writes are, and `Readable` is closed under the ways in which it puts them
together.  Truth of a fragment is thereby computed from its parts without a look at how
a database reads it.
-/

namespace ListQuery.Sql

open Condition

/-! ## Fragments that can be read -/

/-- Whether a fragment has no clause in it and is read as a condition at a level. -/
structure Readable (level : Level) (fragment : Fragment) : Prop where
  plain : fragment.IsPlain
  reads : ∃ condition, ReadsAs level fragment condition

namespace Readable

variable {fragment : Fragment} {parts : List Fragment} {level : Level}

theorem toConjunction (hfragment : Readable .factor fragment) : Readable .conjunction fragment := by
  obtain ⟨condition, hreads⟩ := hfragment.reads
  exact ⟨hfragment.plain, condition, hreads.toConjunction⟩

theorem toDisjunction (hfragment : Readable .conjunction fragment) :
    Readable .disjunction fragment := by
  obtain ⟨condition, hreads⟩ := hfragment.reads
  exact ⟨hfragment.plain, condition, hreads.toDisjunction⟩

theorem alone (hfragment : Readable .factor fragment) : Readable .disjunction fragment :=
  hfragment.toConjunction.toDisjunction

theorem parenthesized (hfragment : Readable .disjunction fragment) :
    Readable .factor fragment.parenthesized := by
  obtain ⟨condition, hreads⟩ := hfragment.reads
  exact ⟨Fragment.isPlain_parenthesized.mpr hfragment.plain, condition, hreads.parenthesized⟩

theorem negated (hfragment : Readable .factor fragment) :
    Readable .factor (Fragment.word .not ++ fragment) := by
  obtain ⟨condition, hreads⟩ := hfragment.reads
  exact ⟨by simpa using hfragment.plain, .not condition, hreads.not⟩

/-- Fragments that can be read are read one by one. -/
theorem exists_conditions (hparts : ∀ part ∈ parts, Readable level part) :
    ∃ conditions, List.Forall₂ (ReadsAs level) parts conditions := by
  induction parts with
  | nil => exact ⟨[], .nil⟩
  | cons part rest ih =>
      obtain ⟨condition, hreads⟩ := (hparts part List.mem_cons_self).reads
      obtain ⟨conditions, hrest⟩ :=
        ih fun other hother => hparts other (List.mem_cons_of_mem _ hother)
      exact ⟨condition :: conditions, .cons hreads hrest⟩

theorem plain_join {separator : Token} (hparts : ∀ part ∈ parts, Readable level part) :
    (Fragment.join separator parts).IsPlain :=
  Fragment.isPlain_join fun part hpart => (hparts part hpart).plain

theorem join_and (hparts : ∀ part ∈ parts, Readable .factor part) (hsome : parts ≠ []) :
    Readable .conjunction (Fragment.join (.word .and) parts) := by
  obtain ⟨conditions, hconditions⟩ := exists_conditions hparts
  exact ⟨plain_join hparts, _, readsAs_join_and hconditions hsome⟩

theorem join_or (hparts : ∀ part ∈ parts, Readable .conjunction part) (hsome : parts ≠ []) :
    Readable .disjunction (Fragment.join (.word .or) parts) := by
  obtain ⟨conditions, hconditions⟩ := exists_conditions hparts
  exact ⟨plain_join hparts, _, readsAs_join_or hconditions hsome⟩

/-- A fragment that can be read is a condition. -/
theorem isSome_read? (hfragment : Readable .disjunction fragment) :
    (Condition.read? fragment).isSome := by
  obtain ⟨condition, hreads⟩ := hfragment.reads
  simp [read?_of_readsAs hfragment.plain hreads]

end Readable

/-! ## Truth of what is put together -/

namespace Database

variable {V : Type} [LinearOrder V] {database : Database V} {record : Record V}
variable {fragment : Fragment} {condition : Condition} {parts : List Fragment}

theorem satisfies_iff (hplain : fragment.IsPlain)
    (hreads : ReadsAs .disjunction fragment condition) :
    database.satisfies record fragment = true ↔ database.truth record condition = .true := by
  simp [satisfies, read?_of_readsAs hplain hreads]

theorem satisfies_parenthesized (hfragment : Readable .disjunction fragment) :
    database.satisfies record fragment.parenthesized = database.satisfies record fragment := by
  obtain ⟨condition, hreads⟩ := hfragment.reads
  have hinner := read?_of_readsAs hfragment.plain hreads
  have houter := read?_of_readsAs hfragment.parenthesized.plain
    hreads.parenthesized.alone
  simp [satisfies, hinner, houter]

theorem truth_all {conditions : List Condition} (hsome : conditions ≠ []) :
    database.truth record (Condition.all conditions) = .true ↔
      ∀ condition ∈ conditions, database.truth record condition = .true := by
  induction conditions with
  | nil => exact absurd rfl hsome
  | cons first rest ih =>
      cases rest with
      | nil => simp [Condition.all]
      | cons second others =>
          have hrest := ih (by simp)
          rw [Condition.all, truth, Truth.and_eq_true, hrest]
          simp

theorem truth_any {conditions : List Condition} (hsome : conditions ≠ []) :
    database.truth record (Condition.any conditions) = .true ↔
      ∃ condition ∈ conditions, database.truth record condition = .true := by
  induction conditions with
  | nil => exact absurd rfl hsome
  | cons first rest ih =>
      cases rest with
      | nil => simp [Condition.any]
      | cons second others =>
          have hrest := ih (by simp)
          rw [Condition.any, truth, Truth.or_eq_true, hrest]
          simp

variable (database record) in
/-- Parts that are read one by one are satisfied where their conditions are true. -/
private theorem map_satisfies {level : Level} {conditions : List Condition}
    (hlevel : ∀ {part condition}, ReadsAs level part condition →
      ReadsAs .disjunction part condition)
    (hplain : ∀ part ∈ parts, part.IsPlain)
    (hparts : List.Forall₂ (ReadsAs level) parts conditions) :
    parts.map (database.satisfies record) =
      conditions.map fun condition => decide (database.truth record condition = .true) := by
  induction hparts with
  | nil => rfl
  | cons hfirst hrest ih =>
      obtain ⟨hhead, htail⟩ := List.forall_mem_cons.mp hplain
      have hread := read?_of_readsAs hhead (hlevel hfirst)
      simp [satisfies, hread, ← ih htail]

private theorem ne_nil_of_forall₂ {level : Level} {conditions : List Condition}
    (hparts : List.Forall₂ (ReadsAs level) parts conditions) (hsome : parts ≠ []) :
    conditions ≠ [] := by
  rintro rfl
  exact hsome (List.forall₂_nil_right_iff.mp hparts)

/-- A conjunction is true where all its parts are. -/
theorem satisfies_join_and (hparts : ∀ part ∈ parts, Readable .factor part) (hsome : parts ≠ []) :
    database.satisfies record (Fragment.join (.word .and) parts) = true ↔
      ∀ part ∈ parts, database.satisfies record part = true := by
  obtain ⟨conditions, hconditions⟩ := Readable.exists_conditions hparts
  have hmap := map_satisfies database record
    (fun hreads => hreads.alone)
    (fun part hpart => (hparts part hpart).plain) hconditions
  calc database.satisfies record (Fragment.join (.word .and) parts) = true
      ↔ ∀ condition ∈ conditions, database.truth record condition = .true := by
        rw [satisfies_iff (Readable.plain_join hparts)
          (readsAs_join_and hconditions hsome).toDisjunction,
          truth_all (ne_nil_of_forall₂ hconditions hsome)]
    _ ↔ ∀ known ∈ parts.map (database.satisfies record), known = true := by
        rw [hmap]
        simp
    _ ↔ ∀ part ∈ parts, database.satisfies record part = true := List.forall_mem_map

/-- A disjunction is true where one of its parts is. -/
theorem satisfies_join_or (hparts : ∀ part ∈ parts, Readable .conjunction part)
    (hsome : parts ≠ []) :
    database.satisfies record (Fragment.join (.word .or) parts) = true ↔
      ∃ part ∈ parts, database.satisfies record part = true := by
  obtain ⟨conditions, hconditions⟩ := Readable.exists_conditions hparts
  have hmap := map_satisfies database record
    (fun hreads => hreads.toDisjunction) (fun part hpart => (hparts part hpart).plain) hconditions
  calc database.satisfies record (Fragment.join (.word .or) parts) = true
      ↔ ∃ condition ∈ conditions, database.truth record condition = .true := by
        rw [satisfies_iff (Readable.plain_join hparts) (readsAs_join_or hconditions hsome),
          truth_any (ne_nil_of_forall₂ hconditions hsome)]
    _ ↔ ∃ known ∈ parts.map (database.satisfies record), known = true := by
        rw [hmap]
        simp
    _ ↔ ∃ part ∈ parts, database.satisfies record part = true := by simp

/-- A disjunction of conditions in parentheses is true where one of them is. -/
theorem satisfies_join_parenthesized (hparts : ∀ part ∈ parts, Readable .disjunction part)
    (hsome : parts ≠ []) :
    database.satisfies record
        (Fragment.join (.word .or) (parts.map Fragment.parenthesized)) = true ↔
      ∃ part ∈ parts, database.satisfies record part = true := by
  have hreadable : ∀ part ∈ parts.map Fragment.parenthesized, Readable .conjunction part :=
    List.forall_mem_map.mpr fun part hpart => (hparts part hpart).parenthesized.toConjunction
  rw [satisfies_join_or hreadable (by simpa using hsome)]
  constructor
  · rintro ⟨_, hmem, hsatisfies⟩
    obtain ⟨part, hpart, rfl⟩ := List.mem_map.mp hmem
    exact ⟨part, hpart, (satisfies_parenthesized (hparts part hpart)).symm.trans hsatisfies⟩
  · rintro ⟨part, hpart, hsatisfies⟩
    exact ⟨_, List.mem_map_of_mem hpart,
      (satisfies_parenthesized (hparts part hpart)).trans hsatisfies⟩

end Database

end ListQuery.Sql
