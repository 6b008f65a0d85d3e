import ListQuery.Proofs.Sql.Fragment
import ListQuery.Sql.Select

/-!
# Placeholders stand for their own values

A statement is numbered only when it is written, so whatever was done to its parts
before, the numbers in its text run from one up, and the value behind a number is the one
that stands in the fragment at this place.

Two facts carry this.  Writing two fragments one after the other is writing each of them,
the second with the numbers that the first leaves (`charsFrom_append`).  And a statement
consists of its `parts`, in the order of the text, and of chunks around them that bind
nothing (`embeds_fragment`), so a part has the numbers that follow those of the parts
before it.
-/

namespace ListQuery.Sql

namespace Fragment

/-! ## Writing one fragment after another -/

/-- What is written between two fragments. -/
def gap (first second : Fragment) : List Char :=
  match first.getLast?, second.head? with
  | some current, some next => if current.spaceBetween next then [' '] else []
  | _, _ => []

@[simp] theorem gap_nil_left (second : Fragment) : gap [] second = [] := rfl

@[simp] theorem gap_nil_right (first : Fragment) : gap first [] = [] := by
  unfold gap
  cases first.getLast? <;> rfl

theorem gap_cons (current next : Chunk) (rest : Fragment) :
    gap [current] (next :: rest) = if current.spaceBetween next then [' '] else [] := rfl

/-- Only the end of the first fragment counts. -/
theorem gap_cons_cons (chunk next : Chunk) (rest second : Fragment) :
    gap (chunk :: next :: rest) second = gap (next :: rest) second := by
  unfold gap
  rw [List.getLast?_cons_cons]

theorem values_cons (chunk : Chunk) (rest : Fragment) :
    values (chunk :: rest) = values [chunk] ++ values rest :=
  values_append [chunk] rest

/-- A chunk takes one number if it binds a value, and none otherwise. -/
theorem length_values_singleton (chunk : Chunk) :
    (values [chunk]).length = if chunk.value?.isSome then 1 else 0 := by
  unfold values
  cases hvalue : chunk.value? <;> simp [hvalue]

/-- A chunk is written before what follows it. -/
theorem charsFrom_cons (index : Nat) (chunk : Chunk) (rest : Fragment) :
    charsFrom index (chunk :: rest) =
      chunk.chars index ++
        (gap [chunk] rest ++ charsFrom (index + (values [chunk]).length) rest) := by
  cases rest with
  | nil => simp [charsFrom]
  | cons next rest =>
      have hindex : (if chunk.value?.isSome then index + 1 else index) =
          index + (values [chunk]).length := by
        rw [length_values_singleton]
        split <;> rfl
      rw [charsFrom, hindex, gap_cons]

/-- The second of two fragments goes on with the numbers that the first leaves. -/
theorem charsFrom_append (index : Nat) (first second : Fragment) :
    charsFrom index (first ++ second) =
      charsFrom index first ++
        (gap first second ++ charsFrom (index + first.values.length) second) := by
  induction first generalizing index with
  | nil => simp [charsFrom, values]
  | cons chunk rest ih =>
      cases rest with
      | nil => exact charsFrom_cons index chunk second
      | cons next rest =>
          -- The numbers of the second fragment follow those of all chunks before it.
          have hindex : index + (values [chunk]).length + (values (next :: rest)).length =
              index + (values (chunk :: next :: rest)).length := by
            rw [values_cons chunk (next :: rest), List.length_append, Nat.add_assoc]
          have hgap : gap [chunk] ((next :: rest) ++ second) = gap [chunk] (next :: rest) := rfl
          calc charsFrom index ((chunk :: next :: rest) ++ second)
              = chunk.chars index ++ (gap [chunk] (next :: rest) ++
                  charsFrom (index + (values [chunk]).length) ((next :: rest) ++ second)) := by
                rw [List.cons_append, charsFrom_cons, hgap]
            _ = charsFrom index (chunk :: next :: rest) ++ (gap (chunk :: next :: rest) second ++
                  charsFrom (index + (values (chunk :: next :: rest)).length) second) := by
                rw [ih, charsFrom_cons index chunk, gap_cons_cons, hindex]
                simp only [List.append_assoc]

/-! ## The texts between placeholders -/

/-- The texts before, between and after the parameters of a fragment. -/
def runs : Fragment → List (List Char)
  | [] => [[]]
  | chunk :: rest =>
    match chunk.value? with
    | some _ => [] :: (runs rest).modifyHead (gap [chunk] rest ++ ·)
    | none => (runs rest).modifyHead ((chunk.chars 0 ++ gap [chunk] rest) ++ ·)

/-- Texts with a placeholder between any two, numbered from `index` up. -/
def numbered (index : Nat) : List (List Char) → List Char
  | [] => []
  | [last] => last
  | text :: next :: rest =>
    text ++ '$' :: (Text.natDigits index ++ numbered (index + 1) (next :: rest))

/-- There is one text more than there are parameters. -/
theorem length_runs (fragment : Fragment) :
    fragment.runs.length = fragment.values.length + 1 := by
  induction fragment with
  | nil => rfl
  | cons chunk rest ih =>
      rw [values_cons, List.length_append, length_values_singleton]
      cases hvalue : chunk.value? with
      | none => simp [runs, hvalue, ih]
      | some value =>
          simp [runs, hvalue, ih]
          omega

theorem runs_ne_nil (fragment : Fragment) : fragment.runs ≠ [] := by
  have hlength := length_runs fragment
  intro hnil
  rw [hnil, List.length_nil] at hlength
  omega

private theorem numbered_modifyHead (index : Nat) (text : List Char) {texts : List (List Char)}
    (htexts : texts ≠ []) :
    numbered index (texts.modifyHead (text ++ ·)) = text ++ numbered index texts := by
  obtain ⟨first, rest, rfl⟩ := List.exists_cons_of_ne_nil htexts
  cases rest with
  | nil => rfl
  | cons second rest => simp [numbered]

/-- A parameter is written as its number and nothing but a parameter is numbered. -/
theorem chars_of_value? (index : Nat) (chunk : Chunk) :
    chunk.chars index =
      if chunk.value?.isSome then '$' :: Text.natDigits index else chunk.chars 0 := by
  cases chunk <;> rfl

/-- The text of a fragment is made of its texts between parameters and of one placeholder
for each parameter, the numbers rising by one. -/
theorem charsFrom_eq_numbered (index : Nat) (fragment : Fragment) :
    fragment.charsFrom index = numbered index fragment.runs := by
  induction fragment generalizing index with
  | nil => rfl
  | cons chunk rest ih =>
      rw [charsFrom_cons, ih, length_values_singleton, chars_of_value?]
      cases hvalue : chunk.value? with
      | none =>
          rw [runs, hvalue]
          simp only [numbered_modifyHead index _ (runs_ne_nil rest)]
          simp
      | some value =>
          have hhead := numbered_modifyHead (index + 1) (gap [chunk] rest) (runs_ne_nil rest)
          obtain ⟨first, others, hruns⟩ := List.exists_cons_of_ne_nil (runs_ne_nil rest)
          rw [hruns] at hhead
          simp only [runs, hvalue, hruns, List.modifyHead_cons] at hhead ⊢
          simp [numbered, hhead]

/-! ## Parts of a fragment -/

/-- A fragment that consists of the given parts, in their order, and of chunks around them
that bind nothing. -/
inductive Embeds : List Fragment → Fragment → Prop
  | around {rest : Fragment} (hrest : rest.values = []) : Embeds [] rest
  | part {before part rest : Fragment} {parts : List Fragment} (hbefore : before.values = [])
      (hrest : Embeds parts rest) : Embeds (part :: parts) (before ++ part ++ rest)

namespace Embeds

variable {first second fragment : Fragment} {parts others : List Fragment}

theorem alone (fragment : Fragment) : Embeds [fragment] fragment := by
  have hpart : Embeds [fragment] ([] ++ fragment ++ []) := .part rfl (.around rfl)
  simpa using hpart

/-- Chunks that bind nothing may stand before a fragment. -/
theorem after (first : Fragment) (hfirst : first.values = []) (hsecond : Embeds parts second) :
    Embeds parts (first ++ second) := by
  cases hsecond with
  | around hrest => exact around (by rw [values_append, hfirst, hrest, List.append_nil])
  | @part before part rest parts hbefore hrest =>
      have hboth : (first ++ before).values = [] := by
        rw [values_append, hfirst, hbefore, List.append_nil]
      have hpart : Embeds (part :: parts) (first ++ before ++ part ++ rest) := .part hboth hrest
      simpa only [List.append_assoc] using hpart

theorem append (hfirst : Embeds parts first) (hsecond : Embeds others second) :
    Embeds (parts ++ others) (first ++ second) := by
  induction hfirst with
  | @around rest hrest => exact hsecond.after rest hrest
  | @part before part rest parts hbefore hrest ih =>
      have hpart : Embeds (part :: (parts ++ others)) (before ++ part ++ (rest ++ second)) :=
        .part hbefore ih
      simpa only [List.cons_append, List.append_assoc] using hpart

/-- Chunks that bind nothing may follow a fragment. -/
theorem before (hfirst : Embeds parts first) (second : Fragment) (hsecond : second.values = []) :
    Embeds parts (first ++ second) := by
  simpa using hfirst.append (around hsecond)

section

variable {α : Type} {items : List α} {partOf whole : α → Fragment}

theorem flatMap (hitems : ∀ item ∈ items, Embeds [partOf item] (whole item)) :
    Embeds (items.map partOf) (items.flatMap whole) := by
  induction items with
  | nil => exact around rfl
  | cons item rest ih =>
      obtain ⟨hitem, hrest⟩ := List.forall_mem_cons.mp hitems
      exact hitem.append (ih hrest)

theorem join (separator : Token)
    (hitems : ∀ item ∈ items, Embeds [partOf item] (whole item)) :
    Embeds (items.map partOf) (Fragment.join separator (items.map whole)) := by
  induction items with
  | nil =>
      rw [List.map_nil, List.map_nil, join_nil]
      exact around rfl
  | cons item rest ih =>
      obtain ⟨hitem, hrest⟩ := List.forall_mem_cons.mp hitems
      cases rest with
      | nil => simpa using hitem
      | cons next rest =>
          have hothers := (ih hrest).after [.token separator] rfl
          simp only [List.map_cons, join_cons_cons] at hothers ⊢
          exact hitem.append hothers

end

/-- The values of a fragment are those of its parts. -/
theorem values_eq (hembeds : Embeds parts fragment) :
    fragment.values = parts.flatMap values := by
  induction hembeds with
  | around hrest => exact hrest
  | part hbefore hrest ih => simp [hbefore, ih]

/-- Each part stands in the fragment behind the values of the parts before it. -/
theorem exists_split {earlier later : List Fragment} {part : Fragment}
    (hembeds : Embeds (earlier ++ part :: later) fragment) :
    ∃ before after, fragment = before ++ part ++ after ∧
      before.values = earlier.flatMap values := by
  induction earlier generalizing fragment with
  | nil =>
      cases hembeds with
      | part hbefore hrest => exact ⟨_, _, rfl, hbefore⟩
  | cons first earlier ih =>
      cases hembeds with
      | @part front _ rest _ hfront hrest =>
          obtain ⟨before, after, rfl, hbefore⟩ := ih hrest
          refine ⟨front ++ first ++ before, after, by simp only [List.append_assoc], ?_⟩
          simp [hfront, hbefore]

end Embeds

end Fragment

/-! ## Statements -/

namespace Select

open Fragment

/-- The fragments of a statement that may bind values, in the order of the text. -/
def parts (statement : Select) : List Fragment :=
  statement.columns.map Column.expression ++ statement.joins.map Join.on
    ++ statement.conditions ++ statement.ordering.map Order.expression

private theorem values_tableFragment (table : Table) : (tableFragment table).values = [] := rfl

private theorem values_limitFragment (limit : Option UInt32) :
    (limitFragment limit).values = [] := by
  cases limit <;> rfl

private theorem embeds_columnsFragment (columns : List Column) :
    Embeds (columns.map Column.expression) (columnsFragment columns) := by
  have hnamed : ∀ column ∈ columns,
      Embeds [column.expression] (column.expression.named column.aliasName) :=
    fun column _ => (Embeds.alone column.expression).before
      [.token (.word .asWord), .identifier column.aliasName] rfl
  have hjoin := Embeds.join .comma hnamed
  unfold columnsFragment
  cases columns with
  | nil => exact .around rfl
  | cons column rest => exact hjoin

private theorem embeds_joins (joins : List Join) :
    Embeds (joins.map Join.on) (joins.flatMap joinFragment) := by
  refine Embeds.flatMap fun join _ => (Embeds.alone join.on).after _ ?_
  cases join.kind <;> rfl

private theorem embeds_conditionsFragment (conditions : List Fragment) :
    Embeds conditions (conditionsFragment conditions) := by
  have hparts : ∀ condition ∈ conditions, Embeds [id condition] condition.parenthesized :=
    fun condition _ =>
      ((Embeds.alone condition).before [.token .closeParen] rfl).after [.token .openParen] rfl
  have hjoin := Embeds.join (.word .and) hparts
  rw [List.map_id] at hjoin
  unfold conditionsFragment
  cases conditions with
  | nil => exact .around rfl
  | cons condition rest => exact hjoin.after (Fragment.word .whereWord) rfl

private theorem values_nullsFragment (nulls : Option NullPlacement) :
    (nullsFragment nulls).values = [] := by
  rcases nulls with _ | _ | _ | _ <;> rfl

private theorem embeds_orderFragment (order : Order) :
    Embeds [order.expression] (orderFragment order) := by
  unfold orderFragment
  refine ((Embeds.alone order.expression).before _ ?_).before _ (values_nullsFragment _)
  cases order.direction <;> rfl

private theorem embeds_orderingFragment (ordering : List Order) :
    Embeds (ordering.map Order.expression) (orderingFragment ordering) := by
  have horders : ∀ order ∈ ordering, Embeds [order.expression] (orderFragment order) :=
    fun order _ => embeds_orderFragment order
  have hjoin := Embeds.join .comma horders
  unfold orderingFragment
  cases ordering with
  | nil => exact .around rfl
  | cons order rest =>
      exact hjoin.after (Fragment.word .order ++ Fragment.word .byWord) rfl

/-- A statement consists of its parts and of chunks that bind nothing. -/
theorem embeds_fragment (statement : Select) : Embeds statement.parts statement.fragment := by
  unfold parts fragment
  have hcolumns := ((embeds_columnsFragment statement.columns).after
    (Fragment.word .select) rfl).before (Fragment.word .fromWord) rfl
  have hjoins := (hcolumns.before _ (values_tableFragment statement.source)).append
    (embeds_joins statement.joins)
  have hconditions := hjoins.append (embeds_conditionsFragment statement.conditions)
  have hordering := hconditions.append (embeds_orderingFragment statement.ordering)
  exact hordering.before _ (values_limitFragment statement.limit)

/-- The text of a statement and the values sent with it belong together. -/
structure Numbered (statement : Select) : Prop where
  /-- The values are those of the parts, in the order of the text. -/
  parameters : statement.query.parameters = statement.parts.flatMap values
  /-- The placeholders are numbered from one up, each of them is written once, and the
  texts around them have no parameters. -/
  text : statement.query.text.toList = numbered 1 statement.fragment.runs
  /-- There are as many placeholders as values. -/
  count : statement.fragment.runs.length = statement.query.parameters.length + 1
  /-- A parameter with some number of parameters before it is written as the next number,
  and its value is sent at this place. -/
  placeholder : ∀ (before : Fragment) (value : Scalar) (after : Fragment),
    statement.fragment = before ++ .parameter value :: after →
    statement.query.text.toList =
      before.charsFrom 1 ++ (gap before [.parameter value] ++
        '$' :: (Text.natDigits (before.values.length + 1) ++
          (gap [.parameter value] after ++ after.charsFrom (before.values.length + 2)))) ∧
    statement.query.parameters[before.values.length]? = some value
  /-- A part is written with the numbers that follow those of the parts before it, and at
  these numbers its own values are sent. -/
  part : ∀ earlier part later, statement.parts = earlier ++ part :: later →
    (∃ before after, statement.fragment = before ++ part ++ after ∧
      before.values = earlier.flatMap values ∧
      statement.query.text.toList =
        before.charsFrom 1 ++ (gap before (part ++ after) ++
          (part.charsFrom ((earlier.flatMap values).length + 1) ++ (gap part after ++
            after.charsFrom ((earlier.flatMap values).length + part.values.length + 1))))) ∧
    statement.query.parameters =
      earlier.flatMap values ++ (part.values ++ later.flatMap values)
  /-- Other conditions in place of these change the block of their values and nothing else
  of what is sent. -/
  conditions : ∀ conditions,
    ({ statement with conditions := conditions } : Select).query.parameters =
      (statement.columns.map Column.expression ++ statement.joins.map Join.on).flatMap values
        ++ conditions.flatMap values ++ (statement.ordering.map Order.expression).flatMap values

/-- Whatever a statement is made of, its placeholders stand for the values of the fragments
that they are in. -/
theorem numbered_query (statement : Select) : statement.Numbered where
  parameters := statement.embeds_fragment.values_eq
  text := by
    rw [← charsFrom_eq_numbered]
    exact String.toList_ofList
  count := length_runs _
  placeholder := by
    intro before value after hfragment
    constructor
    · show (String.ofList (statement.fragment.charsFrom 1)).toList = _
      rw [String.toList_ofList, hfragment, charsFrom_append, charsFrom_cons,
        Nat.add_comm 1 before.values.length]
      cases before.getLast? <;> rfl
    · show statement.fragment.values[before.values.length]? = some value
      rw [hfragment, values_append, values_cons]
      simp [values, Chunk.value?]
  part := by
    intro earlier part later hparts
    have hembeds := statement.embeds_fragment
    rw [hparts] at hembeds
    constructor
    · obtain ⟨before, after, hfragment, hbefore⟩ := hembeds.exists_split
      refine ⟨before, after, hfragment, hbefore, ?_⟩
      show (String.ofList (statement.fragment.charsFrom 1)).toList = _
      rw [String.toList_ofList, hfragment, List.append_assoc, charsFrom_append, charsFrom_append,
        hbefore, Nat.add_comm 1 (List.length _), Nat.add_right_comm]
    · refine hembeds.values_eq.trans ?_
      rw [List.flatMap_append, List.flatMap_cons]
  conditions := by
    intro conditions
    have hembeds := embeds_fragment { statement with conditions := conditions }
    refine hembeds.values_eq.trans ?_
    simp only [parts, List.flatMap_append]

end Select

end ListQuery.Sql
