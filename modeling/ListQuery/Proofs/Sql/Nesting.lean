import ListQuery.Proofs.Sql.Database

/-!
# Nesting of parentheses

A fragment is scanned from left to right with a stack of what is open.  It is balanced
if nothing that was open before is closed in it and everything that it opens is closed
again.  Text of a clause is scanned by its characters; what stands between quotes does
not count, and a quote that is not closed or a comment, which would swallow what
follows, is refused.

A balanced condition in parentheses is read back as it is, wherever it stands.  So the
conditions of a statement are the parts of the `AND` at the top of its `WHERE`, and none
of them reaches into another one (`conjuncts?_conditionsFragment`).
-/

namespace ListQuery.Sql

/-- Something that is open. -/
inductive Bracket where
  | parenthesis
  | square
deriving DecidableEq

/-! ## Scanning -/

/-- What is open after a text; `quote` is the quotation mark that the text starts inside
of. -/
def nestChars (quote : Option Char) (opened : List Bracket) : List Char → Option (List Bracket)
  | [] => if quote.isNone then some opened else none
  | c :: rest =>
    match quote with
    -- Nothing is opened or closed inside of quotation marks.
    | some mark => nestChars (if c = mark then none else some mark) opened rest
    | none =>
      if c = '"' ∨ c = '\'' then nestChars (some c) opened rest
      -- A comment could hide what is written after the text.
      else if (c = '-' ∧ rest.head? = some '-') ∨ (c = '/' ∧ rest.head? = some '*') then none
      else if c = '(' then nestChars none (.parenthesis :: opened) rest
      else if c = '[' then nestChars none (.square :: opened) rest
      else if c = ')' then
        match opened with
        | .parenthesis :: opened => nestChars none opened rest
        | _ => none
      else if c = ']' then
        match opened with
        | .square :: opened => nestChars none opened rest
        | _ => none
      else nestChars none opened rest

/-- What is open after a chunk. -/
def Chunk.nest (opened : List Bracket) : Chunk → Option (List Bracket)
  | .token .openParen => some (.parenthesis :: opened)
  | .token .openBracket => some (.square :: opened)
  | .token .closeParen =>
    match opened with
    | .parenthesis :: opened => some opened
    | _ => none
  | .token .closeBracket =>
    match opened with
    | .square :: opened => some opened
    | _ => none
  | .verbatim text => nestChars none opened text.toList
  | _ => some opened

namespace Fragment

/-- What is open after a fragment. -/
def nest (opened : List Bracket) : Fragment → Option (List Bracket)
  | [] => some opened
  | chunk :: rest => (chunk.nest opened).bind fun opened => nest opened rest

/-- Whether a fragment closes what it opens and nothing else. -/
def Balanced (fragment : Fragment) : Prop :=
  fragment.nest [] = some []

instance (fragment : Fragment) : Decidable fragment.Balanced :=
  inferInstanceAs (Decidable (fragment.nest [] = some []))

end Fragment

/-! ## What is open before makes no difference -/

private theorem nestChars_frame {quote : Option Char} {opened left : List Bracket}
    {chars : List Char} (below : List Bracket) (hchars : nestChars quote opened chars = some left) :
    nestChars quote (opened ++ below) chars = some (left ++ below) := by
  induction chars generalizing quote opened with
  | nil =>
      cases quote with
      | none =>
          cases hchars
          rfl
      | some mark => cases hchars
  | cons c rest ih =>
      unfold nestChars at hchars ⊢
      cases quote with
      | some mark => exact ih hchars
      | none =>
          simp only at hchars ⊢
          by_cases hquote : c = '"' ∨ c = '\''
          · rw [if_pos hquote] at hchars ⊢
            exact ih hchars
          rw [if_neg hquote] at hchars ⊢
          by_cases hcomment : (c = '-' ∧ rest.head? = some '-') ∨ (c = '/' ∧ rest.head? = some '*')
          · rw [if_pos hcomment] at hchars
            cases hchars
          rw [if_neg hcomment] at hchars ⊢
          by_cases hparen : c = '('
          · rw [if_pos hparen] at hchars ⊢
            exact ih hchars
          rw [if_neg hparen] at hchars ⊢
          by_cases hsquare : c = '['
          · rw [if_pos hsquare] at hchars ⊢
            exact ih hchars
          rw [if_neg hsquare] at hchars ⊢
          -- A closing bracket needs its partner among those that were opened here.
          by_cases hcloseParen : c = ')'
          · rw [if_pos hcloseParen] at hchars ⊢
            cases opened with
            | nil => cases hchars
            | cons bracket opened =>
                cases bracket with
                | parenthesis => exact ih hchars
                | square => cases hchars
          rw [if_neg hcloseParen] at hchars ⊢
          by_cases hcloseSquare : c = ']'
          · rw [if_pos hcloseSquare] at hchars ⊢
            cases opened with
            | nil => cases hchars
            | cons bracket opened =>
                cases bracket with
                | parenthesis => cases hchars
                | square => exact ih hchars
          rw [if_neg hcloseSquare] at hchars ⊢
          exact ih hchars

private theorem Chunk.nest_frame {chunk : Chunk} {opened left : List Bracket}
    (below : List Bracket) (hchunk : chunk.nest opened = some left) :
    chunk.nest (opened ++ below) = some (left ++ below) := by
  unfold Chunk.nest at hchunk ⊢
  split at hchunk
  case h_3 | h_4 =>
      split at hchunk
      · cases hchunk
        rfl
      · cases hchunk
  case h_5 => exact nestChars_frame below hchunk
  all_goals
    cases hchunk
    rfl

namespace Fragment

variable {first second fragment : Fragment}

private theorem nest_frame {opened left : List Bracket} (below : List Bracket)
    (hfragment : fragment.nest opened = some left) :
    fragment.nest (opened ++ below) = some (left ++ below) := by
  induction fragment generalizing opened with
  | nil =>
      cases hfragment
      rfl
  | cons chunk rest ih =>
      obtain ⟨next, hchunk, hrest⟩ := Option.bind_eq_some_iff.mp hfragment
      rw [nest, Chunk.nest_frame below hchunk]
      exact ih hrest

/-- A balanced fragment leaves open what was open before. -/
theorem Balanced.nest (hfragment : fragment.Balanced) (opened : List Bracket) :
    fragment.nest opened = some opened := by
  have hframe := nest_frame opened hfragment
  simpa using hframe

/-! ## Building balanced fragments -/

theorem nest_append (opened : List Bracket) :
    (first ++ second).nest opened = (first.nest opened).bind fun opened => second.nest opened := by
  induction first generalizing opened with
  | nil => rfl
  | cons chunk rest ih =>
      rw [List.cons_append, Fragment.nest, Fragment.nest]
      cases chunk.nest opened with
      | none => rfl
      | some next => exact ih next

theorem balanced_nil : Balanced [] := rfl

theorem Balanced.append (hfirst : first.Balanced) (hsecond : second.Balanced) :
    (first ++ second).Balanced := by
  rw [Balanced, nest_append, hfirst]
  exact hsecond

/-- A chunk that opens and closes nothing is balanced. -/
theorem balanced_singleton {chunk : Chunk} (hchunk : chunk.nest [] = some []) :
    Balanced [chunk] := by
  rw [Balanced, Fragment.nest, hchunk]
  rfl

theorem Balanced.cons {chunk : Chunk} (hchunk : chunk.nest [] = some [])
    (hrest : fragment.Balanced) : Balanced (chunk :: fragment) :=
  (balanced_singleton hchunk).append hrest

theorem Balanced.parenthesized (hfragment : fragment.Balanced) :
    fragment.parenthesized.Balanced := by
  show Fragment.nest [] (.token .openParen :: (fragment ++ [.token .closeParen])) = some []
  rw [Fragment.nest, Chunk.nest, Option.bind_some, nest_append, hfragment.nest]
  rfl

theorem Balanced.call {function : Token} (hfunction : (Chunk.token function).nest [] = some [])
    (hfragment : fragment.Balanced) : (call function fragment).Balanced :=
  hfragment.parenthesized.cons hfunction

/-- A balanced fragment in square brackets is balanced. -/
theorem Balanced.bracketed (hfragment : fragment.Balanced) :
    (ofToken .openBracket ++ fragment ++ ofToken .closeBracket).Balanced := by
  show Fragment.nest [] (.token .openBracket :: (fragment ++ [.token .closeBracket])) = some []
  rw [Fragment.nest, Chunk.nest, Option.bind_some, nest_append, hfragment.nest]
  rfl

theorem balanced_join {separator : Token} {parts : List Fragment}
    (hseparator : (Chunk.token separator).nest [] = some [])
    (hparts : ∀ part ∈ parts, part.Balanced) : (join separator parts).Balanced := by
  induction parts with
  | nil => exact join_nil separator ▸ balanced_nil
  | cons first rest ih =>
      obtain ⟨hfirst, hrest⟩ := List.forall_mem_cons.mp hparts
      cases rest with
      | nil => simpa using hfirst
      | cons second others =>
          rw [join_cons_cons]
          exact hfirst.append ((ih hrest).cons hseparator)

theorem balanced_word (keyword : Keyword) : (word keyword).Balanced := rfl

theorem balanced_column (table name : String) : (column table name).Balanced := rfl

theorem balanced_castTo (type : Option String) : (castTo type).Balanced := by
  cases type <;> rfl

theorem balanced_parameter (value : Scalar) (type : Option String) :
    (parameter value type).Balanced :=
  (balanced_castTo type).cons rfl

theorem balanced_parameters (values : List Scalar) (type : Option String) :
    (parameters values type).Balanced :=
  balanced_join rfl (List.forall_mem_map.mpr fun value _ => balanced_parameter value type)

theorem Balanced.word (hfragment : fragment.Balanced) (keyword : Keyword) :
    (fragment ++ Fragment.word keyword).Balanced :=
  hfragment.append (balanced_word keyword)

theorem Balanced.comparison (hfragment : fragment.Balanced) (sign : Comparison) :
    (fragment ++ Fragment.comparison sign).Balanced :=
  hfragment.append (balanced_singleton rfl)

theorem Balanced.comma (hfragment : fragment.Balanced) : (fragment ++ ofToken .comma).Balanced :=
  hfragment.append (balanced_singleton rfl)

theorem Balanced.castTo (hfragment : fragment.Balanced) (type : Option String) :
    (fragment ++ Fragment.castTo type).Balanced :=
  hfragment.append (balanced_castTo type)

theorem Balanced.parameter (hfragment : fragment.Balanced) (value : Scalar)
    (type : Option String) : (fragment ++ Fragment.parameter value type).Balanced :=
  hfragment.append (balanced_parameter value type)

end Fragment

/-! ## Reading the conditions back -/

/-- The conditions up to the end of a fragment, each in parentheses and `AND` between
any two.  The parenthesis of the first is open and what follows it has been read. -/
def conjunctsFrom (read : Fragment) (opened : List Bracket) : Fragment → Option (List Fragment)
  | [] => none
  | chunk :: rest =>
    if opened = [] ∧ chunk = .token .closeParen then
      match rest with
      | [] => some [read.reverse]
      | .token (.word .and) :: .token .openParen :: rest =>
        (conjunctsFrom [] [] rest).map (read.reverse :: ·)
      | _ => none
    else (chunk.nest opened).bind fun opened => conjunctsFrom (chunk :: read) opened rest

/-- The parts of the `AND` at the top of a `WHERE`. -/
def conjuncts? : Fragment → Option (List Fragment)
  | [] => some []
  | .token (.word .whereWord) :: .token .openParen :: rest => conjunctsFrom [] [] rest
  | _ => none

/-- Whether a `WHERE` holds of a row if it is known of every condition whether it does. -/
def whereTruth? (truth : Fragment → Truth) (fragment : Fragment) : Option Truth :=
  (conjuncts? fragment).map fun conditions => (conditions.map truth).foldr Truth.and .true

/-- What is balanced is read without an end in between. -/
private theorem conjunctsFrom_append {body rest read : Fragment} {opened left : List Bracket}
    (hbody : body.nest opened = some left) :
    conjunctsFrom read opened (body ++ rest) = conjunctsFrom (body.reverse ++ read) left rest := by
  induction body generalizing read opened with
  | nil =>
      cases hbody
      rfl
  | cons chunk body ih =>
      obtain ⟨next, hchunk, hnext⟩ := Option.bind_eq_some_iff.mp hbody
      -- A parenthesis that closes the condition would have no partner in the body.
      have hinside : ¬(opened = [] ∧ chunk = .token .closeParen) := by
        rintro ⟨rfl, rfl⟩
        cases hchunk
      have hstep : conjunctsFrom read opened (chunk :: (body ++ rest)) =
          (chunk.nest opened).bind fun opened =>
            conjunctsFrom (chunk :: read) opened (body ++ rest) := by
        rw [conjunctsFrom.eq_def]
        exact if_neg hinside
      rw [List.cons_append, hstep, hchunk, Option.bind_some, ih hnext, List.reverse_cons,
        List.append_assoc, List.singleton_append]

/-- The conditions of a `WHERE` are read back one by one if each of them is balanced. -/
theorem conjuncts?_conditionsFragment {conditions : List Fragment}
    (hconditions : ∀ condition ∈ conditions, condition.Balanced) :
    conjuncts? (Select.conditionsFragment conditions) = some conditions := by
  -- Conjuncts are read from inside of the first parenthesis.
  have hjoin : ∀ (first : Fragment) (rest : List Fragment),
      (∀ condition ∈ first :: rest, condition.Balanced) →
      ∃ tail, Fragment.join (.word .and) ((first :: rest).map Fragment.parenthesized) =
          .token .openParen :: tail ∧
        conjunctsFrom [] [] tail = some (first :: rest) := by
    intro first rest hbalanced
    induction rest generalizing first with
    | nil =>
        refine ⟨first ++ [.token .closeParen], by simp [Fragment.parenthesized], ?_⟩
        rw [conjunctsFrom_append (hbalanced first List.mem_cons_self)]
        simp [conjunctsFrom]
    | cons second others ih =>
        obtain ⟨hfirst, hothers⟩ := List.forall_mem_cons.mp hbalanced
        obtain ⟨tail, htail, hread⟩ := ih second hothers
        refine ⟨first ++ .token .closeParen :: .token (.word .and) :: .token .openParen :: tail,
          ?_, ?_⟩
        · rw [List.map_cons] at htail
          rw [List.map_cons, List.map_cons, Fragment.join_cons_cons, htail]
          simp [Fragment.parenthesized]
        · rw [conjunctsFrom_append hfirst]
          simp [conjunctsFrom, hread]
  cases conditions with
  | nil => rfl
  | cons first rest =>
      obtain ⟨tail, htail, hread⟩ := hjoin first rest hconditions
      rw [Select.conditionsFragment, if_neg (by simp), htail]
      exact hread

/-- A `WHERE` with balanced conditions holds where all of them do. -/
theorem whereTruth?_conditionsFragment {conditions : List Fragment} {truth : Fragment → Truth}
    (hconditions : ∀ condition ∈ conditions, condition.Balanced) :
    whereTruth? truth (Select.conditionsFragment conditions) = some .true ↔
      ∀ condition ∈ conditions, truth condition = .true := by
  rw [whereTruth?, conjuncts?_conditionsFragment hconditions, Option.map_some, Option.some.injEq]
  clear hconditions
  induction conditions with
  | nil => simp
  | cons first rest ih => simp [ih]

end ListQuery.Sql
