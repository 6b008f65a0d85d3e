import ListQuery.Proofs.Sql.Database
import Mathlib.Data.List.Induction
import Mathlib.Data.List.Infix

/-!
# Patterns

In a pattern of `ILIKE` a percent sign stands for any text, an underscore for any character, and
a backslash for the character after it, whatever that is.  PostgreSQL rejects a pattern that
ends in a backslash with nothing after it.

What a pattern matches is derived from three facts.  Patterns are put together as the texts are
that they match (`accepts_append`), and so are the texts that they are written as, unless the
first of them ends in an escape (`read?_append`).  Characters without a meaning of their own
match themselves only (`accepts_literals`).
-/

namespace ListQuery.Sql

namespace Pattern

/-- What a pattern consists of. -/
inductive Piece where
  | anyText
  | anyCharacter
  | literal (character : Char)
deriving DecidableEq

/-- Whether a character has a meaning of its own in a pattern. -/
def IsSpecial (character : Char) : Prop :=
  character = '%' ∨ character = '_' ∨ character = '\\'

instance (character : Char) : Decidable (IsSpecial character) :=
  inferInstanceAs (Decidable (_ ∨ _ ∨ _))

/-- Whether no character of a text has a meaning of its own in a pattern. -/
def IsPlain (text : List Char) : Prop :=
  ∀ character ∈ text, ¬IsSpecial character

instance (text : List Char) : Decidable (IsPlain text) :=
  List.decidableBAll (fun character => ¬IsSpecial character) text

/-- What a character that is not escaped stands for. -/
def piece : Char → Piece
  | '%' => .anyText
  | '_' => .anyCharacter
  | character => .literal character

/-- The pieces of a pattern, unless it ends within an escape. -/
def read? : List Char → Option (List Piece)
  | [] => some []
  | first :: rest =>
    if first = '\\' then
      match rest with
      | [] => none
      | escaped :: rest => (read? rest).map (.literal escaped :: ·)
    else (read? rest).map (piece first :: ·)

/-- Whether a text matches a pattern, if characters with the same folding are the same. -/
def accepts (fold : Char → Char) : List Piece → List Char → Bool
  | [], text => text.isEmpty
  | .anyText :: pieces, text => text.tails.any (accepts fold pieces)
  | .anyCharacter :: pieces, text =>
    match text with
    | [] => false
    | _ :: rest => accepts fold pieces rest
  | .literal character :: pieces, text =>
    match text with
    | [] => false
    | first :: rest => fold first == fold character && accepts fold pieces rest

/-! ## Matching -/

section

variable {fold : Char → Char} {pieces : List Piece} {text : List Char}

@[simp] theorem accepts_nil : accepts fold [] text = true ↔ text = [] :=
  List.isEmpty_iff

theorem accepts_anyText_cons :
    accepts fold (.anyText :: pieces) text = true ↔
      ∃ back, back <:+ text ∧ accepts fold pieces back = true := by
  simp [accepts]

theorem accepts_anyCharacter_cons :
    accepts fold (.anyCharacter :: pieces) text = true ↔
      ∃ first rest, text = first :: rest ∧ accepts fold pieces rest = true := by
  cases text <;> simp [accepts]

theorem accepts_literal_cons {character : Char} :
    accepts fold (.literal character :: pieces) text = true ↔
      ∃ first rest, text = first :: rest ∧ fold first = fold character ∧
        accepts fold pieces rest = true := by
  cases text <;> simp [accepts]

/-- Two patterns together match what two texts are together that match them. -/
theorem accepts_append {others : List Piece} :
    accepts fold (pieces ++ others) text = true ↔
      ∃ front back, front ++ back = text ∧ accepts fold pieces front = true ∧
        accepts fold others back = true := by
  -- Each piece takes its part from the front of the first text.
  induction pieces generalizing text with
  | nil => simp
  | cons piece rest ih =>
      cases piece with
      | anyText =>
          simp only [List.cons_append, accepts_anyText_cons, ih]
          constructor
          · rintro ⟨_, ⟨skipped, rfl⟩, front, back, rfl, hfront, hback⟩
            exact ⟨skipped ++ front, back, List.append_assoc .., ⟨front, ⟨skipped, rfl⟩, hfront⟩,
              hback⟩
          · rintro ⟨_, back, rfl, ⟨front, ⟨skipped, rfl⟩, hfront⟩, hback⟩
            exact ⟨front ++ back, ⟨skipped, (List.append_assoc ..).symm⟩, front, back, rfl, hfront,
              hback⟩
      | anyCharacter =>
          simp only [List.cons_append, accepts_anyCharacter_cons, ih]
          constructor
          · rintro ⟨first, _, rfl, front, back, rfl, hfront, hback⟩
            exact ⟨first :: front, back, rfl, ⟨first, front, rfl, hfront⟩, hback⟩
          · rintro ⟨_, back, rfl, ⟨first, front, rfl, hfront⟩, hback⟩
            exact ⟨first, front ++ back, rfl, front, back, rfl, hfront, hback⟩
      | literal character =>
          simp only [List.cons_append, accepts_literal_cons, ih]
          constructor
          · rintro ⟨first, _, rfl, hfirst, front, back, rfl, hfront, hback⟩
            exact ⟨first :: front, back, rfl, ⟨first, front, rfl, hfirst, hfront⟩, hback⟩
          · rintro ⟨_, back, rfl, ⟨first, front, rfl, hfirst, hfront⟩, hback⟩
            exact ⟨first, front ++ back, rfl, hfirst, front, back, rfl, hfront, hback⟩

/-- A wildcard at the end lets the pattern match a beginning of the text. -/
theorem accepts_concat_anyText :
    accepts fold (pieces ++ [.anyText]) text = true ↔
      ∃ front, front <+: text ∧ accepts fold pieces front = true := by
  simp only [accepts_append, accepts_anyText_cons, accepts_nil]
  constructor
  · rintro ⟨front, back, hfront, hpieces, -⟩
    exact ⟨front, ⟨back, hfront⟩, hpieces⟩
  · rintro ⟨front, ⟨back, hfront⟩, hpieces⟩
    exact ⟨front, back, hfront, hpieces, [], List.nil_suffix, rfl⟩

/-- Characters that stand for themselves match the same text, regardless of case. -/
theorem accepts_literals {characters : List Char} :
    accepts fold (characters.map .literal) text = true ↔ text.map fold = characters.map fold := by
  induction characters generalizing text with
  | nil => simp
  | cons character rest ih =>
      rw [List.map_cons, accepts_literal_cons, List.map_cons, List.map_eq_cons_iff]
      simp only [ih]

end

/-! ## Reading -/

section

variable {first second text rest : List Char} {pieces : List Piece}

theorem read?_escaped (character : Char) :
    read? ('\\' :: character :: rest) = (read? rest).map (.literal character :: ·) :=
  rfl

theorem read?_cons {character : Char} (hcharacter : character ≠ '\\') :
    read? (character :: rest) = (read? rest).map (piece character :: ·) := by
  cases rest <;> exact if_neg hcharacter

/-- What follows a pattern that does not end in an escape is read on its own. -/
theorem read?_append (hfirst : read? first = some pieces) :
    read? (first ++ second) = (read? second).map (pieces ++ ·) := by
  induction first using read?.induct generalizing pieces with
  | case1 =>
      cases hfirst
      simp
  | case2 => simp [read?] at hfirst
  | case3 escaped rest ih =>
      rw [read?_escaped] at hfirst
      obtain ⟨others, hothers, rfl⟩ := Option.map_eq_some_iff.mp hfirst
      rw [List.cons_append, List.cons_append, read?_escaped, ih hothers, Option.map_map]
      rfl
  | case4 character rest hcharacter ih =>
      rw [read?_cons hcharacter] at hfirst
      obtain ⟨others, hothers, rfl⟩ := Option.map_eq_some_iff.mp hfirst
      rw [List.cons_append, read?_cons hcharacter, ih hothers, Option.map_map]
      rfl

/-- Only characters with a meaning of their own stand for something else. -/
theorem read?_of_isPlain (hplain : IsPlain text) : read? text = some (text.map .literal) := by
  induction text with
  | nil => rfl
  | cons character rest ih =>
      obtain ⟨hcharacter, hrest⟩ := List.forall_mem_cons.mp hplain
      simp only [IsSpecial, not_or] at hcharacter
      obtain ⟨hpercent, hunderscore, hbackslash⟩ := hcharacter
      rw [read?_cons hbackslash, ih hrest, piece.eq_3 character hpercent hunderscore]
      rfl

/-- A pattern ends in an escape if something can be read before its last backslash. -/
theorem read?_eq_none_iff :
    read? text = none ↔ ∃ rest pieces, text = rest ++ ['\\'] ∧ read? rest = some pieces := by
  constructor
  · intro hnone
    induction text using read?.induct with
    | case1 => cases hnone
    | case2 => exact ⟨[], [], rfl, rfl⟩
    | case3 escaped rest ih =>
        rw [read?_escaped, Option.map_eq_none_iff] at hnone
        obtain ⟨before, pieces, rfl, hbefore⟩ := ih hnone
        exact ⟨'\\' :: escaped :: before, _, rfl, by rw [read?_escaped, hbefore]; rfl⟩
    | case4 character rest hcharacter ih =>
        rw [read?_cons hcharacter, Option.map_eq_none_iff] at hnone
        obtain ⟨before, pieces, rfl, hbefore⟩ := ih hnone
        exact ⟨character :: before, _, rfl, by rw [read?_cons hcharacter, hbefore]; rfl⟩
  · rintro ⟨rest, pieces, rfl, hrest⟩
    rw [read?_append hrest]
    rfl

/-- The character after an escape stands for itself. -/
theorem read?_append_of_none (hnone : read? first = none) (character : Char) :
    ∃ pieces, read? (first ++ [character]) = some pieces := by
  obtain ⟨rest, pieces, rfl, hrest⟩ := read?_eq_none_iff.mp hnone
  rw [List.append_assoc, read?_append hrest]
  exact ⟨_, rfl⟩

/-- How many backslashes a text ends in. -/
def closingBackslashes (text : List Char) : Nat :=
  (text.reverse.takeWhile (· = '\\')).length

theorem closingBackslashes_concat (character : Char) :
    closingBackslashes (text ++ [character]) =
      if character = '\\' then closingBackslashes text + 1 else 0 := by
  unfold closingBackslashes
  rw [List.reverse_append, List.reverse_singleton, List.singleton_append, List.takeWhile_cons]
  split <;> simp_all

/-- Of the backslashes at the end each other one is escaped, so that the last is left over if
their number is odd. -/
theorem read?_eq_none_iff_odd : read? text = none ↔ closingBackslashes text % 2 = 1 := by
  induction text using List.reverseRecOn with
  | nil => decide
  | append_singleton rest last ih =>
      rw [closingBackslashes_concat]
      cases hrest : read? rest with
      | none =>
          -- The last character is escaped, so that nothing is left over.
          obtain ⟨pieces, hpieces⟩ := read?_append_of_none hrest last
          have hodd := ih.mp hrest
          rw [hpieces]
          exact iff_of_false nofun (by split <;> omega)
      | some pieces =>
          have heven : ¬closingBackslashes rest % 2 = 1 := fun hodd => by
            rw [ih.mpr hodd] at hrest
            cases hrest
          rw [read?_append hrest, Option.map_eq_none_iff]
          by_cases hlast : last = '\\'
          · subst hlast
            rw [if_pos rfl]
            exact iff_of_true rfl (by omega)
          · rw [if_neg hlast, read?_cons hlast]
            exact iff_of_false nofun (by omega)

end

end Pattern

end ListQuery.Sql
