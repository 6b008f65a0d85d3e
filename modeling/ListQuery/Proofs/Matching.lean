import ListQuery.Proofs.Operators
import ListQuery.Proofs.Sql.Pattern
import Mathlib.Data.String.Basic

/-!
# Text matches

Some filters and the search look for an operand in the text of a field: anywhere, at the start,
at the end, or as the whole of it.  They match the text with a pattern in which the operand
stands as it is, with wildcards around it.

An operand without characters that have a meaning of their own in a pattern is found where it
occurs regardless of case (`finds_of_isPlain`).  Any other is a pattern itself, and parts
of the text are found that match it.  If it ends in an escape then what it escapes is the
wildcard after it; where there is none PostgreSQL rejects the pattern
(`read?_pattern_eq_none_iff`).
-/

namespace ListQuery

open Sql

/-! ## Positions -/

/-- Where a search looks for its term. -/
def SearchMode.position : SearchMode → Position
  | .anywhere => .anywhere
  | .atStart => .atStart
  | .whole => .whole

namespace Position

/-- Whether a text has a part at a position. -/
def Within : Position → List Char → List Char → Prop
  | .anywhere, part, text => part <:+: text
  | .atStart, part, text => part <+: text
  | .atEnd, part, text => part <:+ text
  | .whole, part, text => part = text

instance (position : Position) (part text : List Char) : Decidable (position.Within part text) :=
  match position with
  | .anywhere => inferInstanceAs (Decidable (part <:+: text))
  | .atStart => inferInstanceAs (Decidable (part <+: text))
  | .atEnd => inferInstanceAs (Decidable (part <:+ text))
  | .whole => inferInstanceAs (Decidable (part = text))

/-- The position of what has to be at the end as well. -/
def closed : Position → Position
  | .anywhere | .atEnd => .atEnd
  | .atStart | .whole => .whole

/-- A pattern with wildcards around it, so that it is looked for at a position. -/
def around : Position → List Pattern.Piece → List Pattern.Piece
  | .anywhere, pieces => .anyText :: (pieces ++ [.anyText])
  | .atStart, pieces => pieces ++ [.anyText]
  | .atEnd, pieces => .anyText :: pieces
  | .whole, pieces => pieces

/-- Whether an operand that is taken as a pattern is found in a text.  If it ends in an escape
then the percent sign after it is looked for as a character, and nothing may follow that. -/
def Finds (fold : Char → Char) (position : Position) (operand text : List Char) : Prop :=
  match Pattern.read? operand with
  | some pieces => ∃ part, position.Within part text ∧ Pattern.accepts fold pieces part
  | none => ∃ pieces part, Pattern.read? (operand ++ ['%']) = some pieces ∧
      position.closed.Within part text ∧ Pattern.accepts fold pieces part

variable {fold : Char → Char} {position : Position}

theorem within_map_iff {part text : List Char} :
    position.Within part (text.map fold) ↔
      ∃ other, position.Within other text ∧ part = other.map fold := by
  cases position with
  | anywhere => exact List.infix_map_iff
  | atStart => exact List.prefix_map_iff
  | atEnd => exact List.suffix_map_iff
  | whole => simp [Within]

/-- Characters that stand for themselves are found where they occur, regardless of case. -/
theorem finds_of_isPlain {operand text : List Char} (hplain : Pattern.IsPlain operand) :
    position.Finds fold operand text ↔ position.Within (operand.map fold) (text.map fold) := by
  simp only [Finds, Pattern.read?_of_isPlain hplain, within_map_iff, Pattern.accepts_literals]
  simp only [eq_comm]

theorem accepts_around {pieces : List Pattern.Piece} {text : List Char} :
    Pattern.accepts fold (position.around pieces) text = true ↔
      ∃ part, position.Within part text ∧ Pattern.accepts fold pieces part = true := by
  cases position with
  | anywhere =>
      simp only [around, Within, Pattern.accepts_anyText_cons, Pattern.accepts_concat_anyText,
        List.infix_iff_prefix_suffix]
      constructor
      · rintro ⟨back, hback, part, hpart, haccepts⟩
        exact ⟨part, ⟨back, hpart, hback⟩, haccepts⟩
      · rintro ⟨part, ⟨back, hpart, hback⟩, haccepts⟩
        exact ⟨back, hback, part, hpart, haccepts⟩
  | atStart => exact Pattern.accepts_concat_anyText
  | atEnd => exact Pattern.accepts_anyText_cons
  | whole => simp [around, Within]

section

variable {operand : String}

private theorem read?_wildcard (rest : List Char) :
    Pattern.read? ('%' :: rest) = (Pattern.read? rest).map (Pattern.Piece.anyText :: ·) :=
  Pattern.read?_cons (by decide)

theorem read?_pattern_of_some {pieces : List Pattern.Piece}
    (hoperand : Pattern.read? operand.toList = some pieces) :
    Pattern.read? (position.pattern operand).toList = some (position.around pieces) := by
  have hclosed : Pattern.read? (operand.toList ++ ['%']) = some (pieces ++ [.anyText]) :=
    Pattern.read?_append hoperand
  cases position <;> simp [pattern, around, read?_wildcard, hoperand, hclosed]

/-- The escape at the end of an operand is an escape of the wildcard after it, if there is
one. -/
theorem read?_pattern_of_none {pieces : List Pattern.Piece}
    (hoperand : Pattern.read? operand.toList = none)
    (hclosed : Pattern.read? (operand.toList ++ ['%']) = some pieces) :
    Pattern.read? (position.pattern operand).toList =
      if position = .atEnd ∨ position = .whole then none
      else some (position.closed.around pieces) := by
  cases position <;> simp [pattern, around, closed, read?_wildcard, hoperand, hclosed]

/-- A text matches the pattern for an operand if the operand is found in it. -/
theorem accepts_pattern {pieces : List Pattern.Piece} {text : List Char}
    (hread : Pattern.read? (position.pattern operand).toList = some pieces) :
    Pattern.accepts fold pieces text = true ↔ position.Finds fold operand.toList text := by
  unfold Finds
  cases hoperand : Pattern.read? operand.toList with
  | some inner =>
      rw [read?_pattern_of_some hoperand] at hread
      cases hread
      exact accepts_around
  | none =>
      obtain ⟨inner, hclosed⟩ := Pattern.read?_append_of_none hoperand '%'
      rw [read?_pattern_of_none hoperand hclosed] at hread
      split at hread
      · cases hread
      · cases hread
        simp only [hclosed, Option.some.injEq, accepts_around]
        exact ⟨fun ⟨part, hpart⟩ => ⟨inner, part, rfl, hpart⟩,
          fun ⟨_, part, hinner, hpart⟩ => ⟨part, hinner ▸ hpart⟩⟩

/-- A pattern is rejected if the operand stands at its end and ends in an escape. -/
theorem read?_pattern_eq_none_iff :
    Pattern.read? (position.pattern operand).toList = none ↔
      (position = .atEnd ∨ position = .whole) ∧
        Pattern.closingBackslashes operand.toList % 2 = 1 := by
  rw [← Pattern.read?_eq_none_iff_odd]
  cases hoperand : Pattern.read? operand.toList with
  | some inner => simp [read?_pattern_of_some hoperand]
  | none =>
      obtain ⟨inner, hclosed⟩ := Pattern.read?_append_of_none hoperand '%'
      simp [read?_pattern_of_none hoperand hclosed, or_iff_not_imp_left]

end

end Position

/-! ## Patterns in conditions -/

section

variable {operator : FilterOperator} {position : Position}

theorem SearchMode.pattern_eq (mode : SearchMode) (term : String) :
    mode.pattern term = mode.position.pattern term := by
  cases mode <;> rfl

/-- A text match is the match with the pattern for its operand. -/
theorem MappedField.condition?_of_position {field : MappedField} {filter : Filter}
    {value : Scalar} (hposition : operator.position? = some position) (hvalue : value ≠ .null) :
    field.condition? (filter.asking operator (some (.scalar value))) =
      .ok (some (field.matchesPattern (position.pattern value.display))) := by
  have hnull : value.isNull = false := by
    rwa [Bool.eq_false_iff, Ne, Scalar.isNull_iff]
  have hoperand : (filter.asking operator (some (.scalar value))).textOperand =
      .ok value.display := by
    simp [Filter.textOperand, Filter.asking, hnull]
  exact condition?_eq_ok_iff.mpr (.matchesPattern hposition hoperand)

/-- A search for a term that is not blank looks at all the fields that it covers. -/
theorem Mapping.searchCondition_eq {mapping : Mapping} {search : Search}
    (hterm : Text.trim search.term ≠ "")
    (hcovered : mapping.fields.filter search.covers ≠ []) :
    (mapping.searchCondition (some search)).outcome =
      .ok (some (Fragment.join (.word .or)
        ((mapping.fields.filter search.covers).map fun field => field.matchesPattern
          ((search.mode.getD .anywhere).position.pattern (Text.trim search.term))),
        Text.trim search.term)) := by
  rw [searchCondition]
  dsimp only
  rw [if_neg (by simpa using hterm)]
  cases hfields : mapping.fields.filter search.covers with
  | nil => exact absurd hfields hcovered
  | cons first rest => simp only [SearchMode.pattern_eq, Logged.outcome_pure]

end

/-! ## Texts of a database -/

namespace Sql.Database

variable {V : Type} [LinearOrder V] {database : Database V}

/-- The text of a field on a row, to which its value is converted if it is none. -/
def textOn (database : Database V) (field : MappedField) (record : Record V) : Option V :=
  if field.type.isTextual then field.valueOn record
  else (field.valueOn record).bind (database.convert "text")

/-- What a database makes of texts: a bound text is a value, and this value matches a pattern
as the text does, if the pattern can be read.  `fold` takes characters that differ by case
to the same one. -/
structure MatchesTexts (database : Database V) (ofText : String → V) (fold : Char → Char) :
    Prop where
  bound : ∀ text, database.bound (.text text) none = some (ofText text)
  matchesPattern : ∀ text pattern pieces, Pattern.read? pattern.toList = some pieces →
    database.matchesPattern (ofText text) (ofText pattern) =
      Pattern.accepts fold pieces text.toList

variable {ofText : String → V} {fold : Char → Char} {record : Record V} {field : MappedField}

/-- The match with a pattern that can be read says whether the text of the field matches it. -/
theorem truthOf?_matchesPattern (htexts : database.MatchesTexts ofText fold) {pattern : String}
    {pieces : List Pattern.Piece} (hread : Pattern.read? pattern.toList = some pieces)
    {text : Option String} (htext : database.textOn field record = text.map ofText) :
    database.truthOf? record (field.matchesPattern pattern) =
      some (match text with
        | some text => .ofBool (Pattern.accepts fold pieces text.toList)
        | none => .unknown) := by
  have hterm : database.term record
      (.column field.table field.column (if field.type.isTextual then none else some "text")) =
        text.map ofText := by
    rw [← htext, textOn]
    split <;> rfl
  rw [truthOf?_of_readsAs database record
    (MappedField.readable_form (.matchesPattern pattern)).plain
    (readsAs_ilike (termReads_column field.table field.column _) (termReads_parameter _ none)),
    truth, hterm]
  cases text with
  | none => rfl
  | some text => simp [term, htexts.bound, htexts.matchesPattern text pattern pieces hread]

theorem truthOf?_matchesPattern_iff (htexts : database.MatchesTexts ofText fold)
    {position : Position} {operand : String}
    (hread : (Pattern.read? (position.pattern operand).toList).isSome) {text : Option String}
    (htext : database.textOn field record = text.map ofText) :
    database.truthOf? record (field.matchesPattern (position.pattern operand)) = some .true ↔
      ∃ found, text = some found ∧ position.Finds fold operand.toList found.toList := by
  obtain ⟨pieces, hpieces⟩ := Option.isSome_iff_exists.mp hread
  rw [truthOf?_matchesPattern htexts hpieces htext]
  cases text with
  | none => simp
  | some text => simp [Position.accepts_pattern hpieces]

/-- A disjunction of matches is true where what is looked for is found in one of the fields. -/
theorem satisfies_join_matchesPattern (htexts : database.MatchesTexts ofText fold)
    {position : Position} {operand : String}
    (hread : (Pattern.read? (position.pattern operand).toList).isSome)
    {fields : List MappedField} (hsome : fields ≠ []) {texts : MappedField → Option String}
    (hfields : ∀ field ∈ fields, database.textOn field record = (texts field).map ofText) :
    database.satisfies record (Fragment.join (.word .or)
        (fields.map fun field => field.matchesPattern (position.pattern operand))) = true ↔
      ∃ field ∈ fields, ∃ text, texts field = some text ∧
        position.Finds fold operand.toList text.toList := by
  have hreadable : ∀ part ∈ fields.map fun field => field.matchesPattern (position.pattern operand),
      Readable .conjunction part :=
    List.forall_mem_map.mpr fun field _ =>
      (MappedField.readable_form (.matchesPattern _)).toConjunction
  have hfinds : ∀ field ∈ fields,
      database.satisfies record (field.matchesPattern (position.pattern operand)) = true ↔
        ∃ text, texts field = some text ∧ position.Finds fold operand.toList text.toList :=
    fun field hfield => (satisfies_iff_truthOf? database record).trans
      (truthOf?_matchesPattern_iff htexts hread (hfields field hfield))
  rw [satisfies_join_or hreadable (by simpa using hsome)]
  constructor
  · rintro ⟨_, hpart, hsatisfies⟩
    obtain ⟨field, hfield, rfl⟩ := List.mem_map.mp hpart
    exact ⟨field, hfield, (hfinds field hfield).mp hsatisfies⟩
  · rintro ⟨field, hfield, hfound⟩
    exact ⟨_, List.mem_map_of_mem hfield, (hfinds field hfield).mpr hfound⟩

/-- Filters and the search take what they look for as a pattern and find it, at their position,
in the text of a field.  Without characters that have a meaning of their own in patterns it is
found where it occurs, regardless of case.  The pattern cannot be read only if its end is not
a wildcard but an escape. -/
theorem MatchesTexts.finds (htexts : database.MatchesTexts ofText fold) (record : Record V) :
    (∀ (field : MappedField) (filter : Filter) (operator : FilterOperator) (position : Position)
        (value : Scalar) (text : String),
      operator.position? = some position → value ≠ .null →
      database.textOn field record = some (ofText text) →
      (Pattern.read? (position.pattern value.display).toList).isSome →
      (database.verdict? record field (filter.asking operator (some (.scalar value))) =
          some .true ↔
        position.Finds fold value.display.toList text.toList)) ∧
    (∀ (mapping : Mapping) (search : Search) (position : Position) (term : String)
        (texts : MappedField → Option String),
      (search.mode.getD .anywhere).position = position → Text.trim search.term = term →
      term ≠ "" → mapping.fields.filter search.covers ≠ [] →
      (∀ field ∈ mapping.fields, search.covers field →
        database.textOn field record = (texts field).map ofText) →
      (Pattern.read? (position.pattern term).toList).isSome →
      ∃ condition, (mapping.searchCondition (some search)).outcome = .ok (some (condition, term)) ∧
        (database.satisfies record condition = true ↔
          ∃ field ∈ mapping.fields, search.covers field ∧ ∃ text, texts field = some text ∧
            position.Finds fold term.toList text.toList)) ∧
    (∀ (position : Position) (operand text : List Char), Pattern.IsPlain operand →
      (position.Finds fold operand text ↔
        position.Within (operand.map fold) (text.map fold))) ∧
    ∀ (position : Position) (operand : String),
      Pattern.read? (position.pattern operand).toList = none ↔
        (position = .atEnd ∨ position = .whole) ∧
          Pattern.closingBackslashes operand.toList % 2 = 1 := by
  refine ⟨?_, ?_, fun position operand text => Position.finds_of_isPlain,
    fun position operand => Position.read?_pattern_eq_none_iff⟩
  · intro field filter operator position value text hposition hvalue htext hread
    rw [verdict?_asking, MappedField.condition?_of_position hposition hvalue]
    have hfound : database.textOn field record = (some text).map ofText := htext
    exact (truthOf?_matchesPattern_iff htexts hread hfound).trans (by simp)
  · rintro mapping search _ _ texts rfl rfl hterm hcovered hfields hread
    refine ⟨_, Mapping.searchCondition_eq hterm hcovered, ?_⟩
    rw [satisfies_join_matchesPattern htexts hread hcovered fun field hfield =>
      hfields field (List.mem_filter.mp hfield).1 (List.mem_filter.mp hfield).2]
    simp only [List.mem_filter, and_assoc]

/-! ## A sample -/

/-- A database of texts, which matches ASCII letters regardless of case. -/
def words : Database String where
  rows _ _ := []
  literal known := if known then "true" else "false"
  literal_ne := Database.falseText_ne_trueText
  bound
    | .text value, _ => some value
    | .bool known, _ => some (if known then "true" else "false")
    | .null, _ | .int _, _ | .float _, _ => none
  convert _ value := some value
  matchesPattern value pattern :=
    ((Pattern.read? pattern.toList).map fun pieces =>
      Pattern.accepts Char.toLower pieces value.toList).getD false
  compute _ _ := none
  output _ := .null

theorem words_matchesTexts : words.MatchesTexts id Char.toLower where
  bound _ := rfl
  matchesPattern text pattern pieces hread := by
    show ((Pattern.read? pattern.toList).map _).getD false = _
    rw [hread]
    rfl

/-- The name of the sample entity. -/
def name : MappedField :=
  FieldDefinition.mapped ⟨"name", "Name", .string, false, none⟩

/-- A row of the sample entity with one text in all its columns. -/
def units : Record String :=
  fun _ _ => some "500 units"

/-- The text begins with the number that a filter asks for, and the term of a search, which
stands between blanks, occurs in it. -/
theorem finds_units :
    words.MatchesTexts id Char.toLower ∧
      words.verdict? units name
        (Filter.asking ⟨"name", .custom, none, false, none⟩ .startsWith (some (.scalar (.int 50)))) =
          some .true ∧
      ∃ condition,
        (EntityDefinition.sample.mapping.searchCondition (some ⟨" Unit ", none, none⟩)).outcome =
          .ok (some (condition, "Unit")) ∧
        words.satisfies units condition = true := by
  obtain ⟨hfilter, hsearch, hliteral, -⟩ := words_matchesTexts.finds units
  refine ⟨words_matchesTexts, ?_, ?_⟩
  · refine (hfilter name _ .startsWith .atStart (.int 50) "500 units" rfl nofun rfl
      (by decide +kernel)).mpr ?_
    exact (hliteral .atStart _ _ (by decide +kernel)).mpr (by decide +kernel)
  · obtain ⟨condition, hcondition, hsatisfies⟩ :=
      hsearch EntityDefinition.sample.mapping ⟨" Unit ", none, none⟩ .anywhere "Unit"
        (fun _ => some "500 units") rfl (by decide +kernel) (by decide) (by decide +kernel)
        (fun field _ _ => by unfold textOn; split <;> rfl) (by decide +kernel)
    refine ⟨condition, hcondition, hsatisfies.mpr
      ⟨name, by decide +kernel, by decide +kernel, "500 units", rfl, ?_⟩⟩
    exact (hliteral .anywhere _ _ (by decide +kernel)).mpr (by decide +kernel)

/-- A percent sign in an operand is not looked for, and an operand that is a backslash gives a
pattern that is rejected. -/
theorem not_literal_units :
    words.MatchesTexts id Char.toLower ∧
      words.verdict? units name
        (Filter.asking ⟨"name", .custom, none, false, none⟩ .contains
          (some (.scalar (.text "50%")))) = some .true ∧
      ¬"50%".toList.map Char.toLower <:+: "500 units".toList.map Char.toLower ∧
      Pattern.read? (Position.atEnd.pattern "\\").toList = none :=
  ⟨words_matchesTexts, by decide +kernel, by decide +kernel, by decide +kernel⟩

end Sql.Database

end ListQuery
