import ListQuery.Proofs.Binary64.Numeral
import ListQuery.Proofs.Json.Quoted

/-!
# Values are read as they are written

`toDoc` is the document that a value is written as.  Reading the text of the value
yields this document (`Doc.read?_render`).  The proof is an induction over values in
which whatever may follow a value in a text stays general, and the rounds of reading
are bounded by twice the characters of the value.
-/

namespace ListQuery.Json

open Numeral

/-! ## Documents of values -/

/-- The numeral of a number. -/
def Number.numeral : Number → Numeral
  | .integer value _ => ⟨decide (value < 0), Text.natDigits value.natAbs, none, none⟩
  | .float value _ => value.numeral

mutual

/-- The document that a value is written as. -/
def toDoc : Json → Doc
  | .null => .null
  | .bool value => .bool value
  | .number value => .numeral value.numeral
  | .text value => .text (some value)
  | .array items => .array (itemsToDoc items)
  | .object members => .object (membersToDoc members)

/-- The documents of the items of an array. -/
def itemsToDoc : List Json → List Doc
  | [] => []
  | item :: rest => item.toDoc :: itemsToDoc rest

/-- The names and documents of the members of an object. -/
def membersToDoc : List (String × Json) → List (Option String × Doc)
  | [] => []
  | (name, value) :: rest => (some name, value.toDoc) :: membersToDoc rest

end

theorem itemsToDoc_eq_map (items : List Json) : itemsToDoc items = items.map toDoc := by
  induction items with
  | nil => rfl
  | cons item rest ih => rw [itemsToDoc, ih, List.map_cons]

theorem membersToDoc_eq_map (members : List (String × Json)) :
    membersToDoc members = members.map fun entry => (some entry.1, entry.2.toDoc) := by
  induction members with
  | nil => rfl
  | cons entry rest ih => rw [membersToDoc, ih, List.map_cons]

/-! ## Lengths -/

/-- A string has no more characters than what it is written as. -/
theorem length_le_quote (text : String) : text.toList.length ≤ (quote text).length := by
  have hchars : ∀ chars : List Char, chars.length ≤ (chars.flatMap escapeChar).length := by
    intro chars
    induction chars with
    | nil => exact Nat.le_refl 0
    | cons c rest ih =>
        have hc : 1 ≤ (escapeChar c).length := by
          unfold escapeChar
          split <;> try split
          all_goals simp
        rw [List.flatMap_cons, List.length_append, List.length_cons]
        omega
  have htext := hchars text.toList
  simp only [quote, List.length_cons, List.length_append]
  omega

theorem length_le_renderItems {item : Json} {items : List Json} (hitem : item ∈ items) :
    item.renderChars.length ≤ (renderItems items).length := by
  induction items with
  | nil => cases hitem
  | cons first rest ih =>
      cases rest with
      | nil => rw [List.mem_singleton.mp hitem, renderItems]
      | cons next rest =>
          rw [renderItems, List.length_append, List.length_cons]
          rcases List.mem_cons.mp hitem with rfl | hrest
          · omega
          · have hothers := ih hrest
            omega

/-! ## Numbers -/

theorem Number.render_eq (n : Number) : n.render = n.numeral.chars := by
  cases n with
  | integer value fits =>
      by_cases hvalue : value < 0 <;>
        simp [Number.render, Number.numeral, Text.intDigits, Numeral.chars, signChars,
          fractionChars, exponentChars, hvalue]
  | float value finite => exact value.toList_toNumeral

theorem Number.isWritten_numeral (n : Number) : n.numeral.IsWritten := by
  cases n with
  | float value finite => exact value.isWritten_numeral
  | integer value fits =>
      refine ⟨⟨Text.natDigits_ne_nil _, Text.isDigit_natDigits _⟩, ?_, by simp [Number.numeral],
        by simp [Number.numeral]⟩
      intro digit rest heq
      by_cases hzero : value.natAbs = 0
      · simp [Number.numeral, hzero, Text.natDigits] at heq
      · exact Text.natDigits_ne_zero_cons hzero _ heq

/-- The numeral of an integer is read as the integer. -/
theorem Number.toNumber?_numeral_integer {value : Int}
    (fits : -0x8000000000000000 ≤ value ∧ value < 0x10000000000000000) :
    (Number.numeral (.integer value fits)).toNumber? = some (.integer value fits) := by
  have hnumber : Number.ofInt? value = some (.integer value fits) := dif_pos fits
  simp only [Number.numeral, toNumber?, Option.isNone_none, Bool.and_self, if_true,
    digitsValue_natDigits]
  by_cases hnegative : value < 0
  · rw [if_pos (by simpa using hnegative), if_pos (by omega), ← hnumber]
    congr 1
    omega
  · rw [if_neg (by simpa using hnegative), if_pos (by omega), ← hnumber]
    congr 1
    omega

namespace Doc

/-! ## Beginnings -/

/-- Whether a character can be the first of a value. -/
def Begins (c : Char) : Prop :=
  isBlank c = false ∧ c ≠ ']' ∧ c ≠ '\x7d'

private theorem begins_of_numeral {c : Char} (hc : c = '-' ∨ c.isDigit = true) : Begins c := by
  have hrefute : ∀ other : Char, other ≠ '-' → other.isDigit = false → c ≠ other :=
    fun _ hminus hdigit => ne_of_starts hc hminus hdigit
  refine ⟨?_, hrefute _ (by decide) (by decide), hrefute _ (by decide) (by decide)⟩
  simp [isBlank, hrefute ' ' (by decide) (by decide), hrefute '\n' (by decide) (by decide),
    hrefute '\t' (by decide) (by decide), hrefute '\r' (by decide) (by decide)]

theorem renderChars_eq_cons (value : Json) :
    ∃ c tail, value.renderChars = c :: tail ∧ Begins c := by
  have hbegins : ∀ c, isBlank c = false → c ≠ ']' → c ≠ '\x7d' → Begins c :=
    fun c hblank hbracket hbrace => ⟨hblank, hbracket, hbrace⟩
  cases value with
  | null => exact ⟨'n', _, rfl, hbegins _ rfl (by decide) (by decide)⟩
  | bool known =>
      cases known with
      | true => exact ⟨'t', _, rfl, hbegins _ rfl (by decide) (by decide)⟩
      | false => exact ⟨'f', _, rfl, hbegins _ rfl (by decide) (by decide)⟩
  | text value => exact ⟨'"', _, rfl, hbegins _ rfl (by decide) (by decide)⟩
  | array items => exact ⟨'[', _, rfl, hbegins _ rfl (by decide) (by decide)⟩
  | object members => exact ⟨'\x7b', _, rfl, hbegins _ rfl (by decide) (by decide)⟩
  | number value =>
      obtain ⟨c, tail, hchars, hc⟩ := chars_eq_cons value.isWritten_numeral
      exact ⟨c, tail, by rw [renderChars, Number.render_eq, hchars], begins_of_numeral hc⟩

theorem length_renderChars_pos (value : Json) : 0 < value.renderChars.length := by
  obtain ⟨c, tail, hchars, -⟩ := renderChars_eq_cons value
  simp [hchars]

theorem skipBlank_cons {c : Char} (hc : isBlank c = false) (rest : List Char) :
    skipBlank (c :: rest) = c :: rest :=
  List.dropWhile_cons_of_neg (by simp [hc])

theorem skipBlank_renderChars (value : Json) (rest : List Char) :
    skipBlank (value.renderChars ++ rest) = value.renderChars ++ rest := by
  obtain ⟨c, tail, hchars, hblank, -⟩ := renderChars_eq_cons value
  rw [hchars, List.cons_append, skipBlank_cons hblank]

theorem renderItems_eq_cons (item : Json) (items : List Json) :
    ∃ c tail, renderItems (item :: items) = c :: tail ∧ Begins c := by
  obtain ⟨c, tail, hchars, hbegins⟩ := renderChars_eq_cons item
  cases items with
  | nil => exact ⟨c, tail, hchars, hbegins⟩
  | cons next rest =>
      exact ⟨c, _, by rw [renderItems, hchars, List.cons_append], hbegins⟩

theorem renderMembers_eq_cons (entry : String × Json) (members : List (String × Json)) :
    ∃ tail, renderMembers (entry :: members) = '"' :: tail := by
  cases members with
  | nil => exact ⟨_, rfl⟩
  | cons next rest => exact ⟨_, rfl⟩

/-! ## Values -/

theorem value?_numeral {n : Numeral} (hn : n.IsWritten) {fuel : Nat} {rest : List Char}
    (hrest : endsBefore rest = true) :
    value? (fuel + 1) (n.chars ++ rest) = some (.numeral n, rest) := by
  have hread := numeral?_append hn hrest
  obtain ⟨c, tail, hchars, hc⟩ := chars_eq_cons hn
  have hrefute : ∀ {other rest'}, other ≠ '-' → other.isDigit = false →
      c :: tail ++ rest ≠ other :: rest' :=
    fun hminus hdigit heq => ne_of_starts hc hminus hdigit (List.cons.inj heq).1
  rw [hchars, List.cons_append] at hread ⊢
  unfold value?
  split
  next heq => exact absurd heq (hrefute (by decide) (by decide))
  next heq => exact absurd heq (hrefute (by decide) (by decide))
  next heq => exact absurd heq (hrefute (by decide) (by decide))
  next heq => exact absurd heq (hrefute (by decide) (by decide))
  next heq => exact absurd heq (hrefute (by decide) (by decide))
  next heq => exact absurd heq (hrefute (by decide) (by decide))
  next => rw [hread]; rfl

theorem value?_quote (text : String) (fuel : Nat) (rest : List Char) :
    value? (fuel + 1) (quote text ++ rest) = some (.text (some text), rest) := by
  have hread := string?_append text rest
  rw [quote, List.cons_append, List.append_assoc, List.singleton_append, value?, hread]
  rfl

/-- An array is read from the text of its items. -/
theorem value?_array {c : Char} {tail rest : List Char} {docs : List Doc} {fuel : Nat}
    (hbegins : Begins c) (hitems : items? fuel (c :: tail) = some (docs, rest)) :
    value? (fuel + 1) ('[' :: c :: tail) = some (.array docs, rest) := by
  rw [value?, skipBlank_cons hbegins.1]
  split
  next heq => exact absurd (List.cons.inj heq).1 hbegins.2.1
  next => rw [hitems]; rfl

theorem value?_object {tail rest : List Char} {docs : List (Option String × Doc)} {fuel : Nat}
    (hmembers : members? fuel ('"' :: tail) = some (docs, rest)) :
    value? (fuel + 1) ('\x7b' :: '"' :: tail) = some (.object docs, rest) := by
  rw [value?, skipBlank_cons rfl]
  simp [hmembers]

mutual

/-- A value is read as its document, whatever follows. -/
theorem value?_renderChars : ∀ (value : Json) (fuel : Nat) (rest : List Char),
    2 * value.renderChars.length ≤ fuel → endsBefore rest = true →
    value? fuel (value.renderChars ++ rest) = some (value.toDoc, rest)
  | value, 0, rest, hfuel, hrest => by
      have hlength := length_renderChars_pos value
      omega
  | .null, fuel + 1, rest, hfuel, hrest => rfl
  | .bool true, fuel + 1, rest, hfuel, hrest => rfl
  | .bool false, fuel + 1, rest, hfuel, hrest => rfl
  | .number value, fuel + 1, rest, hfuel, hrest => by
      rw [renderChars, Number.render_eq]
      exact value?_numeral value.isWritten_numeral hrest
  | .text value, fuel + 1, rest, hfuel, hrest => value?_quote value fuel rest
  | .array [], fuel + 1, rest, hfuel, hrest => rfl
  | .array (item :: items), fuel + 1, rest, hfuel, hrest => by
      simp only [renderChars, List.length_cons, List.length_append, List.length_nil] at hfuel
      have hitems := items?_renderItems item items fuel rest (by omega)
      obtain ⟨c, tail, hchars, hbegins⟩ := renderItems_eq_cons item items
      rw [hchars, List.cons_append] at hitems
      simp only [renderChars, hchars, List.cons_append, List.append_assoc, List.nil_append]
      exact value?_array hbegins hitems
  | .object [], fuel + 1, rest, hfuel, hrest => rfl
  | .object (entry :: members), fuel + 1, rest, hfuel, hrest => by
      simp only [renderChars, List.length_cons, List.length_append, List.length_nil] at hfuel
      have hmembers := members?_renderMembers entry members fuel rest (by omega)
      obtain ⟨tail, hchars⟩ := renderMembers_eq_cons entry members
      rw [hchars, List.cons_append] at hmembers
      simp only [renderChars, hchars, List.cons_append, List.append_assoc, List.nil_append]
      exact value?_object hmembers

/-- The items of an array are read up to its closing bracket. -/
theorem items?_renderItems : ∀ (item : Json) (items : List Json) (fuel : Nat) (rest : List Char),
    2 * (renderItems (item :: items)).length < fuel →
    items? fuel (renderItems (item :: items) ++ ']' :: rest) =
      some (itemsToDoc (item :: items), rest)
  | item, [], fuel + 1, rest, hfuel => by
      rw [renderItems] at hfuel ⊢
      rw [items?, value?_renderChars item fuel _ (by omega) rfl]
      rfl
  | item, next :: items, fuel + 1, rest, hfuel => by
      simp only [renderItems, List.length_append, List.length_cons] at hfuel
      have hitems := items?_renderItems next items fuel rest (by omega)
      obtain ⟨c, tail, hchars, hblank, -⟩ := renderItems_eq_cons next items
      rw [renderItems, List.append_assoc, List.cons_append, items?,
        value?_renderChars item fuel _ (by omega) rfl]
      rw [hchars, List.cons_append] at hitems ⊢
      simp [skipBlank_cons (c := ',') rfl, skipBlank_cons hblank, hitems, itemsToDoc]

/-- The members of an object are read up to its closing brace. -/
theorem members?_renderMembers : ∀ (entry : String × Json) (members : List (String × Json))
    (fuel : Nat) (rest : List Char), 2 * (renderMembers (entry :: members)).length < fuel →
    members? fuel (renderMembers (entry :: members) ++ '\x7d' :: rest) =
      some (membersToDoc (entry :: members), rest)
  | (name, value), [], fuel + 1, rest, hfuel => by
      simp only [renderMembers, List.length_append, List.length_cons] at hfuel
      have hname := string?_append name (':' :: (value.renderChars ++ '\x7d' :: rest))
      simp only [renderMembers, quote, List.cons_append, List.append_assoc, List.nil_append]
      rw [members?, hname]
      simp only [Option.bind_eq_bind, Option.bind_some, skipBlank_cons (c := ':') rfl,
        skipBlank_renderChars]
      rw [value?_renderChars value fuel _ (by omega) rfl]
      rfl
  | (name, value), next :: members, fuel + 1, rest, hfuel => by
      simp only [renderMembers, List.length_append, List.length_cons] at hfuel
      have hmembers := members?_renderMembers next members fuel rest (by omega)
      obtain ⟨tail, hchars⟩ := renderMembers_eq_cons next members
      have hname := string?_append name
        (':' :: (value.renderChars ++ ',' :: (renderMembers (next :: members) ++ '\x7d' :: rest)))
      simp only [renderMembers, quote, List.cons_append, List.append_assoc, List.nil_append]
      rw [members?, hname]
      simp only [Option.bind_eq_bind, Option.bind_some, skipBlank_cons (c := ':') rfl,
        skipBlank_renderChars]
      rw [value?_renderChars value fuel _ (by omega) rfl]
      rw [hchars, List.cons_append] at hmembers ⊢
      simp [skipBlank_cons (c := ',') rfl, skipBlank_cons (c := '"') rfl, hmembers, membersToDoc]

end

/-- The text of a value is read as its document. -/
theorem read?_render (value : Json) : read? value.render = some value.toDoc := by
  have hread := value?_renderChars value (2 * value.renderChars.length + 2) [] (by omega) rfl
  have hskip := skipBlank_renderChars value []
  rw [List.append_nil] at hread hskip
  unfold read?
  simp only [render, String.toList_ofList, hskip, hread]
  rfl

end Doc

end ListQuery.Json
