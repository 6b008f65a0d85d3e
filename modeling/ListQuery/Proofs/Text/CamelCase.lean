import ListQuery.Text.CamelCase
import Mathlib

/-!
# What camel case keeps of a name

The words of a name hold its letters and numerals, in order, and none of them is empty.  So a
name is empty in camel case exactly if it has neither a letter nor a numeral
(`lowerCamelCase_eq_empty_iff`).

Camel case forgets what stands between words and the case of letters, and of a word that begins
with a numeral it forgets where it begins.  Of an ASCII name it forgets nothing else: the rest
is the outline of the name, and two such names are the same in camel case exactly if they have
the same outline (`lowerCamelCase_eq_iff`).
-/

namespace ListQuery.Text

/-! ## Words -/

/-- The letters and numerals of a name. -/
def letters (name : String) : List Char :=
  name.toList.filter isAlphanumeric

/-- Cutting a text into words loses nothing. -/
theorem flatten_caseWords (current : Option LetterCase) (word : List Char) (c : Char)
    (rest : List Char) :
    (caseWords current word (c :: rest)).flatten = word.reverse ++ c :: rest := by
  induction rest generalizing current word c with
  | nil => simp [caseWords]
  | cons next rest ih =>
      simp only [caseWords]
      split
      · simp [ih]
      · split
        · simp [ih]
        · simp [ih]

/-- Once a cased letter has been read the word has a character, so no word is empty. -/
theorem ne_nil_of_mem_caseWords {current : Option LetterCase} {word text found : List Char}
    (hword : current = none ∨ word ≠ []) (hfound : found ∈ caseWords current word text) :
    found ≠ [] := by
  induction text generalizing current word with
  | nil => cases hfound
  | cons c rest ih =>
      cases rest with
      | nil =>
          obtain rfl := List.mem_singleton.mp hfound
          simp
      | cons next rest =>
          simp only [caseWords] at hfound
          split at hfound
          · rcases List.mem_cons.mp hfound with rfl | hlater
            · simp
            · exact ih (.inl rfl) hlater
          · split at hfound
            next hupper =>
              rcases List.mem_cons.mp hfound with rfl | hlater
              · -- A word ends here only after a cased letter, so something of it has been read.
                have hnone : current ≠ none := by simp [hupper.1]
                exact List.reverse_ne_nil_iff.mpr (hword.resolve_left hnone)
              · exact ih (.inl rfl) hlater
            · exact ih (.inr (List.cons_ne_nil _ _)) hfound

theorem flatten_pieces (piece text : List Char) :
    (pieces piece text).flatten = piece.reverse ++ text.filter isAlphanumeric := by
  induction text generalizing piece with
  | nil => simp [pieces]
  | cons c rest ih =>
      rw [pieces]
      by_cases hc : isAlphanumeric c = true
      · rw [if_pos hc, ih, List.filter_cons_of_pos hc]
        simp
      · rw [if_neg hc, List.flatten_cons, ih, List.filter_cons_of_neg hc]
        rfl

/-- The words of a name are its letters and numerals, in order. -/
theorem flatten_words (name : List Char) : (words name).flatten = name.filter isAlphanumeric := by
  have hpiece : ∀ piece, (caseWords none [] piece).flatten = piece := by
    intro piece
    cases piece with
    | nil => rfl
    | cons c rest => exact flatten_caseWords none [] c rest
  calc (words name).flatten
      = (pieces [] name).flatMap fun piece => (caseWords none [] piece).flatten := by
        simp [words, List.flatMap, List.flatten_flatten, Function.comp_def]
    _ = (pieces [] name).flatten := by simp [hpiece, List.flatMap]
    _ = name.filter isAlphanumeric := flatten_pieces [] name

theorem ne_nil_of_mem_words {name word : List Char} (hword : word ∈ words name) : word ≠ [] := by
  obtain ⟨piece, -, hpiece⟩ := List.mem_flatMap.mp hword
  exact ne_nil_of_mem_caseWords (.inl rfl) hpiece

/-- A name without a word has neither letters nor numerals. -/
theorem words_eq_nil_iff {name : String} : words name.toList = [] ↔ letters name = [] := by
  rw [letters, ← flatten_words, List.flatten_eq_nil_iff]
  constructor
  · intro hwords word hword
    rw [hwords] at hword
    cases hword
  · intro hall
    exact List.eq_nil_iff_forall_not_mem.mpr fun word hword =>
      ne_nil_of_mem_words hword (hall word hword)

/-! ## Empty names -/

/-- No character is mapped to nothing by tables of which no entry is empty. -/
theorem mapByTables_ne_nil {sequences : List (Nat × List Nat)}
    (hsequences : ∀ entry ∈ sequences, entry.2 ≠ []) (runs : List (Run × Int)) (c : Char) :
    mapByTables sequences runs c ≠ [] := by
  unfold mapByTables
  split
  next codes hcodes =>
    obtain ⟨before, after, hentry, -⟩ := List.lookup_eq_some_iff.mp hcodes
    rw [Ne, List.map_eq_nil_iff]
    exact hsequences (c.toNat, codes) (hentry ▸ List.mem_append_right _ List.mem_cons_self)
  · split <;> exact List.cons_ne_nil _ _

theorem lowerChar_ne_nil (c : Char) : lowerChar c ≠ [] := by
  unfold lowerChar
  split
  · exact List.cons_ne_nil _ _
  · exact mapByTables_ne_nil (by decide) _ _

theorem upperChar_ne_nil (c : Char) : upperChar c ≠ [] := by
  unfold upperChar
  split
  · exact List.cons_ne_nil _ _
  · exact mapByTables_ne_nil (by decide) _ _

theorem lowerWord_ne_nil {word : List Char} (hword : word ≠ []) : lowerWord word ≠ [] := by
  cases word with
  | nil => exact absurd rfl hword
  | cons c rest =>
      cases rest with
      | nil =>
          rw [lowerWord]
          split
          · exact List.cons_ne_nil _ _
          · exact lowerChar_ne_nil c
      | cons next rest =>
          intro hnil
          exact lowerChar_ne_nil c (List.append_eq_nil_iff.mp hnil).1

theorem capitalWord_ne_nil {word : List Char} (hword : word ≠ []) : capitalWord word ≠ [] := by
  cases word with
  | nil => exact absurd rfl hword
  | cons c rest =>
      intro hnil
      exact upperChar_ne_nil c (List.append_eq_nil_iff.mp hnil).1

/-- A name is empty in camel case if it has neither letters nor numerals. -/
theorem lowerCamelCase_eq_empty_iff {name : String} :
    lowerCamelCase name = "" ↔ letters name = [] := by
  rw [← words_eq_nil_iff]
  unfold lowerCamelCase
  split
  next hwords => simp [hwords]
  next first rest hwords =>
    have hfirst : first ≠ [] := ne_nil_of_mem_words (hwords ▸ List.mem_cons_self)
    simp [hwords, lowerWord_ne_nil hfirst]

theorem upperCamelCase_eq_empty_iff {name : String} :
    upperCamelCase name = "" ↔ letters name = [] := by
  rw [← words_eq_nil_iff]
  unfold upperCamelCase
  cases hwords : words name.toList with
  | nil => simp
  | cons first rest =>
      have hfirst : first ≠ [] := ne_nil_of_mem_words (hwords ▸ List.mem_cons_self)
      simp [capitalWord_ne_nil hfirst]

/-! ## ASCII names -/

/-- Whether a name has ASCII characters only. -/
def IsAscii (name : String) : Prop :=
  ∀ c ∈ name.toList, c.toNat < 0x80

instance {name : String} : Decidable (IsAscii name) :=
  List.decidableBAll (fun c : Char => c.toNat < 0x80) name.toList

/-- The characters of a word in lower case, each with whether it is a letter with which the
word begins. -/
def outlineOfWord : List Char → List (Char × Bool)
  | [] => []
  | c :: rest => (c.toLower, c.isAlpha) :: rest.map fun later => (later.toLower, false)

/-- The letters and numerals of a name in lower case, each with whether it is a letter with
which a word begins that is not the first. -/
def outline (name : String) : List (Char × Bool) :=
  match words name.toList with
  | [] => []
  | first :: rest => first.map (fun c => (c.toLower, false)) ++ rest.flatMap outlineOfWord

/-- How an entry of an outline is written. -/
def written (entry : Char × Bool) : Char :=
  if entry.2 then entry.1.toUpper else entry.1

/-- The entry of an outline that a character is written for. -/
def entryOf (c : Char) : Char × Bool :=
  (c.toLower, c.isUpper)

theorem written_capital (c : Char) : written (c.toLower, c.isAlpha) = c.toUpper := by
  unfold written
  split
  next => simp
  next halpha =>
    simp only [Bool.not_eq_true, Char.isAlpha, Bool.or_eq_false_iff] at halpha
    rw [Char.toLower_eq_of_not_isUpper (by simp [halpha]),
      Char.toUpper_eq_of_not_isLower (by simp [halpha])]

theorem lowerWord_of_ascii {word : List Char} (hword : ∀ c ∈ word, c.toNat < 0x80) :
    lowerWord word = word.map Char.toLower := by
  induction word with
  | nil => rfl
  | cons c rest ih =>
      obtain ⟨hc, hrest⟩ := List.forall_mem_cons.mp hword
      have hlower : lowerChar c = [c.toLower] := if_pos hc
      cases rest with
      | nil =>
          have hsigma : c ≠ 'Σ' := by
            rintro rfl
            exact absurd hc (by decide)
          rw [lowerWord, if_neg hsigma, hlower]
          rfl
      | cons next rest =>
          rw [lowerWord, ih hrest, hlower]
          · rfl
          · simp

theorem capitalWord_of_ascii {word : List Char} (hword : ∀ c ∈ word, c.toNat < 0x80) :
    capitalWord word = (outlineOfWord word).map written := by
  cases word with
  | nil => rfl
  | cons c rest =>
      obtain ⟨hc, hrest⟩ := List.forall_mem_cons.mp hword
      have hupper : upperChar c = [c.toUpper] := if_pos hc
      rw [capitalWord, lowerWord_of_ascii hrest, hupper, outlineOfWord, List.map_cons,
        written_capital, List.map_map]
      rfl

theorem toList_lowerCamelCase {name : String} (hname : IsAscii name) :
    (lowerCamelCase name).toList = (outline name).map written := by
  have hwords : ∀ word ∈ words name.toList, ∀ c ∈ word, c.toNat < 0x80 := by
    intro word hword c hc
    have hmem : c ∈ (words name.toList).flatten := List.mem_flatten.mpr ⟨word, hword, hc⟩
    rw [flatten_words] at hmem
    exact hname c (List.mem_filter.mp hmem).1
  unfold lowerCamelCase outline
  cases hcase : words name.toList with
  | nil => rfl
  | cons first rest =>
      rw [hcase] at hwords
      obtain ⟨hfirst, hrest⟩ := List.forall_mem_cons.mp hwords
      have hlater : rest.flatMap capitalWord = (rest.flatMap outlineOfWord).map written := by
        rw [List.map_flatMap]
        exact List.flatMap_congr fun word hword => capitalWord_of_ascii (hrest word hword)
      rw [String.toList_ofList, lowerWord_of_ascii hfirst, hlater, List.map_append, List.map_map]
      rfl

theorem entryOf_written_small (c : Char) :
    entryOf (written (c.toLower, false)) = (c.toLower, false) := by
  simp [entryOf, written]

theorem entryOf_written_capital (c : Char) :
    entryOf (written (c.toLower, c.isAlpha)) = (c.toLower, c.isAlpha) := by
  rw [written_capital]
  simp [entryOf]

theorem entryOf_of_mem_outlineOfWord {word : List Char} {entry : Char × Bool}
    (hentry : entry ∈ outlineOfWord word) : entryOf (written entry) = entry := by
  cases word with
  | nil => cases hentry
  | cons c rest =>
      rcases List.mem_cons.mp hentry with rfl | hlater
      · exact entryOf_written_capital c
      · obtain ⟨later, -, rfl⟩ := List.mem_map.mp hlater
        exact entryOf_written_small later

/-- An outline can be read off from what is written for it. -/
theorem map_entryOf_outline (name : String) :
    ((outline name).map written).map entryOf = outline name := by
  have hentries : ∀ entry ∈ outline name, entryOf (written entry) = entry := by
    intro entry hentry
    unfold outline at hentry
    split at hentry
    · cases hentry
    · rcases List.mem_append.mp hentry with hfirst | hrest
      · obtain ⟨c, -, rfl⟩ := List.mem_map.mp hfirst
        exact entryOf_written_small c
      · obtain ⟨word, -, hword⟩ := List.mem_flatMap.mp hrest
        exact entryOf_of_mem_outlineOfWord hword
  calc ((outline name).map written).map entryOf
      = (outline name).map id := by
        rw [List.map_map]
        exact List.map_congr_left hentries
    _ = outline name := List.map_id _

/-- ASCII names are the same in camel case if they have the same outline. -/
theorem lowerCamelCase_eq_iff {first second : String} (hfirst : IsAscii first)
    (hsecond : IsAscii second) :
    lowerCamelCase first = lowerCamelCase second ↔ outline first = outline second := by
  rw [← String.toList_inj, toList_lowerCamelCase hfirst, toList_lowerCamelCase hsecond]
  constructor
  · intro heq
    rw [← map_entryOf_outline first, heq, map_entryOf_outline]
  · intro heq
    rw [heq]

/-- The characters of an outline are the letters and numerals of the name in lower case. -/
theorem map_fst_outline (name : String) :
    (outline name).map Prod.fst = (letters name).map Char.toLower := by
  have hword : ∀ word, (outlineOfWord word).map Prod.fst = word.map Char.toLower := by
    intro word
    cases word with
    | nil => rfl
    | cons c rest => simp [outlineOfWord, Function.comp_def]
  rw [letters, ← flatten_words]
  unfold outline
  cases words name.toList with
  | nil => rfl
  | cons first rest => simp [hword, List.map_flatten, List.flatMap, Function.comp_def]

/-- ASCII names that are the same in camel case have the same letters and numerals, but for
their case. -/
theorem letters_eq_of_lowerCamelCase {first second : String} (hfirst : IsAscii first)
    (hsecond : IsAscii second) (hsame : lowerCamelCase first = lowerCamelCase second) :
    (letters first).map Char.toLower = (letters second).map Char.toLower := by
  rw [← map_fst_outline, (lowerCamelCase_eq_iff hfirst hsecond).mp hsame, map_fst_outline]

end ListQuery.Text
