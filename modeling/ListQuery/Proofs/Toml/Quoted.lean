import ListQuery.Toml.Quoted

/-!
# What a string in double quotes says

`Spells` relates what is written between double quotes on one line to the characters that it
stands for: each character for itself, save for quotes, backslashes and control characters,
and an escape for the character that it names.  The reader of strings finds what is spelled up
to the next quote that is no part of an escape, and nothing else (`quotedLine_eq_some_iff`).

What is spelled is no longer than its spelling, and as long only if nothing is escaped
(`Spells.eq_of_length_le`).  In three quotes it is no longer either
(`exists_threeQuotes_of_quotedLines`).
-/

namespace ListQuery.Toml

variable {chars found rest : List Char}

/-! ## Spelling -/

/-- Whether a character between double quotes stands for itself. -/
def isLiteral (c : Char) : Bool :=
  c != '"' && c != '\\' && !isControl c

/-- Whether what is written between double quotes stands for some characters. -/
inductive Spells : List Char → List Char → Prop where
  | nil : Spells [] []
  | literal {c : Char} {written found : List Char} (hc : isLiteral c = true)
      (hrest : Spells written found) : Spells (c :: written) (c :: found)
  | letter {letter value : Char} {written found : List Char} (hlength : escapeLength? letter = none)
      (hvalue : escaped? letter = some value) (hrest : Spells written found) :
      Spells ('\\' :: letter :: written) (value :: found)
  | code {letter value : Char} {digits written found : List Char}
      (hlength : escapeLength? letter = some digits.length)
      (hvalue : codePoint? digits = some value) (hrest : Spells written found) :
      Spells ('\\' :: letter :: (digits ++ written)) (value :: found)

theorem isLiteral_iff {c : Char} :
    isLiteral c = true ↔ c ≠ '"' ∧ c ≠ '\\' ∧ isControl c = false := by
  simp [isLiteral, and_assoc]

/-- Characters that stand for themselves spell themselves. -/
theorem spells_self (hchars : ∀ c ∈ chars, isLiteral c = true) : Spells chars chars := by
  induction chars with
  | nil => exact .nil
  | cons c rest ih =>
      obtain ⟨hc, hrest⟩ := List.forall_mem_cons.mp hchars
      exact .literal hc (ih hrest)

theorem Spells.length_le {written found : List Char} (hspells : Spells written found) :
    found.length ≤ written.length := by
  induction hspells with
  | nil => exact Nat.le_refl _
  | literal _ _ ih => exact Nat.succ_le_succ ih
  | letter _ _ _ ih => simp only [List.length_cons]; omega
  | code _ _ _ ih => simp only [List.length_cons, List.length_append]; omega

/-- An escape is longer than the character that it stands for. -/
theorem Spells.eq_of_length_le {written found : List Char} (hspells : Spells written found)
    (hlength : written.length ≤ found.length) :
    found = written ∧ ∀ c ∈ written, isLiteral c = true := by
  induction hspells with
  | nil => exact ⟨rfl, fun c hc => nomatch hc⟩
  | literal hc _ ih =>
      obtain ⟨rfl, hrest⟩ := ih (Nat.le_of_succ_le_succ hlength)
      exact ⟨rfl, List.forall_mem_cons.mpr ⟨hc, hrest⟩⟩
  | letter _ _ hrest _ =>
      have hle := hrest.length_le
      simp only [List.length_cons] at hlength
      omega
  | code _ _ hrest _ =>
      have hle := hrest.length_le
      simp only [List.length_cons, List.length_append] at hlength
      omega

/-! ## No string goes on in another line -/

theorem hexValue?_of_codePoint? {digits : List Char} {value : Char}
    (hvalue : codePoint? digits = some value) : ∀ c ∈ digits, (Json.Doc.hexValue? c).isSome := by
  obtain ⟨code, hcode, -⟩ := Option.bind_eq_some_iff.mp hvalue
  clear hvalue
  generalize (0 : Nat) = start at hcode
  induction digits generalizing start with
  | nil => exact fun c hc => nomatch hc
  | cons digit digits ih =>
      rw [List.foldlM_cons] at hcode
      obtain ⟨next, hnext, hcode⟩ := Option.bind_eq_some_iff.mp hcode
      obtain ⟨digitValue, hdigit, -⟩ := Option.bind_eq_some_iff.mp hnext
      exact List.forall_mem_cons.mpr ⟨hdigit ▸ rfl, ih next hcode⟩

theorem Spells.newline_notMem {written found : List Char} (hspells : Spells written found) :
    '\n' ∉ written := by
  induction hspells with
  | nil => exact List.not_mem_nil
  | literal hc _ ih =>
      refine fun hmem => (List.mem_cons.mp hmem).elim (fun heq => ?_) ih
      exact absurd (heq ▸ hc) (by decide)
  | @letter letter value written found _ hvalue _ ih =>
      have hletter : letter ≠ '\n' := by
        rintro rfl
        cases hvalue
      simpa [hletter.symm] using ih
  | @code letter value digits written found hlength hvalue _ ih =>
      have hletter : letter ≠ '\n' := by
        rintro rfl
        cases hlength
      have hdigits : '\n' ∉ digits := fun hmem =>
        absurd (hexValue?_of_codePoint? hvalue '\n' hmem) (by decide)
      simpa [hletter.symm, hdigits] using ih

/-! ## Reading on one line -/

/-- Between characters a quote ends the string and a backslash starts an escape. -/
theorem quotedLine_plain (c : Char) (rest : List Char) : quotedLine .plain (c :: rest) =
    if c = '"' then some ([], rest)
    else if c = '\\' then quotedLine .escape rest
    else if isControl c then none
    else do
      let (chars, rest) ← quotedLine .plain rest
      return (c :: chars, rest) := rfl

/-- The letter of an escape says whether digits follow. -/
theorem quotedLine_escape (letter : Char) (rest : List Char) :
    quotedLine .escape (letter :: rest) =
      match escapeLength? letter with
      | some length => quotedLine (.code [] length) rest
      | none => do
        let value ← escaped? letter
        let (chars, rest) ← quotedLine .plain rest
        return (value :: chars, rest) := rfl

/-- The last digit of an escape completes a character. -/
theorem quotedLine_digit (read : List Char) (missing : Nat) (c : Char) (rest : List Char) :
    quotedLine (.code read missing) (c :: rest) =
      if missing ≤ 1 then do
        let value ← codePoint? (c :: read).reverse
        let (chars, rest) ← quotedLine .plain rest
        return (value :: chars, rest)
      else quotedLine (.code (c :: read) (missing - 1)) rest := rfl

/-- The digits of an escape are read up to the last, and then make up a character. -/
theorem quotedLine_code {digits : List Char} (hdigits : digits ≠ []) (read rest : List Char) :
    quotedLine (.code read digits.length) (digits ++ rest) = (do
      let value ← codePoint? (read.reverse ++ digits)
      let (chars, rest) ← quotedLine .plain rest
      return (value :: chars, rest)) := by
  induction digits generalizing read with
  | nil => exact absurd rfl hdigits
  | cons digit digits ih =>
      cases digits with
      | nil => simp [quotedLine_digit]
      | cons next digits =>
          have hmore : ¬ (digit :: next :: digits).length ≤ 1 := by simp
          rw [List.cons_append, quotedLine_digit, if_neg hmore, List.length_cons,
            Nat.add_sub_cancel, ih (List.cons_ne_nil _ _)]
          simp

/-- An escape whose digits are missing is not read. -/
theorem quotedLine_code_of_short {read : List Char} {missing : Nat}
    (hshort : chars.length < missing) : quotedLine (.code read missing) chars = none := by
  induction chars generalizing read missing with
  | nil => rfl
  | cons c rest ih =>
      rw [List.length_cons] at hshort
      rw [quotedLine_digit, if_neg (by omega)]
      exact ih (by omega)

theorem quotedLine_literal {c : Char} (hc : isLiteral c = true) :
    quotedLine .plain (c :: rest) = (quotedLine .plain rest).map fun (chars, rest) =>
      (c :: chars, rest) := by
  obtain ⟨hquote, hbackslash, hcontrol⟩ := isLiteral_iff.mp hc
  rw [quotedLine_plain, if_neg hquote, if_neg hbackslash, if_neg (by simp [hcontrol])]
  cases quotedLine .plain rest <;> rfl

theorem escapeLength?_pos {letter : Char} {length : Nat}
    (hlength : escapeLength? letter = some length) : 0 < length := by
  unfold escapeLength? at hlength
  split at hlength <;> cases hlength <;> decide

/-- What is spelled is read, up to the quote that follows. -/
theorem quotedLine_of_spells {written : List Char} (hspells : Spells written found)
    (rest : List Char) : quotedLine .plain (written ++ '"' :: rest) = some (found, rest) := by
  induction hspells with
  | nil => rfl
  | literal hc _ ih => rw [List.cons_append, quotedLine_literal hc, ih, Option.map_some]
  | @letter letter value written found hlength hvalue _ ih =>
      have hescape : quotedLine .plain ('\\' :: letter :: written ++ '"' :: rest) =
          quotedLine .escape (letter :: (written ++ '"' :: rest)) := rfl
      rw [hescape, quotedLine_escape]
      simp only [hlength, hvalue, ih]
      rfl
  | @code letter value digits written found hlength hvalue _ ih =>
      have hescape : quotedLine .plain ('\\' :: letter :: (digits ++ written) ++ '"' :: rest) =
          quotedLine .escape (letter :: (digits ++ (written ++ '"' :: rest))) := by
        rw [← List.append_assoc digits]
        rfl
      -- The digits are taken in one by one, up to as many as the letter asks for.
      have hdigits : digits ≠ [] := List.length_pos_iff.mp (escapeLength?_pos hlength)
      rw [hescape, quotedLine_escape]
      simp only [hlength]
      rw [quotedLine_code hdigits, List.reverse_nil, List.nil_append, hvalue, ih]
      rfl

/-- What follows a backslash is an escape, and then reading goes on. -/
theorem exists_escape_of_quotedLine (hread : quotedLine .escape chars = some (found, rest)) :
    ∃ escape tail value others, chars = escape ++ tail ∧ escape ≠ [] ∧ found = value :: others ∧
      quotedLine .plain tail = some (others, rest) ∧
      ∀ written, Spells written others →
        Spells ('\\' :: (escape ++ written)) (value :: others) := by
  cases chars with
  | nil => cases hread
  | cons letter tail =>
      rw [quotedLine_escape] at hread
      cases hcode : escapeLength? letter with
      | none =>
          simp only [hcode] at hread
          obtain ⟨value, hvalue, hread⟩ := Option.bind_eq_some_iff.mp hread
          obtain ⟨⟨others, after⟩, hothers, heq⟩ := Option.bind_eq_some_iff.mp hread
          cases heq
          exact ⟨[letter], tail, value, others, rfl, List.cons_ne_nil _ _, rfl, hothers,
            fun _ hspells => .letter hcode hvalue hspells⟩
      | some missing =>
          simp only [hcode] at hread
          -- Too few digits before the end of the text would not be read.
          have hlong : missing ≤ tail.length := Nat.le_of_not_lt fun hshort => by
            rw [quotedLine_code_of_short hshort] at hread
            cases hread
          have hdigits : (tail.take missing).length = missing := by simp [hlong]
          have hne : tail.take missing ≠ [] :=
            List.length_pos_iff.mp (hdigits.symm ▸ escapeLength?_pos hcode)
          have hcharacter := quotedLine_code hne [] (tail.drop missing)
          rw [hdigits, List.take_append_drop, hread] at hcharacter
          obtain ⟨value, hvalue, hcharacter⟩ := Option.bind_eq_some_iff.mp hcharacter.symm
          obtain ⟨⟨others, after⟩, hothers, heq⟩ := Option.bind_eq_some_iff.mp hcharacter
          cases heq
          refine ⟨letter :: tail.take missing, tail.drop missing, value, others, ?_,
            List.cons_ne_nil _ _, rfl, hothers,
            fun _ hspells => .code (hdigits.symm ▸ hcode) hvalue hspells⟩
          rw [List.cons_append, List.take_append_drop]

/-- Whatever is read is spelled in front of a quote. -/
theorem exists_spells_of_quotedLine (hread : quotedLine .plain chars = some (found, rest)) :
    ∃ written, chars = written ++ '"' :: rest ∧ Spells written found := by
  -- An escape takes several characters at once, hence the induction on the length.
  induction hlength : chars.length using Nat.strongRecOn generalizing chars found with
  | ind length ih =>
  subst hlength
  cases chars with
  | nil => cases hread
  | cons c tail =>
      by_cases hquote : c = '"'
      · subst hquote
        cases hread
        exact ⟨[], rfl, .nil⟩
      by_cases hbackslash : c = '\\'
      · subst hbackslash
        have hescape : quotedLine .escape tail = some (found, rest) := hread
        obtain ⟨escape, tail, value, others, rfl, hne, rfl, hothers, hspelled⟩ :=
          exists_escape_of_quotedLine hescape
        have hshorter : tail.length < ('\\' :: (escape ++ tail)).length := by
          simp only [List.length_cons, List.length_append]
          omega
        obtain ⟨written, rfl, hspells⟩ := ih _ hshorter hothers rfl
        exact ⟨'\\' :: (escape ++ written), by simp, hspelled written hspells⟩
      by_cases hcontrol : isControl c = true
      · rw [quotedLine_plain, if_neg hquote, if_neg hbackslash, if_pos hcontrol] at hread
        cases hread
      · have hc := isLiteral_iff.mpr ⟨hquote, hbackslash, by simpa using hcontrol⟩
        rw [quotedLine_literal hc] at hread
        obtain ⟨⟨others, after⟩, hothers, heq⟩ := Option.map_eq_some_iff.mp hread
        cases heq
        obtain ⟨written, rfl, hspells⟩ := ih _ (by simp) hothers rfl
        exact ⟨c :: written, rfl, .literal hc hspells⟩

/-- The reader of a string finds what is spelled in front of the quote that ends it. -/
theorem quotedLine_eq_some_iff : quotedLine .plain chars = some (found, rest) ↔
    ∃ written, chars = written ++ '"' :: rest ∧ Spells written found := by
  refine ⟨exists_spells_of_quotedLine, ?_⟩
  rintro ⟨written, rfl, hspells⟩
  exact quotedLine_of_spells hspells rest

/-! ## Reading between three quotes -/

theorem startsWithThree_iff {quote : Char} :
    startsWithThree quote chars = true ↔ ∃ rest, chars = quote :: quote :: quote :: rest := by
  unfold startsWithThree
  split
  next a b c rest =>
    simp only [Bool.and_eq_true, beq_iff_eq, List.cons.injEq, and_assoc]
    exact ⟨fun ⟨ha, hb, hc⟩ => ⟨rest, ha, hb, hc, rfl⟩, fun ⟨_, ha, hb, hc, _⟩ => ⟨ha, hb, hc⟩⟩
  next hshort =>
    refine ⟨nofun, ?_⟩
    rintro ⟨rest, rfl⟩
    exact absurd rfl (hshort quote quote quote rest)

/-- A character of a string over several lines ends it, is passed over, or completes a character
of what is said. -/
theorem quotedLines_cases {state : QuotedState} {c : Char} {tail : List Char}
    (hread : quotedLines state (c :: tail) = some (found, rest)) :
    (startsWithThree '"' (c :: tail) = true ∧ afterQuotes '"' (tail.drop 2) = (found, rest)) ∨
    (∃ next, quotedLines next tail = some (found, rest)) ∨
    ∃ value others, found = value :: others ∧ quotedLines .plain tail = some (others, rest) := by
  -- What is read is a character and whatever is read after it.
  have hgives : ∀ {value : Char}, (do
      let (chars, rest) ← quotedLines .plain tail
      return (value :: chars, rest)) = some (found, rest) →
      ∃ value others, found = value :: others ∧ quotedLines .plain tail = some (others, rest) := by
    intro value hread
    obtain ⟨⟨others, after⟩, hothers, heq⟩ := Option.bind_eq_some_iff.mp hread
    cases heq
    exact ⟨value, others, rfl, hothers⟩
  cases state with
  | escape =>
      rw [quotedLines] at hread
      split at hread; · exact .inr (.inl ⟨_, hread⟩)
      split at hread; · exact .inr (.inl ⟨_, hread⟩)
      split at hread; · exact .inr (.inl ⟨_, hread⟩)
      obtain ⟨value, -, hread⟩ := Option.bind_eq_some_iff.mp hread
      exact .inr (.inr (hgives hread))
  | code read missing =>
      rw [quotedLines] at hread
      split at hread
      · obtain ⟨value, -, hread⟩ := Option.bind_eq_some_iff.mp hread
        exact .inr (.inr (hgives hread))
      · exact .inr (.inl ⟨_, hread⟩)
  | lineEnd =>
      rw [quotedLines] at hread
      split at hread; · exact .inr (.inl ⟨_, hread⟩)
      split at hread; · exact .inr (.inl ⟨_, hread⟩)
      cases hread
  | plain | skip =>
      rw [quotedLines] at hread
      split at hread; · exact .inr (.inl ⟨_, hread⟩)
      split at hread
      next hquotes => exact .inl ⟨hquotes, Option.some.inj hread⟩
      split at hread; · exact .inr (.inl ⟨_, hread⟩)
      split at hread; · cases hread
      exact .inr (.inr (hgives hread))

/-- Quotes next to the three that end a string belong to it, so the last three end it. -/
theorem startsWithThree_of_afterQuotes {quote : Char} {tail : List Char}
    (hread : afterQuotes quote tail = (found, rest)) :
    startsWithThree quote ((quote :: quote :: quote :: tail).drop found.length) = true := by
  unfold afterQuotes at hread
  split at hread
  · split at hread
    next hboth => cases hread; simp [startsWithThree, hboth]
    split at hread
    next hfirst => cases hread; simp [startsWithThree, hfirst]
    next => cases hread; simp [startsWithThree]
  · split at hread
    next honly => cases hread; simp [startsWithThree, honly]
    next => cases hread; simp [startsWithThree]
  · cases hread; simp [startsWithThree]

/-- A string over several lines has no more characters than stand in front of the three quotes
that end it. -/
theorem exists_threeQuotes_of_quotedLines {state : QuotedState}
    (hread : quotedLines state chars = some (found, rest)) :
    ∃ n, found.length ≤ n ∧ startsWithThree '"' (chars.drop n) = true := by
  induction chars generalizing state found with
  | nil => cases hread
  | cons c tail ih =>
      rcases quotedLines_cases hread with
        ⟨hquotes, hafter⟩ | ⟨next, hnext⟩ | ⟨value, others, rfl, hrest⟩
      · obtain ⟨others, heq⟩ := startsWithThree_iff.mp hquotes
        obtain ⟨rfl, rfl⟩ := List.cons.inj heq
        exact ⟨found.length, Nat.le_refl _, startsWithThree_of_afterQuotes hafter⟩
      · obtain ⟨n, hn, hquotes⟩ := ih hnext
        exact ⟨n + 1, by omega, hquotes⟩
      · obtain ⟨n, hn, hquotes⟩ := ih hrest
        exact ⟨n + 1, Nat.succ_le_succ hn, hquotes⟩

/-! ## Strings of either kind -/

theorem Spells.head?_ne {written found : List Char} (hspells : Spells written found) :
    written.head? ≠ some '"' := by
  cases hspells with
  | nil => exact nofun
  | literal hc _ =>
      rintro heq
      cases heq
      cases hc
  | letter | code => simp

/-- One quote starts a string on one line, and three start one over several lines. -/
theorem string?_quote (chars : List Char) :
    string? ('"' :: chars) =
      (if startsWithThree '"' ('"' :: chars) = true then
        quotedLines .plain (dropFirstLineEnd (chars.drop 2))
      else quotedLine .plain chars).map fun (found, rest) => (String.ofList found, rest) := by
  have hsingle : startsWithThree '\'' ('"' :: chars) = false := by
    refine Bool.eq_false_iff.mpr fun hthree => ?_
    obtain ⟨others, heq⟩ := startsWithThree_iff.mp hthree
    exact absurd (List.cons.inj heq).1 (by decide)
  unfold string?
  simp only [hsingle, Bool.false_eq_true, if_false, List.drop_succ_cons]
  split
  · cases quotedLines .plain (dropFirstLineEnd (chars.drop 2)) <;> rfl
  · cases quotedLine .plain chars <;> rfl

/-- What is spelled between two quotes is read as a string, unless a third quote follows. -/
theorem string?_of_spells {written : List Char} (hspells : Spells written found)
    (hrest : rest.head? ≠ some '"') :
    string? ('"' :: (written ++ '"' :: rest)) = some (String.ofList found, rest) := by
  have hdouble : startsWithThree '"' ('"' :: (written ++ '"' :: rest)) = false := by
    refine Bool.eq_false_iff.mpr fun hthree => ?_
    obtain ⟨others, heq⟩ := startsWithThree_iff.mp hthree
    cases written with
    | nil => exact hrest (by simp [(List.cons.inj (List.cons.inj heq).2).2])
    | cons c written =>
        exact hspells.head?_ne (congrArg some (List.cons.inj (List.cons.inj heq).2).1)
  have hread : quotedLine .plain (written ++ '"' :: rest) = some (found, rest) :=
    quotedLine_eq_some_iff.mpr ⟨written, rfl, hspells⟩
  rw [string?_quote, hdouble, if_neg (by simp), hread, Option.map_some]

/-! ## Strings at the end of a line -/

section

variable {written after : List Char}

theorem exists_drop_dropFirstLineEnd (chars : List Char) :
    ∃ n, dropFirstLineEnd chars = chars.drop n := by
  unfold dropFirstLineEnd
  split
  · exact ⟨1, rfl⟩
  · exact ⟨2, rfl⟩
  · exact ⟨0, rfl⟩

/-- A string that ends in a line ends no later than the last quote of the line. -/
theorem length_le_of_append_eq {spelled : List Char}
    (heq : spelled ++ '"' :: rest = written ++ '"' :: ']' :: '\n' :: after)
    (hspelled : '\n' ∉ spelled) : spelled.length ≤ written.length := by
  rcases List.append_eq_append_iff.mp heq with ⟨more, rfl, hmore⟩ | ⟨more, rfl, hmore⟩
  · simp
  · -- Behind the last quote there is a bracket and then the line ends.
    match more, hmore with
    | [], _ => simp
    | [_], hmore => cases hmore
    | [_, _], hmore => cases hmore
    | _ :: _ :: third :: more, hmore =>
        injection hmore with _ hmore
        injection hmore with _ hmore
        injection hmore with hthird _
        exact absurd (by simp [← hthird]) hspelled

/-- Three quotes in a row stand no later than at the end of the line if there are none in the
lines that follow. -/
theorem lt_length_of_startsWithThree {n : Nat}
    (hthree : startsWithThree '"' ((written ++ '"' :: ']' :: after).drop n) = true)
    (hafter : ∀ n, startsWithThree '"' (after.drop n) = false) : n < written.length := by
  refine Nat.lt_of_not_le fun hlong => ?_
  obtain ⟨k, rfl⟩ := Nat.exists_eq_add_of_le hlong
  rw [List.drop_length_add_append] at hthree
  obtain ⟨others, heq⟩ := startsWithThree_iff.mp hthree
  match k with
  | 0 => cases heq
  | 1 => cases heq
  | k + 2 =>
      rw [List.drop_succ_cons, List.drop_succ_cons, hafter] at hthree
      cases hthree

/-- A text between the quotes of an array with one string is read as this text only if every
character of it stands for itself. -/
theorem isLiteral_of_string?
    (hread : string? ('"' :: (written ++ '"' :: ']' :: '\n' :: after)) =
      some (String.ofList written, rest))
    (hafter : ∀ n, startsWithThree '"' (('\n' :: after).drop n) = false) :
    ∀ c ∈ written, isLiteral c = true := by
  rw [string?_quote] at hread
  obtain ⟨⟨found, others⟩, hfound, heq⟩ := Option.map_eq_some_iff.mp hread
  obtain ⟨rfl, rfl⟩ : found = written ∧ others = rest := by
    simpa only [Prod.mk.injEq, String.ofList_inj] using heq
  split at hfound
  next =>
    -- It would have to be longer than it is.
    obtain ⟨k, hk⟩ := exists_drop_dropFirstLineEnd
      ((found ++ '"' :: ']' :: '\n' :: after).drop 2)
    obtain ⟨n, hn, hthree⟩ := exists_threeQuotes_of_quotedLines hfound
    rw [hk, List.drop_drop, List.drop_drop] at hthree
    have hlt := lt_length_of_startsWithThree hthree hafter
    omega
  next =>
    obtain ⟨spelled, hspelled, hspells⟩ := quotedLine_eq_some_iff.mp hfound
    have hlength := length_le_of_append_eq hspelled.symm hspells.newline_notMem
    obtain ⟨rfl, hliteral⟩ := hspells.eq_of_length_le hlength
    exact hliteral

end

end ListQuery.Toml
