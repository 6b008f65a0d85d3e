import ListQuery.Proofs.Text.Decimal
import ListQuery.Proofs.Toml.Quoted
import ListQuery.Proofs.Toml.Table
import ListQuery.Text.Lines
import ListQuery.Toml.Reader

/-!
# Reading a file line by line

What becomes of the lines that a file is usually made of: empty ones and comments
(`lines?_remark`), headers (`lines?_header`), and keys with their values (`lines?_setting`).
The same is said of a text that is put together from its lines (`lines?_ofLines_header`).  An
array is kept by all the lines that follow (`lookup_of_lines?`), however they are read.
-/

namespace ListQuery

theorem Text.toList_ofLines (lines : List String) :
    (ofLines lines).toList = lines.flatMap fun line => line.toList ++ ['\n'] := by
  simp [ofLines, String.toList_join, List.flatMap_map]

theorem Text.toList_ofLines_cons (line : String) (lines : List String) :
    (ofLines (line :: lines)).toList = line.toList ++ '\n' :: (ofLines lines).toList := by
  simp [toList_ofLines]

namespace Toml

variable {fuel levels : Nat} {header : List String} {root members : Members}
variable {line name chars rest : List Char}

/-! ## Between values -/

theorem isLineEnd_of_not_isControl {c : Char} (hc : isControl c = false) (rest : List Char) :
    isLineEnd c rest = false := by
  have hnewline : c ≠ '\n' := by
    rintro rfl
    cases hc
  have hreturn : c ≠ '\r' := by
    rintro rfl
    cases hc
  simp [isLineEnd, hnewline, hreturn]

theorem skipFiller_comment (hline : ∀ c ∈ line, isControl c = false) (rest : List Char) :
    skipFiller true (line ++ '\n' :: rest) = skipFiller false rest := by
  induction line with
  | nil => rfl
  | cons c line ih =>
      obtain ⟨hc, hline⟩ := List.forall_mem_cons.mp hline
      rw [List.cons_append, skipFiller, isLineEnd_of_not_isControl hc, hc, ih hline]
      rfl

/-- A line with a comment, or with nothing, is passed over. -/
theorem skipFiller_remark (hremark : line.head?.all (· == '#') = true)
    (hline : ∀ c ∈ line, isControl c = false) (rest : List Char) :
    skipFiller false (line ++ '\n' :: rest) = skipFiller false rest := by
  cases line with
  | nil => rfl
  | cons c line =>
      obtain rfl : c = '#' := by simpa using hremark
      exact skipFiller_comment (List.forall_mem_cons.mp hline).2 rest

theorem lines?_remark (hremark : line.head?.all (· == '#') = true)
    (hline : ∀ c ∈ line, isControl c = false) (rest : List Char) :
    lines? fuel header root (line ++ '\n' :: rest) = lines? fuel header root rest := by
  cases fuel with
  | zero => rfl
  | succ fuel => rw [lines?, lines?, skipFiller_remark hremark hline]

/-- A line goes on with what is no blank, comment or line end. -/
theorem skipFiller_cons {c : Char} (hspace : isSpace c = false) (hcomment : c ≠ '#')
    (hcontrol : isLineEnd c rest = false) :
    skipFiller false (c :: rest) = some (c :: rest) := by
  simp [skipFiller, hspace, hcomment, hcontrol]

/-! ## Keys -/

/-- Whether a key can be written without quotes. -/
def IsBare (name : List Char) : Prop :=
  name ≠ [] ∧ name.all isKeyChar = true

theorem IsBare.isKeyChar (hname : IsBare name) {c : Char} (hc : c ∈ name) : isKeyChar c = true :=
  List.all_eq_true.mp hname.2 c hc

theorem isSpace_of_isKeyChar {c : Char} (hc : isKeyChar c = true) : isSpace c = false := by
  simp [isSpace, Text.ne_of_class hc ' ' (by decide),
    Text.ne_of_class hc '\t' (by decide)]

theorem isLineEnd_of_isKeyChar {c : Char} (hc : isKeyChar c = true) (rest : List Char) :
    isLineEnd c rest = false := by
  simp [isLineEnd, Text.ne_of_class hc '\n' (by decide),
    Text.ne_of_class hc '\r' (by decide)]

/-- A key without quotes goes up to the first character that cannot stand in one. -/
theorem keyPart?_bare (hname : IsBare name) (hrest : rest.head?.all (!isKeyChar ·) = true) :
    keyPart? (name ++ rest) = some (String.ofList name, rest) := by
  have hchars : ∀ c ∈ name, isKeyChar c = true := fun c hc => hname.isKeyChar hc
  have hspan : (name ++ rest).span isKeyChar = (name, rest) := by
    rw [List.span_eq_takeWhile_dropWhile, List.takeWhile_append_of_pos hchars,
      List.dropWhile_append_of_pos hchars]
    cases rest with
    | nil => simp
    | cons c rest =>
        have hc : isKeyChar c = false := by simpa using hrest
        simp [hc]
  cases name with
  | nil => exact absurd rfl hname.1
  | cons c name =>
      have hc : isKeyChar c = true := hchars c List.mem_cons_self
      -- A key that starts with a quote would be read otherwise.
      unfold keyPart?
      split
      next heq =>
        exact absurd (List.cons.inj heq).1 (Text.ne_of_class hc _ (by decide))
      next heq =>
        exact absurd (List.cons.inj heq).1 (Text.ne_of_class hc _ (by decide))
      next => rw [hspan]

/-- A key of one part ends where no dot follows. -/
theorem key?_bare {next : Char} {more : List Char} (hname : IsBare name)
    (hrest : rest.head?.all (!isKeyChar ·) = true) (hnext : skipSpace rest = next :: more)
    (hdot : next ≠ '.') : key? (name ++ rest) = some ([], String.ofList name, next :: more) := by
  have hspace : skipSpace (name ++ rest) = name ++ rest := by
    cases name with
    | nil => exact absurd rfl hname.1
    | cons c name => simp [skipSpace, isSpace_of_isKeyChar (hname.isKeyChar List.mem_cons_self)]
  unfold key? maximumNesting keyOf?
  rw [hspace, keyPart?_bare hname hrest]
  simp only [Option.bind_eq_bind, Option.bind_some, hnext]
  split
  next heq => exact absurd (List.cons.inj heq).1 hdot
  next => rfl

/-! ## Lines -/

theorem lineEnd?_newline (rest : List Char) : lineEnd? ('\n' :: rest) = some rest := rfl

/-- A header without dots opens a table. -/
theorem lines?_header (hname : IsBare name) (rest : List Char) :
    lines? (fuel + 1) header root ('[' :: (name ++ ']' :: '\n' :: rest)) =
      (openTable [] (String.ofList name) root).bind fun root =>
        lines? fuel [String.ofList name] root rest := by
  have hkey : key? (name ++ ']' :: '\n' :: rest) =
      some ([], String.ofList name, ']' :: '\n' :: rest) :=
    key?_bare hname rfl rfl (by decide)
  have hheader : header? (name ++ ']' :: '\n' :: rest) =
      some (false, [], String.ofList name, '\n' :: rest) := by
    unfold header?
    split
    next heq =>
      obtain ⟨c, others, rfl⟩ := List.exists_cons_of_ne_nil hname.1
      exact absurd (List.cons.inj heq).1
        (Text.ne_of_class (hname.isKeyChar List.mem_cons_self) _ (by decide))
    next => rw [hkey]; rfl
  rw [lines?, skipFiller_cons (by decide) (by decide) rfl]
  simp only [Option.bind_eq_bind, Option.bind_some, hheader, lineEnd?_newline]
  rfl

/-- A key with a value adds this to the table that the line is in. -/
theorem lines?_setting (hname : IsBare name) (rest : List Char) :
    lines? (fuel + 1) header root (name ++ ' ' :: '=' :: rest) =
      (value? maximumNesting fuel (skipSpace rest)).bind fun (value, rest) =>
        (insertUnder header [] (String.ofList name) value root).bind fun root =>
          (lineEnd? rest).bind (lines? fuel header root) := by
  have hkey : key? (name ++ ' ' :: '=' :: rest) = some ([], String.ofList name, '=' :: rest) :=
    key?_bare hname rfl rfl (by decide)
  have hstart : skipFiller false (name ++ ' ' :: '=' :: rest) =
      some (name ++ ' ' :: '=' :: rest) := by
    obtain ⟨c, others, rfl⟩ := List.exists_cons_of_ne_nil hname.1
    have hc := hname.isKeyChar List.mem_cons_self
    exact skipFiller_cons (isSpace_of_isKeyChar hc) (Text.ne_of_class hc _ (by decide))
      (isLineEnd_of_isKeyChar hc _)
  rw [lines?, hstart]
  simp only [Option.bind_eq_bind, Option.bind_some]
  -- Neither the end of the text nor a header: a key starts here.
  split
  next heq => exact absurd heq (by simp)
  next heq =>
    obtain ⟨c, others, rfl⟩ := List.exists_cons_of_ne_nil hname.1
    exact absurd (List.cons.inj heq).1
      (Text.ne_of_class (hname.isKeyChar List.mem_cons_self) _ (by decide))
  next =>
    rw [hkey]
    rfl

/-! ## Numbers -/

theorem isSpace_of_isDigit {c : Char} (hc : c.isDigit = true) : isSpace c = false := by
  simp [isSpace, Text.ne_of_class hc ' ' (by decide),
    Text.ne_of_class hc '\t' (by decide)]

theorem isPlainChar_of_isDigit {c : Char} (hc : c.isDigit = true) : isPlainChar c = true := by
  have hmarks : ("=,[]\x7b\x7d \t#\r\n".toList.all fun mark => !mark.isDigit) = true := by decide
  rw [isPlainChar, Bool.not_eq_true', Bool.eq_false_iff]
  intro hmem
  have hmark := List.all_eq_true.mp hmarks c (List.contains_iff_mem.mp hmem)
  rw [hc] at hmark
  cases hmark

theorem isGrouped_of_ungrouped {isDigit : Char → Bool} {afterDigit : Bool}
    (hchars : ∀ c ∈ chars, c ≠ '_') : isGrouped isDigit afterDigit chars = true := by
  induction chars generalizing afterDigit with
  | nil => rfl
  | cons c chars ih =>
      obtain ⟨hc, hchars⟩ := List.forall_mem_cons.mp hchars
      rw [isGrouped, if_neg hc, ih hchars]

/-- Digits are the number in base ten that they write, unless they have a zero in front or
could be a point in time. -/
theorem plain?_of_digits {digits : List Char} {n : Nat}
    (hdigits : ∀ c ∈ digits, c.isDigit = true) (hzero : digits.head? ≠ some '0')
    (hmoment : isMoment digits = false) (hn : valueInBase? 10 digits = some n)
    (hsmall : n < 0x80000000000000000000000000000000) :
    plain? digits = some (.integer n) := by
  have hne : ∀ {c : Char} {others : List Char}, c.isDigit = false → digits ≠ c :: others := by
    rintro c others hc rfl
    rw [hdigits c List.mem_cons_self] at hc
    cases hc
  have hnil : digits ≠ [] := by
    rintro rfl
    cases hn
  have hunderscore : ∀ c ∈ digits, c ≠ '_' :=
    fun c hc => Text.ne_of_class (hdigits c hc) _ (by decide)
  -- No sign, no underscore, no prefix of a base and no word stands for these digits.
  have hsign : Text.splitSign digits = (false, digits) := by
    unfold Text.splitSign
    split
    · exact absurd rfl (hne (by decide))
    · exact absurd rfl (hne (by decide))
    · rfl
  have hungrouped : ungrouped digits = digits :=
    List.filter_eq_self.mpr fun c hc => by simpa using hunderscore c hc
  have hinteger : integerOf 10 false digits = .integer n := by
    simp only [integerOf, hn, Bool.false_eq_true, if_false]
    rw [if_pos (by omega)]
  have hdrop : digits.dropWhile Char.isDigit = [] := List.dropWhile_eq_nil_iff.mpr hdigits
  have hnumber : number? false false digits = some (.integer n) := by
    unfold number?
    split
    · exact absurd rfl (hne (by decide))
    · exact absurd rfl (hne (by decide))
    · exact absurd rfl hzero
    · exact absurd rfl hzero
    · exact absurd rfl hzero
    · rw [hdrop]
      simp [decimal?, hnil, hzero, isGrouped_of_ungrouped hunderscore, hungrouped, hinteger]
  have htrue : digits ≠ "true".toList := hne (by decide)
  have hfalse : digits ≠ "false".toList := hne (by decide)
  unfold plain?
  rw [if_neg htrue, if_neg hfalse, hmoment, hsign]
  simpa using hnumber

/-- Digits end with the line. -/
theorem splitPlain_digits (hdigits : ∀ c ∈ chars, c.isDigit = true) (rest : List Char) :
    splitPlain [] (chars ++ '\n' :: rest) = (chars, '\n' :: rest) := by
  induction chars with
  | nil => rfl
  | cons c chars ih =>
      obtain ⟨hc, hdigits⟩ := List.forall_mem_cons.mp hdigits
      rw [List.cons_append, splitPlain, isSpace_of_isDigit hc]
      simp [continuesPlain, isPlainChar_of_isDigit hc, ih hdigits]

/-- A line with a key and digits adds the number to the table that the line is in. -/
theorem lines?_digits {digits : List Char} {value : Value} (hname : IsBare name)
    (hdigits : digits ≠ [] ∧ ∀ c ∈ digits, c.isDigit = true) (hvalue : plain? digits = some value)
    (rest : List Char) :
    lines? (fuel + 2) header root (name ++ ' ' :: '=' :: ' ' :: (digits ++ '\n' :: rest)) =
      (insertUnder header [] (String.ofList name) value root).bind fun root =>
        lines? (fuel + 1) header root rest := by
  obtain ⟨c, others, rfl⟩ := List.exists_cons_of_ne_nil hdigits.1
  have hc : c.isDigit = true := hdigits.2 c List.mem_cons_self
  have hskip : skipSpace (' ' :: (c :: others ++ '\n' :: rest)) = c :: others ++ '\n' :: rest := by
    have hspace : isSpace ' ' = true := rfl
    simp [skipSpace, hspace, isSpace_of_isDigit hc]
  have hread : value? maximumNesting (fuel + 1) (c :: others ++ '\n' :: rest) =
      some (value, '\n' :: rest) := by
    unfold value?
    split
    next heq => exact absurd (List.cons.inj heq).1 (Text.ne_of_class hc _ (by decide))
    next heq => exact absurd (List.cons.inj heq).1 (Text.ne_of_class hc _ (by decide))
    next heq => exact absurd (List.cons.inj heq).1 (Text.ne_of_class hc _ (by decide))
    next heq => exact absurd (List.cons.inj heq).1 (Text.ne_of_class hc _ (by decide))
    next =>
      unfold plainValue?
      rw [splitPlain_digits hdigits.2]
      simp only [hvalue, Option.map_some]
  rw [lines?_setting hname, hskip, hread]
  rfl

/-! ## Arrays of strings -/

theorem value?_array (chars : List Char) : value? (levels + 1) (fuel + 1) ('[' :: chars) =
    (items? levels fuel chars).map fun (items, rest) => (.array false items, rest) := by
  rw [value?]
  cases items? levels fuel chars <;> rfl

/-- An item that starts with a quote is a string, which is the last item or has a comma behind
it. -/
theorem items?_string (chars : List Char) : items? levels (fuel + 2) ('"' :: chars) = (do
    let (text, rest) ← string? ('"' :: chars)
    match ← skipFiller false rest with
    | ']' :: rest => return ([.text text], rest)
    | ',' :: rest =>
      let (items, rest) ← items? levels (fuel + 1) rest
      return (.text text :: items, rest)
    | _ => failure) := by
  have hquote : skipFiller false ('"' :: chars) = some ('"' :: chars) := rfl
  have hitem : value? levels (fuel + 1) ('"' :: chars) =
      (string? ('"' :: chars)).map fun (text, rest) => (.text text, rest) := by
    rw [value?]
  rw [items?, hquote]
  simp only [Option.bind_eq_bind, Option.bind_some]
  split
  next heq => exact absurd (List.cons.inj heq).1 (by decide)
  next =>
    rw [hitem]
    cases string? ('"' :: chars) <;> rfl

/-- An array with one string. -/
theorem value?_of_string {text : String}
    (hstring : string? ('"' :: chars) = some (text, ']' :: rest)) :
    value? (levels + 1) (fuel + 3) ('[' :: '"' :: chars) =
      some (.array false [.text text], rest) := by
  have hbracket : skipFiller false (']' :: rest) = some (']' :: rest) := rfl
  rw [value?_array, items?_string, hstring]
  simp only [Option.bind_eq_bind, Option.bind_some, hbracket]
  rfl

/-- The first item of an array that starts with a quote is a string. -/
theorem exists_string_of_value? {value : Value}
    (hread : value? (levels + 1) (fuel + 3) ('[' :: '"' :: chars) = some (value, rest)) :
    ∃ text others items, string? ('"' :: chars) = some (text, others) ∧
      value = .array false (.text text :: items) := by
  rw [value?_array, items?_string] at hread
  obtain ⟨⟨items, after⟩, hitems, heq⟩ := Option.map_eq_some_iff.mp hread
  cases heq
  obtain ⟨⟨text, others⟩, hstring, hitems⟩ := Option.bind_eq_some_iff.mp hitems
  obtain ⟨next, -, hitems⟩ := Option.bind_eq_some_iff.mp hitems
  refine ⟨text, others, items.tail, hstring, ?_⟩
  split at hitems
  next => cases hitems; rfl
  next =>
    obtain ⟨found, -, heq⟩ := Option.bind_eq_some_iff.mp hitems
    cases heq
    rfl
  next => cases hitems

/-! ## Files of lines -/

section

variable {remark name digits : String}

theorem lines?_ofLines_remark (hremark : remark.toList.head?.all (· == '#') = true)
    (hline : (remark.toList.all fun c => !isControl c) = true) (lines : List String) :
    lines? fuel header root (Text.ofLines (remark :: lines)).toList =
      lines? fuel header root (Text.ofLines lines).toList := by
  have hchars : ∀ c ∈ remark.toList, isControl c = false := by simpa using hline
  rw [Text.toList_ofLines_cons, lines?_remark hremark hchars]

theorem lines?_ofLines_header (hname : IsBare name.toList) (lines : List String) :
    lines? (fuel + 1) header root (Text.ofLines (("[" ++ name ++ "]") :: lines)).toList =
      (openTable [] name root).bind fun root =>
        lines? fuel [name] root (Text.ofLines lines).toList := by
  have hline : ("[" ++ name ++ "]").toList ++ '\n' :: (Text.ofLines lines).toList =
      '[' :: (name.toList ++ ']' :: '\n' :: (Text.ofLines lines).toList) := by
    simp
  rw [Text.toList_ofLines_cons, hline, lines?_header hname, String.ofList_toList]

theorem lines?_ofLines_digits {n : Nat} (hname : IsBare name.toList)
    (hne : digits.toList ≠ []) (hdigits : digits.toList.all Char.isDigit = true)
    (hvalue : plain? digits.toList = some (.integer n)) (lines : List String) :
    lines? (fuel + 2) header root (Text.ofLines ((name ++ " = " ++ digits) :: lines)).toList =
      (insertUnder header [] name (.integer n) root).bind fun root =>
        lines? (fuel + 1) header root (Text.ofLines lines).toList := by
  have hline : (name ++ " = " ++ digits).toList ++ '\n' :: (Text.ofLines lines).toList =
      name.toList ++ ' ' :: '=' :: ' ' ::
        (digits.toList ++ '\n' :: (Text.ofLines lines).toList) := by
    simp
  rw [Text.toList_ofLines_cons, hline,
    lines?_digits hname ⟨hne, List.all_eq_true.mp hdigits⟩ hvalue, String.ofList_toList]

end

/-! ## Whole files -/

/-- An array that is written in brackets is found under its name after all further lines. -/
theorem lookup_of_lines? {name : String} {items : List Value}
    (hread : lines? fuel header root chars = some members)
    (hname : root.lookup name = some (.array false items)) :
    members.lookup name = some (.array false items) := by
  -- Whatever a line adds, arrays that are written in brackets are kept.
  induction fuel generalizing header root chars with
  | zero => cases hread
  | succ fuel ih =>
      rw [lines?] at hread
      obtain ⟨start, -, hread⟩ := Option.bind_eq_some_iff.mp hread
      split at hread
      next =>
        cases hread
        exact hname
      next =>
        obtain ⟨⟨inArray, path, key, after⟩, -, hread⟩ := Option.bind_eq_some_iff.mp hread
        cases inArray with
        | true =>
            obtain ⟨changed, hchanged, hread⟩ := Option.bind_eq_some_iff.mp hread
            obtain ⟨next, -, hread⟩ := Option.bind_eq_some_iff.mp hread
            exact ih hread (keeps_openTableInArray hchanged hname)
        | false =>
            obtain ⟨changed, hchanged, hread⟩ := Option.bind_eq_some_iff.mp hread
            obtain ⟨next, -, hread⟩ := Option.bind_eq_some_iff.mp hread
            exact ih hread (keeps_openTable hchanged hname)
      next =>
        obtain ⟨⟨path, key, after⟩, -, hread⟩ := Option.bind_eq_some_iff.mp hread
        dsimp only at hread
        split at hread
        next =>
          obtain ⟨⟨value, others⟩, -, hread⟩ := Option.bind_eq_some_iff.mp hread
          obtain ⟨changed, hchanged, hread⟩ := Option.bind_eq_some_iff.mp hread
          obtain ⟨next, -, hread⟩ := Option.bind_eq_some_iff.mp hread
          exact ih hread (keeps_insertUnder header hchanged hname)
        next => cases hread

end Toml

end ListQuery
