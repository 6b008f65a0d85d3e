import ListQuery.Text.Base64Url
import ListQuery.Text.Blank
import Mathlib.Data.List.TakeDrop
import Mathlib.Data.List.TakeWhile

/-!
# Octets survive being written as URL-safe text

Writing goes through values below sixty-four: `sextets` are the values of the symbols,
and reading takes each symbol back to its value (`value?_symbol`) and the values back to
the octets (`octets?_sextets`).  No symbol is an equals sign or a blank, so written text
is read as a whole, also if it is filled up with equals signs or stands between blanks.
-/

namespace ListQuery.Text

namespace Base64Url

/-! ## Symbols -/

/-- A symbol has the value that it was written for. -/
theorem value?_symbol : ∀ value < 64, value? (symbol value) = some value := by
  decide

/-- Whether a character belongs to the alphabet. -/
def isSymbol (c : Char) : Bool :=
  c.isAlphanum || c == '-' || c == '_'

theorem isSymbol_symbol : ∀ value < 64, isSymbol (symbol value) = true := by
  decide

private theorem symbol_ne_equals : ∀ value < 64, symbol value ≠ '=' := by
  decide

private theorem isBlank_symbol : ∀ value < 64, isBlank (symbol value) = false := by
  decide

private theorem utf8Size_symbol : ∀ value < 64, (symbol value).utf8Size = 1 := by
  decide

/-! ## Values of symbols -/

/-- The values of the symbols of a sequence of octets. -/
def sextets : List UInt8 → List Nat
  | [] => []
  | [a] => [a.toNat / 4, a.toNat % 4 * 16]
  | [a, b] => [a.toNat / 4, a.toNat % 4 * 16 + b.toNat / 16, b.toNat % 16 * 4]
  | a :: b :: c :: rest =>
    a.toNat / 4 :: (a.toNat % 4 * 16 + b.toNat / 16) :: (b.toNat % 16 * 4 + c.toNat / 64)
      :: c.toNat % 64 :: sextets rest

theorem encode_eq_map (octets : List UInt8) : encode octets = (sextets octets).map symbol := by
  fun_induction encode octets with
  | case1 => rfl
  | case2 a => rfl
  | case3 a b => rfl
  | case4 a b c rest ih => simp [sextets, ih]

theorem sextets_lt (octets : List UInt8) : ∀ value ∈ sextets octets, value < 64 := by
  fun_induction sextets octets with
  | case1 => simp
  | case2 a =>
      have ha := a.toNat_lt
      simp only [List.forall_mem_cons, List.not_mem_nil, false_implies, implies_true, and_true]
      omega
  | case3 a b =>
      have ha := a.toNat_lt
      have hb := b.toNat_lt
      simp only [List.forall_mem_cons, List.not_mem_nil, false_implies, implies_true, and_true]
      omega
  | case4 a b c rest ih =>
      have ha := a.toNat_lt
      have hb := b.toNat_lt
      have hc := c.toNat_lt
      simp only [List.forall_mem_cons]
      exact ⟨by omega, by omega, by omega, by omega, ih⟩

private theorem ofNat_eq_of_toNat {octet : UInt8} {value : Nat} (hvalue : value = octet.toNat) :
    UInt8.ofNat value = octet := by
  rw [hvalue, UInt8.ofNat_toNat]

/-- The values of the symbols give the octets back. -/
theorem octets?_sextets (octets : List UInt8) : octets? (sextets octets) = some octets := by
  fun_induction sextets octets with
  | case1 => rfl
  | case2 a =>
      have ha := a.toNat_lt
      -- Six bits of an octet are in one symbol and the rest at the front of the next.
      have hfirst : UInt8.ofNat (a.toNat / 4 * 4 + a.toNat % 4 * 16 / 16) = a :=
        ofNat_eq_of_toNat (by omega)
      rw [octets?, if_pos (by omega), hfirst]
  | case3 a b =>
      have ha := a.toNat_lt
      have hb := b.toNat_lt
      have hfirst : UInt8.ofNat (a.toNat / 4 * 4 + (a.toNat % 4 * 16 + b.toNat / 16) / 16) = a :=
        ofNat_eq_of_toNat (by omega)
      have hsecond : UInt8.ofNat
          ((a.toNat % 4 * 16 + b.toNat / 16) % 16 * 16 + b.toNat % 16 * 4 / 4) = b :=
        ofNat_eq_of_toNat (by omega)
      rw [octets?, if_pos (by omega), hfirst, hsecond]
  | case4 a b c rest ih =>
      have ha := a.toNat_lt
      have hb := b.toNat_lt
      have hc := c.toNat_lt
      have hfirst : UInt8.ofNat (a.toNat / 4 * 4 + (a.toNat % 4 * 16 + b.toNat / 16) / 16) = a :=
        ofNat_eq_of_toNat (by omega)
      have hsecond : UInt8.ofNat ((a.toNat % 4 * 16 + b.toNat / 16) % 16 * 16
          + (b.toNat % 16 * 4 + c.toNat / 64) / 4) = b :=
        ofNat_eq_of_toNat (by omega)
      have hthird : UInt8.ofNat ((b.toNat % 16 * 4 + c.toNat / 64) % 4 * 64 + c.toNat % 64) = c :=
        ofNat_eq_of_toNat (by omega)
      rw [octets?, ih, Option.map_some, hfirst, hsecond, hthird]

/-! ## Written text -/

private theorem mapM_value?_symbol {values : List Nat} (hvalues : ∀ value ∈ values, value < 64) :
    (values.map symbol).mapM value? = some values := by
  induction values with
  | nil => rfl
  | cons value rest ih =>
      obtain ⟨hvalue, hrest⟩ := List.forall_mem_cons.mp hvalues
      rw [List.map_cons, List.mapM_cons, value?_symbol value hvalue, ih hrest]
      rfl

private theorem span_append {p : Char → Bool} {chars rest : List Char}
    (hchars : ∀ c ∈ chars, p c = true) (hrest : ∀ c ∈ rest.head?, p c = false) :
    (chars ++ rest).span p = (chars, rest) := by
  have hstop : rest.takeWhile p = [] ∧ rest.dropWhile p = rest := by
    cases rest with
    | nil => exact ⟨rfl, rfl⟩
    | cons c rest => simp [hrest c rfl]
  rw [List.span_eq_takeWhile_dropWhile, List.takeWhile_append_of_pos hchars,
    List.dropWhile_append_of_pos hchars, hstop.1, hstop.2, List.append_nil]

/-- What holds of the symbols holds of every character of a written text. -/
theorem forall_mem_encode {holds : Char → Prop} (hsymbol : ∀ value < 64, holds (symbol value))
    (octets : List UInt8) : ∀ c ∈ encode octets, holds c := by
  rw [encode_eq_map]
  exact List.forall_mem_map.mpr fun value hvalue => hsymbol value (sextets_lt octets value hvalue)

/-- Octets are read back from the text that they are written as, also if it is filled up. -/
theorem decode?_padded (octets : List UInt8) {padding : Nat}
    (hpadding : padding ≤ paddingBound (encode octets).length) :
    decode? (encode octets ++ List.replicate padding '=') = some octets := by
  have hsymbols : ∀ c ∈ encode octets, (c != '=') = true :=
    forall_mem_encode (fun value hvalue => by simpa using symbol_ne_equals value hvalue) octets
  have hequals : ∀ c ∈ (List.replicate padding '=').head?, (c != '=') = false := by
    intro c hc
    obtain ⟨-, rfl⟩ : padding ≠ 0 ∧ c = '=' := by
      simpa [List.head?_replicate, eq_comm] using hc
    rfl
  unfold decode?
  rw [span_append hsymbols hequals]
  simp only [List.length_replicate, hpadding, decide_true, Bool.and_true]
  rw [if_pos (by simp), encode_eq_map, mapM_value?_symbol (sextets_lt octets), Option.bind_some,
    octets?_sextets]

/-- Written text keeps to the alphabet. -/
theorem isSymbol_encode (octets : List UInt8) : ∀ c ∈ encode octets, isSymbol c = true :=
  forall_mem_encode isSymbol_symbol octets

/-- No symbol is a blank. -/
theorem isBlank_encode (octets : List UInt8) : ∀ c ∈ encode octets, isBlank c = false :=
  forall_mem_encode isBlank_symbol octets

/-- Every symbol takes one octet, and so does every equals sign. -/
theorem utf8ByteSize_padded (octets : List UInt8) (padding : Nat) :
    (String.ofList (encode octets ++ List.replicate padding '=')).utf8ByteSize =
      (encode octets).length + padding := by
  have hsize : ∀ {chars : List Char}, (∀ c ∈ chars, c.utf8Size = 1) →
      (String.ofList chars).utf8ByteSize = chars.length := by
    intro chars hchars
    induction chars with
    | nil => rfl
    | cons c rest ih =>
        obtain ⟨hc, hrest⟩ := List.forall_mem_cons.mp hchars
        rw [String.ofList_cons, String.utf8ByteSize_append, String.utf8ByteSize_singleton, hc,
          ih hrest, List.length_cons, Nat.add_comm]
  have hpadding : ∀ c ∈ List.replicate padding '=', c.utf8Size = 1 := by
    intro c hc
    rw [List.eq_of_mem_replicate hc]
    rfl
  rw [hsize (List.forall_mem_append.mpr ⟨forall_mem_encode utf8Size_symbol octets, hpadding⟩),
    List.length_append, List.length_replicate]

theorem length_le_encode (octets : List UInt8) : octets.length ≤ (encode octets).length := by
  fun_induction encode octets with
  | case1 | case2 | case3 => simp
  | case4 a b c rest ih =>
      simp only [List.length_cons]
      omega

theorem encode_ne_nil {octets : List UInt8} (hoctets : octets ≠ []) : encode octets ≠ [] := by
  fun_induction encode octets <;> simp_all

end Base64Url

/-- Of a text without blanks that stands between blanks the text is left. -/
theorem trimChars_surrounded {before chars after : List Char}
    (hbefore : ∀ c ∈ before, isBlank c = true) (hafter : ∀ c ∈ after, isBlank c = true)
    (hchars : ∀ c ∈ chars, isBlank c = false) :
    trimChars (before ++ chars ++ after) = chars := by
  have hdrop : ∀ {blanks rest : List Char}, (∀ c ∈ blanks, isBlank c = true) →
      (∀ c ∈ rest.head?, isBlank c = false) → (blanks ++ rest).dropWhile isBlank = rest := by
    intro blanks rest hblanks hrest
    rw [List.dropWhile_append_of_pos hblanks]
    cases rest with
    | nil => rfl
    | cons c rest => exact List.dropWhile_cons_of_neg (by simp [hrest c rfl])
  cases chars with
  | nil =>
      have hblanks : ∀ c ∈ before ++ [] ++ after, isBlank c = true := by
        simpa using List.forall_mem_append.mpr ⟨hbefore, hafter⟩
      rw [trimChars, List.dropWhile_eq_nil_iff.mpr hblanks]
      rfl
  | cons c rest =>
      have hfirst : (before ++ (c :: rest) ++ after).dropWhile isBlank = c :: rest ++ after := by
        rw [List.append_assoc]
        refine hdrop hbefore ?_
        simpa using hchars c List.mem_cons_self
      -- The text is trimmed from behind as it is from the front.
      have hlast : ∀ d ∈ (c :: rest).reverse.head?, isBlank d = false := fun d hd =>
        hchars d (List.mem_reverse.mp (List.mem_of_mem_head? hd))
      rw [trimChars, hfirst, List.reverse_append,
        hdrop (fun d hd => hafter d (List.mem_reverse.mp hd)) hlast, List.reverse_reverse]

end ListQuery.Text
