import ListQuery.Json.Grammar
import ListQuery.Json.Printer

/-!
# Strings are read as they are written

Every character of a string is read from what it is written as, whether that is the
character itself or an escape, and the code points that reading yields are never
surrogates.
-/

namespace ListQuery.Json.Doc

/-! ## Characters and code points -/

/-- The code point of a character is no half of a surrogate pair. -/
theorem not_surrogate (c : Char) : isLeading c.toNat = false ∧ isTrailing c.toNat = false := by
  have hvalid : c.toNat < 0xD800 ∨ (0xDFFF < c.toNat ∧ c.toNat < 0x110000) := c.valid
  simp only [isLeading, isTrailing, Bool.and_eq_false_imp, decide_eq_true_eq,
    decide_eq_false_iff_not]
  omega

/-- Code points of characters are taken one by one. -/
theorem characters?_map_toNat (chars : List Char) :
    characters? (chars.map Char.toNat) = some chars := by
  induction chars with
  | nil => rfl
  | cons c rest ih =>
      obtain ⟨hleading, htrailing⟩ := not_surrogate c
      cases rest with
      | nil => simp [characters?, hleading, htrailing]
      | cons next others =>
          rw [List.map_cons, List.map_cons, characters?, if_neg (by simp [hleading]),
            if_neg (by simp [htrailing])]
          rw [List.map_cons] at ih
          rw [ih]
          simp

/-! ## Escapes -/

theorem stringUnits_escaped {letter value : Char} {rest tail : List Char} {units : List Nat}
    (hletter : letter ≠ 'u') (hvalue : escaped? letter = some value)
    (hrest : stringUnits rest = some (units, tail)) :
    stringUnits ('\\' :: letter :: rest) = some (value.toNat :: units, tail) := by
  rw [stringUnits, hvalue, hrest]
  · rfl
  · intro a b c d others heq
    exact absurd heq hletter

private theorem hexUnit?_hexDigit :
    ∀ high < 2, ∀ low < 16, hexUnit? '0' '0' (hexDigit high) (hexDigit low) =
      some (high * 16 + low) := by
  decide

theorem stringUnits_control {c : Char} {rest tail : List Char} {units : List Nat}
    (hc : c.toNat < 0x20) (hrest : stringUnits rest = some (units, tail)) :
    stringUnits ('\\' :: 'u' :: '0' :: '0' :: hexDigit (c.toNat / 16) :: hexDigit (c.toNat % 16)
      :: rest) = some (c.toNat :: units, tail) := by
  have hunit := hexUnit?_hexDigit (c.toNat / 16) (by omega) (c.toNat % 16) (by omega)
  rw [Nat.div_add_mod'] at hunit
  rw [stringUnits, hunit, hrest]
  rfl

theorem stringUnits_plain {c : Char} {rest tail : List Char} {units : List Nat}
    (hquote : c ≠ '"') (hbackslash : c ≠ '\\') (hc : ¬c.toNat < 0x20)
    (hrest : stringUnits rest = some (units, tail)) :
    stringUnits (c :: rest) = some (c.toNat :: units, tail) := by
  rw [stringUnits, if_neg hc, hrest]
  · rfl
  · exact hquote
  · intro a b c d others heq
    exact absurd heq hbackslash
  · intro letter others heq
    exact absurd heq hbackslash

/-- A character is read from what it is written as. -/
theorem stringUnits_escapeChar (c : Char) {rest tail : List Char} {units : List Nat}
    (hrest : stringUnits rest = some (units, tail)) :
    stringUnits (escapeChar c ++ rest) = some (c.toNat :: units, tail) := by
  unfold escapeChar
  split
  · exact stringUnits_escaped (by decide) rfl hrest
  · exact stringUnits_escaped (by decide) rfl hrest
  · exact stringUnits_escaped (by decide) rfl hrest
  · exact stringUnits_escaped (by decide) rfl hrest
  · exact stringUnits_escaped (by decide) rfl hrest
  · exact stringUnits_escaped (by decide) rfl hrest
  · exact stringUnits_escaped (by decide) rfl hrest
  next c hquote hbackslash _ _ _ _ _ =>
    split
    next hcontrol => exact stringUnits_control hcontrol hrest
    next hplain => exact stringUnits_plain hquote hbackslash hplain hrest

/-! ## Strings -/

/-- A string is read as itself after its opening quote. -/
theorem string?_append (text : String) (rest : List Char) :
    string? (text.toList.flatMap escapeChar ++ '"' :: rest) = some (some text, rest) := by
  have hunits : ∀ chars : List Char,
      stringUnits (chars.flatMap escapeChar ++ '"' :: rest) =
        some (chars.map Char.toNat, rest) := by
    intro chars
    induction chars with
    | nil => rfl
    | cons c others ih =>
        rw [List.flatMap_cons, List.append_assoc, List.map_cons]
        exact stringUnits_escapeChar c ih
  unfold string?
  rw [hunits]
  simp [characters?_map_toNat]

end ListQuery.Json.Doc
