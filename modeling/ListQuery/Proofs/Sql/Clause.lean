import ListQuery.Proofs.Sql.Fragment

/-!
# Clauses with question marks

A clause becomes a fragment in which the question marks are replaced by values, the first
mark by the first value and so on (`ofClauseChars_append_mark`).  Nothing of the clause is
lost and nothing is added: with the marks put back, the fragment is the clause
(`source_ofClauseChars`).  It binds as many of the values as there are marks for them
(`values_ofClauseChars`), and where there are more marks than values the marks that are left
stay in the text (`count_mark_ofClauseChars`).
-/

namespace ListQuery.Sql

/-- The characters that a chunk takes the place of in a clause. -/
def Chunk.source : Chunk → List Char
  | .parameter _ => ['?']
  | chunk => chunk.chars 0

namespace Fragment

variable {text chars : List Char} {values : List Scalar}

/-- The clause that a fragment takes the place of. -/
def source (fragment : Fragment) : List Char :=
  fragment.flatMap Chunk.source

/-- What takes the place of a question mark: the value that is there for it, or else the
mark itself. -/
def ofMark : Option Scalar → Chunk
  | some value => .parameter value
  | none => .verbatim "?"

/-! ## Text between marks -/

@[simp] theorem values_verbatim (text : List Char) : (verbatim text).values = [] := by
  unfold verbatim
  split <;> rfl

@[simp] theorem source_append (first second : Fragment) :
    source (first ++ second) = source first ++ source second :=
  List.flatMap_append

@[simp] theorem source_verbatim (text : List Char) : (verbatim text).source = text := by
  cases text with
  | nil => rfl
  | cons c rest => simp [verbatim, source, Chunk.source, Chunk.chars]

theorem piece_of_mem_verbatim (htext : '?' ∉ text) : ∀ chunk ∈ verbatim text,
    ∃ piece, chunk = .verbatim (String.ofList piece) ∧ piece ≠ [] ∧ '?' ∉ piece := by
  intro chunk hchunk
  unfold verbatim at hchunk
  split at hchunk
  next => cases hchunk
  next hne => exact ⟨text, List.mem_singleton.mp hchunk, by simpa using hne, htext⟩

/-- Text without a mark is no mark. -/
theorem count_mark_verbatim (htext : '?' ∉ text) :
    (verbatim text).count (ofMark none) = 0 := by
  rw [List.count_eq_zero]
  intro hmem
  have hsource : '?' ∈ (verbatim text).source :=
    List.mem_flatMap.mpr ⟨_, hmem, by decide⟩
  rw [source_verbatim] at hsource
  exact htext hsource

/-! ## Characters -/

/-- A character that neither takes a value nor stands where the values have run out is no
mark. -/
theorem ne_mark {c : Char} (hvalue : ∀ value rest, values = value :: rest → c ≠ '?')
    (hnone : values = [] → c ≠ '?') : c ≠ '?' := by
  cases values with
  | nil => exact hnone rfl
  | cons value rest => exact hvalue value rest rfl

theorem source_ofClauseChars :
    (ofClauseChars text chars values).source = text.reverse ++ chars := by
  fun_induction ofClauseChars text chars values with
  | case1 text values => simp
  | case2 text rest value values ih =>
      rw [source_append, source_verbatim, source, List.flatMap_cons, ← source, ih]
      rfl
  | case3 text rest ih =>
      rw [source_append, source_verbatim, source, List.flatMap_cons, ← source, ih]
      rfl
  | case4 text c rest values hvalue hvalues ih => simpa using ih

theorem values_ofClauseChars :
    (ofClauseChars text chars values).values = values.take (chars.count '?') := by
  fun_induction ofClauseChars text chars values with
  | case1 text values => simp
  | case2 text rest value values ih =>
      rw [values_append, values_verbatim, List.nil_append, List.count_cons_self,
        List.take_succ_cons, ← ih]
      rfl
  | case3 text rest ih =>
      rw [List.take_nil] at ih ⊢
      rw [values_append, values_verbatim, List.nil_append]
      exact ih
  | case4 text c rest values hvalue hvalues ih =>
      rw [ih, List.count_cons_of_ne (ne_mark hvalue hvalues)]

/-- The marks for which there are no values are left. -/
theorem count_mark_ofClauseChars (htext : '?' ∉ text) :
    (ofClauseChars text chars values).count (ofMark none) = chars.count '?' - values.length := by
  have hreverse : ∀ {text : List Char}, '?' ∉ text →
      (verbatim text.reverse).count (ofMark none) = 0 :=
    fun htext => count_mark_verbatim (by simpa using htext)
  fun_induction ofClauseChars text chars values with
  | case1 text values => simpa using hreverse htext
  | case2 text rest value values ih =>
      have hvalue : Chunk.parameter value ≠ ofMark none := by simp [ofMark]
      rw [List.count_append, hreverse htext, List.count_cons_of_ne hvalue, ih (by simp),
        List.count_cons_self, List.length_cons]
      omega
  | case3 text rest ih =>
      rw [List.count_append, hreverse htext, ← ofMark, List.count_cons_self, ih (by simp),
        List.count_cons_self]
      simp
  | case4 text c rest values hvalue hvalues ih =>
      have hc := ne_mark hvalue hvalues
      rw [ih (by simp [hc.symm, htext]), List.count_cons_of_ne hc]

/-- Each chunk is a value, a mark that is left, or text without marks, of which there is
some. -/
theorem piece_of_mem_ofClauseChars (htext : '?' ∉ text) :
    ∀ chunk ∈ ofClauseChars text chars values,
      (∃ value, chunk = .parameter value) ∨ chunk = ofMark none ∨
        ∃ piece, chunk = .verbatim (String.ofList piece) ∧ piece ≠ [] ∧ '?' ∉ piece := by
  -- The text before a mark is kept with its last character first.
  have hreverse : ∀ {text : List Char}, '?' ∉ text → ∀ chunk ∈ verbatim text.reverse,
      ∃ piece, chunk = .verbatim (String.ofList piece) ∧ piece ≠ [] ∧ '?' ∉ piece :=
    fun htext => piece_of_mem_verbatim (by simpa using htext)
  intro chunk hchunk
  fun_induction ofClauseChars text chars values with
  | case1 text values => exact .inr (.inr (hreverse htext chunk hchunk))
  | case2 text rest value values ih =>
      rcases List.mem_append.mp hchunk with hchunk | hchunk
      · exact .inr (.inr (hreverse htext chunk hchunk))
      · rcases List.mem_cons.mp hchunk with rfl | hchunk
        · exact .inl ⟨value, rfl⟩
        · exact ih (by simp) hchunk
  | case3 text rest ih =>
      rcases List.mem_append.mp hchunk with hchunk | hchunk
      · exact .inr (.inr (hreverse htext chunk hchunk))
      · rcases List.mem_cons.mp hchunk with rfl | hchunk
        · exact .inr (.inl rfl)
        · exact ih (by simp) hchunk
  | case4 text c rest values hvalue hvalues ih =>
      exact ih (by simp [(ne_mark hvalue hvalues).symm, htext]) hchunk

/-- A mark divides a clause: what precedes it and what follows it are replaced on their own,
and the mark takes the value that those before it leave next. -/
theorem ofClauseChars_append_mark (back : List Char) :
    ofClauseChars text (chars ++ '?' :: back) values =
      ofClauseChars text chars values ++
        ofMark values[chars.count '?']? ::
          ofClauseChars [] back (values.drop (chars.count '?' + 1)) := by
  fun_induction ofClauseChars text chars values with
  | case1 text values =>
      cases values with
      | nil => simp [ofClauseChars, ofMark]
      | cons value values => simp [ofClauseChars, ofMark]
  | case2 text rest value values ih => simp [ofClauseChars, ih]
  | case3 text rest ih => simp [ofClauseChars, ih]
  | case4 text c rest values hvalue hvalues ih =>
      have hc := ne_mark hvalue hvalues
      rw [List.cons_append, ofClauseChars, ih, List.count_cons_of_ne hc]
      · exact hvalue
      · exact hvalues

/-! ## Clauses -/

/-- A clause with values for its question marks is the clause again once the values give way
to marks.  It binds the values in their order, as many as there are marks for them; the marks
for which there are no values stay in the text, in which there is nothing else but what stands
between marks.  Which of both becomes of a mark depends on the number of marks before it. -/
theorem ofClause_restores (clause : String) (values : List Scalar) :
    (ofClause clause values).source = clause.toList ∧
    (ofClause clause values).values =
      values.take (min values.length (clause.toList.count '?')) ∧
    (ofClause clause values).count (.verbatim "?") =
      clause.toList.count '?' - values.length ∧
    (∀ chunk ∈ ofClause clause values,
      (∃ value, chunk = .parameter value) ∨ chunk = .verbatim "?" ∨
        ∃ piece, chunk = .verbatim (String.ofList piece) ∧ piece ≠ [] ∧ '?' ∉ piece) ∧
    ∀ back : String,
      ofClause (clause ++ "?" ++ back) values =
        ofClause clause values ++
          ofMark values[clause.toList.count '?']? ::
            ofClause back (values.drop (clause.toList.count '?' + 1)) := by
  refine ⟨source_ofClauseChars, ?_, count_mark_ofClauseChars (by simp),
    piece_of_mem_ofClauseChars (by simp), fun back => ?_⟩
  · rw [ofClause, values_ofClauseChars, Nat.min_comm, ← List.take_take, List.take_length]
  · have hchars : (clause ++ "?" ++ back).toList = clause.toList ++ '?' :: back.toList := by simp
    rw [ofClause, hchars, ofClauseChars_append_mark]
    rfl

/-- With too few values the marks at the end are left, also next to each other. -/
theorem ofClause_restores_surplus :
    ofClause "?a = ? OR ??" [.null, .bool true] =
      [.parameter .null, .verbatim "a = ", .parameter (.bool true), .verbatim " OR ",
        .verbatim "?", .verbatim "?"] ∧
    (ofClause "?a = ? OR ??" [.null, .bool true]).source = "?a = ? OR ??".toList ∧
    (ofClause "?a = ? OR ??" [.null, .bool true]).count (.verbatim "?") = 2 ∧
    ∃ piece, Chunk.verbatim " OR " = .verbatim (String.ofList piece) ∧ piece ≠ [] ∧
      '?' ∉ piece := by
  obtain ⟨hsource, -, hcount, hpieces, -⟩ :=
    ofClause_restores "?a = ? OR ??" [.null, .bool true]
  refine ⟨by decide +kernel, hsource, hcount.trans (by decide +kernel), ?_⟩
  have hmem : Chunk.verbatim " OR " ∈ ofClause "?a = ? OR ??" [.null, .bool true] := by
    decide +kernel
  simpa using hpieces _ hmem

end Fragment

end ListQuery.Sql
