import ListQuery.Files.Tree

/-!
# What becomes of a file that is written

A file that was not there is there once it is written, with the text that was written
(`readBytes_withFile`), and at every other place there is what was there before
(`node?_withFile_of_ne`).  The second is true because the file is written into a directory
that exists: no directory comes about with it.
-/

namespace ListQuery.FileTree

variable {tree : FileTree} {place other : List String} {name path text : String}

/-! ## Names in the current directory -/

/-- Whether a path is the name of something in the current directory. -/
def IsEntryName (path : String) : Prop :=
  Path.names path = [path] ∧ Path.isAbsolute path = false ∧ path.utf8ByteSize ≤ 255 ∧
    path ∉ ["", ".", ".."] ∧ '\x00' ∉ path.toList

/-- Such a path leads to the current directory and then on by its name. -/
theorem resolve_entryName (hcurrent : tree.node? tree.current = some .directory)
    (hname : IsEntryName name) : tree.resolve name = .ok (tree.current ++ [name]) := by
  obtain ⟨hnames, habsolute, hsize, hspecial, hzero⟩ := hname
  simp only [List.mem_cons, List.not_mem_nil, or_false, not_or] at hspecial
  obtain ⟨hempty, hdot, hdots⟩ := hspecial
  have hwalk : tree.walk tree.current [name] = .ok (tree.current ++ [name]) := by
    rw [walk, hcurrent]
    simp [hempty, hdot, hdots, Nat.not_lt.mpr hsize, walk]
  unfold resolve
  rw [if_neg (by simpa using hzero), if_neg (by omega), if_neg (by simpa using hempty), habsolute,
    hnames]
  exact hwalk

theorem pathExists_of_resolve (hresolve : tree.resolve path = .ok place) :
    tree.pathExists path = (tree.node? place).isSome := by
  unfold pathExists find
  rw [hresolve]
  simp only [bind, Except.bind]
  cases tree.node? place <;> rfl

/-! ## Writing a file -/

/-- The tree with a file that was not there. -/
def withFile (tree : FileTree) (place : List String) (text : String) : FileTree :=
  { tree with files := (place, text.toUTF8) :: tree.files }

theorem lookup_eq_none_of_node? (hfree : tree.node? place = none) :
    tree.files.lookup place = none := by
  unfold node? at hfree
  split at hfree
  next => cases hfree
  next hlookup => exact hlookup

theorem writeText_of_free (hresolve : tree.resolve path = .ok place)
    (hfree : tree.node? place = none) (text : String) :
    tree.writeText path text = .ok (tree.withFile place text) := by
  have hfilter : tree.files.filter (·.1 != place) = tree.files := by
    refine List.filter_eq_self.mpr fun file hfile => ?_
    have hne := List.lookup_eq_none_iff.mp (lookup_eq_none_of_node? hfree) file hfile
    simpa [bne, BEq.comm] using hne
  unfold writeText
  rw [hresolve]
  simp only [bind, Except.bind, hfree, hfilter]
  rfl

/-- Writing changes the tree unless it fails. -/
theorem writeText_apply (tree : FileTree) (path text : String) :
    (FileAccess.writeText path text : StateM FileTree (Except FileFailure Unit)) tree =
      match tree.writeText path text with
      | .ok after => (.ok (), after)
      | .error failure => (.error failure, tree) := by
  have hwrite : (FileAccess.writeText path text : StateM FileTree (Except FileFailure Unit)) tree =
      (match tree.writeText path text with
        | .ok after => do
          set after
          return .ok ()
        | .error failure => return .error failure : StateM FileTree (Except FileFailure Unit))
          tree := rfl
  rw [hwrite]
  cases tree.writeText path text <;> rfl

theorem node?_withFile_self (tree : FileTree) (place : List String) (text : String) :
    (tree.withFile place text).node? place = some (.file text.toUTF8) := by
  simp [node?, withFile]

/-- Only the place of the file changes if it is written into a directory on the way to the
current one. -/
theorem node?_withFile_of_ne (hne : other ≠ tree.current ++ [name]) :
    (tree.withFile (tree.current ++ [name]) text).node? other = tree.node? other := by
  have hprefix : other.isPrefixOf (tree.current ++ [name]) = other.isPrefixOf tree.current := by
    rw [Bool.eq_iff_iff, List.isPrefixOf_iff_prefix, List.isPrefixOf_iff_prefix,
      List.prefix_concat_iff]
    exact or_iff_right hne
  have hlookup : (tree.withFile (tree.current ++ [name]) text).files.lookup other =
      tree.files.lookup other := by
    rw [withFile, List.lookup_cons, beq_false_of_ne hne]
  unfold node?
  rw [hlookup]
  simp only [withFile, List.any_cons, hprefix, ← Bool.or_assoc, Bool.or_self]

theorem readBytes_withFile (hcurrent : tree.node? tree.current = some .directory)
    (hname : IsEntryName name) (text : String) :
    (tree.withFile (tree.current ++ [name]) text).readBytes name = .ok text.toUTF8 := by
  have hnode : (tree.withFile (tree.current ++ [name]) text).node? tree.current =
      some .directory := by
    rw [node?_withFile_of_ne (by simp), hcurrent]
  have hresolve : (tree.withFile (tree.current ++ [name]) text).resolve name =
      .ok (tree.current ++ [name]) := resolve_entryName hnode hname
  unfold readBytes find
  rw [hresolve]
  simp only [bind, Except.bind, node?_withFile_self]
  rfl

end ListQuery.FileTree
