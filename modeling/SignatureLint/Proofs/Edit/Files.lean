import SignatureLint.Edit.Files

/-!
# Mending one file

Edits that are all about one file are applied to it together.
-/

namespace SignatureLint

namespace Edit

theorem byFile_eq {path : String} {edits : List Edit} (nonempty : edits ≠ [])
    (same : ∀ edit ∈ edits, edit.span.path = path) : byFile edits = [(path, edits)] := by
  have grows (front rest : List Edit) (same : ∀ edit ∈ rest, edit.span.path = path) :
      rest.foldl (fun groups edit => edit.insertByFile groups) [(path, front)] =
        [(path, front ++ rest)] := by
    induction rest generalizing front with
    | nil => rw [List.foldl_nil, List.append_nil]
    | cons edit rest ih =>
        rw [List.foldl_cons, insertByFile, if_pos (same edit List.mem_cons_self).symm,
          ih _ fun other found => same other (List.mem_cons_of_mem edit found), List.append_assoc,
          List.singleton_append]
  obtain ⟨first, rest, rfl⟩ := List.exists_cons_of_ne_nil nonempty
  rw [byFile, List.foldl_cons, insertByFile, same first List.mem_cons_self]
  exact grows [first] rest fun edit found => same edit (List.mem_cons_of_mem first found)

end Edit

namespace FileTree

variable {tree : FileTree}

theorem fix_of_path {path : String} {diagnostics : List Diagnostic}
    (nonempty : Diagnostic.fixableEdits diagnostics ≠ [])
    (same : ∀ edit ∈ Diagnostic.fixableEdits diagnostics, edit.span.path = path) :
    tree.fix diagnostics =
      match tree.fixFile path (Diagnostic.fixableEdits diagnostics) with
      | .error fault => (tree, .error fault)
      | .ok mended => (mended, .ok [(path, (Diagnostic.fixableEdits diagnostics).length)]) := by
  rw [fix, Edit.byFile_eq nonempty same, fixFiles]
  cases tree.fixFile path (Diagnostic.fixableEdits diagnostics) with
  | error fault => rfl
  | ok mended => rfl

end FileTree

end SignatureLint
