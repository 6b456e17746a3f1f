import Mathlib
import SignatureLint.Edit.Files
import SignatureLint.Proofs.FileTree
import SignatureLint.Proofs.Text.Utf8

/-!
# Mending files one after the other

The edits of each file are applied together: either the whole file is rewritten, or it stays as it
is.  Files are mended in the order in which the edits first name them.  A failure ends the run, and
then the files before it have been rewritten and no other one has been touched.
-/

namespace SignatureLint

namespace Edit

/-! ## The files of edits -/

/-- The files that edits are about, in the order in which they first appear. -/
def files (edits : List Edit) : List String :=
  (edits.map (·.span.path)).eraseDups

def ofFile (path : String) (edits : List Edit) : List Edit :=
  edits.filter (·.span.path = path)

def groups (edits : List Edit) : List (String × List Edit) :=
  (files edits).map fun path => (path, ofFile path edits)

theorem nodup_eraseDups (names : List String) : names.eraseDups.Nodup := by
  cases names with
  | nil => exact List.nodup_nil
  | cons first rest =>
      rw [List.eraseDups_cons, List.nodup_cons, List.mem_eraseDups]
      exact ⟨by simp, nodup_eraseDups (rest.filter fun name => !name == first)⟩
termination_by names.length
decreasing_by exact Nat.lt_succ_of_le (List.length_filter_le _ _)

/-- An edit joins the group of its file, or makes a new group at the end. -/
theorem insertByFile_map (edit : Edit) {held : String → List Edit} {names : List String}
    (distinct : names.Nodup) (fresh : edit.span.path ∉ names → held edit.span.path = []) :
    edit.insertByFile (names.map fun path => (path, held path)) =
      (if edit.span.path ∈ names then names else names ++ [edit.span.path]).map fun path =>
        (path, held path ++ ofFile path [edit]) := by
  have joins : ofFile edit.span.path [edit] = [edit] := by simp [ofFile]
  have stays {path : String} (other : edit.span.path ≠ path) : ofFile path [edit] = [] := by
    simp [ofFile, other]
  induction names with
  | nil => simp [insertByFile, joins, fresh List.not_mem_nil]
  | cons first rest ih =>
      obtain ⟨alone, distinct⟩ := List.nodup_cons.mp distinct
      -- the files that are not the one of the edit keep what they have
      by_cases here : first = edit.span.path
      · have others : ∀ path ∈ rest,
            (path, held path) = (path, held path ++ ofFile path [edit]) := by
          intro path found
          rw [stays (fun same => alone (here ▸ same ▸ found)), List.append_nil]
        rw [List.map_cons, insertByFile, if_pos here, if_pos (here ▸ List.mem_cons_self),
          List.map_cons, List.map_congr_left others, here, joins]
      · have elsewhere : edit.span.path ∈ first :: rest ↔ edit.span.path ∈ rest := by
          rw [List.mem_cons, or_iff_right (Ne.symm here)]
        rw [List.map_cons, insertByFile, if_neg here,
          ih distinct fun none => fresh (mt elsewhere.mp none)]
        simp only [elsewhere]
        split
        · rw [List.map_cons, stays (Ne.symm here), List.append_nil]
        · rw [List.cons_append, List.map_cons, stays (Ne.symm here), List.append_nil]

theorem byFile_eq_groups (edits : List Edit) : byFile edits = groups edits := by
  induction edits using List.reverseRecOn with
  | nil => rfl
  | append_singleton edits edit ih =>
      have named : (if edit.span.path ∈ files edits then files edits
          else files edits ++ [edit.span.path]) = files (edits ++ [edit]) := by
        rw [files, files, List.map_append, List.eraseDups_append, List.map_singleton,
          List.removeAll]
        by_cases found : edit.span.path ∈ edits.map (·.span.path)
        · rw [if_pos (List.mem_eraseDups.mpr found), List.filter_cons_of_neg (by simpa using found)]
          exact (List.append_nil _).symm
        · rw [if_neg (mt List.mem_eraseDups.mp found),
            List.filter_cons_of_pos (by simpa using found)]
          rfl
      have fresh : edit.span.path ∉ files edits → ofFile edit.span.path edits = [] := by
        intro none
        rw [ofFile, List.filter_eq_nil_iff]
        intro other found same
        exact none (List.mem_eraseDups.mpr (List.mem_map.mpr ⟨other, found, by simpa using same⟩))
      have joined := @insertByFile_map edit (ofFile · edits) (files edits) (nodup_eraseDups _) fresh
      rw [byFile, List.foldl_append, List.foldl_cons, List.foldl_nil, ← byFile, ih, groups, joined,
        named]
      simp only [groups, ofFile, List.filter_append]

theorem sum_length_groups (edits : List Edit) :
    ((groups edits).map (·.2.length)).sum = edits.length := by
  have counted (path : String) :
      (ofFile path edits).length = (edits.map (·.span.path)).count path := by
    rw [ofFile, ← List.countP_eq_length_filter, List.count_eq_countP, List.countP_map]
    rfl
  have same : (files edits).Perm (edits.map (·.span.path)).dedup :=
    (List.perm_ext_iff_of_nodup (nodup_eraseDups _) (List.nodup_dedup _)).mpr fun path =>
      List.mem_eraseDups.trans List.mem_dedup.symm
  have total := (same.map (edits.map (·.span.path)).count).sum_eq
  rw [List.sum_map_count_dedup_eq_length, List.length_map] at total
  rw [groups, List.map_map, ← total]
  exact congrArg List.sum (List.map_congr_left fun path _ => counted path)

/-! ## One file -/

end Edit

/-- The mark in front of some octets, if there is one, and the octets behind it. -/
inductive Utf8.Marked : List UInt8 → List UInt8 → List UInt8 → Prop
  | mark (rest : List UInt8) : Marked (byteOrderMark ++ rest) byteOrderMark rest
  | bare {octets : List UInt8} (none : ¬byteOrderMark <+: octets) : Marked octets [] octets

theorem Utf8.marked_iff {octets mark rest : List UInt8} :
    Utf8.Marked octets mark rest ↔ Utf8.splitMark octets = (mark, rest) := by
  constructor
  · intro marked
    cases marked with
    | mark => exact splitMark_append rest
    | bare none => rw [splitMark, if_neg (mt List.isPrefixOf_iff_prefix.mp none)]
  · intro parted
    by_cases marked : byteOrderMark <+: octets
    · obtain ⟨behind, rfl⟩ := marked
      rw [splitMark_append] at parted
      cases parted
      exact .mark _
    · rw [splitMark, if_neg (mt List.isPrefixOf_iff_prefix.mp marked)] at parted
      cases parted
      exact .bare marked

namespace Edit

variable {edits : List Edit} {octets octets' mark rest : List UInt8} {text : List Char}

/-- What edits leave of the octets of a file: the mark stays, and they apply to the text behind. -/
inductive Rewrites (edits : List Edit) : List UInt8 → List UInt8 → Prop
  | intro {octets mark rest : List UInt8} {text : List Char} {edited : String}
      (parted : Utf8.Marked octets mark rest) (decoded : Utf8.decode rest = .ok text)
      (applied : applyAll (String.ofList text) edits = .ok edited) :
      Rewrites edits octets (mark ++ Utf8.encode edited.toList)

/-- Why edits do not apply to the octets of a file. -/
inductive Refuses (edits : List Edit) : List UInt8 → FixError → Prop
  | encoding {octets mark rest : List UInt8} {error : Utf8.DecodeError}
      (parted : Utf8.Marked octets mark rest) (fails : Utf8.decode rest = .error error) :
      Refuses edits octets (.encoding error)
  | edit {octets mark rest : List UInt8} {text : List Char} {error : EditError}
      (parted : Utf8.Marked octets mark rest) (decoded : Utf8.decode rest = .ok text)
      (fails : applyAll (String.ofList text) edits = .error error) :
      Refuses edits octets (.edit error)

theorem applyToFile_cases (octets : List UInt8) (edits : List Edit) :
    (∃ octets', applyToFile octets edits = .ok octets' ∧ Rewrites edits octets octets') ∨
      ∃ error, applyToFile octets edits = .error error ∧ Refuses edits octets error := by
  obtain ⟨⟨mark, rest⟩, parts⟩ : ∃ parts, Utf8.splitMark octets = parts := ⟨_, rfl⟩
  have parted := Utf8.marked_iff.mpr parts
  rw [applyToFile, parts]
  dsimp only
  cases decoded : Utf8.decode rest with
  | error error => exact .inr ⟨_, rfl, .encoding parted decoded⟩
  | ok text =>
      dsimp only [Except.mapError, bind, Except.bind]
      cases applied : applyAll (String.ofList text) edits with
      | error error => exact .inr ⟨_, rfl, .edit parted decoded applied⟩
      | ok edited => exact .inl ⟨_, rfl, .intro parted decoded applied⟩

end Edit

/-! ## Files one after the other -/

namespace FileTree

variable {tree tree' : FileTree}

/-- No two of some names lead to the same place. -/
def NamesApart (tree : FileTree) (names : List String) : Prop :=
  ∀ first ∈ names, ∀ second ∈ names, ∀ place,
    tree.locate true (Pathname.ofString first) = .ok place →
      tree.locate true (Pathname.ofString second) = .ok place → first = second

/-- Why a file is not mended: it cannot be read, or the edits do not apply to what is read. -/
inductive Refuses (tree : FileTree) (path : String) (edits : List Edit) : FixError → Prop
  | unreadable {error : IoError} (fails : tree.read (Pathname.ofString path) = .error error) :
      Refuses tree path edits (.io error)
  | unfit {octets : List UInt8} {error : FixError}
      (here : tree.read (Pathname.ofString path) = .ok octets)
      (refuses : Edit.Refuses edits octets error) : Refuses tree path edits error

theorem fixFile_cases (tree : FileTree) (path : String) (edits : List Edit) :
    (∃ place octets octets', tree.locate true (Pathname.ofString path) = .ok place ∧
        tree.node? place = some (.file octets) ∧ Edit.Rewrites edits octets octets' ∧
        tree.fixFile path edits = .ok (tree.set place (.file octets'))) ∨
      ∃ error, tree.fixFile path edits = .error error ∧ tree.Refuses path edits error := by
  rw [fixFile]
  cases here : tree.read (Pathname.ofString path) with
  | error error => exact .inr ⟨_, rfl, .unreadable here⟩
  | ok octets =>
      dsimp only [Except.mapError, bind, Except.bind]
      rcases Edit.applyToFile_cases octets edits with
        ⟨octets', applied, rewrites⟩ | ⟨error, fails, refuses⟩
      · obtain ⟨place, found, node⟩ := read_eq_ok_iff.mp here
        have written : tree.write (Pathname.ofString path) octets' =
            .ok (tree.set place (.file octets')) :=
          write_eq_ok_iff.mpr ⟨place, found, by rw [node]; exact nofun, rfl⟩
        rw [applied]
        dsimp only
        rw [written]
        exact .inl ⟨place, octets, octets', found, node, rewrites, rfl⟩
      · rw [fails]
        exact .inr ⟨error, rfl, .unfit here refuses⟩

theorem Refuses.congr {path : String} {edits : List Edit} {error : FixError}
    (refuses : tree.Refuses path edits error)
    (same : tree'.read (Pathname.ofString path) = tree.read (Pathname.ofString path)) :
    tree'.Refuses path edits error := by
  cases refuses with
  | unreadable fails => exact .unreadable (same.trans fails)
  | unfit here refuses => exact .unfit (same.trans here) refuses

/-- The first of some files have been rewritten, and everything else is as before. -/
structure MendsFirst (tree final : FileTree) (groups : List (String × List Edit)) (count : Nat) :
    Prop where
  rewritten : ∀ group ∈ groups.take count, ∃ octets octets',
    tree.read (Pathname.ofString group.1) = .ok octets ∧
      Edit.Rewrites group.2 octets octets' ∧
      final.read (Pathname.ofString group.1) = .ok octets'
  untouched : ∀ place,
    (∀ group ∈ groups.take count, tree.locate true (Pathname.ofString group.1) ≠ .ok place) →
      final.node? place = tree.node? place
  located : ∀ path, final.locate true path = tree.locate true path

theorem not_mem_take_of_getElem? {groups : List (String × List Edit)} {count : Nat}
    {group next : String × List Edit} (distinct : (groups.map (·.1)).Nodup)
    (here : groups[count]? = some next) (same : group.1 = next.1) :
    group ∉ groups.take count := by
  intro among
  obtain ⟨index, found⟩ := List.getElem?_of_mem among
  rw [List.getElem?_take] at found
  split at found
  · rename_i before
    have names : (groups.map (·.1))[index]? = (groups.map (·.1))[count]? := by
      rw [List.getElem?_map, List.getElem?_map, found, here, Option.map_some, Option.map_some, same]
    have inside := (List.getElem?_eq_some_iff.mp found).1
    have twice := (List.getElem?_inj (by rwa [List.length_map]) distinct).mp names
    omega
  · cases found

/-! What the rewriting of one file at its place leaves as it was. -/

section Rewritten

variable {place : List String} {octets : List UInt8}

theorem locate_set_file (here : tree.node? place = some (.file octets)) (octets' : List UInt8)
    (path : Pathname) :
    (tree.set place (.file octets')).locate true path = tree.locate true path :=
  (alike_set here octets').locate_eq rfl true path

theorem read_set_file (here : tree.node? place = some (.file octets)) (octets' : List UInt8)
    {path : Pathname} (elsewhere : tree.locate true path ≠ .ok place) :
    (tree.set place (.file octets')).read path = tree.read path := by
  refine read_congr (locate_set_file here octets' _) fun other there => ?_
  rw [node?_set (ne_nil_of_node?_file here), if_neg]
  rintro rfl
  exact elsewhere there

theorem NamesApart.set_file {names : List String} (apart : tree.NamesApart names)
    (here : tree.node? place = some (.file octets)) (octets' : List UInt8) :
    (tree.set place (.file octets')).NamesApart names := by
  intro first found second found' other
  rw [locate_set_file here, locate_set_file here]
  exact apart first found second found' other

/-- The first file is rewritten, and then the first of the other ones. -/
theorem MendsFirst.cons {final : FileTree} {path : String} {edits : List Edit}
    {rest : List (String × List Edit)} {count : Nat} {octets' : List UInt8}
    (found : tree.locate true (Pathname.ofString path) = .ok place)
    (here : tree.node? place = some (.file octets)) (rewrites : Edit.Rewrites edits octets octets')
    (elsewhere : ∀ group ∈ rest, tree.locate true (Pathname.ofString group.1) ≠ .ok place)
    (mends : (tree.set place (.file octets')).MendsFirst final rest count) :
    tree.MendsFirst final ((path, edits) :: rest) (count + 1) where
  rewritten := by
    rw [List.take_succ_cons, List.forall_mem_cons]
    constructor
    · refine ⟨octets, octets', read_eq_ok_iff.mpr ⟨place, found, here⟩, rewrites,
        read_eq_ok_iff.mpr ⟨place, ?_, ?_⟩⟩
      · exact ((mends.located _).trans (locate_set_file here octets' _)).trans found
      · -- none of the later files is this one, so it stays as it was written
        rw [mends.untouched, node?_set (ne_nil_of_node?_file here), if_pos rfl]
        intro group among
        rw [locate_set_file here]
        exact elsewhere group (List.mem_of_mem_take among)
    · intro group among
      obtain ⟨before, after, read, rewrites, read'⟩ := mends.rewritten group among
      rw [read_set_file here octets' (elsewhere group (List.mem_of_mem_take among))] at read
      exact ⟨before, after, read, rewrites, read'⟩
  untouched := by
    intro other outside
    rw [List.take_succ_cons, List.forall_mem_cons] at outside
    rw [mends.untouched, node?_set (ne_nil_of_node?_file here), if_neg]
    · rintro rfl
      exact outside.1 found
    · intro group among
      rw [locate_set_file here]
      exact outside.2 group among
  located path := (mends.located path).trans (locate_set_file here octets' path)

end Rewritten

theorem MendsFirst.refl (tree : FileTree) (groups : List (String × List Edit)) :
    tree.MendsFirst tree groups 0 where
  rewritten := nofun
  untouched _ _ := rfl
  located _ := rfl

/-- Mending files one after the other comes to its end, or stops at a file that is not mended. -/
theorem exists_fixFiles {groups : List (String × List Edit)}
    (apart : tree.NamesApart (groups.map (·.1))) (distinct : (groups.map (·.1)).Nodup) :
    ∃ count ≤ groups.length, tree.MendsFirst (tree.fixFiles groups).1 groups count ∧
      ((count = groups.length ∧
          (tree.fixFiles groups).2 = .ok (groups.map fun group => (group.1, group.2.length))) ∨
        ∃ group error, groups[count]? = some group ∧ (tree.fixFiles groups).2 = .error error ∧
          tree.Refuses group.1 group.2 error) := by
  induction groups generalizing tree with
  | nil => exact ⟨0, Nat.le_refl _, .refl tree [], .inl ⟨rfl, rfl⟩⟩
  | cons group rest ih =>
      obtain ⟨path, edits⟩ := group
      rw [fixFiles]
      rcases tree.fixFile_cases path edits with
        ⟨place, octets, octets', found, here, rewrites, mended⟩ | ⟨error, fails, refuses⟩
      · obtain ⟨alone, distinct⟩ := List.nodup_cons.mp distinct
        -- No later name leads to the place that has been written.
        have elsewhere : ∀ group ∈ rest,
            tree.locate true (Pathname.ofString group.1) ≠ .ok place := by
          intro group later there
          have named : group.1 ∈ rest.map (·.1) := List.mem_map_of_mem later
          rw [← apart path List.mem_cons_self group.1 (List.mem_cons_of_mem _ named) place found
            there] at named
          exact alone named
        have apart' : tree.NamesApart (rest.map (·.1)) := fun first found second found' =>
          apart first (List.mem_cons_of_mem _ found) second (List.mem_cons_of_mem _ found')
        obtain ⟨count, bounded, mends, outcome⟩ := ih (apart'.set_file here octets') distinct
        rw [mended]
        refine ⟨count + 1, Nat.succ_le_succ bounded, mends.cons found here rewrites elsewhere, ?_⟩
        rcases outcome with ⟨all, applied⟩ | ⟨group, error, next, failed, refuses⟩
        · exact .inl ⟨congrArg Nat.succ all, by dsimp only; rw [applied]; rfl⟩
        · have same := read_set_file here octets' (elsewhere group (List.mem_of_getElem? next))
          exact .inr ⟨group, error, next, by dsimp only; rw [failed]; rfl, refuses.congr same.symm⟩
      · rw [fails]
        exact ⟨0, Nat.zero_le _, .refl tree _, .inr ⟨_, error, rfl, rfl, refuses⟩⟩

/-- Mending is all or nothing for each file.  However it ends, some first ones of the files that
edits are about have been rewritten with all their edits, and nothing else has changed.  These are
all of the files if nothing fails; otherwise the one after them is at fault. -/
theorem fix_atomic {diagnostics : List Diagnostic}
    (apart : tree.NamesApart (Edit.files (Diagnostic.fixableEdits diagnostics))) :
    ∃ count ≤ (Edit.groups (Diagnostic.fixableEdits diagnostics)).length,
      tree.MendsFirst (tree.fix diagnostics).1
        (Edit.groups (Diagnostic.fixableEdits diagnostics)) count ∧
      match (tree.fix diagnostics).2 with
      | .ok applied =>
          count = (Edit.groups (Diagnostic.fixableEdits diagnostics)).length ∧
            applied = (Edit.groups (Diagnostic.fixableEdits diagnostics)).map
              (fun group => (group.1, group.2.length)) ∧
            (applied.map (·.2)).sum = (Diagnostic.fixableEdits diagnostics).length
      | .error error =>
          ∃ path edits,
            (Edit.groups (Diagnostic.fixableEdits diagnostics))[count]? = some (path, edits) ∧
            tree.Refuses path edits error ∧
            ∀ place, tree.locate true (Pathname.ofString path) = .ok place →
              (tree.fix diagnostics).1.node? place = tree.node? place := by
  rw [fix, Edit.byFile_eq_groups]
  generalize Diagnostic.fixableEdits diagnostics = edits at apart ⊢
  have names : (Edit.groups edits).map (·.1) = Edit.files edits := by
    rw [Edit.groups, List.map_map]
    exact List.map_id _
  have distinct : ((Edit.groups edits).map (·.1)).Nodup := by
    rw [names]
    exact Edit.nodup_eraseDups _
  rw [← names] at apart
  obtain ⟨count, bounded, mends, outcome⟩ := exists_fixFiles apart distinct
  refine ⟨count, bounded, mends, ?_⟩
  rcases outcome with ⟨all, applied⟩ | ⟨⟨path, own⟩, error, next, failed, refuses⟩
  · rw [applied]
    refine ⟨all, rfl, ?_⟩
    rw [List.map_map]
    exact Edit.sum_length_groups edits
  · rw [failed]
    refine ⟨path, own, next, refuses, fun place there => mends.untouched place ?_⟩
    intro group among here
    -- two names of one file would be the only way to change the file that is refused
    have same : group.1 = path := apart _ (List.mem_map_of_mem (List.mem_of_mem_take among)) _
      (List.mem_map_of_mem (List.mem_of_getElem? next)) place here there
    exact absurd among (not_mem_take_of_getElem? distinct next same)

/-- Two files, the first one with a mark. -/
def twoFiles : FileTree where
  nodes :=
    [(["a.py"], .file (Utf8.byteOrderMark ++ Utf8.encode "(m, n)\n".toList)),
      (["b.py"], .file (Utf8.encode "(k)\n".toList))]

/-- Two edits of the first file, and between them one of the other file that expects something
else. -/
def mixedFindings : List Diagnostic :=
  [("a.py", 1, 2, "m"), ("b.py", 1, 2, "m"), ("a.py", 4, 5, "n")].map
    fun (path, start, stop, expected) =>
      { issue := .modifierWithoutDefault
        location := ⟨path, 1, start, 1, stop⟩
        message := ""
        fix := some ⟨⟨path, 1, start, 1, stop⟩, expected, expected ++ " = 1", "edit", true⟩ }

/-- The first file is rewritten, and the other one is not. -/
theorem fix_atomic_twoFiles :
    twoFiles.NamesApart (Edit.files (Diagnostic.fixableEdits mixedFindings)) ∧
    twoFiles.MendsFirst (twoFiles.fix mixedFindings).1
      (Edit.groups (Diagnostic.fixableEdits mixedFindings)) 1 ∧
    (twoFiles.fix mixedFindings).2 =
      .error (.edit (.conflict (.unexpected ⟨"b.py", 1, 1, 1, 2⟩ "m" "k"))) ∧
    (twoFiles.fix mixedFindings).1.node? ["b.py"] = twoFiles.node? ["b.py"] := by
  have names : Edit.files (Diagnostic.fixableEdits mixedFindings) = ["a.py", "b.py"] := by decide
  have first : twoFiles.locate true (Pathname.ofString "a.py") = .ok ["a.py"] := by cbv
  have second : twoFiles.locate true (Pathname.ofString "b.py") = .ok ["b.py"] := by cbv
  have apart : twoFiles.NamesApart (Edit.files (Diagnostic.fixableEdits mixedFindings)) := by
    rw [names]
    simp [NamesApart, first, second]
  have failed : (twoFiles.fix mixedFindings).2 =
      .error (.edit (.conflict (.unexpected ⟨"b.py", 1, 1, 1, 2⟩ "m" "k"))) := by
    cbv
  have changed : (twoFiles.fix mixedFindings).1.node? ["a.py"] ≠ twoFiles.node? ["a.py"] := by
    have after : (twoFiles.fix mixedFindings).1.node? ["a.py"] =
        some (.file (Utf8.byteOrderMark ++ Utf8.encode "(m = 1, n = 1)\n".toList)) := by
      cbv
    rw [after]
    decide
  obtain ⟨count, -, mends, outcome⟩ := fix_atomic apart
  rw [failed] at outcome
  obtain ⟨path, edits, next, -, same⟩ := outcome
  have groups : Edit.groups (Diagnostic.fixableEdits mixedFindings) =
      [("a.py", Edit.ofFile "a.py" (Diagnostic.fixableEdits mixedFindings)),
        ("b.py", Edit.ofFile "b.py" (Diagnostic.fixableEdits mixedFindings))] := by
    rw [Edit.groups, names]
    rfl
  -- the first file was changed and there is no third one, which fixes the count
  have several : count ≠ 0 := by
    rintro rfl
    refine changed (mends.untouched _ fun group among => ?_)
    rw [List.take_zero] at among
    cases among
  obtain rfl : count = 1 := by
    have below : count < 2 := by
      rw [groups] at next
      exact (List.getElem?_eq_some_iff.mp next).1
    omega
  rw [groups] at next
  cases next
  exact ⟨apart, mends, failed, same _ second⟩

end FileTree

end SignatureLint
