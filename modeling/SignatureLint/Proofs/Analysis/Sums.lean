import SignatureLint.Proofs.Analysis.Pool
import SignatureLint.Proofs.Analysis.Runs
import SignatureLint.Proofs.Fixing.Styles
import SignatureLint.Proofs.Text.Readings

/-!
# Analyses as sums

An analysis of path names is the sum of what each collected file comes to by itself, in order,
however many workers there are and in whatever order they finish.  If every file holds a text, it is
also what the outlines of the files come to.
-/

namespace SignatureLint

namespace FileTree

variable {tree : FileTree} {config : Config} {path : Pathname} {paths : List Pathname}
  {result : AnalysisResult}

theorem exists_sourceText {octets : List UInt8} {text : List Char}
    (read : tree.read path = .ok octets) (decoded : Utf8.decode octets = .ok text) :
    ∃ text, tree.sourceText path = .ok text := by
  obtain ⟨bare, decoded⟩ := Utf8.exists_decode_withoutMark decoded
  rw [sourceText, read]
  dsimp only [bind, Except.bind, Except.mapError]
  rw [decoded]
  exact ⟨_, rfl⟩

theorem looseSourceText_of_sourceText {text : List Char} (h : tree.sourceText path = .ok text) :
    tree.looseSourceText path = .ok text := by
  obtain ⟨octets, read, h⟩ := Outcome.exists_of_bind_eq_ok h
  obtain ⟨characters, decoded, h⟩ := Outcome.exists_of_bind_eq_ok h
  cases h
  rw [looseSourceText, Outcome.mapError_eq_ok_iff.mp read]
  dsimp only [bind, Except.bind]
  rw [Utf8.decodeLenient_of_decode (Outcome.mapError_eq_ok_iff.mp decoded)]
  rfl

/-! ## One file -/

/-- What one file comes to: one complaint and nothing else, or no complaint and what is found in its
text. -/
inductive IsPart [Wordings] (tree : FileTree) (config : Config) (path : Pathname) :
    AnalysisResult → Prop where
  | complaint (reason : String) :
      IsPart tree config path
        { errors := [path.display ++ ": " ++ reason], filesScanned := 1 }
  | found {text : List Char} {diagnostics : List Diagnostic}
      (source : tree.sourceText path = .ok text)
      (examined : Analyzer.examineSource config path.display text = .ok diagnostics) :
      IsPart tree config path { diagnostics, filesScanned := 1 }

theorem examineSource_of_outline [Wordings] {text : List Char} {outline : FileOutline}
    (declared : FileOutline.ofSource path.display text config = .ok outline) :
    Analyzer.examineSource config path.display text = .ok (outline.violations config) := by
  rw [Analyzer.examineSource, declared, ← Analyzer.after_empty]
  dsimp only [bind, Except.bind]
  rw [Analyzer.examine_after]
  rfl

theorem Adds.isPart [Wordings] (adds : tree.Adds config path result) :
    tree.IsPart config path result := by
  cases adds with
  | unreadable fails => exact .complaint _
  | noProgram source fails => exact .complaint _
  | program source read declared => exact .found source (examineSource_of_outline declared)

/-- What a file that holds a text adds is what its outline comes to. -/
theorem Adds.exists_scan [Wordings] (adds : tree.Adds config path result) {text : List Char}
    (readable : tree.sourceText path = .ok text) (rest : List FileOutline) :
    ∃ outline, tree.scan config path = .ok outline ∧
      FileOutline.verdict config (outline :: rest) =
        result ++ FileOutline.verdict config rest := by
  have loose := looseSourceText_of_sourceText readable
  have scanned {outline : FileOutline}
      (declared : FileOutline.ofSource path.display text config = .ok outline) :
      tree.scan config path = .ok outline := by
    rw [scan, loose]
    dsimp only [bind, Except.bind, Except.mapError]
    rw [declared]
  cases adds with
  | unreadable fails =>
      rw [readable] at fails
      cases fails
  | noProgram source fails =>
      rw [readable] at source
      cases source
      refine ⟨_, scanned (FileOutline.ofSource_of_error fails), ?_⟩
      rw [FileOutline.verdict_cons, Option.getD_some, if_neg (Wordings.program_ne_empty _ _)]
  | program source read declared =>
      rw [readable] at source
      cases source
      refine ⟨_, scanned declared, ?_⟩
      rw [FileOutline.verdict_cons, FileOutline.error_of_read read declared]
      rfl

/-! ## Several files -/

/-- What is put together from the results for several files, unless one of them is an error. -/
def merge (results : List (Except AnnotationError AnalysisResult)) :
    Except AnnotationError AnalysisResult :=
  results.foldlM (fun total next => next.map (total ++ ·)) {}

theorem merge_map_analyzeFile [Wordings] (files : List Pathname) :
    merge (files.map (tree.analyzeFile config)) = tree.analyzeFiles config files := by
  have from_ (total : AnalysisResult) :
      (files.map (tree.analyzeFile config)).foldlM (fun total next => next.map (total ++ ·)) total =
        (tree.analyzeFiles config files).map (total ++ ·) := by
    induction files generalizing total with
    | nil => exact congrArg Except.ok total.append_empty.symm
    | cons path rest ih =>
        rw [List.map_cons, List.foldlM_cons, analyzeFiles]
        cases tree.analyzeFile config path with
        | error error => rfl
        | ok first =>
            change List.foldlM _ (total ++ first) _ = _
            rw [ih]
            cases tree.analyzeFiles config rest with
            | error error => rfl
            | ok others => exact congrArg Except.ok (total.append_assoc first others)
  refine (from_ {}).trans ?_
  cases tree.analyzeFiles config files with
  | error error => rfl
  | ok found => exact congrArg Except.ok found.empty_append

/-- What an analysis comes to with a number of workers, if they finish in some order. -/
def AnalyzesWith [Wordings] (tree : FileTree) (config : Config) (workers : Nat)
    (paths : List Pathname) (result : AnalysisResult) : Prop :=
  ∃ files, tree.collectChecked paths = .ok files ∧
    ∃ pool results, Pool.Reaches (tree.analyzeFile config) workers (.start files) pool ∧
      pool.Delivers results ∧ merge results = .ok result

theorem analyzesWith_iff [Wordings] {workers : Nat} (working : 0 < workers) :
    tree.AnalyzesWith config workers paths result ↔ tree.analyze config paths = .ok result := by
  rw [analyze_eq_ok_iff]
  constructor
  · rintro ⟨files, collected, pool, results, reaches, delivers, merged⟩
    obtain ⟨told, rfl⟩ := collectChecked_eq_ok_iff.mp collected
    obtain ⟨-, rfl⟩ := (Pool.delivers_iff reaches).mp delivers
    exact ⟨told, (merge_map_analyzeFile _).symm.trans merged⟩
  · rintro ⟨told, found⟩
    obtain ⟨pool, reaches, done⟩ :=
      Pool.exists_done (tree.analyzeFile config) working (.start (tree.collect paths))
    exact ⟨_, collectChecked_eq_ok_iff.mpr ⟨told, rfl⟩, pool, _, reaches,
      (Pool.delivers_iff reaches).mpr ⟨done, rfl⟩, (merge_map_analyzeFile _).trans found⟩

theorem fields_foldr (parts : List AnalysisResult) :
    parts.foldr (· ++ ·) ({} : AnalysisResult) =
      { diagnostics := parts.flatMap (·.diagnostics), errors := parts.flatMap (·.errors)
        filesScanned := (parts.map (·.filesScanned)).sum } := by
  induction parts with
  | nil => rfl
  | cons first rest ih =>
      rw [List.foldr_cons, ih]
      rfl

theorem sum_filesScanned [Wordings] {files : List Pathname} {parts : List AnalysisResult}
    (each : List.Forall₂ (tree.IsPart config) files parts) :
    (parts.map (·.filesScanned)).sum = files.length := by
  induction each with
  | nil => rfl
  | cons part _ ih =>
      rw [List.map_cons, List.sum_cons, ih, List.length_cons, Nat.add_comm]
      cases part <;> rfl

theorem exists_scans [Wordings] {files : List Pathname} {parts : List AnalysisResult}
    (each : List.Forall₂ (tree.Adds config) files parts)
    (readable : ∀ path ∈ files, ∃ text, tree.sourceText path = .ok text) :
    ∃ scans, List.Forall₂ (fun path outline => tree.scan config path = .ok outline) files scans ∧
      FileOutline.verdict config scans = parts.foldr (· ++ ·) {} := by
  induction each with
  | nil => exact ⟨[], .nil, rfl⟩
  | cons adds _ ih =>
      obtain ⟨⟨text, here⟩, there⟩ := List.forall_mem_cons.mp readable
      obtain ⟨scans, scanned, same⟩ := ih there
      obtain ⟨outline, scan, first⟩ := adds.exists_scan here scans
      exact ⟨outline :: scans, .cons scan scanned, by rw [first, same, List.foldr_cons]⟩

/-- An analysis with any number of workers that finish in any order comes to the sum of what the
collected files come to, in their order.  If each of them can be read and is well formed, this is
what their outlines come to. -/
theorem analyzesWith_sum [Wordings] {workers : Nat} (working : 0 < workers)
    (h : tree.AnalyzesWith config workers paths result) :
    result.filesScanned = (tree.collect paths).length ∧
      (∃ parts, List.Forall₂ (fun path part =>
          tree.analyzeFile config path = .ok part ∧ tree.IsPart config path part)
            (tree.collect paths) parts ∧
        result.diagnostics = parts.flatMap (·.diagnostics) ∧
        result.errors = parts.flatMap (·.errors)) ∧
      ((∀ path ∈ tree.collect paths, ∃ octets text,
          tree.read path = .ok octets ∧ Utf8.decode octets = .ok text) →
        ∃ scans, List.Forall₂ (fun path outline => tree.scan config path = .ok outline)
            (tree.collect paths) scans ∧
          result = FileOutline.analyzeAll config scans) := by
  obtain ⟨-, found⟩ := analyze_eq_ok_iff.mp ((analyzesWith_iff working).mp h)
  obtain ⟨parts, analyzed, rfl⟩ := exists_parts_of_analyzeFiles found
  have adds := analyzed.imp fun _ _ here => adds_of_analyzeFile here
  have isPart := adds.imp fun _ _ here => here.isPart
  have both := analyzed.imp fun _ _ here => And.intro here (adds_of_analyzeFile here).isPart
  refine ⟨?_, ⟨parts, both, ?_, ?_⟩, fun readable => ?_⟩
  · rw [fields_foldr]
    exact sum_filesScanned isPart
  · rw [fields_foldr]
  · rw [fields_foldr]
  · have texts : ∀ path ∈ tree.collect paths, ∃ text, tree.sourceText path = .ok text := by
      intro path found
      obtain ⟨octets, text, read, decoded⟩ := readable path found
      exact exists_sourceText read decoded
    obtain ⟨scans, scanned, same⟩ := exists_scans adds texts
    exact ⟨scans, scanned, by rw [FileOutline.analyzeAll_eq_verdict, same]⟩

/-! ## Two small trees -/

/-- A tree with a file of some octets and another one with nothing in it. -/
def besideEmpty (octets : List UInt8) : FileTree where
  nodes := [(["a.py"], .file octets), (["b.py"], .file [])]

theorem collect_besideEmpty (octets : List UInt8) :
    (besideEmpty octets).collect [Pathname.ofString "."] =
      [Pathname.ofString "a.py", Pathname.ofString "b.py"] := by
  cbv

theorem exists_analyze_besideEmpty [Wordings] {octets : List UInt8}
    (describable : (besideEmpty octets).Describable (Pathname.ofString "a.py")) :
    ∃ result, (besideEmpty octets).analyze {} [Pathname.ofString "."] = .ok result := by
  have candidates : [Pathname.ofString "."].flatMap (Collect.candidates (besideEmpty octets)) =
      [Pathname.ofString "a.py", Pathname.ofString "b.py"] := by
    cbv
  have told : ∀ path ∈ [Pathname.ofString "a.py", Pathname.ofString "b.py"],
      (besideEmpty octets).placeError? path = none := by
    simp only [List.forall_mem_cons]
    exact ⟨by cbv, by cbv, List.forall_mem_nil _⟩
  have empty : (besideEmpty octets).sourceText (Pathname.ofString "b.py") = .ok [] := by
    cbv
  have program : Program.read [] = .ok [] := by
    cbv
  rw [exists_analyze_iff, collect_besideEmpty, candidates]
  refine ⟨told, List.forall_mem_cons.mpr ⟨describable, List.forall_mem_singleton.mpr ?_⟩⟩
  intro text statements source read
  rw [empty] at source
  cases source
  rw [program] at read
  cases read
  intro argument found
  exact absurd found List.not_mem_nil

/-- A tree with a file that holds no text. -/
def brokenTree : FileTree := besideEmpty [0xFF]

theorem describable_brokenTree : brokenTree.Describable (Pathname.ofString "a.py") := by
  have broken : brokenTree.sourceText (Pathname.ofString "a.py") =
      .error (.encoding ⟨.invalidStart, 0xFF, 0, 1⟩) := by
    cbv
  intro text statements source
  rw [broken] at source
  cases source

/-- A tree of which all files hold texts. -/
def soundTree : FileTree := besideEmpty (Utf8.encode FileOutline.sampleModifier.toList)

attribute [local instance] Wordings.short

theorem describable_soundTree : soundTree.Describable (Pathname.ofString "a.py") := by
  have sound : soundTree.sourceText (Pathname.ofString "a.py") =
      .ok FileOutline.sampleModifier.toList := by
    cbv
  intro text statements source read
  rw [sound] at source
  cases source
  exact (FileOutline.exists_ofSource_iff read).mp ⟨_, ofSource_sampleModifier⟩

theorem read_soundTree : ∀ path ∈ soundTree.collect [Pathname.ofString "."], ∃ octets text,
    soundTree.read path = .ok octets ∧ Utf8.decode octets = .ok text := by
  rw [soundTree, collect_besideEmpty]
  simp only [List.forall_mem_cons]
  exact ⟨⟨_, _, by cbv, by cbv⟩, ⟨[], [], by cbv, by cbv⟩, List.forall_mem_nil _⟩

/-- Three workers come to the sum of both files, and to what the outlines of both come to if they
hold texts. -/
theorem analyzesWith_sum_brokenTree :
    0 < 3 ∧
    (∃ result, brokenTree.AnalyzesWith {} 3 [Pathname.ofString "."] result ∧
      result.filesScanned = (brokenTree.collect [Pathname.ofString "."]).length ∧
      ∃ parts, List.Forall₂ (fun path part =>
          brokenTree.analyzeFile {} path = .ok part ∧ brokenTree.IsPart {} path part)
            (brokenTree.collect [Pathname.ofString "."]) parts ∧
        result.diagnostics = parts.flatMap (·.diagnostics) ∧
        result.errors = parts.flatMap (·.errors)) ∧
    ∃ result, soundTree.AnalyzesWith {} 3 [Pathname.ofString "."] result ∧
      ∃ scans, List.Forall₂ (fun path outline => soundTree.scan {} path = .ok outline)
          (soundTree.collect [Pathname.ofString "."]) scans ∧
        result = FileOutline.analyzeAll {} scans := by
  have working : 0 < 3 := by decide
  obtain ⟨result, found⟩ := exists_analyze_besideEmpty describable_brokenTree
  have analyzes := (analyzesWith_iff working).mpr found
  obtain ⟨count, parts, -⟩ := analyzesWith_sum working analyzes
  obtain ⟨sound, found'⟩ := exists_analyze_besideEmpty describable_soundTree
  have analyzes' := (analyzesWith_iff working).mpr found'
  obtain ⟨-, -, scans⟩ := analyzesWith_sum working analyzes'
  exact ⟨working, ⟨result, analyzes, count, parts⟩, sound, analyzes', scans read_soundTree⟩

end FileTree

end SignatureLint
