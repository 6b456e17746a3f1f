import SignatureLint.Proofs.Fixing.Styles
import SignatureLint.Report.Files

/-!
# Reporting files in any style

The same text can stand in a file with different line ends, with a mark in front or without one.
Nothing that is reported depends on that: not what is found, not where it is, and not what keeps an
analysis from coming to a result.
-/

namespace SignatureLint

/-! ## Lines of octets -/

namespace Text

variable {b : UInt8} {rest : List UInt8}

theorem octetLines_feed (rest : List UInt8) : octetLines (10 :: rest) = [] :: octetLines rest := by
  rw [octetLines]

theorem octetLines_returnFeed (rest : List UInt8) :
    octetLines (13 :: 10 :: rest) = [] :: octetLines rest := by
  rw [octetLines]

theorem octetLines_return (lone : rest.head? ≠ some 10) :
    octetLines (13 :: rest) = [] :: octetLines rest := by
  rw [octetLines]
  rintro after rfl
  exact lone rfl

theorem octetLines_plain (notFeed : b ≠ 10) (notReturn : b ≠ 13) :
    octetLines (b :: rest) = consLine b (octetLines rest) := by
  rw [octetLines]
  · rintro after rfl
    exact absurd rfl notReturn
  · rintro rfl
    exact notReturn rfl
  · rintro rfl
    exact notFeed rfl

theorem octetLines_append {front : List UInt8} (notFeed : (10 : UInt8) ∉ front)
    (notReturn : (13 : UInt8) ∉ front) (rest : List UInt8) :
    octetLines (front ++ rest) = front.foldr consLine (octetLines rest) := by
  induction front with
  | nil => rfl
  | cons b front ih =>
      obtain ⟨notFeed, notFeed'⟩ := List.ne_and_not_mem_of_not_mem_cons notFeed
      obtain ⟨notReturn, notReturn'⟩ := List.ne_and_not_mem_of_not_mem_cons notReturn
      rw [List.cons_append, octetLines_plain (Ne.symm notFeed) (Ne.symm notReturn),
        ih notFeed' notReturn', List.foldr_cons]

end Text

/-- A text has the same lines in whatever way they end. -/
theorem octetLines_encode_turn {text : List Char} (feeds : '\r' ∉ text) (newline : Newline) :
    Text.octetLines (Utf8.encode (newline.turn text)) = Text.octetLines (Utf8.encode text) := by
  induction text with
  | nil => rfl
  | cons c rest ih =>
      obtain ⟨other, feeds⟩ := List.ne_and_not_mem_of_not_mem_cons feeds
      by_cases feed : c = '\n'
      · rw [feed, Newline.turn_feed, Utf8.encode_append, Utf8.encode_cons]
        have ends : Utf8.encodeChar '\n' = [10] := by decide
        rw [ends, List.singleton_append, Text.octetLines_feed, ← ih feeds]
        cases newline with
        | lf => exact Text.octetLines_feed _
        | crlf => exact Text.octetLines_returnFeed _
        | cr =>
            have characters : Utf8.encode Newline.cr.characters = [13] := by decide
            rw [characters, List.singleton_append, Text.octetLines_return]
            intro head
            obtain ⟨d, here, octet⟩ := List.mem_flatMap.mp (List.mem_of_mem_head? head)
            exact Utf8.feed_not_mem_encodeChar
              (fun same => Newline.feed_not_mem_turn_cr rest (same ▸ here)) octet
      · rw [Newline.turn_cons feed, Utf8.encode_cons, Utf8.encode_cons,
          Text.octetLines_append (Utf8.feed_not_mem_encodeChar feed)
            (Utf8.return_not_mem_encodeChar (Ne.symm other)),
          Text.octetLines_append (Utf8.feed_not_mem_encodeChar feed)
            (Utf8.return_not_mem_encodeChar (Ne.symm other)), ih feeds]

theorem SourceLines.ofOctets_styled {text : List Char} (feeds : '\r' ∉ text)
    (bare : text.head? ≠ some '\uFEFF') (newline : Newline) (marked : Bool) :
    ofOctets (styled newline marked text) = (Text.octetLines (Utf8.encode text)).toArray := by
  rw [ofOctets, splitMark_styled bare, octetLines_encode_turn feeds]

/-! ## Trees in two styles -/

/-- The same thing in two trees, apart from the style of a file. -/
inductive FileNode.Restyles : FileNode → FileNode → Prop
  | same (node : FileNode) : Restyles node node
  | styled {text : List Char} (feeds : '\r' ∉ text) (bare : text.head? ≠ some '\uFEFF')
      (newline newline' : Newline) (marked marked' : Bool) :
      Restyles (.file (styled newline marked text)) (.file (styled newline' marked' text))

namespace FileTree

/-- Two trees that differ only in the styles of files. -/
structure Restyles (tree tree' : FileTree) : Prop where
  current : tree'.current = tree.current
  nodes : List.Forall₂ (fun entry entry' => entry.1 = entry'.1 ∧ entry.2.Restyles entry'.2)
    tree.nodes tree'.nodes

namespace Restyles

variable {tree tree' : FileTree} (restyles : tree.Restyles tree') {config : Config}

include restyles

/-- At every place there is the same in both trees, or a file with the same text. -/
theorem node?_cases (place : Place) :
    tree'.node? place = tree.node? place ∨
      ∃ text newline newline' marked marked', '\r' ∉ text ∧ text.head? ≠ some '\uFEFF' ∧
        tree.node? place = some (.file (styled newline marked text)) ∧
        tree'.node? place = some (.file (styled newline' marked' text)) := by
  have found {nodes nodes' : List (Place × FileNode)}
      (each : List.Forall₂ (fun entry entry' => entry.1 = entry'.1 ∧ entry.2.Restyles entry'.2)
        nodes nodes') : nodes'.lookup place = nodes.lookup place ∨
      ∃ text newline newline' marked marked', '\r' ∉ text ∧ text.head? ≠ some '\uFEFF' ∧
        nodes.lookup place = some (.file (styled newline marked text)) ∧
        nodes'.lookup place = some (.file (styled newline' marked' text)) := by
    induction each with
    | nil => exact .inl rfl
    | @cons entry entry' rest rest' related _ ih =>
        obtain ⟨here, node⟩ := entry
        obtain ⟨here', node'⟩ := entry'
        obtain ⟨rfl, related⟩ := related
        rw [List.lookup_cons, List.lookup_cons]
        cases place == here with
        | false => exact ih
        | true =>
            cases related with
            | same => exact .inl rfl
            | styled feeds bare newline newline' marked marked' =>
                exact .inr ⟨_, newline, newline', marked, marked', feeds, bare, rfl, rfl⟩
  unfold node?
  split
  · exact .inl rfl
  · exact found restyles.nodes

theorem alike : Alike tree tree' := by
  intro place
  rcases restyles.node?_cases place with same | ⟨_, _, _, _, _, -, -, here, here'⟩
  · exact .inl same
  · exact .inr ⟨_, _, here, here'⟩

theorem locate_eq (followLast : Bool) (path : Pathname) :
    tree'.locate followLast path = tree.locate followLast path :=
  restyles.alike.locate_eq restyles.current followLast path

theorem below_eq (place : Place) : tree'.below place = tree.below place := by
  have names : tree'.nodes.map (·.1) = tree.nodes.map (·.1) := by
    rw [← List.forall₂_eq_eq_eq, List.forall₂_map_left_iff, List.forall₂_map_right_iff]
    exact restyles.nodes.flip.imp fun _ _ related => related.1.symm
  have cut (tree : FileTree) :
      tree.below place = (tree.nodes.map (·.1)).filterMap (placeBelow? place) :=
    List.filterMap_map.symm
  rw [cut, cut, names]

theorem directory?_eq (path : Pathname) : tree'.directory? path = tree.directory? path := by
  rw [directory?, directory?, restyles.locate_eq]
  cases tree.locate true path with
  | error error => rfl
  | ok place =>
      dsimp only
      rcases restyles.alike place with same | ⟨octets, octets', here, there⟩
      · rw [same]
      · rw [here, there]

theorem contains_eq (path : Pathname) : tree'.contains path = tree.contains path := by
  rw [contains, contains, find?, find?, restyles.locate_eq]
  cases tree.locate true path with
  | error error => rfl
  | ok place =>
      dsimp only
      rcases restyles.alike place with same | ⟨octets, octets', here, there⟩
      · rw [same]
      · rw [here, there]
        rfl

theorem resolve_eq (path : Pathname) : tree'.resolve path = tree.resolve path := by
  rw [resolve, resolve, restyles.alike.resolveFrom_eq, origin, origin, restyles.current]

theorem placeError?_eq (path : Pathname) : tree'.placeError? path = tree.placeError? path := by
  rw [placeError?, placeError?, restyles.contains_eq, restyles.resolve_eq]
  dsimp only
  rw [restyles.alike.walk_eq]

theorem collectChecked_eq (paths : List Pathname) :
    tree'.collectChecked paths = tree.collectChecked paths := by
  have candidates : Collect.candidates tree' = Collect.candidates tree := by
    funext path
    rw [Collect.candidates, Collect.candidates, restyles.directory?_eq]
    cases tree.directory? path with
    | none => rfl
    | some directory =>
        dsimp only
        rw [restyles.below_eq]
  have unseen (seen : List Place) (paths : List Pathname) :
      Collect.unseen tree' seen paths = Collect.unseen tree seen paths := by
    induction paths generalizing seen with
    | nil => rfl
    | cons path rest ih => rw [Collect.unseen, Collect.unseen, restyles.resolve_eq, ih, ih]
  rw [collectChecked, collectChecked, collect, collect, candidates, unseen,
    funext restyles.placeError?_eq]

theorem read_cases (path : Pathname) :
    tree'.read path = tree.read path ∨
      ∃ text newline newline' marked marked', '\r' ∉ text ∧ text.head? ≠ some '\uFEFF' ∧
        tree.read path = .ok (styled newline marked text) ∧
        tree'.read path = .ok (styled newline' marked' text) := by
  have located := restyles.locate_eq true path
  cases found : tree.locate true path with
  | error error =>
      exact .inl (read_congr located fun place here => by rw [found] at here; cases here)
  | ok place =>
      rcases restyles.node?_cases place with
        same | ⟨text, newline, newline', marked, marked', feeds, bare, here, here'⟩
      · refine .inl (read_congr located fun place' there => ?_)
        rw [found] at there
        cases there
        exact same
      · exact .inr ⟨text, newline, newline', marked, marked', feeds, bare,
          read_eq_ok_iff.mpr ⟨place, found, here⟩,
          read_eq_ok_iff.mpr ⟨place, located.trans found, here'⟩⟩

theorem sourceText_eq (path : Pathname) : tree'.sourceText path = tree.sourceText path := by
  rcases restyles.read_cases path with
    same | ⟨text, newline, newline', marked, marked', feeds, bare, here, here'⟩
  · rw [sourceText, sourceText, same]
  · rw [sourceText_of_styled here feeds bare, sourceText_of_styled here' feeds bare]

theorem analyze_eq [Wordings] (config : Config) (paths : List Pathname) :
    tree'.analyze config paths = tree.analyze config paths := by
  have files (paths : List Pathname) :
      tree'.analyzeFiles config paths = tree.analyzeFiles config paths := by
    induction paths with
    | nil => rfl
    | cons path rest ih =>
        rw [analyzeFiles, analyzeFiles, analyzeFile, analyzeFile, restyles.sourceText_eq, ih]
  rw [analyze, analyze, restyles.collectChecked_eq, funext files]

theorem sourceLines_eq (diagnostics : List Diagnostic) :
    tree'.sourceLines diagnostics = tree.sourceLines diagnostics := by
  have lines (path : String) : tree'.lines? path = tree.lines? path := by
    rw [lines?, lines?, find?, find?, restyles.locate_eq]
    cases tree.locate true (Pathname.ofString path) with
    | error error => rfl
    | ok place =>
        dsimp only
        rcases restyles.node?_cases place with
          same | ⟨text, newline, newline', marked, marked', feeds, bare, here, here'⟩
        · rw [same]
        · rw [here, here']
          dsimp only
          rw [SourceLines.ofOctets_styled feeds bare, SourceLines.ofOctets_styled feeds bare]
  rw [sourceLines, sourceLines, funext lines]

end Restyles

theorem restyles_of_write {tree tree' tree'' : FileTree} {path : Pathname} {text : List Char}
    {newline newline' : Newline} {marked marked' : Bool} (feeds : '\r' ∉ text)
    (bare : text.head? ≠ some '\uFEFF')
    (written : tree.write path (styled newline marked text) = .ok tree')
    (written' : tree.write path (styled newline' marked' text) = .ok tree'') :
    tree'.Restyles tree'' := by
  obtain ⟨place, found, -, rfl⟩ := write_eq_ok_iff.mp written
  obtain ⟨place', found', -, rfl⟩ := write_eq_ok_iff.mp written'
  rw [found] at found'
  cases found'
  refine ⟨rfl, .cons ⟨rfl, .styled feeds bare newline newline' marked marked'⟩ ?_⟩
  exact List.forall₂_same.mpr fun entry _ => ⟨rfl, .same entry.2⟩

/-- The style in which a text is written at a path name has no influence on what is analysed and
reported: an analysis of any path names comes to the same result or stops for the same reason, and
the report of a result is the same, with the columns that it takes from the files. -/
theorem report_of_styled [Wordings] {tree tree' tree'' : FileTree} {path : Pathname}
    {text : List Char} {newline newline' : Newline} {marked marked' : Bool} (feeds : '\r' ∉ text)
    (bare : text.head? ≠ some '\uFEFF')
    (written : tree.write path (styled newline marked text) = .ok tree')
    (written' : tree.write path (styled newline' marked' text) = .ok tree'') (config : Config)
    (paths : List Pathname) :
    tree'.analyze config paths = tree''.analyze config paths ∧
      ∀ result, tree'.analyze config paths = .ok result →
        Report.build config (tree'.sourceLines result.diagnostics) result =
          Report.build config (tree''.sourceLines result.diagnostics) result := by
  have restyles := restyles_of_write feeds bare written written'
  refine ⟨(restyles.analyze_eq config paths).symm, fun result _ => ?_⟩
  rw [restyles.sourceLines_eq]

open FileOutline (sampleModifier)

theorem write_sampleModifier (newline : Newline) (marked : Bool) :
    ({} : FileTree).write (Pathname.ofString "a.py") (styled newline marked sampleModifier.toList) =
      .ok (styledTree newline marked) := by
  have found : ({} : FileTree).locate true (Pathname.ofString "a.py") = .ok ["a.py"] := by cbv
  exact write_eq_ok_iff.mpr ⟨["a.py"], found, by decide, rfl⟩

attribute [local instance] Wordings.short

/-- The same is found and reported in a file with a mark, whose lines end in two characters, and in
one whose lines end in carriage returns. -/
theorem report_of_styled_sampleModifier :
    '\r' ∉ sampleModifier.toList ∧ sampleModifier.toList.head? ≠ some '\uFEFF' ∧
    ({} : FileTree).write (Pathname.ofString "a.py") (styled .crlf true sampleModifier.toList) =
      .ok (styledTree .crlf true) ∧
    ({} : FileTree).write (Pathname.ofString "a.py") (styled .cr false sampleModifier.toList) =
      .ok (styledTree .cr false) ∧
    ∃ result,
      (styledTree .crlf true).analyze {} [Pathname.ofString "a.py"] = .ok result ∧
      (styledTree .cr false).analyze {} [Pathname.ofString "a.py"] = .ok result ∧
      Report.build {} ((styledTree .crlf true).sourceLines result.diagnostics) result =
        Report.build {} ((styledTree .cr false).sourceLines result.diagnostics) result := by
  have feeds : '\r' ∉ sampleModifier.toList := by decide
  have bare : sampleModifier.toList.head? ≠ some '\uFEFF' := by decide
  have written := write_sampleModifier .crlf true
  have written' := write_sampleModifier .cr false
  have analyzed := analyze_of_sourceText (read_styledTree .crlf true)
    (sourceText_of_styled (read_styledTree .crlf true) feeds bare) ofSource_sampleModifier rfl
  obtain ⟨same, reports⟩ :=
    report_of_styled feeds bare written written' {} [Pathname.ofString "a.py"]
  exact ⟨feeds, bare, written, written', _, analyzed, same.symm.trans analyzed,
    reports _ analyzed⟩

end FileTree

end SignatureLint
