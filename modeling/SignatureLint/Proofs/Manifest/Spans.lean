import SignatureLint.Proofs.Lexeme.Place
import SignatureLint.Proofs.Manifest.RoundTrip
import SignatureLint.Proofs.TypeRef.RoundTrip

/-!
# The spans of a manifest

The numbers of a span in a manifest are checked one by one.  So lines count from one and columns
from zero, but a span may end before it begins.  The last word of a parameter is given the octets
before the end of the parameter that its text takes, whether the span has room for them or not;
where it has none, the word begins before its parameter does, or before its line.
-/

namespace SignatureLint

/-- A span of a type, or of a type among its arguments. -/
inductive TypeRef.HasSpan : TypeRef → Span → Prop
  | own {type : TypeRef} {span : Span} (given : type.span = some span) : HasSpan type span
  | argument {type argument : TypeRef} {span : Span} (member : argument ∈ type.arguments)
      (inside : HasSpan argument span) : HasSpan type span

namespace TypeRef

theorem not_hasSpan_of_parse {type : TypeRef} {span : Span} (spanned : type.HasSpan span)
    {written : List Char} : parse written ≠ some type := by
  induction spanned generalizing written with
  | own given =>
      intro h
      rw [(of_parse h).1] at given
      cases given
  | argument member inside ih =>
      intro h
      obtain ⟨part, read⟩ := (of_parse h).2 _ member
      exact ih read

theorem hasSpan_of_ofText? {text : String} {place : Option Span} {type : TypeRef}
    (h : ofText? text place = some type) {span : Span} (spanned : type.HasSpan span) :
    place = some span := by
  obtain ⟨bare, read, rfl⟩ := Option.map_eq_some_iff.mp h
  cases spanned with
  | own given => exact given
  | argument member inside =>
      obtain ⟨part, read'⟩ := (of_parse read).2 _ member
      exact absurd read' (not_hasSpan_of_parse inside)

end TypeRef

/-- A span that an outline was given: of a declaration, of a parameter, or of a type. -/
inductive FileOutline.Gives (outline : FileOutline) : Span → Prop
  | declaration {declaration : Declaration} (declared : declaration ∈ outline.declarations) :
      Gives outline declaration.span
  | parameter {declaration : Declaration} (declared : declaration ∈ outline.declarations)
      {parameter : DeclaredParameter} (listed : parameter ∈ declaration.parameters) :
      Gives outline parameter.span
  | type {declaration : Declaration} (declared : declaration ∈ outline.declarations)
      {parameter : DeclaredParameter} (listed : parameter ∈ declaration.parameters)
      {type : TypeRef} (typed : parameter.type = some type) {span : Span}
      (spanned : type.HasSpan span) : Gives outline span

namespace DeclaredParameter

/-- A parameter of which the last word is in order: its span is, and lies within the parameter. -/
structure WordInOrder (parameter : DeclaredParameter) : Prop where
  counted : parameter.lastLexeme.span.Counted
  forward : parameter.lastLexeme.span.Forward
  within : parameter.lastLexeme.span.Within parameter.span

/-- A parameter whose span has room for its last word on its last line. -/
def HasRoom (parameter : DeclaredParameter) : Prop :=
  (if parameter.span.startLine = parameter.span.endLine then parameter.span.startColumn else 0) +
    (Utf8.encode parameter.lastLexeme.text.toList).length ≤ parameter.span.endColumn

instance (parameter : DeclaredParameter) : Decidable parameter.HasRoom :=
  inferInstanceAs (Decidable (_ ≤ parameter.span.endColumn))

/-- The last word is in order if there is room for it. -/
theorem wordInOrder_iff {parameter : DeclaredParameter} (counted : parameter.span.Counted)
    (forward : parameter.span.Forward)
    (ends : parameter.lastLexeme.EndsAt parameter.span) :
    parameter.WordInOrder ↔ parameter.HasRoom := by
  obtain ⟨path, startLine, endLine, endColumn, width⟩ := ends
  obtain ⟨line, column, line', column'⟩ := counted
  unfold Span.Forward Span.NotAfter at forward
  constructor
  · rintro ⟨⟨-, first, -, -⟩, -, ⟨-, start, -⟩⟩
    unfold Span.NotAfter at start
    unfold HasRoom
    split <;> omega
  · intro room
    unfold HasRoom at room
    have start : 0 ≤ parameter.lastLexeme.span.startColumn := by split at room <;> omega
    refine ⟨⟨?_, start, ?_, ?_⟩, ?_, ⟨path, ?_, ?_⟩⟩
    · omega
    · omega
    · omega
    · unfold Span.Forward Span.NotAfter
      omega
    · unfold Span.NotAfter
      split at room <;> omega
    · unfold Span.NotAfter
      omega

end DeclaredParameter

namespace Manifest

/-- Outlines of which every span is in order, those of the last words of parameters included, which
lie within their parameters. -/
structure SpansInOrder (outlines : List FileOutline) : Prop where
  given : ∀ outline ∈ outlines, ∀ span, outline.Gives span → span.Counted ∧ span.Forward
  words : ∀ outline ∈ outlines, ∀ declaration ∈ outline.declarations,
    ∀ parameter ∈ declaration.parameters, parameter.WordInOrder

theorem counted_of_gives {entry : FileEntry}
    (counted : ∀ function ∈ entry.functions, function.Counted) {span : Span}
    (gives : entry.outline.Gives span) : span.Counted := by
  have place {place : SpanEntry} (counted : place.Counted) : (place.span entry.path).Counted :=
    ⟨counted.startLine, counted.startColumn, counted.endLine, counted.endColumn⟩
  cases gives with
  | declaration declared =>
      obtain ⟨function, here, rfl⟩ := List.mem_map.mp declared
      exact place (counted function here).span
  | parameter declared listed =>
      obtain ⟨function, here, rfl⟩ := List.mem_map.mp declared
      obtain ⟨parameter, here', rfl⟩ := List.mem_map.mp listed
      exact place ((counted function here).parameters parameter here').span
  | type declared listed typed spanned =>
      obtain ⟨function, here, rfl⟩ := List.mem_map.mp declared
      obtain ⟨parameter, here', rfl⟩ := List.mem_map.mp listed
      obtain ⟨text, -, read⟩ := Option.bind_eq_some_iff.mp typed
      obtain ⟨found, given, rfl⟩ :=
        Option.map_eq_some_iff.mp (TypeRef.hasSpan_of_ofText? read spanned)
      exact place (((counted function here).parameters parameter here').typeSpan found given)

/-- The spans that an accepted manifest gives count lines from one and columns from zero, and the
last word of a parameter has its place right before the end of the parameter, as long as the word.
All spans are in order exactly if none that is given ends before it begins and each parameter has
room for its last word. -/
theorem spansInOrder_iff {raw : String} {outlines : List FileOutline}
    (h : Manifest.read raw = .ok outlines) :
    (∀ outline ∈ outlines, ∀ span, outline.Gives span → span.Counted) ∧
    (∀ outline ∈ outlines, ∀ declaration ∈ outline.declarations,
      ∀ parameter ∈ declaration.parameters, parameter.lastLexeme.EndsAt parameter.span) ∧
    (SpansInOrder outlines ↔
      (∀ outline ∈ outlines, ∀ span, outline.Gives span → span.Forward) ∧
      ∀ outline ∈ outlines, ∀ declaration ∈ outline.declarations,
        ∀ parameter ∈ declaration.parameters, parameter.HasRoom) := by
  have counted : ∀ outline ∈ outlines, ∀ span, outline.Gives span → span.Counted := by
    obtain ⟨files, rfl, counted⟩ := exists_of_read h
    intro outline found span gives
    obtain ⟨file, here, rfl⟩ := List.mem_map.mp found
    exact counted_of_gives (counted file here) gives
  have ends : ∀ outline ∈ outlines, ∀ declaration ∈ outline.declarations,
      ∀ parameter ∈ declaration.parameters, parameter.lastLexeme.EndsAt parameter.span := by
    intro outline found declaration declared parameter listed
    rw [(anchored_of_read h outline found declaration declared parameter listed).lastLexeme]
    exact Lexeme.endsAt_trailing _ _
  -- with all spans forward, a last word is in order just where the span has room for it
  have word (forward : ∀ outline ∈ outlines, ∀ span, outline.Gives span → span.Forward)
      {outline : FileOutline} (found : outline ∈ outlines) {declaration : Declaration}
      (declared : declaration ∈ outline.declarations) {parameter : DeclaredParameter}
      (listed : parameter ∈ declaration.parameters) :
      parameter.WordInOrder ↔ parameter.HasRoom :=
    DeclaredParameter.wordInOrder_iff (counted outline found _ (.parameter declared listed))
      (forward outline found _ (.parameter declared listed))
      (ends outline found declaration declared parameter listed)
  refine ⟨counted, ends, ?_, ?_⟩
  · rintro ⟨given, words⟩
    have forward : ∀ outline ∈ outlines, ∀ span, outline.Gives span → span.Forward :=
      fun outline found span gives => (given outline found span gives).2
    exact ⟨forward, fun outline found declaration declared parameter listed =>
      (word forward found declared listed).mp (words outline found declaration declared parameter
        listed)⟩
  · rintro ⟨forward, rooms⟩
    exact
      { given := fun outline found span gives =>
          ⟨counted outline found span gives, forward outline found span gives⟩
        words := fun outline found declaration declared parameter listed =>
          (word forward found declared listed).mpr
            (rooms outline found declaration declared parameter listed) }

/-! ## A manifest of one parameter -/

/-- A manifest of one function with one parameter, both at one place, and the parameter without a
type and with a text of eight octets. -/
def DocumentDraft.single (place : PlaceDraft) : DocumentDraft where
  version := none
  files := some
    [{ path := "a.kt"
       functions := some
         [{ name := "f"
            qualifiedName := none
            annotations := none
            parameters := some
              [{ name := "modifier"
                 type := none
                 hasDefault := none
                 acceptsDefault := none
                 span := place
                 typeSpan := none
                 text := none }]
            span := place
            interfaceMember := none
            isAbstract := none
            expectOrActual := none
            overrides := none
            scope := none }] }]

def singleParameter (place : PlaceDraft) : DeclaredParameter where
  name := "modifier"
  type := none
  hasDefault := false
  acceptsDefault := true
  span := place.span "a.kt"
  text := "modifier"
  lastLexeme := Lexeme.trailing "modifier" (place.span "a.kt")

def singleOutline (place : PlaceDraft) : FileOutline where
  path := "a.kt"
  declarations := [⟨"f", "f", none, ∅, {}, place.span "a.kt", [singleParameter place]⟩]

theorem read_single (place : PlaceDraft) :
    Manifest.read (DocumentDraft.single place).toJson.line = .ok [singleOutline place] := by
  rw [Manifest.read, (DocumentDraft.single place).plain_toJson.read_line]
  dsimp only
  rw [accepts_document _ _ (DocumentDraft.single place).isWritten_toJson]
  rfl

theorem eq_of_mem_single {place : PlaceDraft} {declaration : Declaration}
    (declared : declaration ∈ (singleOutline place).declarations) {parameter : DeclaredParameter}
    (listed : parameter ∈ declaration.parameters) : parameter = singleParameter place := by
  obtain rfl := List.mem_singleton.mp declared
  exact List.mem_singleton.mp listed

theorem eq_of_gives_single {place : PlaceDraft} {span : Span}
    (gives : (singleOutline place).Gives span) : span = place.span "a.kt" := by
  cases gives with
  | declaration declared => rw [List.mem_singleton.mp declared]
  | parameter declared listed => rw [eq_of_mem_single declared listed, singleParameter]
  | type declared listed typed spanned =>
      rw [eq_of_mem_single declared listed] at typed
      cases typed

/-- On a place of nine octets everything is in order. -/
theorem spansInOrder_iff_single :
    Manifest.read (DocumentDraft.single .sample).toJson.line = .ok [singleOutline .sample] ∧
      SpansInOrder [singleOutline .sample] := by
  have read := read_single .sample
  refine ⟨read, (spansInOrder_iff read).2.2.mpr ⟨?_, ?_⟩⟩
  · rw [List.forall_mem_singleton]
    intro span gives
    rw [eq_of_gives_single gives]
    decide
  · rw [List.forall_mem_singleton]
    intro declaration declared parameter listed
    rw [eq_of_mem_single declared listed]
    decide

theorem counted_narrow :
    SpanEntry.Counted ⟨PlaceDraft.sample.startLine, PlaceDraft.sample.startColumn,
      PlaceDraft.sample.endLine, PlaceDraft.sample.startLine⟩ :=
  ⟨by decide, by decide, by decide, by decide⟩

/-- The first octet of a file. -/
def PlaceDraft.narrow : PlaceDraft :=
  { PlaceDraft.sample with endColumn := PlaceDraft.sample.startLine, counted := counted_narrow }

/-- On a place of one octet the last word begins seven octets before its line. -/
theorem not_spansInOrder_single :
    Manifest.read (DocumentDraft.single .narrow).toJson.line = .ok [singleOutline .narrow] ∧
      (singleParameter .narrow).lastLexeme.span = ⟨"a.kt", 1, -7, 1, 1⟩ ∧
      ¬SpansInOrder [singleOutline .narrow] := by
  refine ⟨read_single .narrow, rfl, fun order => ?_⟩
  have word := order.words _ (List.mem_singleton_self _) _ (List.mem_singleton_self _) _
    (List.mem_singleton_self _)
  exact absurd word.counted.startColumn (by decide)

end Manifest

end SignatureLint
