import SignatureLint.Proofs.Outline.Parameters

/-!
# The functions of a tree

A program is a tree of statements.  Each function in it, however deep, stands in some
classes and functions; its declaration tells which.  A walk through the tree finds every
function once, before what is inside it, and comes back to where it was after each
statement.
-/

namespace SignatureLint

namespace Outline

/-- A class or a function that a statement stands in. -/
inductive Enclosure where
  | function (name : String)
  | classDef (name : String) (bases : List Expr)

/-- The name of a class or a function. -/
def Enclosure.name : Enclosure → String
  | function name => name
  | classDef name _ => name

/-- A function in a tree of statements. -/
structure FunctionNode where
  /-- The classes and functions that it stands in, the outermost first. -/
  around : List Enclosure
  header : FunctionHeader

/-- A function with one more class or function around it. -/
def FunctionNode.within (enclosure : Enclosure) (node : FunctionNode) : FunctionNode :=
  ⟨enclosure :: node.around, node.header⟩

mutual

/-- The functions in a statement: each before those inside it, and the others in source order. -/
def nodesOf : Statement → List FunctionNode
  | .function header body =>
      ⟨[], header⟩ :: (nodesOfAll body).map (·.within (.function header.name))
  | .classDef name bases body => (nodesOfAll body).map (·.within (.classDef name bases))
  | .compound _ blocks => nodesOfBlocks blocks
  | .simple => []

def nodesOfAll : List Statement → List FunctionNode
  | [] => []
  | first :: rest => nodesOf first ++ nodesOfAll rest

def nodesOfBlocks : List (List Statement) → List FunctionNode
  | [] => []
  | first :: rest => nodesOfAll first ++ nodesOfBlocks rest

end

namespace Scope

/-- The scope inside a class or a function. -/
def inside (scope : Scope) : Enclosure → Scope
  | .function name => scope.inFunction name
  | .classDef name bases => scope.inClass name bases

/-- The scope inside several classes and functions, the outermost first. -/
def insideAll (scope : Scope) (around : List Enclosure) : Scope :=
  around.foldl inside scope

theorem names_insideAll (scope : Scope) (around : List Enclosure) :
    (scope.insideAll around).names = scope.names ++ around.map Enclosure.name := by
  induction around generalizing scope with
  | nil => exact (List.append_nil _).symm
  | cons enclosure rest ih =>
      have names : (scope.inside enclosure).names = scope.names ++ [enclosure.name] := by
        cases enclosure <;> rfl
      calc (scope.insideAll (enclosure :: rest)).names
          = (scope.inside enclosure).names ++ rest.map Enclosure.name := ih _
        _ = scope.names ++ (enclosure :: rest).map Enclosure.name := by
            rw [names, List.append_assoc, List.singleton_append, List.map_cons]

theorem bases_insideAll (scope : Scope) (around : List Enclosure) (enclosure : Enclosure) :
    (scope.insideAll (around ++ [enclosure])).bases =
      match enclosure with
      | .function _ => none
      | .classDef _ bases => some bases := by
  rw [insideAll, List.foldl_append]
  cases enclosure <;> rfl

/-- A function is a member of an interface if what is next around it is a class with the base of an
interface. -/
theorem isInterface_iff {config : Config} {around : List Enclosure} :
    (insideAll {} around).isInterface config = true ↔
      ∃ name bases, around.getLast? = some (.classDef name bases) ∧
        ∃ base ∈ bases, ∃ id, base.markerName? = some id ∧ id ∈ config.interfaceBases := by
  rcases List.eq_nil_or_concat around with rfl | ⟨front, enclosure, rfl⟩
  · simp [insideAll, isInterface]
  · rw [isInterface, List.concat_eq_append, bases_insideAll, List.getLast?_concat]
    cases enclosure with
    | function name => simp
    | classDef name bases =>
        constructor
        · intro member
          obtain ⟨id, known, contained⟩ := List.any_eq_true.mp member
          obtain ⟨base, here, called⟩ := List.mem_filterMap.mp known
          exact ⟨name, bases, rfl, base, here, id, called, NameSet.contains_iff.mp contained⟩
        · rintro ⟨_, _, same, base, here, id, called, contained⟩
          cases same
          exact List.any_eq_true.mpr ⟨id, List.mem_filterMap.mpr ⟨base, here, called⟩,
            NameSet.contains_iff.mpr contained⟩

end Scope

mutual

theorem functionsOf_eq_map (scope : Scope) : ∀ statement : Statement,
    functionsOf scope statement =
      (nodesOf statement).map fun node => (scope.insideAll node.around, node.header)
  | .function header body => by
      rw [functionsOf, nodesOf, List.map_cons, List.map_map, functionsOfAll_eq_map]
      rfl
  | .classDef name bases body => by
      rw [functionsOf, nodesOf, List.map_map, functionsOfAll_eq_map]
      rfl
  | .compound kind blocks => by
      rw [functionsOf, nodesOf, functionsOfBlocks_eq_map]
  | .simple => rfl

theorem functionsOfAll_eq_map (scope : Scope) : ∀ statements : List Statement,
    functionsOfAll scope statements =
      (nodesOfAll statements).map fun node => (scope.insideAll node.around, node.header)
  | [] => rfl
  | first :: rest => by
      rw [functionsOfAll, nodesOfAll, List.map_append, functionsOf_eq_map, functionsOfAll_eq_map]

theorem functionsOfBlocks_eq_map (scope : Scope) : ∀ blocks : List (List Statement),
    functionsOfBlocks scope blocks =
      (nodesOfBlocks blocks).map fun node => (scope.insideAll node.around, node.header)
  | [] => rfl
  | first :: rest => by
      rw [functionsOfBlocks, nodesOfBlocks, List.map_append, functionsOfAll_eq_map,
        functionsOfBlocks_eq_map]

end

namespace File

variable {file : File}

/-- The declaration that belongs to a function in a tree.  What is around the function counts only
for its names and for its membership in an interface; all else comes from its own decorators. -/
structure Extracts (file : File) (node : FunctionNode) (declaration : Declaration) : Prop where
  name : declaration.name = node.header.name
  qualifiedName : declaration.qualifiedName =
    ".".intercalate (node.around.map Enclosure.name ++ [node.header.name])
  scope : declaration.scope =
    if node.around = [] then none else some (".".intercalate (node.around.map Enclosure.name))
  span : declaration.span = Span.ofRange file.path node.header.range
  markers (marker : String) : marker ∈ declaration.markers ↔
    marker ≠ "" ∧ ∃ decorator ∈ node.header.decorators, decorator.markerName? = some marker
  interfaceMember : declaration.bindings.interfaceMember = true ↔
    ∃ name bases, node.around.getLast? = some (.classDef name bases) ∧
      ∃ base ∈ bases, ∃ id, base.markerName? = some id ∧ id ∈ file.config.interfaceBases
  isAbstract : declaration.bindings.isAbstract = true ↔
    ∃ marker ∈ declaration.markers, marker ∈ file.config.abstractMarkers
  expectOrActual : declaration.bindings.expectOrActual = true ↔
    ∃ marker ∈ declaration.markers, marker ∈ file.config.platformMarkers
  overrides : declaration.bindings.overrides = true ↔
    ∃ marker ∈ declaration.markers, marker ∈ file.config.overrideMarkers

theorem extracts_of_declare {node : FunctionNode} {declaration : Declaration}
    (h : file.declare (Scope.insideAll {} node.around, node.header) = .ok declaration) :
    file.Extracts node declaration := by
  obtain ⟨parameters, -, h⟩ := Outcome.exists_of_bind_eq_ok h
  cases h
  have names := Scope.names_insideAll {} node.around
  rw [List.nil_append] at names
  exact
    { name := rfl
      qualifiedName := by rw [names]; rfl
      scope := by simp only [names, List.isEmpty_iff, List.map_eq_nil_iff]; rfl
      span := rfl
      markers := by intro marker; simp [and_comm]
      interfaceMember := Scope.isInterface_iff
      isAbstract := NameSet.meets_iff
      expectOrActual := NameSet.meets_iff
      overrides := NameSet.meets_iff }

theorem scope_of_visit {statement : Statement} {walk reached : Walk}
    (h : file.visit statement walk = .ok ((), reached)) : reached.scope = walk.scope := by
  rw [visit_eq] at h
  exact scope_of_walkOver h

/-- A walk through a program of which every annotation can be understood finds every function once,
in source order, each with what it stands in, and no statement moves the walk. -/
theorem declarations_extract (file : File) (statements : List Statement)
    (understood : ∀ argument ∈ Program.argumentsOfAll statements,
      ∀ written ∈ argument.written, ∃ type, file.annotated written = .ok type) :
    (∃ declarations, file.declarations statements = .ok declarations ∧
      List.Forall₂ file.Extracts (nodesOfAll statements) declarations) ∧
    ∀ (statement : Statement) (walk reached : Walk),
      file.visit statement walk = .ok ((), reached) → reached.scope = walk.scope := by
  refine ⟨?_, fun _ _ _ => scope_of_visit⟩
  have declared : ∀ function ∈ functionsOfAll {} statements,
      ∃ declaration, file.declare function = .ok declaration := by
    intro function found
    apply exists_of_declare
    intro slot here
    have argument : slot.argument ∈ Program.argumentsOfAll statements := by
      rw [← map_argument_flatMap_slots {}]
      exact List.mem_map_of_mem (List.mem_flatMap.mpr ⟨function, found, here⟩)
    obtain ⟨type, described⟩ : ∃ type, file.typeOf slot.argument = .ok type := by
      unfold typeOf
      cases written : slot.argument.written with
      | none => exact ⟨none, rfl⟩
      | some annotation => exact understood _ argument annotation written
    exact ⟨_, describes_iff.mpr ⟨type, described, rfl⟩⟩
  obtain ⟨declarations, found⟩ := Outcome.exists_of_forall_ok declared
  refine ⟨declarations, (file.declarations_eq_mapM statements).trans found, ?_⟩
  rw [functionsOfAll_eq_map] at found
  have each := Outcome.forall₂_of_mapM_eq_ok found
  rw [List.forall₂_map_left_iff] at each
  exact each.imp fun _ _ => extracts_of_declare

/-- A function in a class in a function in a block of a class. -/
def nestedSample : List Statement :=
  [.classDef "Card" [.subscript (.name "Protocol") (.name "T")]
    [.compound .conditional
      [[.function ⟨"show", [.call (.access (.name "ui") "composable") [] []],
            ⟨[], [⟨"size", some ⟨.name "Modifier", default⟩, default⟩], 0, []⟩, default⟩
          [.classDef "Inner" [] [.function ⟨"deep", [], ⟨[], [], 0, []⟩, default⟩ []]]],
        [.simple]]]]

/-- The two functions of the sample are found, the outer one as a member of an interface. -/
theorem declarations_extract_nestedSample :
    (∀ argument ∈ Program.argumentsOfAll nestedSample, ∀ written ∈ argument.written,
      ∃ type, File.annotated ⟨"a.py", default, {}⟩ written = .ok type) ∧
    ∃ outer inner, File.declarations ⟨"a.py", default, {}⟩ nestedSample = .ok [outer, inner] ∧
      outer.qualifiedName = "Card.show" ∧ outer.bindings.interfaceMember = true ∧
      inner.qualifiedName = "Card.show.Inner.deep" ∧ inner.scope = some "Card.show.Inner" ∧
      inner.bindings.interfaceMember = false := by
  have understood : ∀ argument ∈ Program.argumentsOfAll nestedSample,
      ∀ written ∈ argument.written,
        ∃ type, File.annotated ⟨"a.py", default, {}⟩ written = .ok type := by
    intro argument here written annotation
    have only : Program.argumentsOfAll nestedSample =
        [⟨"size", some ⟨.name "Modifier", default⟩, default⟩] := rfl
    rw [only, List.mem_singleton] at here
    have plain : isPlain argument = true := by rw [here]; rfl
    obtain ⟨type, described⟩ := exists_typeOf_of_isPlain ⟨"a.py", default, {}⟩ plain
    rw [typeOf, annotation] at described
    exact ⟨type, described⟩
  obtain ⟨⟨declarations, found, each⟩, -⟩ := declarations_extract _ _ understood
  refine ⟨understood, ?_⟩
  cases each with
  | cons outer rest =>
      cases rest with
      | cons inner rest =>
          cases rest
          refine ⟨_, _, found, outer.qualifiedName, ?_, inner.qualifiedName, inner.scope, ?_⟩
          · exact outer.interfaceMember.mpr
              ⟨_, _, rfl, _, List.mem_singleton_self _, "Protocol", rfl, by decide⟩
          · rw [← Bool.not_eq_true, inner.interfaceMember]
            rintro ⟨_, _, innermost, _, here, -⟩
            cases innermost
            cases here

end File

end Outline

end SignatureLint
