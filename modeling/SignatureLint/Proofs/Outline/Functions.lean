import SignatureLint.Outline
import SignatureLint.Proofs.Outcome
import SignatureLint.Proofs.Syntax.Arguments

/-!
# The functions of a program

An outline declares the functions of a program one by one, in source order, and the
parameters of each function one by one.  What is known of the default of a parameter
comes from its place in the signature alone.
-/

namespace SignatureLint

open Outline

/-! ## Slots -/

/-- A parameter with what is known of its default. -/
structure Slot where
  argument : Argument
  hasDefault : Bool
  acceptsDefault : Bool

namespace Signature

/-- The parameters that are filled by place. -/
def placeArguments (signature : Signature) : List Argument :=
  signature.positional ++ signature.regular

/-- The slots that are filled by place.  The last few of them have defaults, and the one before
them could have one too. -/
def placeSlots (signature : Signature) : List Slot :=
  let firstDefault := signature.placeArguments.length - signature.defaults
  signature.placeArguments.zipIdx.map fun (argument, i) =>
    ⟨argument, firstDefault ≤ i, firstDefault - 1 ≤ i⟩

/-- The slots that are filled by name only. -/
def nameSlots (signature : Signature) : List Slot :=
  signature.keywordOnly.map fun (argument, hasDefault) => ⟨argument, hasDefault, true⟩

/-- The slots of a signature, in source order. -/
def slots (signature : Signature) : List Slot :=
  signature.placeSlots ++ signature.nameSlots

theorem map_argument_slots (signature : Signature) :
    signature.slots.map Slot.argument = signature.arguments := by
  have byPlace : signature.placeSlots.map Slot.argument = signature.placeArguments := by
    rw [placeSlots, List.map_map]
    exact List.zipIdx_map_fst 0 _
  have byName : signature.nameSlots.map Slot.argument = signature.keywordOnly.map (·.1) := by
    rw [nameSlots, List.map_map]
    rfl
  rw [slots, List.map_append, byPlace, byName, placeArguments, arguments]

end Signature

/-! ## Functions -/

namespace Outline

mutual

def functionsOf (scope : Scope) : Statement → List (Scope × FunctionHeader)
  | .function header body => (scope, header) :: functionsOfAll (scope.inFunction header.name) body
  | .classDef name bases body => functionsOfAll (scope.inClass name bases) body
  | .compound _ blocks => functionsOfBlocks scope blocks
  | .simple => []

def functionsOfAll (scope : Scope) : List Statement → List (Scope × FunctionHeader)
  | [] => []
  | first :: rest => functionsOf scope first ++ functionsOfAll scope rest

def functionsOfBlocks (scope : Scope) : List (List Statement) → List (Scope × FunctionHeader)
  | [] => []
  | first :: rest => functionsOfAll scope first ++ functionsOfBlocks scope rest

end

mutual

theorem argumentsOf_eq_flatMap (scope : Scope) : ∀ statement : Statement,
    Program.argumentsOf statement =
      (functionsOf scope statement).flatMap (·.2.signature.arguments)
  | .function header body => by
      rw [Program.argumentsOf, functionsOf, List.flatMap_cons, argumentsOfAll_eq_flatMap]
  | .classDef name bases body => by
      rw [Program.argumentsOf, functionsOf, argumentsOfAll_eq_flatMap]
  | .compound kind blocks => by
      rw [Program.argumentsOf, functionsOf, argumentsOfBlocks_eq_flatMap]
  | .simple => by
      rw [Program.argumentsOf, functionsOf, List.flatMap_nil]

theorem argumentsOfAll_eq_flatMap (scope : Scope) : ∀ statements : List Statement,
    Program.argumentsOfAll statements =
      (functionsOfAll scope statements).flatMap (·.2.signature.arguments)
  | [] => by
      rw [Program.argumentsOfAll, functionsOfAll, List.flatMap_nil]
  | first :: rest => by
      rw [Program.argumentsOfAll, functionsOfAll, List.flatMap_append,
        argumentsOf_eq_flatMap scope, argumentsOfAll_eq_flatMap scope]

theorem argumentsOfBlocks_eq_flatMap (scope : Scope) : ∀ blocks : List (List Statement),
    Program.argumentsOfBlocks blocks =
      (functionsOfBlocks scope blocks).flatMap (·.2.signature.arguments)
  | [] => by
      rw [Program.argumentsOfBlocks, functionsOfBlocks, List.flatMap_nil]
  | first :: rest => by
      rw [Program.argumentsOfBlocks, functionsOfBlocks, List.flatMap_append,
        argumentsOfAll_eq_flatMap scope, argumentsOfBlocks_eq_flatMap scope]

end

namespace File

variable {file : File}

def declare (file : File) (function : Scope × FunctionHeader) :
    Except AnnotationError Declaration :=
  file.declaration function.1 function.2

/-- What a walk over some functions comes to: they are declared one by one, and the walk is where it
was before. -/
def walkOver (file : File) (functions : List (Scope × FunctionHeader)) (walk : Walk) :
    Except AnnotationError (Unit × Walk) := do
  let found ← functions.mapM file.declare
  return ((), { walk with found := walk.found ++ found.toArray })

theorem walkOver_nil (file : File) (walk : Walk) : file.walkOver [] walk = .ok ((), walk) := by
  rw [walkOver, List.mapM_nil]
  simp [bind, Except.bind, pure, Except.pure]

theorem walkOver_cons (file : File) (function : Scope × FunctionHeader)
    (rest : List (Scope × FunctionHeader)) (walk : Walk) :
    file.walkOver (function :: rest) walk =
      file.declare function >>= fun found => file.walkOver rest (walk.record found) := by
  unfold walkOver
  rw [List.mapM_cons]
  cases file.declare function with
  | error fault => rfl
  | ok first =>
      cases rest.mapM file.declare with
      | error fault => rfl
      | ok others => simp [bind, Except.bind, pure, Except.pure, Walk.record]

theorem walkOver_append (file : File) (front back : List (Scope × FunctionHeader)) (walk : Walk) :
    file.walkOver (front ++ back) walk =
      file.walkOver front walk >>= fun reached => file.walkOver back reached.2 := by
  induction front generalizing walk with
  | nil => rw [List.nil_append, walkOver_nil]; rfl
  | cons function rest ih =>
      rw [List.cons_append, walkOver_cons, walkOver_cons]
      cases file.declare function with
      | error fault => rfl
      | ok found => exact ih (walk.record found)

theorem scope_of_walkOver {file : File} {functions : List (Scope × FunctionHeader)} {walk : Walk}
    {reached : Unit × Walk} (h : file.walkOver functions walk = .ok reached) :
    reached.2.scope = walk.scope := by
  obtain ⟨found, -, h⟩ := Outcome.exists_of_bind_eq_ok h
  cases h
  rfl

theorem walkOver_then {file : File} {front back : List (Scope × FunctionHeader)} {walk : Walk}
    {first second : StateT Walk (Except AnnotationError) Unit}
    (here : first walk = file.walkOver front walk)
    (next : ∀ reached : Walk, reached.scope = walk.scope →
      second reached = file.walkOver back reached) :
    (first >>= fun _ => second) walk = file.walkOver (front ++ back) walk := by
  have both : (first >>= fun _ => second) walk =
      first walk >>= fun reached => second reached.2 := rfl
  rw [both, here, walkOver_append]
  cases met : file.walkOver front walk with
  | error fault => rfl
  | ok reached => exact next reached.2 (scope_of_walkOver met)

theorem dropLast_inFunction (scope : Scope) (name : String) :
    (scope.inFunction name).names.dropLast = scope.names :=
  List.dropLast_concat

theorem dropLast_inClass (scope : Scope) (name : String) (bases : List Expr) :
    (scope.inClass name bases).names.dropLast = scope.names :=
  List.dropLast_concat

/-- What is inside a class or a function is walked over in the inner scope; leaving it leads
back. -/
theorem walkOver_inside (file : File) (functions : List (Scope × FunctionHeader)) (walk : Walk)
    (inner : Scope → Scope) (entered : (inner walk.scope).names.dropLast = walk.scope.names) :
    (file.walkOver functions (walk.enter inner) >>= fun reached =>
      .ok ((), reached.2.leave walk.scope.bases)) = file.walkOver functions walk := by
  unfold walkOver
  cases functions.mapM file.declare with
  | error fault => rfl
  | ok found =>
      simp only [bind, Except.bind, pure, Except.pure, Walk.leave, Walk.enter, entered]

theorem visit_function (file : File) (header : FunctionHeader) (body : List Statement)
    (walk : Walk) :
    file.visit (.function header body) walk =
      file.declaration walk.scope header >>= fun found =>
        file.visitAll body ((walk.record found).enter (·.inFunction header.name)) >>= fun reached =>
          .ok ((), reached.2.leave walk.scope.bases) := by
  rw [visit]
  simp only [bind, StateT.bind, get, getThe, MonadStateOf.get, StateT.get, liftM, monadLift,
    MonadLift.monadLift, StateT.lift, pure, Except.pure, Except.bind]
  cases file.declaration walk.scope header <;> rfl

theorem visit_classDef (file : File) (name : String) (bases : List Expr) (body : List Statement)
    (walk : Walk) :
    file.visit (.classDef name bases body) walk =
      file.visitAll body (walk.enter (·.inClass name bases)) >>= fun reached =>
        .ok ((), reached.2.leave walk.scope.bases) := by
  rw [visit]
  rfl

mutual

theorem visit_eq (file : File) : ∀ (statement : Statement) (walk : Walk),
    file.visit statement walk = file.walkOver (functionsOf walk.scope statement) walk
  | .function header body, walk => by
      rw [functionsOf, walkOver_cons, visit_function, declare]
      cases file.declaration walk.scope header with
      | error fault => rfl
      | ok found =>
          have inside :=
            visitAll_eq file body ((walk.record found).enter (·.inFunction header.name))
          refine Eq.trans ?_ (file.walkOver_inside _ (walk.record found)
            (·.inFunction header.name) (dropLast_inFunction _ header.name))
          exact congrArg (· >>= fun reached => .ok ((), reached.2.leave walk.scope.bases)) inside
  | .classDef name bases body, walk => by
      rw [functionsOf, visit_classDef, visitAll_eq]
      exact file.walkOver_inside _ walk (·.inClass name bases) (dropLast_inClass _ name bases)
  | .compound kind blocks, walk => by
      rw [visit, functionsOf, visitBlocks_eq]
  | .simple, walk => by
      rw [visit, functionsOf, walkOver_nil]
      rfl

theorem visitAll_eq (file : File) : ∀ (statements : List Statement) (walk : Walk),
    file.visitAll statements walk = file.walkOver (functionsOfAll walk.scope statements) walk
  | [], walk => by
      rw [visitAll, functionsOfAll, walkOver_nil]
      rfl
  | first :: rest, walk => by
      rw [visitAll, functionsOfAll]
      apply walkOver_then (visit_eq file first walk)
      intro reached same
      rw [visitAll_eq, same]

theorem visitBlocks_eq (file : File) : ∀ (blocks : List (List Statement)) (walk : Walk),
    file.visitBlocks blocks walk = file.walkOver (functionsOfBlocks walk.scope blocks) walk
  | [], walk => by
      rw [visitBlocks, functionsOfBlocks, walkOver_nil]
      rfl
  | first :: rest, walk => by
      rw [visitBlocks, functionsOfBlocks]
      apply walkOver_then (visitAll_eq file first walk)
      intro reached same
      rw [visitBlocks_eq, same]

end

theorem declarations_eq_mapM (file : File) (statements : List Statement) :
    file.declarations statements = (functionsOfAll {} statements).mapM file.declare := by
  unfold declarations
  rw [StateT.run, visitAll_eq, walkOver]
  cases (functionsOfAll {} statements).mapM file.declare with
  | error fault => rfl
  | ok found => simp [bind, Except.bind, pure, Except.pure]

def describe (file : File) (slot : Slot) : Except AnnotationError DeclaredParameter :=
  file.parameter slot.argument slot.hasDefault slot.acceptsDefault

theorem parameters_eq_mapM (file : File) (signature : Signature) :
    file.parameters signature = signature.slots.mapM file.describe := by
  rw [Signature.slots, List.mapM_append, Signature.placeSlots, Signature.nameSlots,
    List.mapM_map, List.mapM_map]
  rfl

def Describes (file : File) (slot : Slot) (parameter : DeclaredParameter) : Prop :=
  file.describe slot = .ok parameter

/-- A declaration of a function: everything but its parameters comes from its header alone. -/
structure Declares (file : File) (function : Scope × FunctionHeader) (declaration : Declaration) :
    Prop where
  markers : declaration.markers =
    NameSet.ofList ((function.2.decorators.filterMap Expr.markerName?).filter (!·.isEmpty))
  bindings : declaration.bindings = file.bindings function.1 declaration.markers
  parameters : List.Forall₂ file.Describes function.2.signature.slots declaration.parameters

theorem declares_of_declare {function : Scope × FunctionHeader} {declaration : Declaration}
    (h : file.declare function = .ok declaration) : file.Declares function declaration := by
  unfold declare File.declaration at h
  obtain ⟨parameters, described, h⟩ := Outcome.exists_of_bind_eq_ok h
  cases h
  rw [parameters_eq_mapM] at described
  exact ⟨rfl, rfl, Outcome.forall₂_of_mapM_eq_ok described⟩

theorem exists_of_declare {function : Scope × FunctionHeader}
    (h : ∀ slot ∈ function.2.signature.slots, ∃ parameter, file.Describes slot parameter) :
    ∃ declaration, file.declare function = .ok declaration := by
  obtain ⟨parameters, described⟩ := Outcome.exists_of_forall_ok h
  rw [← parameters_eq_mapM] at described
  rw [declare, declaration, described]
  exact ⟨_, rfl⟩

end File

end Outline

/-- An outline without an error is that of a program, of which the functions are declared one by
one. -/
theorem FileOutline.exists_of_ofSource [Wordings] {path : String} {text : List Char}
    {config : Config}
    {outline : FileOutline} (h : FileOutline.ofSource path text config = .ok outline)
    (whole : outline.error = none) :
    ∃ statements, Program.read text = .ok statements ∧
      List.Forall₂ (File.Declares ⟨path, Source.ofText text, config⟩)
        (functionsOfAll {} statements) outline.declarations := by
  unfold FileOutline.ofSource at h
  cases read : Program.read text with
  | error error =>
      rw [read] at h
      cases h
      cases whole
  | ok statements =>
      rw [read] at h
      obtain ⟨declarations, declared, h⟩ := Outcome.exists_of_bind_eq_ok h
      cases h
      rw [File.declarations_eq_mapM] at declared
      exact ⟨statements, rfl, (Outcome.forall₂_of_mapM_eq_ok declared).imp
        fun _ _ => File.declares_of_declare⟩

theorem FileOutline.declares_of_read [Wordings] {path : String} {text : List Char} {config : Config}
    {outline : FileOutline} {statements : List Statement}
    (h : FileOutline.ofSource path text config = .ok outline) (whole : outline.error = none)
    (read : Program.read text = .ok statements) :
    List.Forall₂ (File.Declares ⟨path, Source.ofText text, config⟩)
      (functionsOfAll {} statements) outline.declarations := by
  obtain ⟨statements', read', declares⟩ := exists_of_ofSource h whole
  rw [read] at read'
  cases read'
  exact declares

theorem FileOutline.exists_ofSource [Wordings] {path : String} {text : List Char} {config : Config}
    {statements : List Statement} (read : Program.read text = .ok statements)
    (h : ∀ function ∈ functionsOfAll {} statements, ∀ slot ∈ function.2.signature.slots,
      ∃ parameter, File.Describes ⟨path, Source.ofText text, config⟩ slot parameter) :
    ∃ outline, FileOutline.ofSource path text config = .ok outline ∧ outline.error = none := by
  obtain ⟨declarations, declared⟩ := Outcome.exists_of_forall_ok fun function found =>
    File.exists_of_declare (h function found)
  rw [← File.declarations_eq_mapM] at declared
  unfold FileOutline.ofSource
  rw [read]
  simp only [declared, bind, Except.bind]
  exact ⟨_, rfl, rfl⟩

theorem FileOutline.declarations_of_error [Wordings] {path : String} {text : List Char}
    {config : Config}
    {outline : FileOutline} (h : FileOutline.ofSource path text config = .ok outline)
    (broken : outline.error ≠ none) : outline.declarations = [] := by
  unfold FileOutline.ofSource at h
  cases read : Program.read text with
  | error error =>
      rw [read] at h
      cases h
      rfl
  | ok statements =>
      rw [read] at h
      obtain ⟨declarations, -, h⟩ := Outcome.exists_of_bind_eq_ok h
      cases h
      exact absurd rfl broken

end SignatureLint
