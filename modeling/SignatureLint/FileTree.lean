import SignatureLint.Pathname
import SignatureLint.Text.Quoted

/-!
# File trees

A file tree is a set of files, directories and symbolic links, each at the names
that lead to it from the root.  A path name is followed step by step, through
links, to the place that it stands for.
-/

namespace SignatureLint

/-- Why a path name cannot be used. -/
inductive IoFault where
  | noEntry
  | exists
  | notDirectory
  | isDirectory
  | loop
  /-- A null character in a path name, which is refused before anything is looked at. -/
  | nullCharacter
  deriving DecidableEq, Repr, Inhabited

namespace IoFault

/-- The number of a fault that was found in the files. -/
def code? : IoFault → Option Nat
  | noEntry => some 2
  | .exists => some 17
  | notDirectory => some 20
  | isDirectory => some 21
  | loop => some 40
  | nullCharacter => none

def message : IoFault → String
  | noEntry => "No such file or directory"
  | .exists => "File exists"
  | notDirectory => "Not a directory"
  | isDirectory => "Is a directory"
  | loop => "Too many levels of symbolic links"
  | nullCharacter => "embedded null byte"

end IoFault

/-- A fault, with the path names that led to it. -/
structure IoError where
  fault : IoFault
  path : Pathname
  /-- The path name of the link that was to be made to the other one. -/
  link : Option Pathname := none
  deriving DecidableEq, Repr, Inhabited

/-- The wording of a failure. -/
def IoError.message (error : IoError) : String :=
  let first := Quoted.string error.path.display
  let names := match error.link with
    | none => first
    | some link => first ++ " -> " ++ Quoted.string link.display
  match error.fault.code? with
  | none => error.fault.message
  | some code => s!"[Errno {code}] {error.fault.message}: {names}"

/-- What can stand at a place. -/
inductive FileNode where
  | file (octets : List UInt8)
  | directory
  | link (target : Pathname)
  deriving DecidableEq, Repr, Inhabited

/-- A place in a file tree: the names that lead to it from the root. -/
abbrev Place := List String

/-- Why the place that a path name leads to cannot be told. -/
inductive PlaceError where
  /-- The path name holds a null character. -/
  | nullCharacter
  /-- A link leads back to itself. -/
  | loop (place : Place)
  deriving DecidableEq, Repr

/-- The wording of a failure to tell a place. -/
def PlaceError.message : PlaceError → String
  | nullCharacter => "embedded null byte"
  | loop place => "Symlink loop from " ++ Quoted.string (Pathname.display ⟨"/", place⟩)

/-- A file tree.  There always is a directory at the root. -/
structure FileTree where
  nodes : List (Place × FileNode) := []
  /-- The place from which path names without a root start. -/
  current : Place := []
  deriving Repr, Inhabited

namespace FileTree

/-! ## Places -/

def node? (tree : FileTree) (place : Place) : Option FileNode :=
  if place.isEmpty then some .directory else tree.nodes.lookup place

/-- Put something at a place. -/
def set (tree : FileTree) (place : Place) (node : FileNode) : FileTree :=
  { tree with nodes := (place, node) :: tree.nodes.filter (·.1 ≠ place) }

/-- Leave a place empty. -/
def clear (tree : FileTree) (place : Place) : FileTree :=
  { tree with nodes := tree.nodes.filter (·.1 ≠ place) }

/-- The place from which a path name starts. -/
def origin (tree : FileTree) (path : Pathname) : Place :=
  if path.root.isEmpty then tree.current else []

/-- Follow names from a place.  Only the last name may lead to an empty place.  At most the given
number of links is followed, and one at the end only if the end counts. -/
def walk (tree : FileTree) (followLast : Bool) (links : Nat) (place : Place) (names : List String) :
    Except IoFault Place :=
  match names with
  | [] => .ok place
  | name :: rest =>
      match tree.node? place with
      | none => .error .noEntry
      | some .directory =>
          if name = ".." then walk tree followLast links place.dropLast rest
          else
            let next := place ++ [name]
            match tree.node? next with
            | none => if rest.isEmpty then .ok next else .error .noEntry
            | some (.link target) =>
                if rest.isEmpty && !followLast then .ok next
                else
                  match links with
                  | 0 => .error .loop
                  | links + 1 =>
                      let start := if target.root.isEmpty then place else []
                      walk tree followLast links start (target.names ++ rest)
            | some _ => walk tree followLast links next rest
      | some _ => .error .notDirectory
termination_by (links, names.length)

/-- The number of links that are followed on the way to one place. -/
def maxLinks : Nat := 40

/-- The place that a path name stands for. -/
def locate (tree : FileTree) (followLast : Bool) (path : Pathname) : Except IoError Place :=
  if path.hasNull then .error ⟨.nullCharacter, path, none⟩
  else (tree.walk followLast maxLinks (tree.origin path) path.names).mapError (⟨·, path, none⟩)

/-- What a path name stands for. -/
def find? (tree : FileTree) (path : Pathname) : Option FileNode :=
  match tree.locate true path with
  | .error _ => none
  | .ok place => tree.node? place

/-- Whether a path name stands for anything. -/
def contains (tree : FileTree) (path : Pathname) : Bool :=
  (tree.find? path).isSome

/-- Whether a path name stands for a file. -/
def isFile (tree : FileTree) (path : Pathname) : Bool :=
  match tree.find? path with
  | some (.file _) => true
  | _ => false

/-- The place of the directory that a path name stands for. -/
def directory? (tree : FileTree) (path : Pathname) : Option Place :=
  match tree.locate true path with
  | .error _ => none
  | .ok place =>
      match tree.node? place with
      | some .directory => some place
      | _ => none

/-- Whether a path name stands for a directory. -/
def isDirectory (tree : FileTree) (path : Pathname) : Bool :=
  (tree.directory? path).isSome

/-- Something that stands at none of some given places. -/
def isOutside (places : List Place) (entry : Place × FileNode) : Bool :=
  !places.contains entry.1

theorem isOutside_of_cons {places : List Place} {place : Place} {entry : Place × FileNode}
    (h : isOutside (place :: places) entry = true) : isOutside places entry = true := by
  simp only [isOutside, List.contains_cons, Bool.not_or, Bool.and_eq_true] at h ⊢
  exact h.2

theorem countP_isOutside_cons_lt {places : List Place} {place : Place} {node : FileNode}
    {nodes : List (Place × FileNode)} (here : nodes.lookup place = some node)
    (fresh : ¬places.contains place = true) :
    nodes.countP (isOutside (place :: places)) < nodes.countP (isOutside places) := by
  have fewer (nodes : List (Place × FileNode)) :
      nodes.countP (isOutside (place :: places)) ≤ nodes.countP (isOutside places) :=
    List.countP_mono_left fun entry _ => isOutside_of_cons
  induction nodes with
  | nil => cases here
  | cons first rest ih =>
      rw [List.lookup_cons] at here
      split at here
      · rename_i same
        obtain rfl : place = first.1 := beq_iff_eq.mp same
        rw [List.countP_cons_of_neg (by simp [isOutside]),
          List.countP_cons_of_pos (by simpa [isOutside] using fresh)]
        exact Nat.lt_succ_of_le (fewer rest)
      · have less := ih here
        have kept := @isOutside_of_cons places place first
        rw [List.countP_cons, List.countP_cons]
        split
        · rw [if_pos (kept ‹_›)]
          omega
        · omega

/-- The place that names lead to even where nothing stands.  Every link on the way is followed; if
one leads back to itself, the names from there on are left as they are. -/
def resolveFrom (tree : FileTree) (pending : List Place) (place : Place) (names : List String) :
    Except Place Place :=
  match names with
  | [] => .ok place
  | name :: rest =>
      if name = ".." then resolveFrom tree pending place.dropLast rest
      else
        let next := place ++ [name]
        match _ : tree.node? next with
        | some (.link target) =>
            if _ : pending.contains next then .error (next ++ rest)
            else
              let start := if target.root.isEmpty then place else []
              match resolveFrom tree (next :: pending) start target.names with
              | .ok reached => resolveFrom tree pending reached rest
              | .error stuck => .error (stuck ++ rest)
        | _ => resolveFrom tree pending next rest
termination_by (tree.nodes.countP (isOutside pending), names.length)
decreasing_by
  · exact .right _ (Nat.lt_succ_self _)
  · apply Prod.Lex.left
    have here : tree.node? next = some (.link target) := by assumption
    rw [node?, if_neg (by simp [next])] at here
    exact countP_isOutside_cons_lt here (by assumption)
  · exact .right _ (Nat.lt_succ_self _)
  · exact .right _ (Nat.lt_succ_self _)

/-- The place that names lead to from the root if nothing is looked at on the way. -/
def collapse (names : List String) : Place :=
  names.foldl (fun place name => if name = ".." then place.dropLast else place ++ [name]) []

/-- The place that a path name leads to, whether or not anything stands there. -/
def resolve (tree : FileTree) (path : Pathname) : Place :=
  match tree.resolveFrom [] (tree.origin path) path.names with
  | .ok place => place
  | .error stuck => collapse stuck

/-- Why the place that a path name leads to cannot be told.  It can be if anything stands there. -/
def placeError? (tree : FileTree) (path : Pathname) : Option PlaceError :=
  if tree.contains path then none
  else if path.hasNull then some .nullCharacter
  else
    let place := tree.resolve path
    match tree.walk true maxLinks [] place with
    | .error .loop => some (.loop place)
    | _ => none

/-! ## Files -/

def read (tree : FileTree) (path : Pathname) : Except IoError (List UInt8) := do
  let place ← tree.locate true path
  match tree.node? place with
  | some (.file octets) => return octets
  | some .directory => throw ⟨.isDirectory, path, none⟩
  | _ => throw ⟨.noEntry, path, none⟩

/-- Change the octets of a file, which is made if it is not there. -/
def modify (tree : FileTree) (path : Pathname) (change : List UInt8 → List UInt8) :
    Except IoError FileTree := do
  let place ← tree.locate true path
  match tree.node? place with
  | some .directory => throw ⟨.isDirectory, path, none⟩
  | some (.file octets) => return tree.set place (.file (change octets))
  | _ => return tree.set place (.file (change []))

def write (tree : FileTree) (path : Pathname) (octets : List UInt8) : Except IoError FileTree :=
  tree.modify path fun _ => octets

/-- Add octets at the end of a file. -/
def append (tree : FileTree) (path : Pathname) (octets : List UInt8) : Except IoError FileTree :=
  tree.modify path (· ++ octets)

def remove (tree : FileTree) (path : Pathname) : Except IoError FileTree := do
  let place ← tree.locate false path
  match tree.node? place with
  | none => throw ⟨.noEntry, path, none⟩
  | some .directory => throw ⟨.isDirectory, path, none⟩
  | some _ => return tree.clear place

/-- Put something at an empty place. -/
def create (tree : FileTree) (path : Pathname) (node : FileNode) : Except IoError FileTree := do
  let place ← tree.locate false path
  match tree.node? place with
  | none => return tree.set place node
  | some _ => throw ⟨.exists, path, none⟩

def link (tree : FileTree) (path target : Pathname) : Except IoError FileTree :=
  (tree.create path (.link target)).mapError fun error => ⟨error.fault, target, some path⟩

/-! ## Directories -/

/-- Make a directory.  One that is there already may be an error or not. -/
def makeDirectory (tree : FileTree) (existing : Bool) (path : Pathname) :
    Except IoError FileTree :=
  match tree.create path .directory with
  | .error error => if existing && tree.isDirectory path then .ok tree else .error error
  | made => made

/-- Make a directory given by its root and its names in reverse order, and the ones above it that
are missing. -/
def makeAll (root : String) : (existing : Bool) → (reversed : List String) → FileTree →
    Except IoError FileTree
  | existing, [], tree => tree.makeDirectory existing ⟨root, []⟩
  | existing, name :: above, tree =>
      let path : Pathname := ⟨root, (name :: above).reverse⟩
      match tree.makeDirectory existing path with
      | .error error =>
          if error.fault = .noEntry then do
            let tree ← makeAll root true above tree
            tree.makeDirectory existing path
          else .error error
      | made => made

/-- Make a directory and the ones above it that are missing. -/
def makeDirectories (tree : FileTree) (existing : Bool) (path : Pathname) :
    Except IoError FileTree :=
  makeAll path.root existing path.names.reverse tree

/-- What is left of a place below another one. -/
def placeBelow? : (above place : Place) → Option Place
  | [], [] => none
  | [], place => some place
  | _ :: _, [] => none
  | name :: above, other :: place => if name = other then placeBelow? above place else none

def below (tree : FileTree) (place : Place) : List Place :=
  tree.nodes.filterMap fun (other, _) => placeBelow? place other

end FileTree

end SignatureLint
