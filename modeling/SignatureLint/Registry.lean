import SignatureLint.Text.Case
import SignatureLint.TypeRef

/-!
# Families of types

Which types are modifiers, and which are collections that can change.  Only the
raw name of a type and the markers on it count, never its arguments.
-/

namespace SignatureLint

/-- The families that the rules ask about. -/
inductive Family where
  | modifier
  | unstableCollection
  deriving DecidableEq, Repr

namespace Family

def name : Family → String
  | modifier => "modifier"
  | unstableCollection => "unstable_collection"

def all : List Family := [modifier, unstableCollection]

end Family

namespace Collections

/-- Lists that can change. -/
def lists : NameSet :=
  NameSet.ofList ["List", "MutableList", "ArrayList", "list", "Sequence", "MutableSequence"]

/-- Sets that can change. -/
def sets : NameSet :=
  NameSet.ofList ["Set", "MutableSet", "HashSet", "LinkedHashSet", "set", "AbstractSet"]

/-- Maps that can change. -/
def maps : NameSet :=
  NameSet.ofList
    ["Map", "MutableMap", "HashMap", "LinkedHashMap", "dict", "Dict", "Mapping", "MutableMapping"]

/-- Other collections that can change. -/
def others : NameSet :=
  NameSet.ofList ["Collection", "MutableCollection"]

/-- Collections that can change. -/
def unstable : NameSet :=
  lists ∪ sets ∪ maps ∪ others

/-- Collections that cannot change. -/
def immutable : NameSet :=
  NameSet.ofList
    ["ImmutableList", "ImmutableSet", "ImmutableMap", "ImmutableCollection", "PersistentList",
      "PersistentSet", "PersistentMap", "tuple", "Tuple", "frozenset", "FrozenSet"]

/-- Markers of types that cannot change. -/
def stableMarkers : NameSet :=
  NameSet.ofList ["Immutable", "Stable"]

/-- The collection to use in place of a named one, which cannot change. -/
def immutableCounterpart (rawName : String) : String :=
  if sets.contains rawName then "ImmutableSet"
  else if maps.contains rawName then "ImmutableMap"
  else if lists.contains rawName then "ImmutableList"
  else if others.contains rawName then "ImmutableCollection"
  else "Immutable" ++ Text.capitalized rawName

end Collections

/-- The names that make up each family. -/
structure Registry where
  modifierTypes : NameSet := NameSet.ofList ["Modifier"]
  unstableCollections : NameSet := Collections.unstable
  immutableCollections : NameSet := Collections.immutable
  immutableMarkers : NameSet := Collections.stableMarkers
  deriving DecidableEq, Repr, Inhabited

namespace Registry

/-- Whether a type belongs to a family.  A type without a name belongs to none. -/
def includes (registry : Registry) (family : Family) (type : TypeRef) : Bool :=
  !type.rawName.isEmpty &&
    match family with
    | .modifier => registry.modifierTypes.contains type.rawName
    | .unstableCollection =>
        registry.unstableCollections.contains type.rawName &&
          !type.markers.meets registry.immutableMarkers &&
          !registry.immutableCollections.contains type.rawName

/-- Whether a declared type belongs to a family.  A missing type belongs to no
family, and an unknown family has no members. -/
def classifies (registry : Registry) (family : Option Family) (type : Option TypeRef) : Bool :=
  match family, type with
  | some family, some type => registry.includes family type
  | _, _ => false

def families (registry : Registry) (type : Option TypeRef) : List Family :=
  Family.all.filter fun family => registry.classifies (some family) type

end Registry

end SignatureLint
