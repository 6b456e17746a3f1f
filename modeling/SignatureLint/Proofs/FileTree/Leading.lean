import Mathlib.Data.List.Induction
import SignatureLint.Proofs.FileTree

/-!
# Where names lead

Names lead from a place to another one, and links on the way lead on from where they stand.  In a
tree in which no link leads back to itself all names lead somewhere, whether or not anything stands
there.  Resolving a path name finds that place, and no link is left on the way to it, so that the
place can be told.
-/

namespace SignatureLint

namespace FileTree

variable {tree : FileTree} {links links' : Nat} {place reached reached' : Place}
  {names : List String} {target : Pathname}

/-! ## Leading on -/

/-- Names lead from one place to another one by way of so many links. -/
inductive LeadsIn (tree : FileTree) : Nat → Place → List String → Place → Prop where
  | here (place : Place) : LeadsIn tree 0 place [] place
  | up {links : Nat} {place reached : Place} {rest : List String}
      (later : LeadsIn tree links place.dropLast rest reached) :
      LeadsIn tree links place (".." :: rest) reached
  | passed {links : Nat} {place reached : Place} {name : String} {rest : List String}
      (down : name ≠ "..") (other : ∀ target, tree.node? (place ++ [name]) ≠ some (.link target))
      (later : LeadsIn tree links (place ++ [name]) rest reached) :
      LeadsIn tree links place (name :: rest) reached
  | followed {inner outer : Nat} {place middle reached : Place} {name : String}
      {rest : List String} {target : Pathname} (down : name ≠ "..")
      (link : tree.node? (place ++ [name]) = some (.link target))
      (within : LeadsIn tree inner (if target.root.isEmpty then place else []) target.names middle)
      (later : LeadsIn tree outer middle rest reached) :
      LeadsIn tree (inner + outer + 1) place (name :: rest) reached

/-- The link at a place leads to another one by way of so many further links. -/
def LinkLeadsIn (tree : FileTree) (links : Nat) (place reached : Place) : Prop :=
  ∃ target, tree.node? place = some (.link target) ∧
    tree.LeadsIn links (if target.root.isEmpty then place.dropLast else []) target.names reached

/-- No link leads back to itself: following one comes to an end. -/
def Loopless (tree : FileTree) : Prop :=
  ∀ place target, tree.node? place = some (.link target) →
    ∃ links reached, tree.LinkLeadsIn links place reached

/-- Names lead to one place only, in one way. -/
theorem LeadsIn.unique (leads : tree.LeadsIn links place names reached)
    (leads' : tree.LeadsIn links' place names reached') : links = links' ∧ reached = reached' := by
  induction leads generalizing links' reached' with
  | here place =>
      cases leads'
      exact ⟨rfl, rfl⟩
  | up _ ih =>
      cases leads' with
      | up later' => exact ih later'
      | passed down' => exact absurd rfl down'
      | followed down' => exact absurd rfl down'
  | passed down other _ ih =>
      cases leads' with
      | up => exact absurd rfl down
      | passed _ _ later' => exact ih later'
      | followed _ link' => exact absurd link' (other _)
  | followed down link _ _ ih ih' =>
      cases leads' with
      | up => exact absurd rfl down
      | passed _ other' => exact absurd link (other' _)
      | followed _ link' within' later' =>
          rw [link] at link'
          cases link'
          obtain ⟨rfl, rfl⟩ := ih within'
          obtain ⟨rfl, rfl⟩ := ih' later'
          exact ⟨rfl, rfl⟩

theorem LinkLeadsIn.unique (leads : tree.LinkLeadsIn links place reached)
    (leads' : tree.LinkLeadsIn links' place reached') : links = links' ∧ reached = reached' := by
  obtain ⟨target, link, follow⟩ := leads
  obtain ⟨target', link', follow'⟩ := leads'
  rw [link] at link'
  cases link'
  exact follow.unique follow'

theorem Loopless.exists_leadsIn (loopless : tree.Loopless) (place : Place) (names : List String) :
    ∃ links reached, tree.LeadsIn links place names reached := by
  induction names generalizing place with
  | nil => exact ⟨0, place, .here place⟩
  | cons name rest ih =>
      by_cases down : name = ".."
      · obtain ⟨links, reached, later⟩ := ih place.dropLast
        rw [down]
        exact ⟨links, reached, .up later⟩
      · by_cases link : ∃ target, tree.node? (place ++ [name]) = some (.link target)
        · obtain ⟨target, link⟩ := link
          obtain ⟨inner, middle, target', link', within⟩ := loopless _ target link
          obtain ⟨outer, reached, later⟩ := ih middle
          rw [List.dropLast_concat] at within
          exact ⟨_, reached, .followed down link' within later⟩
        · obtain ⟨links, reached, later⟩ := ih (place ++ [name])
          exact ⟨links, reached, .passed down (not_exists.mp link) later⟩

/-! ## Resolving -/

/-- Resolving names finds the place that they lead to, while each link that is being followed has
as many links to follow as are left at least. -/
theorem LeadsIn.resolveFrom_eq (leads : tree.LeadsIn links place names reached)
    {pending : List Place}
    (enough : ∀ link ∈ pending, ∀ inner end_, tree.LinkLeadsIn inner link end_ → links ≤ inner) :
    tree.resolveFrom pending place names = .ok reached := by
  induction leads generalizing pending with
  | here place => rw [resolveFrom]
  | up _ ih =>
      rw [resolveFrom, if_pos rfl]
      exact ih enough
  | passed down other _ ih =>
      rw [resolveFrom_other down other]
      exact ih enough
  | @followed inner outer place middle reached name rest target down link within _ ih ih' =>
      have here : tree.LinkLeadsIn inner (place ++ [name]) middle :=
        ⟨target, link, by rwa [List.dropLast_concat]⟩
      -- a link that is being followed would take more links than it does
      have fresh : pending.contains (place ++ [name]) = false := by
        rw [Bool.eq_false_iff]
        intro again
        have := enough _ (List.contains_iff_mem.mp again) inner middle here
        omega
      have first : tree.resolveFrom ((place ++ [name]) :: pending)
          (if target.root.isEmpty then place else []) target.names = .ok middle := by
        apply ih
        intro other found more end_ follows
        rcases List.mem_cons.mp found with rfl | found
        · exact Nat.le_of_eq (here.unique follows).1
        · have := enough other found more end_ follows
          omega
      have second : tree.resolveFrom pending middle rest = .ok reached := by
        apply ih'
        intro other found more end_ follows
        have := enough other found more end_ follows
        omega
      rw [resolveFrom_link down link, if_neg (Bool.eq_false_iff.mp fresh), first]
      exact second

theorem LeadsIn.resolve_eq {path : Pathname}
    (leads : tree.LeadsIn links (tree.origin path) path.names reached) :
    tree.resolve path = reached := by
  rw [resolve, leads.resolveFrom_eq fun _ found => absurd found List.not_mem_nil]

/-! ## Places without links on the way -/

/-- No link is on the way to a place, and no name on the way leads up. -/
structure Direct (tree : FileTree) (place : Place) : Prop where
  unlinked : ∀ front, front <+: place → ∀ target, tree.node? front ≠ some (.link target)
  down : ".." ∉ place

theorem direct_nil (tree : FileTree) : tree.Direct [] where
  unlinked front shape target := by
    rw [List.prefix_nil.mp shape]
    exact nofun
  down := List.not_mem_nil

theorem Direct.above (direct : tree.Direct place) {above : Place} (h : above <+: place) :
    tree.Direct above where
  unlinked front shape := direct.unlinked front (shape.trans h)
  down found := direct.down (h.subset found)

theorem Direct.concat (direct : tree.Direct place) {name : String} (down : name ≠ "..")
    (other : ∀ target, tree.node? (place ++ [name]) ≠ some (.link target)) :
    tree.Direct (place ++ [name]) where
  unlinked front shape := by
    rcases List.prefix_concat_iff.mp shape with rfl | shape
    · exact other
    · exact direct.unlinked front shape
  down found := by
    rcases List.mem_append.mp found with found | found
    · exact direct.down found
    · exact down (List.mem_singleton.mp found).symm

theorem LeadsIn.direct (leads : tree.LeadsIn links place names reached)
    (direct : tree.Direct place) : tree.Direct reached := by
  induction leads with
  | here place => exact direct
  | up _ ih => exact ih (direct.above (List.dropLast_prefix _))
  | passed down other _ ih => exact ih (direct.concat down other)
  | followed down link _ _ ih ih' =>
      apply ih'
      apply ih
      split
      · exact direct
      · exact direct_nil tree

/-- Following a way without links never comes to too many of them. -/
theorem Direct.walk_ne_loop (direct : tree.Direct (place ++ names)) (followLast : Bool)
    (links : Nat) : tree.walk followLast links place names ≠ .error .loop := by
  induction names generalizing place with
  | nil =>
      rw [walk]
      rintro ⟨⟩
  | cons name rest ih =>
      have next : place ++ [name] ++ rest = place ++ name :: rest := by simp
      rw [← next] at direct
      have down : name ≠ ".." := by
        rintro rfl
        exact direct.down (by simp)
      cases start : tree.node? place with
      | none =>
          rw [walk_of_empty start]
          rintro ⟨⟩
      | some node =>
          -- only a link can lead around in a loop, and a direct place has none above it
          by_cases directory : node = .directory
          · subst directory
            cases here : tree.node? (place ++ [name]) with
            | none =>
                rw [walk_to_empty start down here]
                split <;> rintro ⟨⟩
            | some node =>
                have other (target : Pathname) : node ≠ .link target := by
                  rintro rfl
                  exact direct.unlinked _ (List.prefix_append _ _) target here
                rw [walk_to_other start down here other]
                exact ih direct
          · rw [walk_of_other start directory]
            rintro ⟨⟩

/-! ## Trees as they are -/

/-- A file tree in which each thing has its own place, in a directory. -/
structure Regular (tree : FileTree) : Prop where
  distinct : (tree.nodes.map (·.1)).Nodup
  within : ∀ place ∈ tree.nodes.map (·.1), ∃ above name, place = above ++ [name] ∧
    tree.node? above = some .directory ∧ name ≠ ".." ∧ '\x00' ∉ name.toList
  current : tree.node? tree.current = some .directory

theorem node?_isSome_iff (below : place ≠ []) :
    (∃ node, tree.node? place = some node) ↔ place ∈ tree.nodes.map (·.1) := by
  have filled : place.isEmpty = false := by simpa using below
  rw [node?, filled]
  change (∃ node, tree.nodes.lookup place = some node) ↔ _
  induction tree.nodes with
  | nil => simp
  | cons first rest ih =>
      rw [List.lookup_cons, List.map_cons, List.mem_cons, ← ih]
      cases same : place == first.1 with
      | true => exact iff_of_true ⟨first.2, rfl⟩ (.inl (beq_iff_eq.mp same))
      | false =>
          have other : place ≠ first.1 := beq_eq_false_iff_ne.mp same
          exact (or_iff_right other).symm

theorem Regular.direct (regular : tree.Regular) {place : Place}
    (directory : tree.node? place = some .directory) : tree.Direct place := by
  induction place using List.reverseRecOn with
  | nil => exact direct_nil tree
  | append_singleton above name ih =>
      obtain ⟨above', name', same, directory', down, -⟩ := regular.within (above ++ [name])
        ((node?_isSome_iff (by simp)).mp ⟨_, directory⟩)
      obtain ⟨rfl, rfl⟩ := List.append_singleton_inj.mp same
      refine (ih directory').concat down fun target link => ?_
      rw [directory] at link
      cases link

/-- In a regular tree without loops a path name leads to the place that is found, and there is no
link on the way to it. -/
theorem Regular.resolve_spec (regular : tree.Regular) (loopless : tree.Loopless)
    (path : Pathname) :
    (∃ links, tree.LeadsIn links (tree.origin path) path.names (tree.resolve path)) ∧
      tree.Direct (tree.resolve path) := by
  obtain ⟨links, reached, leads⟩ := loopless.exists_leadsIn (tree.origin path) path.names
  have start : tree.Direct (tree.origin path) := by
    rw [origin]
    split
    · exact regular.direct regular.current
    · exact direct_nil tree
  rw [leads.resolve_eq]
  exact ⟨⟨links, leads⟩, leads.direct start⟩

/-- In a regular tree without loops the place of a path name can be told unless the name holds a
null character. -/
theorem Regular.placeError?_eq_none_iff (regular : tree.Regular) (loopless : tree.Loopless)
    {path : Pathname} : tree.placeError? path = none ↔ path.hasNull = false := by
  rw [placeError?]
  cases null : path.hasNull with
  | true =>
      have nowhere : tree.contains path = false := by
        rw [contains, find?, locate, if_pos null]
        rfl
      rw [nowhere]
      constructor <;> rintro ⟨⟩
  | false =>
      have told : tree.walk true maxLinks [] (tree.resolve path) ≠ .error .loop :=
        (regular.resolve_spec loopless path).2.walk_ne_loop true maxLinks
      refine iff_of_true ?_ rfl
      split
      · rfl
      · rw [if_neg Bool.false_ne_true]
        dsimp only
        split
        · exact absurd ‹_› told
        · rfl

end FileTree

end SignatureLint
