import Mathlib.Data.List.Basic

/-!
# Paths and symbolic links

A disk has files, directories and symbolic links at locations, which are the names from the root on. A
path is resolved name by name, and the target of a link takes its place; at most a number of links are
followed. What is found that way is not a link, and only directories are on the way to it.
-/

namespace Syfrah

namespace Disk

inductive Node
  | file (content : String)
  | dir
  | link (target : String)
deriving DecidableEq

abbrev Location := List String

end Disk

structure Disk where
  node : Disk.Location → Option Disk.Node
  root : node [] = some .dir

namespace Disk

/-- The names of a path; an absolute path has an empty one in front. -/
def names (path : String) : List String := (path.toList.splitOn '/').map String.ofList

def isAbsolute (path : String) : Bool := path.toList.head? = some '/'

/-- Walk along names from a location. `follow` goes on behind a link. -/
def walkNames (disk : Disk) (follow : Location → List String → Option Location) :
    Location → List String → Option Location
  | here, [] => some here
  | here, name :: rest =>
    if disk.node here = some .dir then
      if name = "" ∨ name = "." then walkNames disk follow here rest
      else if name = ".." then walkNames disk follow here.dropLast rest
      else
        match disk.node (here ++ [name]) with
        | none => none
        | some (.link target) => follow (if isAbsolute target then [] else here) (names target ++ rest)
        | some _ => walkNames disk follow (here ++ [name]) rest
    else none

def walk (disk : Disk) : ℕ → Location → List String → Option Location
  | 0 => walkNames disk fun _ _ => none
  | links + 1 => walkNames disk (walk disk links)

/-- The location of a path, if it exists. The working directory is the root. -/
def canonicalize (disk : Disk) (path : String) : Option Location := disk.walk 40 [] (names path)

def pathExists (disk : Disk) (path : String) : Bool := (disk.canonicalize path).isSome

def readToString (disk : Disk) (path : String) : Option String :=
  match (disk.canonicalize path).bind disk.node with
  | some (.file content) => some content
  | _ => none

def isDir (disk : Disk) (path : String) : Bool := (disk.canonicalize path).bind disk.node = some .dir

/-- Directories lead to the location, and there is no link at it. -/
structure Physical (disk : Disk) (here : Location) : Prop where
  parents : ∀ above, above <+: here → above ≠ here → disk.node above = some .dir
  present : ∃ node, disk.node here = some node ∧ ∀ target, node ≠ .link target

variable {disk : Disk} {here found : Location} {follow : Location → List String → Option Location}

theorem physical_root (disk : Disk) : disk.Physical [] :=
  ⟨fun _ h hne => absurd (List.prefix_nil.mp h) hne, .dir, disk.root, nofun⟩

theorem Physical.child (h : disk.Physical here) (hdir : disk.node here = some .dir) {name : String} {node : Node}
    (hnode : disk.node (here ++ [name]) = some node) (hlink : ∀ target, node ≠ .link target) :
    disk.Physical (here ++ [name]) := by
  refine ⟨fun above habove hne => ?_, node, hnode, hlink⟩
  rcases List.prefix_concat_iff.mp habove with heq | hinitial
  · exact absurd heq hne
  · by_cases heq : above = here
    · rw [heq, hdir]
    · exact h.parents above hinitial heq

theorem Physical.dropLast (h : disk.Physical here) : disk.Physical here.dropLast := by
  have hinitial : here.dropLast <+: here := List.dropLast_prefix here
  by_cases heq : here.dropLast = here
  · rwa [heq]
  · refine ⟨fun above habove hne => h.parents above (habove.trans hinitial) fun hsame => ?_,
      .dir, h.parents _ hinitial heq, nofun⟩
    subst hsame
    exact hne (habove.eq_of_length_le hinitial.length_le)

theorem walkNames_physical (hfollow : ∀ here rest found, disk.Physical here → follow here rest = some found →
    disk.Physical found) (rest : List String) (h : disk.Physical here)
    (hwalk : disk.walkNames follow here rest = some found) : disk.Physical found := by
  induction rest generalizing here with
  | nil =>
      cases hwalk
      exact h
  | cons name rest ih =>
      rw [walkNames] at hwalk
      split at hwalk
      case isFalse => cases hwalk
      case isTrue hdir =>
        split at hwalk
        · exact ih h hwalk
        · split at hwalk
          · exact ih h.dropLast hwalk
          · split at hwalk
            case h_1 => cases hwalk
            case h_2 target _ =>
              refine hfollow _ _ _ ?_ hwalk
              split
              · exact physical_root disk
              · exact h
            case h_3 node hlink hnode => exact ih (h.child hdir hnode hlink) hwalk

/-- **A resolved path has no links left.** -/
theorem walk_physical {links : ℕ} {rest : List String} (h : disk.Physical here)
    (hwalk : disk.walk links here rest = some found) : disk.Physical found := by
  induction links generalizing here rest found with
  | zero => exact walkNames_physical (fun _ _ _ _ hnone => by cases hnone) rest h hwalk
  | succ links ih => exact walkNames_physical (fun here rest found h => ih h) rest h hwalk

theorem canonicalize_physical {path : String} (h : disk.canonicalize path = some found) : disk.Physical found :=
  walk_physical (physical_root disk) h

end Disk

end Syfrah
