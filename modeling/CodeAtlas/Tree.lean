import CodeAtlas.Fault
import CodeAtlas.Text.Cut

/-! Directory trees: finding a path in one, and listing its files. A symbolic link is a leaf of the
tree that says what it leads to. It is assumed that this does not change while the tree stands, and
what lies behind a link to a folder is left out: no path goes on from a link. -/
namespace CodeAtlas

inductive LinkEnd where
  | file
  | folder
  | nowhere
deriving DecidableEq, Repr

inductive Tree where
  | file
  | folder (entries : List (Text × Tree))
  | link (target : LinkEnd)
deriving Inhabited

namespace Tree

def empty : Tree := .folder []

def isFolder : Tree → Bool
  | .folder _ => true
  | _ => false

/-- What is found in a place when links are followed; a folder behind one looks empty. -/
def seen? : Tree → Option Tree
  | .file => some .file
  | .folder entries => some (.folder entries)
  | .link .file => some .file
  | .link .folder => some empty
  | .link .nowhere => none

theorem seen?_ne_link (t : Tree) (target : LinkEnd) : t.seen? ≠ some (.link target) := by
  cases t with
  | file | folder entries => simp [seen?]
  | link target' => cases target' <;> simp [seen?, empty]

/-- The tree with `node` at the given names, and folders on the way there. What stands in the way
and is no folder stays. -/
def insert (node : Tree) : List Text → Tree → Tree
  | [], _ => node
  | _ :: _, .file => .file
  | _ :: _, .link target => .link target
  | name :: names, .folder entries =>
    let old := (entries.lookup name).getD empty
    let new := if names.isEmpty then
        (if node.isFolder && (entries.lookup name).isSome then old else node)
      else insert node names old
    .folder (entries.filter (·.1 != name) ++ [(name, new)])

/-- Makes the parts of a path from the place at the given names on: folders on the way, and a file
at the end unless the last part is empty. A dot stays in place, and two dots go to the folder above;
what is above the top is not made. -/
def makeFrom (place : List Text) : List Text → Tree → Tree
  | [], t => t
  | part :: parts, t =>
    if part == "" || part == "." then makeFrom place parts t
    else if part == ".." then
      if place.isEmpty then t else makeFrom place.dropLast parts t
    else
      let next := place ++ [part]
      makeFrom next parts (insert (if parts.isEmpty then .file else empty) next t)

def make (t : Tree) (path : Text) : Tree := makeFrom [] (Text.split '/' path) t

def ofPaths (paths : List Text) : Tree := paths.foldl make empty

/-- Follows the parts of a path from a place in a tree, given the folders above it. A part that is
empty or a dot stays in a folder, two dots go to the folder above, and at the top stay there. A link
at the end is not followed. -/
def follow : List Tree → Tree → List Text → Option Tree
  | _, t, [] => some t
  | _, .file, _ :: _ => none
  | _, .link _, _ :: _ => none
  | above, .folder entries, part :: parts =>
    if part == "" || part == "." then follow above (.folder entries) parts
    else if part == ".." then
      match above with
      | [] => follow [] (.folder entries) parts
      | parent :: rest => follow rest parent parts
    else match entries.lookup part with
      | none => none
      | some child => follow (.folder entries :: above) child parts

def find? (t : Tree) (path : Text) : Option Tree := (follow [] t (Text.split '/' path)).bind seen?

def isHidden (name : Text) : Bool := Text.startsWith "." name

mutual
/-- The files of a tree as paths from its top, without anything whose name starts with a dot. A link
counts as a file unless it leads to a folder, even if it leads nowhere. -/
def visible : Tree → List (List Text)
  | .file => [[]]
  | .folder entries => visibleEntries entries
  | .link target => if target = .folder then [] else [[]]

def visibleEntries : List (Text × Tree) → List (List Text)
  | [] => []
  | (name, t) :: rest =>
    (if isHidden name then [] else (visible t).map (name :: ·)) ++ visibleEntries rest
end

/-- The files below a folder. A disk gives them in any order; here it is fixed to that of their code
points. -/
def listing : Tree → List Text
  | .folder entries => ((visibleEntries entries).map (Text.intercalate "/" ·)).mergeSort (· ≤ ·)
  | _ => []

inductive Retry where
  | removeFile
  | removeFolder
  | readMode

structure RetryOutcome where
  isThere : Bool
  /-- The permission bits that were read. -/
  modes : List Nat
  fault : Option Fault

/-- Why a path is not there: a file stands where a folder is needed, or something is missing. -/
def missingFault (t : Tree) (path : Text) : Fault :=
  let parts := Text.split '/' path
  let blocked := (List.range parts.length).any fun i =>
    match (follow [] t (parts.take i)).bind seen? with
    | some .file => true
    | _ => false
  if blocked then .notDirectory else .noSuchFile

/-- The permission bits that allow writing and nothing else. -/
def writeOnly : Nat := 128

/-- Whether a path names a folder from within: its last part that is not empty is one dot or two. -/
def endsInDots (path : Text) : Bool :=
  match ((Text.split '/' path).filter fun part => !part.isEmpty).getLast? with
  | some part => part == "." || part == ".."
  | none => false

/-- Makes a path writable, and nothing but writable, and tries again what failed. A folder that is
still there can then no longer be entered, not even to clean up; one that is named from within is
not removed. Of a link the permissions are those of what it leads to, but the link is removed. -/
def retry (t : Tree) (path : Text) (action : Retry) : Except Fault RetryOutcome :=
  match follow [] t (Text.split '/' path), action with
  | none, _ | some (.link .nowhere), _ => .ok ⟨false, [], some (t.missingFault path)⟩
  | some .file, .removeFile | some (.link _), .removeFile => .ok ⟨false, [], none⟩
  | some .file, .removeFolder | some (.link _), .removeFolder =>
    .ok ⟨true, [], some .notDirectory⟩
  | some .file, .readMode | some (.link _), .readMode => .ok ⟨true, [writeOnly], none⟩
  | some (.folder []), .removeFolder =>
    if endsInDots path then .error .notPermitted else .ok ⟨false, [], none⟩
  | some (.folder _), _ => .error .notPermitted

end Tree

end CodeAtlas
