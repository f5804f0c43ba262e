import PreviewServer.Text.Utf8

/-!
# File trees

A tree says for each path what is there. Paths are followed component by component from the top of
the tree, as a file system does it: every component but the last has to lead to a directory, `.`
stays and `..` goes up.

## Main definitions

* `Entry`, `FileTree`: what is at a path, and at every path
* `FileTree.write`, `FileTree.remove`: the two changes to a tree
* `FileTree.lookup`: follows components and tells what they lead to

## Main results

* `FileTree.get?_write`, `FileTree.get?_remove`: the two changes, seen at every path
-/

namespace PreviewServer

/-- A path from the top of a tree, by the names of its components. -/
abbrev Path := List String

/-- What can be at a path. -/
inductive Entry where
  | directory
  /-- A file with its contents and the time of its last change in seconds since 1970. -/
  | file (contents : Bytes) (modified : Nat)
  deriving DecidableEq, Repr

/-- A file tree: what is at each path below the top, which is always a directory. -/
structure FileTree where
  below : Path → Option Entry

namespace FileTree

/-- The tree with nothing in it. -/
def empty : FileTree := ⟨fun _ => none⟩

/-- What is at a path. -/
def get? (t : FileTree) (p : Path) : Option Entry :=
  if p = [] then some .directory else t.below p

/-- The tree with an entry put at a path. Directories on the way are made where nothing is. -/
def write (t : FileTree) (p : Path) (e : Entry) : FileTree :=
  ⟨fun q =>
    if q = p then some e
    else if q.isPrefixOf p ∧ t.below q = none then some .directory
    else t.below q⟩

/-- The tree without a path and everything below it. -/
def remove (t : FileTree) (p : Path) : FileTree :=
  ⟨fun q => if p.isPrefixOf q then none else t.below q⟩

@[simp] theorem get?_nil (t : FileTree) : t.get? [] = some .directory := rfl

theorem get?_write (t : FileTree) {p q : Path} (e : Entry) (hq : q ≠ []) :
    (t.write p e).get? q =
      if q = p then some e
      else if q.isPrefixOf p ∧ t.get? q = none then some .directory
      else t.get? q := by
  simp [get?, write, hq]

theorem get?_remove (t : FileTree) (p : Path) {q : Path} (hq : q ≠ []) :
    (t.remove p).get? q = if p.isPrefixOf q then none else t.get? q := by
  simp [get?, remove, hq]

/-! ## Following paths -/

/-- Why a path leads nowhere. -/
inductive LookupError where
  /-- A component names nothing. -/
  | missing
  /-- A component that is no directory is followed by another one. -/
  | notDirectory
  /-- A component is longer than 255 bytes. -/
  | nameTooLong
  /-- A component holds a NUL character. -/
  | illegalName
  deriving DecidableEq, Repr

/-- Follows components from a place in the tree. -/
def follow (t : FileTree) (place : Path) : List String → Except LookupError Path
  | [] => .ok place
  | c :: cs =>
    if t.get? place ≠ some .directory then .error .notDirectory
    else if c = "." then t.follow place cs
    else if c = ".." then t.follow place.dropLast cs
    else if 255 < (utf8 c).length then .error .nameTooLong
    else if t.get? (place ++ [c]) = none then .error .missing
    else t.follow (place ++ [c]) cs

/-- What components lead to from the top of the tree. -/
def lookup (t : FileTree) (cs : List String) : Except LookupError Entry :=
  if cs.any fun c => c.toList.contains '\x00' then .error .illegalName
  else
    match t.follow [] cs with
    | .error e => .error e
    | .ok place =>
      match t.get? place with
      | some e => .ok e
      | none => .error .missing

/-- Whether components lead to a directory. -/
def isDirectory (t : FileTree) (cs : List String) : Bool :=
  match t.lookup cs with
  | .ok .directory => true
  | _ => false

end FileTree

/-! ## Paths in texts -/

/-- The components of a text between its slashes. An empty component means the same as `.`, so a
slash at the end asks for a directory. -/
def components (s : String) : List String :=
  (s.toList.splitOn '/').map fun c => if c.isEmpty then "." else String.ofList c

/-- The components of a text that name something: neither empty ones nor `.` count. -/
def properComponents (s : String) : Path :=
  (components s).filter (· ≠ ".")

end PreviewServer
