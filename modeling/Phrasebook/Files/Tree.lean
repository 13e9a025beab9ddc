import Phrasebook.Error.Io

/-!
# File trees

A tree of files and directories held in memory, standing for a directory on disk: each entry
is keyed by its path of names from the root, a name being raw bytes, and is a file with its
contents or a directory. Adding an entry adds the directories above it.

A `Place` is a path as a program names it: the text it shows and the names it is made of.
Looking a place up walks its names from the root: `..` goes up (not above the root), a name
below a file fails with `notADirectory` and a missing name with `notFound`.

* `Tree.listDir`   the names in a directory;
* `Tree.readText`  the contents of a file, which must be UTF-8;
* `Tree.isDir`, `Tree.isFile`, `Tree.isPresent`  what a place is;
* `Tree.openAppend`  whether a file could be opened for appending, creating it if need be.
-/

namespace Phrasebook.Files

/-- a name in a directory, as raw bytes -/
abbrev Name := List UInt8

/-- what an entry is -/
inductive Entry where
  | file (contents : List UInt8)
  | dir

/-- files and directories, keyed by their path from the root -/
structure Tree where
  entries : List (List Name × Entry) := []

def nameOf (s : String) : Name := s.toUTF8.toList

def Name.text? (n : Name) : Option String := String.fromUTF8? ⟨n.toArray⟩

def namesOf (path : String) : List Name :=
  ((path.splitOn "/").filter fun s => s != "" && s != ".").map nameOf

namespace Tree

def entry? (t : Tree) (path : List Name) : Option Entry :=
  if path.isEmpty then some .dir else (t.entries.find? (·.1 == path)).map (·.2)

def put (t : Tree) (path : List Name) (e : Entry) : Tree :=
  ⟨(t.entries.filter (·.1 != path)) ++ [(path, e)]⟩

def addDir (t : Tree) (path : List Name) : Tree :=
  (List.range path.length).foldl (fun t i =>
    let p := path.take (i + 1)
    match t.entry? p with
    | some _ => t
    | none => t.put p .dir) t

def addFile (t : Tree) (path : List Name) (contents : List UInt8) : Tree :=
  (t.addDir path.dropLast).put path (.file contents)

def resolve (t : Tree) : List Name → List Name → Except IoError (List Name)
  | here, [] => .ok here
  | here, n :: rest =>
    if n == nameOf ".." then resolve t here.dropLast rest
    else
      match t.entry? here with
      | some .dir =>
        let next := here ++ [n]
        match t.entry? next, rest with
        | none, _ => .error .notFound
        | some (.file _), _ :: _ => .error .notADirectory
        | some _, _ => resolve t next rest
      | some (.file _) => .error .notADirectory
      | none => .error .notFound

def lookup (t : Tree) (names : List Name) : Except IoError (List Name × Entry) := do
  let path ← t.resolve [] names
  match t.entry? path with
  | some e => pure (path, e)
  | none => .error .notFound

/-- the names in a directory -/
def listDir (t : Tree) (names : List Name) : Except IoError (List Name) := do
  match ← t.lookup names with
  | (path, .dir) =>
    pure (t.entries.filterMap fun (p, _) =>
      if p.length == path.length + 1 && p.take path.length == path then p.getLast? else none)
  | (_, .file _) => .error .notADirectory

/-- the contents of a file as text -/
def readText (t : Tree) (names : List Name) : Except IoError String := do
  match ← t.lookup names with
  | (_, .file bytes) =>
    match String.fromUTF8? ⟨bytes.toArray⟩ with
    | some s => pure s
    | none => .error .invalidUtf8
  | (_, .dir) => .error .isADirectory

/-- whether a place is a directory -/
def isDir (t : Tree) (names : List Name) : Bool :=
  match t.lookup names with
  | .ok (_, .dir) => true
  | _ => false

/-- whether a place is a file -/
def isFile (t : Tree) (names : List Name) : Bool :=
  match t.lookup names with
  | .ok (_, .file _) => true
  | _ => false

/-- whether anything is at a place -/
def isPresent (t : Tree) (names : List Name) : Bool := (t.lookup names).toBool

/-- whether a file could be opened for appending: its directory must exist, and it must not
be a directory itself -/
def openAppend (t : Tree) (names : List Name) : Except IoError Unit :=
  match t.lookup names with
  | .ok (_, .dir) => .error .isADirectory
  | .ok (_, .file _) => .ok ()
  | .error .notFound =>
    match t.lookup names.dropLast with
    | .ok (_, .dir) => .ok ()
    | .ok (_, .file _) => .error .notADirectory
    | .error e => .error e
  | .error e => .error e

end Tree

/-- a path as a program names it: the text shown for it and the names it is made of -/
structure Place where
  shown : String
  names : List Name

def Place.join (p : Place) (n : Name) : Place :=
  let text := (n.text?).getD "\uFFFD"
  ⟨if p.shown.endsWith "/" || p.shown.isEmpty then p.shown ++ text else p.shown ++ "/" ++ text,
    p.names ++ [n]⟩

def Place.below (p : Place) (path : String) : Place :=
  ⟨if p.shown.endsWith "/" || p.shown.isEmpty then p.shown ++ path else p.shown ++ "/" ++ path,
    p.names ++ namesOf path⟩

theorem Tree.entry?_root (t : Tree) : t.entry? [] = some .dir := rfl

end Phrasebook.Files
