import GateRollout.Files.Path
import GateRollout.Failure

/-!
# File trees

A snapshot of the files that a program may touch: which directories there are, and what each file
holds.  Names are looked up component by component, so that a file is never a directory on the way.
-/

namespace GateRollout

/-- What a path leads to. -/
inductive FileEntry where
  | directory
  | file (content : List UInt8)
  deriving Repr, DecidableEq

/-- Why a path cannot be used. -/
inductive FileFault where
  | notFound
  | notDirectory
  | isDirectory
  | alreadyExists
  /-- No path may hold the character of code zero. -/
  | nulCharacter
  deriving Repr, DecidableEq

/-- A fault at a path as a failure. -/
def FileFault.toFailure (path : String) : FileFault → Failure
  | notFound => .fault ⟨.ofNumber 2, s!"[Errno 2] No such file or directory: {Text.quoted path}"⟩
  | alreadyExists => .fault ⟨.ofNumber 17, s!"[Errno 17] File exists: {Text.quoted path}"⟩
  | notDirectory => .fault ⟨.ofNumber 20, s!"[Errno 20] Not a directory: {Text.quoted path}"⟩
  | isDirectory => .fault ⟨.ofNumber 21, s!"[Errno 21] Is a directory: {Text.quoted path}"⟩
  | nulCharacter => .fault ⟨.wrongValue, "embedded null byte"⟩

/-- Files below the root, each under its components, and the directory in which relative paths
start. -/
structure FileTree where
  workingDirectory : List String
  entries : List (List String × FileEntry)

namespace FileTree

/-- What lies at some components; the root is a directory. -/
def find? (t : FileTree) (at_ : List String) : Option FileEntry :=
  if at_.isEmpty then some .directory else (t.entries.find? (·.1 == at_)).map (·.2)

/-- Follow components from a directory: the place they lead to, whose last component need not exist. -/
def follow (t : FileTree) (place : List String) : List String → Except FileFault (List String)
  | [] => .ok place
  | c :: rest =>
    match t.find? place with
    | none => .error .notFound
    | some (.file _) => .error .notDirectory
    | some .directory =>
      if c == ".." then t.follow place.dropLast rest else t.follow (place ++ [c]) rest

/-- The place that a path leads to. -/
def resolve (t : FileTree) (p : String) : Except FileFault (List String) := do
  if p.contains (Char.ofNat 0) then throw .nulCharacter
  if p.isEmpty then throw .notFound
  let place ← t.follow (if Path.isAbsolute p then [] else t.workingDirectory) (Path.components p)
  match p.endsWith "/", t.find? place with
  | true, some (.file _) => throw .notDirectory
  | _, _ => return place

/-- What a path leads to. -/
def lookup (t : FileTree) (p : String) : Except FileFault FileEntry := do
  match t.find? (← t.resolve p) with
  | some e => return e
  | none => throw .notFound

/-- Whether a path leads to anything. -/
def contains (t : FileTree) (p : String) : Bool := (t.lookup p).isOk

/-- The content of a file. -/
def read (t : FileTree) (p : String) : Except FileFault (List UInt8) := do
  match ← t.lookup p with
  | .file content => return content
  | .directory => throw .isDirectory

/-- Put an entry at a place. -/
def put (t : FileTree) (place : List String) (e : FileEntry) : FileTree :=
  { t with entries := t.entries.filter (·.1 != place) ++ [(place, e)] }

/-- Add to the end of a file, which is made where there is none. -/
def append (t : FileTree) (p : String) (bytes : List UInt8) : Except FileFault FileTree := do
  let place ← t.resolve p
  match t.find? place with
  | some (.file content) => return t.put place (.file (content ++ bytes))
  | some .directory => throw .isDirectory
  | none =>
    if p.endsWith "/" then throw .isDirectory
    match t.find? place.dropLast with
    | some .directory => return t.put place (.file bytes)
    | some (.file _) => throw .notDirectory
    | none => throw .notFound

/-- A place after what lies at `source` was given the place `target`. -/
def movedPlace (source target at_ : List String) : List String :=
  if source.isPrefixOf at_ then target ++ at_.drop source.length else at_

/-- Give what lies at a path another path, in place of a file that lies there. -/
def move (t : FileTree) (p q : String) : Except FileFault FileTree := do
  let source ← t.resolve p
  let target ← t.resolve q
  if (t.find? source).isNone then throw .notFound
  if t.find? target == some .directory then throw .isDirectory
  match t.find? target.dropLast with
  | some .directory =>
    let others := t.entries.filter fun e => e.1 != target
    return { t with entries := others.map fun e => (movedPlace source target e.1, e.2) }
  | some (.file _) => throw .notDirectory
  | none => throw .notFound

/-- Make a directory at some components from a place; nothing may be there yet. -/
def makeDirectory (t : FileTree) (start cs : List String) : Except FileFault FileTree := do
  let place ← t.follow start cs
  if (t.find? place).isSome then throw .alreadyExists else return t.put place .directory

/-- Make a directory unless there is one. -/
def ensureDirectory (t : FileTree) (start cs : List String) : Except FileFault FileTree :=
  match t.makeDirectory start cs, t.follow start cs with
  | .ok t, _ => .ok t
  | .error e, .ok place => if t.find? place == some .directory then .ok t else .error e
  | .error e, .error _ => .error e

/-- Make a directory at some components, the last of them first; the directories on the way are made only
where there is no way. -/
def makeAlong (t : FileTree) (start : List String) : List String → Except FileFault FileTree
  | [] => t.ensureDirectory start []
  | c :: before =>
    let cs := (c :: before).reverse
    match t.makeDirectory start cs with
    | .error .notFound => do (← t.makeAlong start before).ensureDirectory start cs
    | _ => t.ensureDirectory start cs

/-- Make a directory with all directories on the way; one that exists is left as it is. -/
def makeDirectories (t : FileTree) (p : String) : Except FileFault FileTree :=
  if p.contains (Char.ofNat 0) then .error .nulCharacter
  else
    t.makeAlong (if Path.isAbsolute p then [] else t.workingDirectory) (Path.components p).reverse

/-- A tree that holds nothing but a working directory. -/
def ofWorkingDirectory (p : String) : FileTree :=
  let cs := Path.components p
  let empty : FileTree := ⟨cs, []⟩
  (empty.makeAlong [] cs.reverse).toOption.getD empty

end FileTree

end GateRollout
