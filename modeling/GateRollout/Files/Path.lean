/-!
# Paths

File names with components between slashes.
-/

namespace GateRollout.Path

/-- The components between slashes, empty ones and `.` left out. -/
def components (p : String) : List String :=
  (p.splitOn "/").filter fun c => !(c.isEmpty || c == ".")

/-- Whether a path starts at the root. -/
def isAbsolute (p : String) : Bool := p.startsWith "/"

/-- A path below another; an absolute path stays as it is. -/
def join (base p : String) : String :=
  if isAbsolute p then p
  else if base.isEmpty || base.endsWith "/" then base ++ p
  else base ++ "/" ++ p

/-- What a path has in front of its components: one slash for any number of them, but two slashes are
kept, since they may name another root. -/
def root (p : String) : String :=
  if !isAbsolute p then ""
  else if p.startsWith "//" && !p.startsWith "///" then "//"
  else "/"

/-- The path with some components after a root. -/
def ofComponents (root : String) (cs : List String) : String :=
  if root.isEmpty && cs.isEmpty then "." else root ++ "/".intercalate cs

/-- A path without empty components and without `.`; components `..` stay. -/
def clean (p : String) : String := ofComponents (root p) (components p)

/-- The path that a path lies in. -/
def parent (p : String) : String := ofComponents (root p) (components p).dropLast

/-- Components with every `..` taken back. -/
def withoutUps (cs : List String) : List String :=
  cs.foldl (fun before c => if c == ".." then before.dropLast else before ++ [c]) []

/-- The absolute path that a path means in a directory, every `..` taken back. -/
def absolute (directory p : String) : String :=
  let q := join directory p
  ofComponents (root q) (withoutUps (components q))

end GateRollout.Path
