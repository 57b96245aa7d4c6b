import TagSelect.Settings.File

/-!
# Folders

A program runs in a folder and finds files by their paths from there. A path is walked step by
step: every step but the first is taken from a folder, so nothing is found behind a file, and a
step through a folder that is missing leads nowhere, even if the next step goes back.

Outside the folder only the folders above it are known, and no file of theirs.
-/

namespace TagSelect

/-- The files of a folder, each with the names that lead to it. -/
structure Folder where
  files : List (List String × ByteArray)

namespace Folder

/-- A place on the way along a path. -/
inductive Place where
  /-- The file or the folder to which names lead. -/
  | inside (names : List String)
  /-- A folder above. -/
  | outside
deriving DecidableEq, Repr

/-- The folder with the given files. -/
def ofList (files : List (String × ByteArray)) : Folder where
  files := files.map fun (path, content) =>
    ((path.splitOn "/").filter fun name => name != "" && name != ".", content)

/-- The content of the file to which names lead. -/
def file? (d : Folder) (names : List String) : Option ByteArray :=
  d.files.lookup names

/-- Whether a place is a folder. -/
def isFolder (d : Folder) : Place → Bool
  | .outside => true
  | .inside [] => true
  | .inside names => d.files.any fun (path, _) => names != path && names.isPrefixOf path

/-- Goes from a folder to the one above it. -/
def Place.up : Place → Place
  | outside => outside
  | inside [] => outside
  | inside names => inside names.dropLast

/-- Goes from a folder to what it has under a name. -/
def down? (d : Folder) (name : String) : Place → Option Place
  | .outside => none
  | .inside names =>
    let place := .inside (names ++ [name])
    if d.isFolder place || (d.file? (names ++ [name])).isSome then some place else none

/-- Takes a step of a path. -/
def step? (d : Folder) (place : Place) (step : String) : Option Place :=
  if !d.isFolder place then none
  else if step = "" || step = "." then some place
  else if step = ".." then some place.up
  else d.down? step place

/-- The number of bytes that a path may not reach. -/
def pathLimit : Nat := 4096

/-- The place to which a path leads. A path that begins with a slash is walked from the highest
folder. -/
def place? (d : Folder) (path : String) : Option Place :=
  if path.isEmpty || pathLimit ≤ path.utf8ByteSize then none
  else
    let start := if path.startsWith "/" then .outside else .inside []
    (path.splitOn "/").foldlM d.step? start

/-- What there is at a path. -/
def content (d : Folder) (path : String) : FileContent :=
  match d.place? path with
  | none => .missing
  | some .outside => .unreadable .isDirectory
  | some (.inside names) =>
    match d.file? names with
    | some content => .bytes content
    | none => .unreadable .isDirectory

/-- Nothing is found behind a file. -/
theorem step?_eq_none {d : Folder} {place : Place} (h : d.isFolder place = false)
    (step : String) : d.step? place step = none := by
  simp [step?, h]

end Folder

end TagSelect
