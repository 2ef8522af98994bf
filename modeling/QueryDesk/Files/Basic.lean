import QueryDesk.Text.Utf8

/-!
# Files

A snapshot of files and folders, each at an absolute location, and the folder that relative paths
start from.  Every location above an entry or above that folder is a folder.  Paths are resolved by
their text: a dot stays, two dots go up.
-/

namespace QueryDesk.Files

open QueryDesk.Text

/-- A file with its content, or a folder. -/
inductive Entry where
  | file (content : Bytes)
  | folder
deriving DecidableEq, Repr

/-- The names on the way from the root. -/
abbrev Location := List String

/-- Why a file operation fails. -/
inductive Failure where
  | missing
  | isFolder
  | notFolder
  | alreadyThere
  | notText
deriving DecidableEq, Repr

/-- The wording of a failure. -/
def Failure.message : Failure → String
  | .missing => "No such file or directory (os error 2)"
  | .isFolder => "Is a directory (os error 21)"
  | .notFolder => "Not a directory (os error 20)"
  | .alreadyThere => "File exists (os error 17)"
  | .notText => "stream did not contain valid UTF-8"

end QueryDesk.Files

namespace QueryDesk

open QueryDesk.Files QueryDesk.Text

/-- Files and folders, and the folder that relative paths start from. -/
structure Files where
  here : Location
  entries : List (Location × Entry)
deriving DecidableEq, Repr

namespace Files

/-! ## Paths -/

/-- The names between slashes. -/
def names : List Char → List (List Char)
  | [] => [[]]
  | c :: rest =>
    if c = '/' then [] :: names rest
    else match names rest with
      | first :: others => (c :: first) :: others
      | [] => [[c]]

/-- Follows names from a location on. -/
def walk : Location → List String → Location
  | here, [] => here
  | here, "" :: rest => walk here rest
  | here, "." :: rest => walk here rest
  | here, ".." :: rest => walk here.dropLast rest
  | here, name :: rest => walk (here ++ [name]) rest

/-- Whether a path starts from the root. -/
def isAbsolute (path : String) : Bool :=
  "/".toList.isPrefixOf path.toList

/-- The location of a path. -/
def locate (fs : Files) (path : String) : Location :=
  walk (if isAbsolute path then [] else fs.here) ((names path.toList).map String.ofList)

/-- Whether a path can only be that of a folder. -/
def endsInSlash (path : String) : Bool :=
  "/".toList.isPrefixOf path.toList.reverse

/-- A path followed by a name. -/
def join (path name : String) : String :=
  if path.isEmpty || endsInSlash path then path ++ name else path ++ "/" ++ name

/-- The path of the folder that a path's last name is in; empty when it has one name only. -/
def parent (path : String) : String :=
  let trimmed := path.toList.reverse.dropWhile (· == '/')
  match trimmed.dropWhile (· != '/') with
  | [] => ""
  | slash :: above =>
    let kept := above.dropWhile (· == '/')
    String.ofList (if kept.isEmpty then [slash] else kept.reverse)

/-! ## Reading -/

/-- Whether a location is above another one, or the same. -/
def isAbove (location other : Location) : Bool :=
  location.isPrefixOf other

/-- The entry at a location. -/
def entryAt (fs : Files) (location : Location) : Option Entry :=
  match fs.entries.lookup location with
  | some entry => some entry
  | none =>
    if isAbove location fs.here || fs.entries.any fun (other, _) => isAbove location other then
      some .folder
    else none

/-- The entry of a path. -/
def find? (fs : Files) (path : String) : Option Entry :=
  if path.isEmpty then none
  else match fs.entryAt (fs.locate path) with
    | some (.file content) => if endsInSlash path then none else some (.file content)
    | other => other

/-- Whether there is a file or a folder. -/
def has (fs : Files) (path : String) : Bool :=
  (fs.find? path).isSome

/-- Whether a file stands on the way to a location. -/
def isBlocked (fs : Files) (location : Location) : Bool :=
  (List.range location.length).any fun n =>
    match fs.entryAt (location.take n) with
    | some (.file _) => true
    | _ => false

/-- Why a path has no entry. -/
def absence (fs : Files) (path : String) : Failure :=
  let location := fs.locate path
  if fs.isBlocked location || (fs.entryAt location).isSome then .notFolder else .missing

/-- The content of a file as text. -/
def readText (fs : Files) (path : String) : Except Failure String :=
  match fs.find? path with
  | none => .error (if path.isEmpty then .missing else fs.absence path)
  | some .folder => .error .isFolder
  | some (.file content) => match Utf8.text? content with
    | none => .error .notText
    | some text => .ok text

/-- The paths of the files below the present folder, in order. -/
def listing (fs : Files) : List String :=
  let paths := fs.entries.filterMap fun (location, entry) => match entry with
    | .file _ =>
      if isAbove fs.here location then
        some ("/".intercalate (location.drop fs.here.length))
      else none
    | .folder => none
  paths.mergeSort fun a b => decide (a ≤ b)

/-! ## Writing -/

/-- Makes a folder and all folders above it. -/
def makeFolders (fs : Files) (path : String) : Except Failure Files :=
  let location := fs.locate path
  if fs.isBlocked location then .error .notFolder
  else match fs.entryAt location with
    | some .folder => .ok fs
    | some (.file _) => .error .alreadyThere
    | none => .ok { fs with entries := fs.entries ++ [(location, .folder)] }

/-- Makes an empty file if there is none. -/
def touch (fs : Files) (path : String) : Files :=
  if fs.has path then fs
  else { fs with entries := fs.entries ++ [(fs.locate path, .file [])] }

end Files

end QueryDesk
