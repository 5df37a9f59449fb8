import ContentionCharts.Image.Format

/-!
A tree of files and what a look-up along a path finds in it. An absolute path starts at the root,
any other one in the working folder. Charts are kept by their format and size alone. There are no
links and no permissions: every file can be read, and a file can be put into every folder.
-/
namespace ContentionCharts

inductive ReadError where
  | notFound
  | notADirectory
  | isADirectory
  | denied
  | nameTooLong
  | nulInName
  | notText
  deriving DecidableEq, Repr

def ReadError.message : ReadError → String
  | notFound => "No such file or directory (os error 2)"
  | notADirectory => "Not a directory (os error 20)"
  | isADirectory => "Is a directory (os error 21)"
  | denied => "Permission denied (os error 13)"
  | nameTooLong => "File name too long (os error 36)"
  | nulInName => "file name contained an unexpected NUL byte"
  | notText => "stream did not contain valid UTF-8"

inductive Entry where
  | folder
  | document (bytes : ByteArray)
  | image (format : ImageFormat) (size : Extent)

def Entry.isFolder : Entry → Bool
  | folder => true
  | document _ | image _ _ => false

def Entry.pngSize? : Entry → Option Extent
  | .image .png size => some size
  | .document bytes => ContentionCharts.pngSize? bytes
  | _ => none

/-- What a file becomes when an image is written to it. It is emptied first, so that it stays empty
if its format cannot hold the image. -/
def Entry.drawn (format : ImageFormat) (size : Extent) : Entry :=
  if format.holds size then .image format size else .document .empty

/-- The folders on the way to a folder, outermost first, and the folder itself. -/
def ways : List String → List (List String)
  | [] => []
  | name :: names => [name] :: (ways names).map (name :: ·)

/-- Entries by the names on the way to them from the root, which has no entry. -/
structure Directory where
  working : List String := ["work"]
  entries : List (List String × Entry) := (ways working).map fun way => (way, .folder)

def longestName : Nat := 255

def longestPath : Nat := 4095

namespace Directory

def find? (directory : Directory) (names : List String) : Option Entry :=
  directory.entries.lookup names

def hasFolder (directory : Directory) (names : List String) : Bool :=
  (directory.find? names).any Entry.isFolder

def insert (directory : Directory) (names : List String) (entry : Entry) : Directory :=
  if (directory.find? names).isSome then
    { directory with
      entries := directory.entries.map fun (way, old) => (way, if way = names then entry else old) }
  else { directory with entries := directory.entries ++ [(names, entry)] }

/-- One step from a folder. Above the root there is nothing but the root. -/
def enter (directory : Directory) (folder : List String) (piece : String) :
    Except ReadError (List String) :=
  if piece = "" ∨ piece = "." then .ok folder
  else if piece = ".." then .ok folder.dropLast
  else if longestName < piece.utf8ByteSize then .error .nameTooLong
  else
    let next := folder ++ [piece]
    if directory.hasFolder next then .ok next
    else .error (if (directory.find? next).isSome then .notADirectory else .notFound)

/-- The folder that a path names a file of, and the name; no name if the path ends in a slash or in
dots, so that it can only mean a folder. -/
def locate (directory : Directory) (path : Path) :
    Except ReadError (List String × Option String) := do
  if path.text.contains '\x00' then throw .nulInName
  if path.text.isEmpty then throw .notFound
  if longestPath < path.text.utf8ByteSize then throw .nameTooLong
  let start := if path.isAbsolute then [] else directory.working
  let folder ← path.pieces.dropLast.foldlM directory.enter start
  match path.pieces.getLast? with
  | none | some "" | some "." | some ".." => return (folder, none)
  | some name =>
    if longestName < name.utf8ByteSize then throw .nameTooLong
    return (folder, some name)

def read (directory : Directory) (path : Path) : Except ReadError String := do
  match ← directory.locate path with
  | (_, none) => throw .isADirectory
  | (folder, some name) =>
    match directory.find? (folder ++ [name]) with
    | none => throw .notFound
    | some .folder => throw .isADirectory
    | some (.image _ _) => throw .notText
    | some (.document bytes) =>
      match String.fromUTF8? bytes with
      | some text => return text
      | none => throw .notText

/-- Whether an image can be written to the path, and the tree afterwards. Nothing changes if the
name has no known format, if there is no folder to put the file into, or if a folder is in its
place. -/
def draw (directory : Directory) (path : Path) (size : Extent) : Bool × Directory :=
  match directory.locate path with
  | .error _ | .ok (_, none) => (false, directory)
  | .ok (folder, some name) =>
    match ImageFormat.ofName? name with
    | none => (false, directory)
    | some format =>
      if directory.hasFolder (folder ++ [name]) then (false, directory)
      else (format.holds size, directory.insert (folder ++ [name]) (.drawn format size))

def withFolder (directory : Directory) (names : List String) : Directory :=
  (ways (directory.working ++ names)).foldl (fun grown way => grown.insert way .folder) directory

def withDocument (directory : Directory) (names : List String) (bytes : ByteArray) : Directory :=
  (directory.withFolder names.dropLast).insert (directory.working ++ names) (.document bytes)

def images (directory : Directory) : List (String × Extent) :=
  let below := directory.entries.filter fun (names, _) => directory.working.isPrefixOf names
  let found := below.filterMap fun (names, entry) =>
    entry.pngSize?.map fun size => ("/".intercalate (names.drop directory.working.length), size)
  found.mergeSort fun a b => decide (a.1 ≤ b.1)

end Directory

end ContentionCharts
