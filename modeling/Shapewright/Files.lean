import Shapewright.Failure

/-!
# Files

The part of the file system that a run sees: a tree of directories and texts below the current
directory, given by paths.

* `Files` — the entries by path.
* `Files.locate`, `Files.status` — where a path leads, and what is there.
* `Files.read`, `write`, `makeDirectories`, `walk` — the operations.
* `Files.clean`, `join`, `extension`, `baseName` — paths as texts.
-/

set_option autoImplicit false

namespace Shapewright

/-- What a path can lead to. -/
inductive Entry where
  | file (text : String)
  | directory
  deriving DecidableEq, Repr

/-- Entries by the names that lead to them from the current directory. -/
structure Files where
  entries : List (List String × Entry) := []
  deriving Repr, Inhabited

namespace Files

/-! ## Paths as texts -/

/-- The names of a path, with `..` taken back where that is possible. A path from the root has the
empty name in front. -/
def names (path : String) : List String :=
  (Text.split '/' path).foldl (fun acc name => match name with
    | "" | "." => acc
    | ".." => match acc.getLast? with
      | some "" => acc
      | some ".." | none => acc ++ [".."]
      | some _ => acc.dropLast
    | name => acc ++ [name]) (if Text.startsWith "/" path then [""] else [])

/-- The shortest form of a path. -/
def clean (path : String) : String :=
  let all := names path
  if all.isEmpty then "." else if all == [""] then "/" else "/".intercalate all

/-- A path followed by another. -/
def join (directory name : String) : String :=
  if directory == "" then (if name == "" then "" else clean name)
  else clean (directory ++ "/" ++ name)

/-- The part of the last name from its last dot on. -/
def extension (path : String) : String :=
  let last := path.toList.reverse.takeWhile (· != '/')
  if last.contains '.' then String.ofList ((last.takeWhile (· != '.')).reverse.cons '.') else ""

/-- The last name of a path. -/
def baseName (path : String) : String :=
  if path == "" then "."
  else
    let trimmed := Text.trimRightBy (· == '/') path
    if trimmed == "" then "/" else ((Text.split '/' trimmed).getLast?).getD trimmed

/-! ## Looking -/

/-- The entry that names lead to. The empty list leads to the current directory, the empty name to the
root, and `..` to the directories above. -/
def find? (fs : Files) (names : List String) : Option Entry :=
  if names == [""] || names.all (· == "..") then some .directory else fs.entries.lookup names

/-- The most bytes that a name can have. -/
def longestName : Nat := 255

/-- The most bytes that a path can have. -/
def longestPath : Nat := 4095

/-- The directory above. -/
def above (names : List String) : List String :=
  match names.getLast? with
  | some "" => names
  | some ".." | none => names ++ [".."]
  | some _ => names.dropLast

/-- Follows the parts of a path, each of which has to be looked up in a directory; only what the last
one leads to need not exist. -/
def follow (fs : Files) (here : List String) : List String → Except PathFault (List String)
  | [] => .ok here
  | part :: rest =>
    match fs.find? here with
    | none => .error .missing
    | some (.file _) => .error .notADirectory
    | some .directory =>
      if part == "" || part == "." then fs.follow here rest
      else if part == ".." then fs.follow (above here) rest
      else if longestName < part.utf8ByteSize then .error .nameTooLong
      else fs.follow (here ++ [part]) rest

/-- The names that a path leads to. -/
def locate (fs : Files) (path : String) : Except PathFault (List String) :=
  if path == "" then .error .missing
  else if Text.hasChar '\x00' path then .error .invalid
  else if longestPath < path.utf8ByteSize then .error .nameTooLong
  else fs.follow (if Text.startsWith "/" path then [""] else []) (Text.split '/' path)

/-- What a path leads to. A path that goes through a file leads nowhere, in its own way. -/
def status (fs : Files) (path : String) : Except PathFault Entry := do
  match fs.find? (← fs.locate path) with
  | some e => return e
  | none => throw .missing

/-- The text of a file. -/
def read (fs : Files) (path : String) : Outcome String :=
  match fs.status path with
  | .ok (.file text) => .ok text
  | .ok .directory => .error (.cannotRead path .isADirectory)
  | .error fault => .error (.cannotOpen path fault)

/-- Whether a path leads to something, or could not be looked at. -/
def occupied (fs : Files) (path : String) : Bool :=
  match fs.status path with
  | .error .missing => false
  | _ => true

/-- The names directly below a directory, sorted. -/
def children (fs : Files) (directory : List String) : List String :=
  Text.sorted (Text.firstBy id (fs.entries.filterMap fun (path, _) =>
    if directory.isPrefixOf path then (path.drop directory.length).head?.filter (· != "")
    else none))

/-- The paths at and below a path, each directory before its content and names in order. The first
argument bounds the depth. -/
def walkFrom (fs : Files) : Nat → String → List String
  | 0, path => [path]
  | depth + 1, path =>
    match fs.status path, fs.locate path with
    | .ok .directory, .ok here =>
      path :: (fs.children here).flatMap fun name => walkFrom fs depth (join path name)
    | _, _ => [path]

/-- The paths at and below a path. -/
def walk (fs : Files) (path : String) : List String :=
  fs.walkFrom ((fs.entries.map fun (p, _) => p.length).foldl max 0 + 1) path

/-! ## Changing -/

/-- Binds names to an entry. -/
def insert (fs : Files) (names : List String) (e : Entry) : Files :=
  ⟨(fs.entries.filter fun (p, _) => p != names) ++ [(names, e)]⟩

/-- Adds the directories that lead to some names, and the directory itself. -/
def insertDirectories (fs : Files) (names : List String) : Files :=
  (List.range (names.length + 1)).foldl (fun fs i =>
    if (fs.find? (names.take i)).isSome then fs else fs.insert (names.take i) .directory) fs

/-- The tree of a list of texts by path; a path that ends with a slash is an empty directory. -/
def ofList (files : List (String × String)) : Files :=
  files.foldl (fun fs (path, text) =>
    let all := names path
    if Text.endsWith "/" path then fs.insertDirectories all
    else (fs.insertDirectories all.dropLast).insert all (.file text)) {}

/-- The paths that a path goes through, and the path itself. -/
def passed (path : String) : List String :=
  let parts := Text.split '/' path
  (List.range parts.length).map fun i => "/".intercalate (parts.take (i + 1))

/-- The path of the directory that a path is in, if it has more than one part. -/
def parentPath? (path : String) : Option String :=
  let body := Text.dropWhileEnd (· == '/') path.toList
  match Text.dropWhileEnd (· != '/') body with
  | [] => none
  | front => if front == ['/'] then none else some (String.ofList front.dropLast)

/-- Makes one directory, whose parent has to exist. -/
def makeDirectory (fs : Files) (path : String) : Outcome Files :=
  match fs.locate (Text.trimRightBy (· == '/') path) with
  | .error fault => .error (.cannotMakeDirectory path fault)
  | .ok here =>
    match fs.find? here with
    | none => .ok (fs.insert here .directory)
    | some .directory => .ok fs
    | some (.file _) => .error (.cannotMakeDirectory path .exists)

/-- Makes a directory and those that lead to it, as they are written: also those that `..` leaves again.
What stands in the way is reported by its path. The first argument bounds the number of parts. -/
def makeDirectoriesWithin : Nat → Files → String → Outcome Files
  | 0, fs, _ => .ok fs
  | depth + 1, fs, path =>
    match fs.status path with
    | .ok .directory => .ok fs
    | .ok (.file _) => .error (.cannotMakeDirectory path .notADirectory)
    | .error _ => do
      let fs ← match parentPath? path with
        | some parent => makeDirectoriesWithin depth fs parent
        | none => pure fs
      fs.makeDirectory path

/-- Makes a directory and those that lead to it. -/
def makeDirectories (fs : Files) (path : String) : Outcome Files :=
  makeDirectoriesWithin (path.toList.length + 1) fs path

/-- Writes a text to a file, whose directory has to exist. -/
def write (fs : Files) (path text : String) : Outcome Files :=
  match fs.locate path with
  | .error fault => .error (.cannotOpen path fault)
  | .ok here =>
    match fs.find? here, fs.find? here.dropLast with
    | some .directory, _ => .error (.cannotOpen path .isADirectory)
    | some (.file _), _ => .ok (fs.insert here (.file text))
    | none, some .directory => .ok (fs.insert here (.file text))
    | none, _ => .error (.cannotOpen path .missing)

/-- The entries that are new or not what they were before, by path. -/
def changedFrom (fs before : Files) : List (String × Entry) :=
  fs.entries.filterMap fun (p, e) =>
    if before.entries.lookup p == some e then none else some ("/".intercalate p, e)

/-- All texts by path, sorted by path. -/
def texts (fs : Files) : List (String × String) :=
  (fs.entries.filterMap fun (p, e) => match e with
    | .file text => some ("/".intercalate p, text)
    | .directory => none).mergeSort fun a b => decide (a.1 ≤ b.1)

end Files
end Shapewright
