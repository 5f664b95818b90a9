import EntityScaffold.Text.Blank

/-! # Workspaces

A workspace is a directory with the files and directories inside of it. Paths are relative to it, unless
they start with a slash: names between slashes, where an empty name and `.` stay where they are and `..`
goes one directory up. Every name but the last must lead to a directory. Outside of the workspace there
are at first only the directories that it stands in and the empty file of the system; what is written
there does not belong to the workspace.
-/

namespace EntityScaffold.Command

/-- Where something is: steps outwards `..`, or `/` for the root of the system, and then the names on the
way to it. -/
abbrev Place := List String

/-- What is at a place. -/
inductive Entry where
  | file (text : String)
  | directory
deriving DecidableEq, Repr

/-- Why a file cannot be read. -/
inductive FileFault where
  | missing
  /-- A file stands where a directory should be. -/
  | notDirectory
  | isDirectory
  /-- A name is too long or holds a null character. -/
  | invalidName
  | other (message : String)
deriving DecidableEq, Repr

/-- What is told about a file fault. -/
def FileFault.message : FileFault → String
  | .missing => "No such file or directory (os error 2)"
  | .notDirectory => "Not a directory (os error 20)"
  | .isDirectory => "Is a directory (os error 21)"
  | .invalidName => "File name too long (os error 36)"
  | .other message => message

/-- The files and directories of a workspace; of two entries at one place the first counts. -/
structure Workspace where
  entries : List (Place × Entry)
deriving DecidableEq, Repr

namespace Workspace

/-- Whether a place is the workspace or a directory that it stands in. -/
def isAround (place : Place) : Bool := place.all (· == "..") || place == ["/"]

/-- What is at a place whatever happens: the directories around the workspace, and a file that stays empty
when it is written. -/
def fixed? (place : Place) : Option Entry :=
  if isAround place || place == ["/", "dev"] then some .directory
  else if place = ["/", "dev", "null"] then some (.file "")
  else none

/-- What is at a place. -/
def find? (workspace : Workspace) (place : Place) : Option Entry :=
  (fixed? place).or (workspace.entries.lookup place)

/-- Put an entry at a place. -/
def put (workspace : Workspace) (place : Place) (entry : Entry) : Workspace :=
  ⟨(place, entry) :: workspace.entries⟩

theorem find?_put {workspace : Workspace} {place : Place} {entry : Entry}
    (h : fixed? place = none) (other : Place) :
    (workspace.put place entry).find? other =
      if other = place then some entry else workspace.find? other := by
  by_cases heq : other = place
  · subst heq
    simp [find?, put, h]
  · have hb : (other == place) = false := by simpa using heq
    simp [find?, put, List.lookup_cons, heq, hb]

/-! ## Paths -/

/-- A path that starts at the root of the system and not in the workspace. -/
def isAbsolute (path : String) : Bool := path.toList.head? == some '/'

/-- The names of a path, after `/` if it starts at the root of the system. -/
def names (path : String) : List String :=
  (if isAbsolute path then ["/"] else []) ++ (Text.splitAt '/' path.toList).map String.ofList

/-- The most bytes that a path can have. -/
def maxPathSize : Nat := 4095

/-- A name that a file can have. -/
def isName (name : String) : Bool := name.utf8ByteSize ≤ 255 && !name.toList.contains '\x00'

/-- The place that a name leads to from a directory. -/
def step (place : Place) (name : String) : Except FileFault Place :=
  if name = "" ∨ name = "." then .ok place
  else if name = "/" then .ok ["/"]
  else if name = ".." then
    .ok (if place = ["/"] then place else if isAround place then place ++ [name] else place.dropLast)
  else if isName name then .ok (place ++ [name])
  else .error .invalidName

/-- Follow names from a place. -/
def follow (workspace : Workspace) (place : Place) : List String → Except FileFault Place
  | [] => .ok place
  | name :: rest =>
    match workspace.find? place with
    | some .directory => (step place name).bind (follow workspace · rest)
    | some (.file _) => .error .notDirectory
    | none => .error .missing

/-- The place that a path leads to. -/
def resolve (workspace : Workspace) (path : String) : Except FileFault Place :=
  if maxPathSize < path.utf8ByteSize then .error .invalidName
  else if path.isEmpty then .error .missing
  else workspace.follow [] (names path)

/-- What a path leads to. -/
def entry? (workspace : Workspace) (path : String) : Option Entry :=
  match workspace.resolve path with
  | .ok place => workspace.find? place
  | .error _ => none

/-! ## Reading and writing -/

/-- The text of a file. -/
def readText (workspace : Workspace) (path : String) : Except FileFault String :=
  (workspace.resolve path).bind fun place => match workspace.find? place with
    | some (.file text) => .ok text
    | some .directory => .error .isDirectory
    | none => .error .missing

/-- Write a file, in place of the one that was there. -/
def writeText (workspace : Workspace) (path text : String) : Option Workspace :=
  match workspace.resolve path with
  | .ok place => match workspace.find? place with
    | some .directory => none
    | some (.file _) | none => some (workspace.put place (.file text))
  | .error _ => none

/-! ## Making directories -/

/-- Why a directory cannot be made. -/
inductive DirectoryFault where
  /-- The directory that it would stand in is missing. -/
  | missing
  /-- Something is there already, or it cannot be there. -/
  | refused
deriving DecidableEq, Repr

/-- The names on the way to a directory and its own name. Only empty names may follow that one. -/
def splitLast (names : List String) : Option (List String × String) :=
  match names.reverse.dropWhile (· == "") with
  | [] => none
  | last :: before => some (before.reverse, last)

/-- Make one directory in another that is there. The names `.` and `..` make none. -/
def makeDirectory (workspace : Workspace) (names : List String) : Except DirectoryFault Workspace :=
  match splitLast names with
  | none => .error .missing
  | some (before, last) =>
    match workspace.follow [] before with
    | .error .missing => .error .missing
    | .error _ => .error .refused
    | .ok place => match workspace.find? place with
      | none => .error .missing
      | some (.file _) => .error .refused
      | some .directory => match step place last with
        | .error _ => .error .refused
        | .ok target =>
          if (workspace.find? target).isSome then .error .refused
          else .ok (workspace.put target .directory)

/-- Whether names lead to a directory. -/
def isDirectory (workspace : Workspace) (names : List String) : Bool :=
  match workspace.follow [] names with
  | .ok place => workspace.find? place = some .directory
  | .error _ => false

/-- Make the first of some directories. Where that fails because the one that it would stand in is
missing, the others are made before it. -/
def makeNested (workspace : Workspace) : List (List String) → Option Workspace
  | [] => some workspace
  | names :: outer =>
    match workspace.makeDirectory names with
    | .ok workspace => some workspace
    | .error .refused => if workspace.isDirectory names then some workspace else none
    | .error .missing => (workspace.makeNested outer).bind fun workspace =>
      match workspace.makeDirectory names with
      | .ok workspace => some workspace
      | .error _ => if workspace.isDirectory names then some workspace else none

/-- The directories that lead to one, from the inside outwards. Names that stay where they are do not
count. -/
def around (names : List String) : List (List String) :=
  let inner := names.filter fun name => name != "" && name != "."
  ((List.range inner.length).drop 1).reverse.map inner.take

/-- Make a directory and those that lead to it, as far as they are missing. A path that ends with `.` only
leads to a directory that is there already. -/
def makeDirectories (workspace : Workspace) (path : String) : Option Workspace :=
  if maxPathSize < path.utf8ByteSize then none
  else workspace.makeNested (names path :: around (names path))

/-! ## Contents -/

/-- The workspace of files under their paths, with the directories that they stand in. -/
def ofFiles (files : List (String × String)) : Workspace :=
  files.foldl (fun workspace (path, text) =>
    let place := (names path).filter (· ≠ "")
    let directories := ((List.range place.length).drop 1).map place.take
    (directories.foldl (put · · .directory) workspace).put place (.file text)) ⟨[]⟩

/-- The files with their paths. -/
def files (workspace : Workspace) : List (String × String) :=
  (workspace.entries.map (·.1)).eraseDups.filterMap fun place =>
    match place.head? == some ".." || place.head? == some "/", workspace.find? place with
    | false, some (.file text) => some ("/".intercalate place, text)
    | _, _ => none

end Workspace

end EntityScaffold.Command
