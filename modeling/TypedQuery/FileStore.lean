/-
Module: TypedQuery.FileStore
Purpose: Folders and files in memory, reached by paths. Reading follows a path
  through folders that exist; writing makes the folders that are missing, and
  they stay even when the file itself can not be written.
Trusted boundary: paths, folders and files behave so by assumption on the operating system.
Main exports: FileStore, FileStore.startingAt, FileStore.read?, FileStore.write,
  FileStore.has
-/

namespace TypedQuery

/-- Where a folder or file stands: the names that lead to it from the root. -/
abbrev Place := List String

/-! ### Paths -/

/-- A path as it is written. -/
structure Path where
  /-- It starts at the root, not at the current folder. -/
  isAbsolute : Bool
  /-- The names to follow; the name of two dots leads back. -/
  names : List String
  /-- It ends the way only a path to a folder can end. -/
  endsInFolder : Bool
deriving Repr, DecidableEq

namespace Path

/-- The name that leads to the folder around. -/
def parentName : String := ".."

/-- Names that lead nowhere: the folder itself, and nothing between two slashes. -/
def isIdle (name : String) : Bool := name == "" || name == "."

/-- Read a path, whose names slashes divide. -/
def ofString (text : String) : Path :=
  let parts := text.splitOn "/"
  { isAbsolute := text.startsWith "/"
    names := parts.filter (!isIdle ·)
    endsInFolder := parts.getLast?.any fun name => isIdle name || name == parentName }

/-- Bytes of the longest name. -/
def nameLimit : Nat := 255

/-- Bytes of the longest path. -/
def pathLimit : Nat := 4095

/-- The character that ends a text for the file system. -/
def terminator : Char := '\x00'

/-- A text that can be handed to the file system as a path. -/
def isPassable (text : String) : Bool :=
  text.utf8ByteSize ≤ pathLimit && !text.toList.contains terminator

/-- A name that a folder or file can have. -/
def isUsable (name : String) : Bool :=
  name.utf8ByteSize ≤ nameLimit && !name.toList.contains terminator

end Path

/-! ### Stores -/

/-- Folders and files, and the folder where paths start. The root is always
there. -/
structure FileStore where
  folders : List Place
  files : List (Place × ByteArray)
  current : Place

namespace FileStore

/-- The folders on the way to a place, the place included. -/
def ways : Place → List Place
  | [] => []
  | name :: rest => [name] :: (ways rest).map (name :: ·)

/-- No files, and no folders but those that lead to the current one. -/
def startingAt (current : Place) : FileStore := ⟨ways current, [], current⟩

/-- Is there a folder at the place? -/
def isFolder (store : FileStore) (place : Place) : Bool :=
  place.isEmpty || store.folders.contains place

/-- Content of the file at a place. -/
def file? (store : FileStore) (place : Place) : Option ByteArray :=
  (store.files.find? (·.1 == place)).map (·.2)

/-- Put a file at a place, instead of an earlier one. -/
def putFile (store : FileStore) (place : Place) (content : ByteArray) : FileStore :=
  { store with files := (place, content) :: store.files.filter (·.1 != place) }

/-- Make a folder at a place. -/
def makeFolder (store : FileStore) (place : Place) : FileStore :=
  { store with folders := place :: store.folders }

/-- Where a path starts. -/
def startOf (store : FileStore) (path : Path) : Place :=
  if path.isAbsolute then [] else store.current

/-! ### Following paths -/

/-- Go from a folder to a folder in it, or back to the one around. The root is
around itself. -/
def enter (store : FileStore) (place : Place) (name : String) : Option Place :=
  if name = Path.parentName then some place.dropLast
  else if store.isFolder (place ++ [name]) then some (place ++ [name])
  else none

/-- Go from folder to folder. -/
def follow (store : FileStore) : Place → List String → Option Place
  | place, [] => some place
  | place, name :: rest =>
    match store.enter place name with
    | some next => follow store next rest
    | none => none

/-- Go from folder to folder and make those that are missing. The way ends, without
a place, at a file and at a name that a folder can not have. -/
def followMaking (store : FileStore) : Place → List String → FileStore × Option Place
  | place, [] => (store, some place)
  | place, name :: rest =>
    match store.enter place name with
    | some next => followMaking store next rest
    | none =>
      let next := place ++ [name]
      if (store.file? next).isSome || !Path.isUsable name then (store, none)
      else followMaking (store.makeFolder next) next rest

/-! ### Reading and writing -/

/-- Content of the file that a path leads to. -/
def read? (store : FileStore) (text : String) : Option ByteArray :=
  let path := Path.ofString text
  match path.names.getLast? with
  | none => none
  | some name =>
    if path.endsInFolder || !Path.isPassable text then none
    else
      match store.follow (store.startOf path) path.names.dropLast with
      | some place => store.file? (place ++ [name])
      | none => none

/-- Does a path lead to a file or a folder? -/
def has (store : FileStore) (text : String) : Bool :=
  let path := Path.ofString text
  (store.read? text).isSome ||
    (Path.isPassable text && (store.follow (store.startOf path) path.names).isSome)

/-- Can a file of this name be put into a folder? -/
def accepts (store : FileStore) (place : Place) (name : String) : Bool :=
  Path.isUsable name && !store.isFolder (place ++ [name])

/-- Write a file where a path leads, over an earlier one, and make the folders on
the way. The result tells whether the file was written. -/
def write (store : FileStore) (text : String) (content : ByteArray) : FileStore × Bool :=
  let path := Path.ofString text
  match path.names.getLast? with
  | none => (store, false)
  | some name =>
    let around := path.names.dropLast
    if !Path.isPassable (String.intercalate "/" around) then (store, false)
    else
      match store.followMaking (store.startOf path) around with
      | (store, none) => (store, false)
      | (store, some place) =>
        if path.endsInFolder || !Path.isPassable text || !store.accepts place name then
          (store, false)
        else (store.putFile (place ++ [name]) content, true)

end FileStore

end TypedQuery
