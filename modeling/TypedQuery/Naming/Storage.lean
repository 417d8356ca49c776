/-
Module: TypedQuery.Naming.Storage
Purpose: Keeping naming conventions in files.
Main exports: Convention.save, Convention.load, Convention.loadDefault
-/
import TypedQuery.FileStore
import TypedQuery.Naming.Convention

namespace TypedQuery.Convention

/-- The file that holds the convention in use, below the folder for
configurations. -/
def defaultPath (folder : String) : String := folder ++ "/typesafe-sql/naming.toml"

/-- Write a convention to a file, with the folders on the way. Folders that were
made stay also when the file can not be written. -/
def save (convention : Convention) (path : String) (store : FileStore) :
    FileStore × Except Error Unit :=
  let (store, written) := store.write path convention.toToml.toUTF8
  (store, if written then .ok () else .error (.config (.unwritable path)))

/-- Read the convention in a file. -/
def load (path : String) (store : FileStore) : Except Error Convention :=
  match (store.read? path).bind String.fromUTF8? with
  | some text => ofToml text
  | none => .error (.config (.unreadable path))

/-- Read the convention in use: where nothing is kept, names are left as they
are. -/
def loadDefault (folder : String) (store : FileStore) : Except Error Convention :=
  let path := defaultPath folder
  if store.has path then load path store else .ok identity

end TypedQuery.Convention
