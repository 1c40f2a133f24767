import Storyline.Files

/-!
# Files in memory

A tree of directories and files, with the operations that a game needs and the errors that a file
system answers with: reading a file by its path, making a directory, and writing a file.

A path is a list of names, read from the folder that it is relative to. An empty name and a single
point stay where they are, two points go out again, and all three ask for a directory; outside of
the folder there is nothing but directories.
-/

namespace Storyline

/-- A file, or a directory with what it holds. -/
inductive Folder where
  | file (text : String)
  | directory (entries : List (String × Folder))

namespace Folder

/-- A directory without entries. -/
def empty : Folder := directory []

/-- How many bytes a name may have. -/
def nameLimit : Nat := 255

/-- How many bytes a path may have. -/
def pathLimit : Nat := 4095

/-- Whether it is a directory. -/
def isDirectory : Folder → Bool
  | file _ => false
  | directory _ => true

/-- The names on a path. -/
def namesOn (path : String) : List String := (path.toList.splitOn '/').map String.ofList

/-- What stands in a directory under a name. -/
def child : Folder → String → Except FileError Folder
  | file _, _ => .error .notDirectory
  | directory entries, name =>
    if nameLimit < name.utf8ByteSize then .error .nameTooLong
    else match entries.lookup name with
      | some entry => .ok entry
      | none => .error .notFound

/-- Follows a path; `outer` holds the directories around the one reached so far, the nearest
first. -/
def follow (outer : List Folder) (here : Folder) : List String → Except FileError Folder
  | [] => .ok here
  | name :: rest =>
    if name = "" || name = "." then
      if here.isDirectory then follow outer here rest else .error .notDirectory
    else if name = ".." then
      if here.isDirectory then follow (outer.drop 1) (outer.head?.getD empty) rest
      else .error .notDirectory
    else match here.child name with
      | .ok entry => follow (here :: outer) entry rest
      | .error err => .error err

/-- What stands at a path. A path that begins with a slash leads out of the folder. -/
def find (f : Folder) (path : String) : Except FileError Folder :=
  if path.isEmpty then .error .notFound
  else if pathLimit < path.utf8ByteSize then .error .nameTooLong
  else follow [] (if path.startsWith "/" then empty else f) (namesOn path)

/-- The text of the file at a path. -/
def read (f : Folder) (path : String) : Except FileError String :=
  match f.find path with
  | .ok (file text) => .ok text
  | .ok (directory _) => .error .isDirectory
  | .error err => .error err

/-- Whether there is a directory at a path. -/
def hasDirectory (f : Folder) (path : String) : Bool :=
  match f.find path with
  | .ok entry => entry.isDirectory
  | .error _ => false

/-- Puts an entry in the place of the one with its name, or at the end. -/
def setEntry (name : String) (entry : Folder) (entries : List (String × Folder)) :
    List (String × Folder) :=
  if (entries.lookup name).isSome then
    entries.map fun e ↦ if e.1 = name then (name, entry) else e
  else entries ++ [(name, entry)]

/-- Makes a directory, and those that lead to it, where they are missing. -/
def makeDirectory (f : Folder) : List String → Except FileError Folder
  | [] => if f.isDirectory then .ok f else .error .exists
  | name :: rest =>
    match f with
    | file _ => .error .notDirectory
    | directory entries =>
      match f.child name with
      | .error .notFound =>
        (makeDirectory empty rest).map fun made ↦ directory (setEntry name made entries)
      | .error err => .error err
      | .ok entry =>
        (entry.makeDirectory rest).map fun made ↦ directory (setEntry name made entries)

/-- Writes a file in a directory that is there. -/
def write (text : String) (f : Folder) : List String → Except FileError Folder
  | [] => if f.isDirectory then .error .isDirectory else .ok (file text)
  | name :: rest =>
    match f with
    | file _ => .error .notDirectory
    | directory entries =>
      match f.child name with
      | .error .notFound =>
        if rest.isEmpty then .ok (directory (setEntry name (file text) entries))
        else .error .notFound
      | .error err => .error err
      | .ok entry => (write text entry rest).map fun written ↦
          directory (setEntry name written entries)

/-- The folder with one more file, in directories that are made for it. Names that stay where they
are do not count; a file that cannot be put at its path is left out. -/
def addFile (f : Folder) (path text : String) : Folder :=
  let names := (namesOn path).filter fun name ↦ name != "" && name != "."
  match (f.makeDirectory names.dropLast).bind (·.write text names) with
  | .ok g => g
  | .error _ => f

/-- The folder that holds some files, given by their paths. -/
def ofFiles (files : List (String × String)) : Folder :=
  files.foldl (fun f e ↦ f.addFile e.1 e.2) empty

/-- The files that stand directly in a directory, by their names. -/
def filesAt (f : Folder) (path : String) : List (String × String) :=
  match f.find path with
  | .ok (directory entries) => entries.filterMap fun e ↦
    match e.2 with
    | file text => some (e.1, text)
    | directory _ => none
  | _ => []

end Folder

end Storyline
