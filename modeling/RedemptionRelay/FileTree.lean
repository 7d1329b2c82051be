import RedemptionRelay.FileTree.Place
import RedemptionRelay.Store.Table

/-! # Files and folders

What a command finds on disk and leaves there. A path is walked name by name,
and every name but the last must be that of a folder.
-/

namespace RedemptionRelay

inductive Entry where
  | folder
  | text (content : String)
  | database (store : TableStore)
  /-- Reads as empty and keeps nothing. -/
  | void

structure FileTree where
  entries : List (Place × Entry) := []

inductive FileError where
  | missing
  | notFolder
  | isFolder
  | nameTooLong
  | notText
deriving DecidableEq, Repr

def FileError.message : FileError → String
  | .missing => "No such file or directory (os error 2)"
  | .notFolder => "Not a directory (os error 20)"
  | .isFolder => "Is a directory (os error 21)"
  | .nameTooLong => "File name too long (os error 36)"
  | .notText => "stream did not contain valid UTF-8"

namespace FileTree

/-! ## Entries -/

/-- What is there before anything is put into the tree. -/
def given? (place : Place) : Option Entry :=
  if place.isAround then some .folder
  else if place = .ofPath "/dev" || place = .ofPath "/tmp" then some .folder
  else if place = .ofPath "/dev/null" then some .void
  else none

def entry? (tree : FileTree) (place : Place) : Option Entry :=
  match given? place with
  | some entry => some entry
  | none => tree.entries.lookup place

def isFolder (tree : FileTree) (place : Place) : Bool :=
  match tree.entry? place with
  | some .folder => true
  | _ => false

def put (tree : FileTree) (place : Place) (entry : Entry) : FileTree :=
  { entries := (place, entry) :: tree.entries.filter (·.1 ≠ place) }

/-! ## Walking -/

def isTooLong (name : String) : Bool :=
  name.utf8ByteSize > 255

def enter (tree : FileTree) (place : Place) (name : String) : Except FileError Place :=
  match tree.entry? place with
  | some .folder => if isTooLong name then .error .nameTooLong else .ok (place.follow name)
  | some _ => .error .notFolder
  | none => .error .missing

def locate (tree : FileTree) (path : String) : Except FileError Place :=
  if path.isEmpty then .error .missing
  else if path.utf8ByteSize > 4095 then .error .nameTooLong
  else (Place.namesIn path).foldlM tree.enter (.start path)

def read (tree : FileTree) (path : String) : Except FileError String :=
  match tree.locate path with
  | .error error => .error error
  | .ok place =>
      match tree.entry? place with
      | some (.text content) => .ok content
      | some .void => .ok ""
      | some .folder => .error .isFolder
      | some (.database _) => .error .notText
      | none => .error .missing

/-! ## Making folders and files -/

def makeFolders (tree : FileTree) (place : Place) : List String → FileTree
  | [] => tree
  | name :: rest =>
      let next := place.follow name
      match tree.entry? next with
      | some .folder => makeFolders tree next rest
      | some _ => tree
      | none => if isTooLong name then tree else makeFolders (tree.put next .folder) next rest

def makeFoldersFor (tree : FileTree) (path : String) : FileTree :=
  let names := (Place.namesIn path).filter fun name => !Place.isStay name
  tree.makeFolders (.start path) names.dropLast

def write (tree : FileTree) (path content : String) : FileTree :=
  (tree.makeFoldersFor path).put (.ofPath path) (.text content)

def ofFiles (files : List (String × String)) : FileTree :=
  files.foldl (fun tree (path, content) => tree.write path content) {}

end FileTree

end RedemptionRelay
