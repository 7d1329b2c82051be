import RedemptionRelay.FileTree
import RedemptionRelay.Http.Url.Escape

/-! # Databases on disk

The path of a database may be an address that begins with `file:`. A path
without a name, or with the name `:memory:`, stands for a database that is gone
when it is closed. The path is shortened before it is walked, so a folder that
it leaves again need not exist.
-/

namespace RedemptionRelay

inductive DatabaseLocation where
  | transient
  | file (path : String)
deriving DecidableEq, Repr

namespace DatabaseLocation

def ofPath (path : String) : DatabaseLocation :=
  if path = "" || path = ":memory:" then .transient else .file path

/-! ## Addresses -/

/-- What follows the host, which can only be this machine. -/
def behindHost? : List Char → Option (List Char)
  | '/' :: '/' :: rest =>
      let host := rest.takeWhile (· ≠ '/')
      if host = [] || host = "localhost".toList then some (rest.dropWhile (· ≠ '/')) else none
  | chars => some chars

def isPathChar (c : Char) : Bool :=
  c ≠ '?' && c ≠ '#'

/-- The text meant, up to a byte that is zero. -/
def unescape (chars : List Char) : String :=
  Utf8.decode ((Escape.decode chars).takeWhile (· ≠ 0))

def parametersOf (chars : List Char) : List String :=
  let query := (chars.dropWhile (· ≠ '?')).drop 1
  (query.splitOn '&').map unescape

def ofAddress? (chars : List Char) : Option DatabaseLocation :=
  match behindHost? (chars.takeWhile (· ≠ '#')) with
  | none => none
  | some chars =>
      if (parametersOf chars).contains "mode=memory" then some .transient
      else some (.ofPath (unescape (chars.takeWhile isPathChar)))

/-- There is none at an address on another machine. -/
def ofText? (text : String) : Option DatabaseLocation :=
  match text.toList with
  | 'f' :: 'i' :: 'l' :: 'e' :: ':' :: chars => ofAddress? chars
  | _ => some (.ofPath text)

end DatabaseLocation

structure Database where
  store : TableStore := {}
  /-- Where the database is kept, if it is. -/
  place : Option Place := none

namespace FileTree

/-- One name further in a path that is being shortened. -/
def shorten (tree : FileTree) (place : Place) (name : String) : Option Place :=
  if Place.isStay name || name = ".." then some (place.follow name)
  else
    match tree.entry? place with
    | some .folder | none => if isTooLong name then none else some (place.follow name)
    | _ => none

def databasePlace? (tree : FileTree) (path : String) : Option Place := do
  let place ← (Place.namesIn path).foldlM tree.shorten (.start path)
  if tree.isFolder place || !tree.isFolder place.outside then none else some place

/-- A text of at most one byte counts as an empty database. -/
def databaseAt (tree : FileTree) (place : Place) : Except StoreError Database :=
  match tree.entry? place with
  | some (.database store) => .ok { store := store, place := some place }
  | some (.text content) =>
      if content.utf8ByteSize ≤ 1 then .ok { place := some place }
      else .error (.database "file is not a database")
  | some .void => .error (.database "disk I/O error")
  | some .folder | none => .ok { place := some place }

def unavailable (path : String) : StoreError :=
  .connection s!"timed out waiting for connection: unable to open database file: {path}"

def openDatabase (tree : FileTree) (path : String) : Except StoreError Database :=
  match DatabaseLocation.ofText? path with
  | none => .error (unavailable path)
  | some .transient => .ok {}
  | some (.file name) =>
      match tree.databasePlace? name with
      | none => .error (unavailable path)
      | some place => tree.databaseAt place

def keep (tree : FileTree) (database : Database) : FileTree :=
  match database.place with
  | none => tree
  | some place => tree.put place (.database database.store)

end FileTree

end RedemptionRelay
