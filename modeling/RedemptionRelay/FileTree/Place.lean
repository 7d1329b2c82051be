/-! # Places on disk

A place is where a path leads: the names on the way to it, from the working
folder or from the top. The name `..` leads out of a folder, an empty name and
the name `.` lead nowhere else.
-/

namespace RedemptionRelay

/-- The names stand innermost first. -/
structure Place where
  fromTop : Bool := false
  names : List String := []
deriving DecidableEq, Repr

namespace Place

def isStay (name : String) : Bool :=
  name == "" || name == "."

/-- The folder around a place; there is nothing around the top. -/
def outside (place : Place) : Place :=
  match place.names with
  | [] => if place.fromTop then place else { place with names := [".."] }
  | ".." :: _ => { place with names := ".." :: place.names }
  | _ :: around => { place with names := around }

def follow (place : Place) (name : String) : Place :=
  if isStay name then place
  else if name = ".." then place.outside
  else { place with names := name :: place.names }

def start (path : String) : Place :=
  { fromTop := path.toList.head? == some '/' }

def namesIn (path : String) : List String :=
  (path.toList.splitOn '/').map String.ofList

/-- The place of a path whose folders are all taken to exist. -/
def ofPath (path : String) : Place :=
  (namesIn path).foldl follow (start path)

def path (place : Place) : String :=
  let names := "/".intercalate place.names.reverse
  if place.fromTop then "/" ++ names else if names = "" then "." else names

/-- The working folder, the top, and the folders around the working folder. -/
def isAround (place : Place) : Bool :=
  place.names.all (· == "..")

end Place

end RedemptionRelay
