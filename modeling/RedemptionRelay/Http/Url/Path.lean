import RedemptionRelay.Http.Url.Escape

/-! # Paths of addresses

A path is a row of segments. One dot stands for the place itself and two dots
for the place above; a segment that looks like the letter of a drive is never
left.
-/

namespace RedemptionRelay.UrlPath

def isSlash (backslashes : Bool) (c : Char) : Bool :=
  c = '/' || (backslashes && c = '\\')

def split (backslashes : Bool) : List Char → List (List Char)
  | [] => [[]]
  | c :: rest =>
      match split backslashes rest with
      | [] => [[c]]
      | segment :: segments =>
          if isSlash backslashes c then [] :: segment :: segments
          else (c :: segment) :: segments

/-- The dots of a segment, where a dot may be written by its code. -/
def dots? : List Char → Option Nat
  | [] => some 0
  | '.' :: rest => (dots? rest).map (· + 1)
  | '%' :: '2' :: c :: rest => if c.toLower = 'e' then (dots? rest).map (· + 1) else none
  | _ => none

def isDriveMark (c : Char) : Bool :=
  c = ':' || c = '|'

def isDrive : List Char → Bool
  | [letter, mark] => letter.isAlpha && isDriveMark mark
  | _ => false

def looksLikeDrive : List Char → Bool
  | letter :: mark :: rest =>
      letter.isAlpha && isDriveMark mark && (rest.isEmpty || rest.head? == some '\\')
  | _ => false

/-- Leaves the last segment, unless it is a drive. -/
def leave (done : List (List Char)) : List (List Char) :=
  if done.getLast?.any looksLikeDrive then done else done.dropLast

def resolve (done : List (List Char)) : List (List Char) → List (List Char)
  | [] => done
  | segment :: rest =>
      let closing := if rest.isEmpty then [[]] else []
      match dots? segment with
      | some 1 => resolve (done ++ closing) rest
      | some 2 => resolve (leave done ++ closing) rest
      | _ => resolve (done ++ [Escape.encode Escape.pathReserved segment]) rest

def joined (segments : List (List Char)) : List Char :=
  segments.flatMap ('/' :: ·)

def normal (backslashes : Bool) (chars : List Char) : List Char :=
  joined (resolve [] (split backslashes chars))

def openDrive : List (List Char) → List (List Char)
  | segment :: rest =>
      if isDrive segment then (segment.take 1 ++ [':']) :: rest else segment :: rest
  | [] => []

def opensWithDrive (chars : List Char) : Bool :=
  isDrive ((split true chars).headD [])

/-- The path to a file: no segment before the first name is empty. -/
def ofFile (chars : List Char) : List Char :=
  let path := joined (resolve [] (openDrive (split true chars)))
  '/' :: path.dropWhile (· == '/')

end RedemptionRelay.UrlPath
