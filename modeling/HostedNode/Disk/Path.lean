/-! # Paths

The text of a path is names with slashes between them. A path that begins with a slash starts at the
root, any other at the current directory. Repeated slashes and the name `.` behind the first place
mean nothing. -/

namespace HostedNode.Path

/-- Whether a path starts at the root. -/
def isAbsolute (p : String) : Bool := p.toList.head? = some '/'

/-- A path seen from a directory. -/
def join (base p : String) : String :=
  if isAbsolute p then p
  else match base.toList.getLast? with
    | none => p
    | some c => if c = '/' then base ++ p else base ++ "/" ++ p

/-- Cuts at slashes; `piece` is the name read so far, in reverse. -/
def piecesFrom (piece : List Char) : List Char → List String
  | [] => [String.ofList piece.reverse]
  | c :: cs =>
    if c = '/' then String.ofList piece.reverse :: piecesFrom [] cs else piecesFrom (c :: piece) cs

/-- The texts between the slashes of a path. -/
def pieces (p : String) : List String := piecesFrom [] p.toList

/-- The names of a path. -/
def names (p : String) : List String := (pieces p).filter fun n => n ≠ "" && n ≠ "."

/-- Whether a path can only be one of a directory, because of how it ends. -/
def endsInDirectory (p : String) : Bool :=
  match (pieces p).getLast? with
  | some n => n = "" || n = "." || n = ".."
  | none => true

/-- The first part of a path, if it is not a name: a slash or a dot. -/
def start (p : String) : List String :=
  if isAbsolute p then ["/"] else if (pieces p).head? = some "." then ["."] else []

/-- The path with these parts. -/
def ofParts (parts : List String) : String := parts.foldl join ""

/-- The path of the directory that a path lies in; the root and the empty path lie in none. -/
def parent? (p : String) : Option String :=
  match start p, (names p).reverse with
  | [], [] => none
  | ["/"], [] => none
  | _, [] => some ""
  | s, _ :: rest => some (ofParts (s ++ rest.reverse))

end HostedNode.Path
