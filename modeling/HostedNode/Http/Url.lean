import HostedNode.Text.Case
import HostedNode.Text.Utf8

/-! # Addresses

An address of HTTP in its plain form: scheme and host in lower case, no number behind the host that
the scheme means anyway, a path without `.` and `..` that begins with a slash, and escapes for the
characters that cannot stand in it. -/

namespace HostedNode.Http

open Text

/-- An address. -/
structure Url where
  scheme : String
  /-- The host, and behind a colon a number if it is not the one of the scheme. -/
  authority : String
  path : String
  /-- What follows the path, with its mark. -/
  tail : String
deriving DecidableEq, Repr, Inhabited

namespace Url

/-- The text of an address. -/
def text (u : Url) : String := u.scheme ++ "://" ++ u.authority ++ u.path ++ u.tail

/-- The schemes of HTTP with the numbers that they mean. -/
def schemes : List (String × String) := [("http", "80"), ("https", "443")]

/-- Whether a character stands for itself in the path. -/
def isPathChar (c : Char) : Bool :=
  0x20 < c.toNat && c.toNat < 0x7F && !"\"#<>?\x60\x7b\x7d^".toList.contains c

/-- A byte as an escape. -/
def escapeByte (b : UInt8) : List Char := '%' :: (Hex.encodeByte b).map Char.toUpper

/-- The text with escapes for the characters that do not stand for themselves. -/
def escape (plain : Char → Bool) (cs : List Char) : String :=
  String.ofList (cs.flatMap fun c =>
    if plain c then [c] else (Utf8.encode (String.singleton c)).flatMap escapeByte)

/-- Whether a character separates the parts of a path. -/
def isSlash (c : Char) : Bool := c = '/' || c = '\\'

/-- Cuts at slashes; `part` is what has been read of a part, in reverse. -/
def partsFrom (part : List Char) : List Char → List (List Char)
  | [] => [part.reverse]
  | c :: cs => if isSlash c then part.reverse :: partsFrom [] cs else partsFrom (c :: part) cs

/-- Whether a part of a path means the directory itself. -/
def isHere (part : String) : Bool := ["." , "%2e"].contains (lower part)

/-- Whether a part of a path means the directory above. -/
def isAbove (part : String) : Bool := ["..", ".%2e", "%2e.", "%2e%2e"].contains (lower part)

/-- The path of some parts; `acc` holds those before, in reverse. -/
def pathFrom (acc : List String) : List String → List String
  | [] => acc.reverse
  | [p] =>
    if isAbove p then (("" :: acc.drop 1).reverse)
    else if isHere p then ("" :: acc).reverse
    else (p :: acc).reverse
  | p :: ps =>
    if isAbove p then pathFrom (acc.drop 1) ps
    else if isHere p then pathFrom acc ps
    else pathFrom (p :: acc) ps

/-- The path in its plain form. -/
def plainPath (cs : List Char) : String :=
  let parts := (partsFrom [] (cs.drop 1)).map (escape isPathChar)
  (pathFrom [] parts).foldl (fun s p => s ++ "/" ++ p) ""

/-- A host and a number in their plain form; `usual` is the number that goes without saying. -/
def plainAuthority? (usual : String) (cs : List Char) : Option String :=
  let behindColon := cs.reverse.takeWhile (· ≠ ':')
  if behindColon.length = cs.length then
    if cs.isEmpty then none else some (lower (String.ofList cs))
  else
    let host := lower (String.ofList (cs.take (cs.length - behindColon.length - 1)))
    let digits := behindColon.reverse
    if host = "" ∨ !digits.all Char.isDigit ∨ 65535 < (String.ofList digits).toNat?.getD 0 then none
    else if digits.isEmpty ∨ String.ofList digits = usual then some host
    else some (host ++ ":" ++ String.ofList digits)

/-- Reads an address. -/
def parse? (s : String) : Option Url := do
  let cs := s.toList.filter fun c => c ≠ '\t' && c ≠ '\n' && c ≠ '\r'
  let cs := ((cs.dropWhile (·.toNat ≤ 0x20)).reverse.dropWhile (·.toNat ≤ 0x20)).reverse
  let scheme := lower (String.ofList (cs.takeWhile (· ≠ ':')))
  let usual ← schemes.lookup scheme
  let cs := (cs.dropWhile (· ≠ ':')).drop 1
  if !(cs.head?.map isSlash).getD false then none
  let cs := cs.dropWhile isSlash
  let ends (c : Char) : Bool := isSlash c || c = '?' || c = '#'
  let authority ← plainAuthority? usual (cs.takeWhile (!ends ·))
  let cs := cs.dropWhile (!ends ·)
  let isTail (c : Char) : Bool := c = '?' || c = '#'
  let path := cs.takeWhile (!isTail ·)
  let tail := escape (fun c => isPathChar c || isTail c) (cs.dropWhile (!isTail ·))
  return ⟨scheme, authority, plainPath path, tail⟩

end Url

end HostedNode.Http
