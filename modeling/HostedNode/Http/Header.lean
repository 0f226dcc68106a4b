import HostedNode.Text.Case

/-! # Headers

Names and values of headers. `headers?` checks headers in their order, the name of each before its
value, and gives the first fault; of several headers of one name the last one counts. -/

namespace HostedNode.Http

open Text

/-- A header. -/
abbrev Header := String × String

/-- Why a header cannot be sent. -/
inductive HeaderError where
  /-- The name is none. -/
  | name (name : String)
  /-- The value cannot stand in a header. -/
  | value
deriving DecidableEq, Repr

/-- The wording of an error. -/
def HeaderError.message : HeaderError → String
  | name n => "Invalid header name " ++ n ++ ": invalid HTTP header name"
  | value => "Invalid header value: failed to parse header value"

/-- Whether a character may stand in a name. -/
def isNameChar (c : Char) : Bool := c.isAlphanum || "!#$%&'*+-.^_\x60|~".toList.contains c

/-- Whether a text is a name. -/
def isName (s : String) : Bool :=
  s ≠ "" && s.toList.all isNameChar && s.utf8ByteSize < UInt16.size

/-- Whether a character may stand in a value. -/
def isValueChar (c : Char) : Bool := c = '\t' || (0x20 ≤ c.toNat && c.toNat ≠ 0x7F)

/-- Whether a text is a value. -/
def isValue (s : String) : Bool := s.toList.all isValueChar

/-- Sets a header, in place of one of the same name. -/
def setHeader (name value : String) (hs : List Header) : List Header :=
  hs.filter (·.1 ≠ lower name) ++ [(lower name, value)]

/-- The headers to send, under their lower-case names. -/
def headers? : List Header → Except HeaderError (List Header)
  | hs => hs.foldlM add []
where
  /-- Adds a header if it can be sent. -/
  add (acc : List Header) (h : Header) : Except HeaderError (List Header) :=
    if !isName h.1 then .error (.name h.1)
    else if !isValue h.2 then .error .value
    else .ok (setHeader h.1 h.2 acc)

end HostedNode.Http
