import HostedNode.Decimal.Format
import HostedNode.Log.Entry

/-! # Logged events

An event has a severity and parts, in the order in which they were recorded. Its line is drafted
part by part: a part named `message` goes behind the message so far, any other part as `name=value`
behind the fields so far, with a blank before it if there are any. The line is then the message and
the fields, with a blank between them if neither is empty. -/

namespace HostedNode.Log

open Decimal Text

/-- Doubles in events have no exponent from `0.0001` to below `1e16`. -/
def doubleFormat : Format := ⟨-4, 15, false⟩

instance : Shown Double := ⟨doubleFormat.write⟩

/-- A part of an event: a name and the text of a value. -/
structure Part where
  name : String
  value : String
deriving DecidableEq, Repr, Inhabited

namespace Part

/-- The name of the parts that make the message. -/
def messageName : String := "message"

/-- A part with the shown form of a value. -/
def ofShown {α : Type} [Shown α] (name : String) (a : α) : Part := ⟨name, shown a⟩

/-- Whether the part belongs to the message. -/
def isMessage (p : Part) : Bool := p.name = messageName

/-- A part beside the message. -/
def text (p : Part) : String := p.name ++ "=" ++ p.value

end Part

/-- An event. -/
structure Event where
  severity : Severity
  parts : List Part
deriving DecidableEq, Repr, Inhabited

/-- What a line holds of the parts that have been recorded. -/
structure LineDraft where
  message : String
  fields : String
deriving DecidableEq, Repr, Inhabited

namespace LineDraft

/-- Before any part. -/
def empty : LineDraft := ⟨"", ""⟩

/-- Behind one more part. -/
def record (d : LineDraft) (p : Part) : LineDraft :=
  if p.isMessage then { d with message := d.message ++ p.value }
  else { d with fields := (if d.fields = "" then "" else d.fields ++ " ") ++ p.text }

/-- The line, once all parts are recorded. -/
def finish (d : LineDraft) : String :=
  if d.fields = "" then d.message
  else if d.message = "" then d.fields
  else d.message ++ " " ++ d.fields

end LineDraft

namespace Event

/-- The text of an event. -/
def line (e : Event) : String := (e.parts.foldl LineDraft.record .empty).finish

/-- The entry of an event. -/
def entry (e : Event) : LogEntry := .of e.severity e.line

end Event

end HostedNode.Log
