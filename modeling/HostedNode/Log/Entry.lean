import HostedNode.Log.Level

/-! # Log entries

A line of a log with the name of its severity. `LogEntry.of` makes an entry of one of the five
severities. -/

namespace HostedNode

open Json Text

/-- A line of a log. -/
structure LogEntry where
  line : String
  level : String
deriving DecidableEq, Repr, Inhabited

namespace LogEntry

/-- Reads an entry from JSON. -/
def reader : RecordReader LogEntry :=
  LogEntry.mk <$> .required "line" .string <*> .required "level" .string

instance : Coded LogEntry where
  toJson e := .obj [entry "line" e.line, entry "level" e.level]
  decoder := reader.decoder "LogEntry"

instance : Shown LogEntry :=
  ⟨fun e => shownRecord "LogEntry" [("line", shown e.line), ("level", shown e.level)]⟩

/-- An entry of a severity. -/
def of (severity : Log.Severity) (line : String) : LogEntry := ⟨line, severity.name⟩

end LogEntry

end HostedNode
