/-! # Unknown names

The error of reading a name that must be one of a few: which kind of name it was, and the text as
it was given. -/

namespace HostedNode

/-- A text that is no name of its kind. -/
inductive NameError where
  | environment (given : String)
  | network (given : String)
  | level (given : String)
  | command (given : String)
deriving DecidableEq, Repr

/-- The wording of the error. -/
def NameError.message : NameError → String
  | .environment s => "Unknown environment type: " ++ s
  | .network s => "Unknown network: " ++ s
  | .level s => "Unknown log level: " ++ s
  | .command s => "command not found: " ++ s

end HostedNode
