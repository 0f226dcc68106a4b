import HostedNode.Environment
import HostedNode.Message

/-! # Arguments of the command line

The command line is the name of a command with its operands and options. Two options, for the data
directory and for the settings file, may stand before or behind the name; behind it they count more.
The value of an option is the next argument or stands behind an equals sign. Behind `--` all
arguments are operands. -/

namespace HostedNode.Cli

/-- What a user asks for. -/
inductive Command where
  | setApiKey (key : String)
  | setEnvironment (environment : Environment)
  /-- To connect; what is given here comes before what the settings say of registration. -/
  | connect (partnerCert partnerKey inviteCode : Option String)
  | nodeInfo
  | sync
  | mnemonic
  | signMessage (request : SignMessageRequest)
  | checkMessage (request : CheckMessageRequest)
  | execute (text : String)
deriving DecidableEq, Repr

/-- A command line. -/
structure Invocation where
  command : Command
  dataDir : String
  settingsFile : Option String
deriving DecidableEq, Repr

/-- Why arguments are no command line. -/
inductive ArgsError where
  | help
  | version
  | usage
deriving DecidableEq, Repr, Inhabited

/-! ### Options and operands -/

/-- An option. -/
structure OptionSpec where
  name : String
  /-- Whether its value must not be empty. -/
  nonempty : Bool
deriving DecidableEq, Repr

/-- Arguments, taken apart. -/
structure Parts where
  options : List (String × String)
  operands : List String
deriving DecidableEq, Repr, Inhabited

namespace Parts

/-- One more option. No option may be given twice. -/
def addOption (p : Parts) (spec : OptionSpec) (value : String) : Except ArgsError Parts :=
  if (p.options.lookup spec.name).isSome ∨ (spec.nonempty ∧ value = "") then .error .usage
  else .ok { p with options := p.options ++ [(spec.name, value)] }

/-- One more operand. -/
def addOperand (p : Parts) (s : String) : Parts := { p with operands := p.operands ++ [s] }

end Parts

/-- What a single argument is. -/
inductive ArgKind where
  /-- The mark behind which all is operand. -/
  | mark
  | long (name : String) (value : Option String)
  | short (letters : List Char)
  | operand
deriving DecidableEq, Repr

/-- What an argument is. -/
def kindOf (arg : String) : ArgKind :=
  match arg.toList with
  | ['-', '-'] => .mark
  | '-' :: '-' :: cs =>
    let value := (cs.dropWhile (· ≠ '=')).tail?
    .long (String.ofList (cs.takeWhile (· ≠ '='))) (value.map String.ofList)
  | '-' :: c :: cs => .short (c :: cs)
  | _ => .operand

/-- What an option comes to that is not among the known ones. -/
def unknownOption (top : Bool) (kind : ArgKind) : ArgsError :=
  if kind = .long "help" none then .help
  else if top ∧ kind = .long "version" none then .version
  else match kind with
    | .short ('h' :: _) => .help
    | .short ('V' :: _) => if top then .version else .usage
    | _ => .usage

/-- Takes arguments apart; `waiting` is an option whose value comes next. At the top the first
operand is the name of a command: it and all that follows are left over. -/
def takeApart (specs : List OptionSpec) (top : Bool) :
    Option OptionSpec → Parts → List String → Except ArgsError (Parts × List String)
  | none, p, [] => .ok (p, [])
  | some _, _, [] => .error .usage
  | some spec, p, arg :: rest =>
    if kindOf arg = .operand then
      match p.addOption spec arg with
      | .ok p => takeApart specs top none p rest
      | .error e => .error e
    else .error .usage
  | none, p, arg :: rest =>
    match kindOf arg with
    | .operand =>
      if top then .ok (p, arg :: rest) else takeApart specs top none (p.addOperand arg) rest
    | .mark => if top then .error .usage else .ok (rest.foldl Parts.addOperand p, [])
    | .short letters => .error (unknownOption top (.short letters))
    | .long name value =>
      match specs.find? (·.name = name), value with
      | none, _ => .error (unknownOption top (.long name value))
      | some spec, none => takeApart specs top (some spec) p rest
      | some spec, some v =>
        match p.addOption spec v with
        | .ok p => takeApart specs top none p rest
        | .error e => .error e

/-! ### Commands -/

/-- The option for the data directory. -/
def dataDirOption : OptionSpec := ⟨"data-dir", true⟩

/-- The option for the settings file. -/
def settingsOption : OptionSpec := ⟨"config", true⟩

/-- The options that may stand before the name of a command, too. -/
def globalOptions : List OptionSpec := [dataDirOption, settingsOption]

/-- The options of a command. -/
def optionsOf (name : String) : List OptionSpec :=
  globalOptions
    ++ if name = "connect" then
      [⟨"partner-cert", true⟩, ⟨"partner-key", true⟩, ⟨"invite-code", false⟩]
    else []

/-- The command of a name with its options and operands. -/
def command? (name : String) (p : Parts) : Option Command :=
  match name, p.operands with
  | "set-api-key", [key] => some (.setApiKey key)
  | "set-env", [env] => (Environment.parse env).toOption.map .setEnvironment
  | "connect", [] =>
    some (.connect (p.options.lookup "partner-cert") (p.options.lookup "partner-key")
      (p.options.lookup "invite-code"))
  | "node-info", [] => some .nodeInfo
  | "sync", [] => some .sync
  | "mnemonic", [] => some .mnemonic
  | "sign-message", [message] => some (.signMessage ⟨message⟩)
  | "check-message", [message, pubkey, signature] =>
    some (.checkMessage ⟨message, pubkey, signature⟩)
  | "execute-command", [text] => some (.execute text)
  | _, _ => none

/-- The data directory when none is given. -/
def defaultDataDir : String := ".data"

/-- Reads a command line. -/
def Invocation.parse (args : List String) : Except ArgsError Invocation := do
  let (before, rest) ← takeApart globalOptions true none default args
  match rest with
  | [] => throw .usage
  | name :: rest =>
    if name = "help" then throw .help
    let (behind, _) ← takeApart (optionsOf name) false none default rest
    let given (spec : OptionSpec) : Option String :=
      behind.options.lookup spec.name <|> before.options.lookup spec.name
    match command? name behind with
    | some command =>
      return ⟨command, (given dataDirOption).getD defaultDataDir, given settingsOption⟩
    | none => throw .usage

end HostedNode.Cli
