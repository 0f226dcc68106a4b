import HostedNode.World

/-! # Scripted replies

A `Script` plays the other end of connections: it lists, for every address and method, the replies
to come. Each call takes the first reply of its list; the last one stays for ever. -/

namespace HostedNode.Rpc

/-- Replies by address and method. A reply is of type `ρ`. -/
abbrev ScriptOf (ρ : Type) := List (String × List (String × List ρ))

namespace ScriptOf

variable {ρ : Type}

/-- Replaces the value under a name, or adds it at the end. -/
def put {β : Type} (name : String) (b : β) : List (String × β) → List (String × β)
  | [] => [(name, b)]
  | (n, c) :: rest => if n = name then (n, b) :: rest else (n, c) :: put name b rest

/-- The replies that are left for a method. -/
def replies (s : ScriptOf ρ) (address method : String) : List ρ :=
  ((s.lookup address).bind (·.lookup method)).getD []

/-- Replaces the replies for a method. -/
def setReplies (s : ScriptOf ρ) (address method : String) (rs : List ρ) : ScriptOf ρ :=
  put address (put method rs ((s.lookup address).getD [])) s

/-- Replaces the lists that the second script has. -/
def override (s t : ScriptOf ρ) : ScriptOf ρ :=
  t.foldl
    (fun s (address, methods) =>
      if methods.isEmpty then put address ((s.lookup address).getD []) s
      else methods.foldl (fun s (method, rs) => s.setReplies address method rs) s)
    s

/-- Takes the next reply for a method; the last one stays. -/
def take (s : ScriptOf ρ) (address method : String) : Option ρ × ScriptOf ρ :=
  match s.replies address method with
  | [] => (none, s)
  | [r] => (some r, s)
  | r :: rs => (some r, s.setReplies address method rs)

end ScriptOf

/-- Replies to calls. -/
abbrev Script := ScriptOf (Except TransportError Json)

/-- The method under which a script lists what opening a connection comes to. -/
def Script.openMethod : String := "$open"

instance : Net Script where
  opening c s :=
    match s.lookup c.address with
    | none => (.error (.http ("unreachable " ++ c.address)), s)
    | some _ =>
      match s.take c.address Script.openMethod with
      | (some (.error e), s) => (.error e, s)
      | (_, s) => (.ok (), s)
  answer c method _ s :=
    match s.take c.address method with
    | (some r, s) => (r, s)
    | (none, s) => (.error (.rpc ("unknown method " ++ method)), s)

end HostedNode.Rpc
