import HostedNode.Credentials
import HostedNode.Environment

/-! # Configuration of the services

What the services need to know to reach a node: the deployment and its scheduler, the working
directory, the network, times, and how a node that does not exist yet is registered. -/

namespace HostedNode

open Json Text

/-- How a new node is registered: with the credentials of a partner, or with an invite code. -/
structure Registration where
  partner : Option DeviceCredentials
  inviteCode : Option String
deriving DecidableEq, Repr, Inhabited

namespace Registration

/-- Reads a registration from JSON. -/
def reader : RecordReader Registration :=
  Registration.mk <$> .optional "partner_credentials" decoder <*> .optional "invite_code" decoder

instance : Coded Registration where
  toJson r := .obj [entry "partner_credentials" r.partner, entry "invite_code" r.inviteCode]
  decoder := reader.decoder "GreenlightNodeConfig"

instance : Shown Registration :=
  ⟨fun r =>
    shownRecord "GreenlightNodeConfig"
      [("partner_credentials", shown r.partner), ("invite_code", shown r.inviteCode)]⟩

end Registration

/-- The kind of node and what is particular to it. -/
inductive NodeConfig where
  | greenlight (registration : Registration)
deriving DecidableEq, Repr, Inhabited

namespace NodeConfig

/-- How a new node is registered. -/
def registration : NodeConfig → Registration
  | greenlight r => r

/-- The kinds of nodes. -/
def variants : List (Variant NodeConfig) :=
  [⟨"greenlight", "Greenlight", greenlight <$> .required "config" decoder⟩]

instance : Coded NodeConfig where
  toJson
    | greenlight r => .obj [(tagName, .str "greenlight"), entry "config" r]
  decoder := .tagged "NodeConfig" variants

instance : Shown NodeConfig :=
  ⟨fun
    | greenlight r => shownRecord "Greenlight" [("config", shown r)]⟩

end NodeConfig

/-- The configuration of the services. -/
structure Config where
  environment : Environment
  schedulerUrl : String
  workingDir : String
  network : Network
  apiKey : Option String
  requestTimeoutSec : UInt64
  syncIntervalSec : UInt64
  nodeConfig : NodeConfig
deriving DecidableEq, Repr, Inhabited

namespace Config

/-- Reads a configuration from JSON. -/
def reader : RecordReader Config :=
  Config.mk <$> .required "environment" decoder <*> .required "scheduler_url" decoder
    <*> .required "working_dir" decoder <*> .required "network" decoder
    <*> .optional "api_key" decoder <*> .required "request_timeout_sec" decoder
    <*> .required "sync_interval_sec" decoder <*> .required "node_config" decoder

instance : Coded Config where
  toJson c :=
    .obj [entry "environment" c.environment, entry "scheduler_url" c.schedulerUrl,
      entry "working_dir" c.workingDir, entry "network" c.network, entry "api_key" c.apiKey,
      entry "request_timeout_sec" c.requestTimeoutSec, entry "sync_interval_sec" c.syncIntervalSec,
      entry "node_config" c.nodeConfig]
  decoder := reader.decoder "Config"

instance : Shown Config :=
  ⟨fun c =>
    shownRecord "Config"
      [("environment", shown c.environment), ("scheduler_url", shown c.schedulerUrl),
        ("working_dir", shown c.workingDir), ("network", shown c.network),
        ("api_key", shown c.apiKey), ("request_timeout_sec", shown c.requestTimeoutSec),
        ("sync_interval_sec", shown c.syncIntervalSec), ("node_config", shown c.nodeConfig)]⟩

/-- The scheduler of a deployment. -/
def schedulerOf : Environment → String
  | .production => "https://scheduler.gl.blckstrm.com:2601"
  | .staging => "https://scheduler.staging.gl.blckstrm.com:2601"

/-- The configuration for a deployment. An empty key counts as none. -/
def default (environment : Environment) (apiKey : String) (nodeConfig : NodeConfig) : Config where
  environment := environment
  schedulerUrl := schedulerOf environment
  workingDir := "."
  network := .bitcoin
  apiKey := if apiKey = "" then none else some apiKey
  requestTimeoutSec := 30
  syncIntervalSec := 60
  nodeConfig := nodeConfig

end Config

/-- What a connection needs: the configuration and the seed that owns the node. -/
structure ConnectRequest where
  config : Config
  seed : Bytes
deriving DecidableEq, Repr, Inhabited

namespace ConnectRequest

/-- Reads a request from JSON. -/
def reader : RecordReader ConnectRequest :=
  ConnectRequest.mk <$> .required "config" decoder <*> .required "seed" decoder

instance : Coded ConnectRequest where
  toJson r := .obj [entry "config" r.config, entry "seed" r.seed]
  decoder := reader.decoder "ConnectRequest"

instance : Shown ConnectRequest :=
  ⟨fun r => shownRecord "ConnectRequest" [("config", shown r.config), ("seed", shown r.seed)]⟩

end ConnectRequest

end HostedNode
