import HostedNode.Environment
import HostedNode.Log.Level

/-! # Settings

What a user settles once for all runs of the command line: the deployment, the API key, how a new
node is registered, and the log. Every setting may be left out. -/

namespace HostedNode

open Json Text

/-- The settings of the log. -/
structure LogSettings where
  level : Log.Level
  file : Option String
deriving DecidableEq, Repr

namespace LogSettings

instance : Inhabited LogSettings := ⟨default, none⟩

/-- Reads the settings from JSON. -/
def reader : RecordReader LogSettings :=
  LogSettings.mk <$> .withDefault "level" decoder default
    <*> .withDefault "file" Decoder.path.option none

instance : Coded LogSettings where
  toJson s := .obj [entry "level" s.level, entry "file" s.file]
  decoder := reader.decoder "LoggingConfig"

instance : Shown LogSettings :=
  ⟨fun s => shownRecord "LoggingConfig" [("level", shown s.level), ("file", shown s.file)]⟩

end LogSettings

/-- The settings. -/
structure Settings where
  environment : Environment
  apiKey : Option String
  inviteCode : Option String
  partnerCert : Option String
  partnerKey : Option String
  logging : LogSettings
deriving DecidableEq, Repr

namespace Settings

instance : Inhabited Settings := ⟨default, none, none, none, none, default⟩

/-- Reads the settings from JSON. -/
def reader : RecordReader Settings :=
  Settings.mk <$> .withDefault "environment" decoder default
    <*> .withDefault "api_key" decoder none <*> .withDefault "invite_code" decoder none
    <*> .withDefault "partner_cert" Decoder.path.option none
    <*> .withDefault "partner_key" Decoder.path.option none
    <*> .withDefault "logging" decoder default

instance : Coded Settings where
  toJson s :=
    .obj [entry "environment" s.environment, entry "api_key" s.apiKey,
      entry "invite_code" s.inviteCode, entry "partner_cert" s.partnerCert,
      entry "partner_key" s.partnerKey, entry "logging" s.logging]
  decoder := reader.decoder "CliConfig"

instance : Shown Settings :=
  ⟨fun s =>
    shownRecord "CliConfig"
      [("environment", shown s.environment), ("api_key", shown s.apiKey),
        ("invite_code", shown s.inviteCode), ("partner_cert", shown s.partnerCert),
        ("partner_key", shown s.partnerKey), ("logging", shown s.logging)]⟩

end Settings

end HostedNode
