import HostedNode.Config

/-! # What shown forms tell of credentials

A shown form tells of credentials how long the certificate is and nothing else: it is the same once
the credentials are `masked`. The same holds of all records that contain credentials
(`shown_masked`, one for each of them). -/

namespace HostedNode

open Text

/-! ### Masking -/

/-- Credentials of which only the length of the certificate is left. -/
def DeviceCredentials.masked (c : DeviceCredentials) : DeviceCredentials :=
  ⟨[], List.replicate c.cert.length 0⟩

/-- Kept credentials, masked. -/
def StoredCredentials.masked (s : StoredCredentials) : StoredCredentials :=
  { s with credentials := s.credentials.masked }

/-- A registration with the credentials of the partner masked. -/
def Registration.masked (r : Registration) : Registration :=
  { r with partner := r.partner.map DeviceCredentials.masked }

/-- A node configuration with the credentials of the partner masked. -/
def NodeConfig.masked : NodeConfig → NodeConfig
  | greenlight r => greenlight r.masked

/-- A configuration with the credentials of the partner masked. -/
def Config.masked (c : Config) : Config := { c with nodeConfig := c.nodeConfig.masked }

/-- A request with the credentials of the partner masked. -/
def ConnectRequest.masked (r : ConnectRequest) : ConnectRequest :=
  { r with config := r.config.masked }

/-! ### Shown forms -/

theorem DeviceCredentials.shown_masked (c : DeviceCredentials) : shown c.masked = shown c := by
  have hlength : c.masked.cert.length = c.cert.length := List.length_replicate
  simp only [shown, hlength]

theorem StoredCredentials.shown_masked (s : StoredCredentials) : shown s.masked = shown s :=
  congrArg
    (fun t => shownRecord "StoredCredentials"
      [("credentials", t), ("seed_fingerprint", shown s.seedFingerprint)])
    s.credentials.shown_masked

theorem Registration.shown_masked (r : Registration) : shown r.masked = shown r := by
  have hpartner : shown r.masked.partner = shown r.partner := by
    obtain ⟨_ | p, code⟩ := r
    · rfl
    · exact congrArg (fun t => "Some(" ++ t ++ ")") p.shown_masked
  exact congrArg
    (fun t => shownRecord "GreenlightNodeConfig"
      [("partner_credentials", t), ("invite_code", shown r.inviteCode)]) hpartner

theorem NodeConfig.shown_masked (c : NodeConfig) : shown c.masked = shown c := by
  obtain ⟨r⟩ := c
  exact congrArg (fun t => shownRecord "Greenlight" [("config", t)]) r.shown_masked

theorem Config.shown_masked (c : Config) : shown c.masked = shown c :=
  congrArg
    (fun t => shownRecord "Config"
      [("environment", shown c.environment), ("scheduler_url", shown c.schedulerUrl),
        ("working_dir", shown c.workingDir), ("network", shown c.network),
        ("api_key", shown c.apiKey), ("request_timeout_sec", shown c.requestTimeoutSec),
        ("sync_interval_sec", shown c.syncIntervalSec), ("node_config", t)])
    c.nodeConfig.shown_masked

theorem ConnectRequest.shown_masked (r : ConnectRequest) : shown r.masked = shown r :=
  congrArg (fun t => shownRecord "ConnectRequest" [("config", t), ("seed", shown r.seed)])
    r.config.shown_masked

end HostedNode
