import HostedNode.Json.Coded
import HostedNode.Text.Hex

/-! # Device credentials

The key and certificate that the provider issues to a device, and the form in which they are kept,
together with the fingerprint of the seed they were issued for. The shown form of credentials tells
how long the certificate is and nothing else. -/

namespace HostedNode

open Json Text

/-- The credentials of a device. -/
structure DeviceCredentials where
  key : Bytes
  cert : Bytes
deriving DecidableEq, Repr, Inhabited

namespace DeviceCredentials

/-- Reads credentials from JSON. -/
def reader : RecordReader DeviceCredentials :=
  DeviceCredentials.mk <$> .required "device_key" decoder <*> .required "device_cert" decoder

instance : Coded DeviceCredentials where
  toJson c := .obj [entry "device_key" c.key, entry "device_cert" c.cert]
  decoder := reader.decoder "GreenlightCredentials"

instance : Shown DeviceCredentials :=
  ⟨fun c =>
    shownRecord "GreenlightCredentials"
      [("device_key", shown "<redacted>"),
        ("device_cert", shown (toString c.cert.length ++ " bytes"))]⟩

end DeviceCredentials

/-- Credentials as they are kept. -/
structure StoredCredentials where
  credentials : DeviceCredentials
  /-- The fingerprint of the seed that they were issued for. -/
  seedFingerprint : String
deriving DecidableEq, Repr, Inhabited

namespace StoredCredentials

/-- Reads kept credentials from JSON. -/
def reader : RecordReader StoredCredentials :=
  StoredCredentials.mk <$> .required "credentials" decoder <*> .required "seed_fingerprint" decoder

instance : Coded StoredCredentials where
  toJson s := .obj [entry "credentials" s.credentials, entry "seed_fingerprint" s.seedFingerprint]
  decoder := reader.decoder "StoredCredentials"

instance : Shown StoredCredentials :=
  ⟨fun s =>
    shownRecord "StoredCredentials"
      [("credentials", shown s.credentials), ("seed_fingerprint", shown s.seedFingerprint)]⟩

end StoredCredentials

end HostedNode
