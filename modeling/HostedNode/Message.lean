import HostedNode.Json.Coded

/-! # Signed messages

The requests to sign a message with the key of a node and to check such a signature, and what is
answered. -/

namespace HostedNode

open Json Text

/-- A message to be signed. -/
structure SignMessageRequest where
  message : String
deriving DecidableEq, Repr, Inhabited

instance : Coded SignMessageRequest where
  toJson r := .obj [entry "message" r.message]
  decoder := RecordReader.decoder "SignMessageRequest"
    (SignMessageRequest.mk <$> .required "message" decoder)

instance : Shown SignMessageRequest :=
  ⟨fun r => shownRecord "SignMessageRequest" [("message", shown r.message)]⟩

/-- The signature of a message. -/
structure SignMessageResponse where
  signature : String
deriving DecidableEq, Repr, Inhabited

instance : Coded SignMessageResponse where
  toJson r := .obj [entry "signature" r.signature]
  decoder := RecordReader.decoder "SignMessageResponse"
    (SignMessageResponse.mk <$> .required "signature" decoder)

instance : Shown SignMessageResponse :=
  ⟨fun r => shownRecord "SignMessageResponse" [("signature", shown r.signature)]⟩

/-- A message, the key that is said to have signed it, and the signature. -/
structure CheckMessageRequest where
  message : String
  pubkey : String
  signature : String
deriving DecidableEq, Repr, Inhabited

instance : Coded CheckMessageRequest where
  toJson r :=
    .obj [entry "message" r.message, entry "pubkey" r.pubkey, entry "signature" r.signature]
  decoder := RecordReader.decoder "CheckMessageRequest"
    (CheckMessageRequest.mk <$> .required "message" decoder <*> .required "pubkey" decoder
      <*> .required "signature" decoder)

instance : Shown CheckMessageRequest :=
  ⟨fun r =>
    shownRecord "CheckMessageRequest"
      [("message", shown r.message), ("pubkey", shown r.pubkey),
        ("signature", shown r.signature)]⟩

/-- Whether a signature was made by the key. -/
structure CheckMessageResponse where
  isValid : Bool
deriving DecidableEq, Repr, Inhabited

instance : Coded CheckMessageResponse where
  toJson r := .obj [entry "is_valid" r.isValid]
  decoder := RecordReader.decoder "CheckMessageResponse"
    (CheckMessageResponse.mk <$> .required "is_valid" decoder)

instance : Shown CheckMessageResponse :=
  ⟨fun r => shownRecord "CheckMessageResponse" [("is_valid", shown r.isValid)]⟩

end HostedNode
