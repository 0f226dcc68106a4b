import HostedNode.Proofs.Records
import HostedNode.Storage

/-! # The document of a storage

Every record that a storage keeps is lawful, so a document is read as what it was written for
(`ofDocument_document`). -/

namespace HostedNode

open Json RecordReader

instance : LawfulCoded StorageData :=
  .ofReader "StorageData" StorageData.reader 3
    (fun s => ((Fits.field _ _ _ s.credentials (by decide)).map _).seq
      (Fits.field _ _ _ s.nodeState (by decide)))
    (fun _ => rfl) rfl (by decide)

/-- **A document is read as what it was written for.** -/
theorem StorageData.ofDocument_document (s : StorageData) :
    StorageData.ofDocument s.document = .ok s := by
  rw [ofDocument, document, readBytesAs_encode]
  exact readAs_pretty (by decide) s

end HostedNode
