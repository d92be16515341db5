import SealedContent.Main
import SealedContent.Proofs.Bytes.Positional
import SealedContent.Proofs.Bytes.Chunks
import SealedContent.Proofs.Bytes.Hex
import SealedContent.Proofs.Cipher.Counter
import SealedContent.Proofs.Cipher.Keystream
import SealedContent.Proofs.Cipher.KeystreamHistory
import SealedContent.Proofs.Cipher.Stage
import SealedContent.Proofs.Cipher.CounterMode
import SealedContent.Proofs.Cipher.Blocks
import SealedContent.Proofs.Cipher.Chaining
import SealedContent.Proofs.Cipher.RoundTrip
import SealedContent.Proofs.Cipher.ChainedForm
import SealedContent.Proofs.Cipher.OpenedForm
import SealedContent.Proofs.Cipher.FailStop
import SealedContent.Proofs.Content.Cid
import SealedContent.Proofs.Cbor.Head
import SealedContent.Proofs.Cbor.Canonical
import SealedContent.Proofs.Content.Archive
import SealedContent.Proofs.Content.Read
import SealedContent.Proofs.Record.Form
import SealedContent.Proofs.Record.RoundTrip
import SealedContent.Proofs.Record.Root
import SealedContent.Proofs.Json.Literal
import SealedContent.Proofs.Custody.Call
import SealedContent.Proofs.Retrieval.Download
import SealedContent.Proofs.Retrieval.Verified
import SealedContent.Proofs.Retrieval.FetchedRecord
import SealedContent.Proofs.Custody.ReleasedKey
import SealedContent.Proofs.Json.Text
import SealedContent.Proofs.Encoding.Base64
import SealedContent.Proofs.Encoding.Positional
import SealedContent.Proofs.Custody.Signature
import SealedContent.Proofs.Sealing.Authenticated
import SealedContent.Proofs.Sealing.AgeFile
import SealedContent.Proofs.Custody.KeyReference
import SealedContent.Proofs.Custody.Honest
import SealedContent.Proofs.Custody.RoundTrip
import SealedContent.Proofs.Record.Size
import SealedContent.Proofs.Record.Address
import SealedContent.Proofs.Bytes.Pieces
import SealedContent.Proofs.Content.CidHasher
import SealedContent.Proofs.Json.Portable
import SealedContent.Proofs.Json.Spelling
import SealedContent.Proofs.Custody.Observed
import SealedContent.Proofs.Custody.Transport
import SealedContent.Proofs.Custody.Guarded
import SealedContent.Proofs.Custody.WebService
import SealedContent.Proofs.Program.FileSystem
import SealedContent.Proofs.Program.Action
import SealedContent.Proofs.Program.FileStream
import SealedContent.Proofs.Program.Encrypt
import SealedContent.Proofs.Program.Identity
import SealedContent.Proofs.Program.Decrypt
import SealedContent.Proofs.Program.RoundTrip
import SealedContent.Proofs.Program.FailedEncryption
import SealedContent.Proofs.Program.KeptInput
import SealedContent.Proofs.Retrieval.Observed
import SealedContent.Proofs.Program.GatedDecryption
import SealedContent.Proofs.Cipher.UniqueCiphertext
import SealedContent.Proofs.Cipher.Interchange
import SealedContent.Proofs.Cbor.ReadValue
import SealedContent.Proofs.Content.Grammar
import SealedContent.Proofs.Content.Ranges
import SealedContent.Proofs.Content.Truncation
import SealedContent.Proofs.Retrieval.Truncation
import SealedContent.Proofs.Content.CidText
import SealedContent.Proofs.Content.BlockCheck
import SealedContent.Proofs.Cipher.Ripple
import SealedContent.Proofs.Record.View
import SealedContent.Proofs.Retrieval.BlockAddress
import SealedContent.Proofs.Config.Reload
import SealedContent.Proofs.Content.Length
import SealedContent.Proofs.Config.HomePath
import SealedContent.Proofs.Program.HomePath
