import SealedTransfer.Bytes
import SealedTransfer.Entropy
import SealedTransfer.Text.Digits
import SealedTransfer.Text.Utf8
import SealedTransfer.Text.Blank
import SealedTransfer.Text.Quoted
import SealedTransfer.Text.Base64
import SealedTransfer.Pem
import SealedTransfer.Storage
import SealedTransfer.Protobuf.Record
import SealedTransfer.Json.Reader
import SealedTransfer.Json.Shape
import SealedTransfer.Time.Rfc3339
import SealedTransfer.Hash.Md5
import SealedTransfer.Hash.Sha512
import SealedTransfer.Hash.Hmac
import SealedTransfer.Aes.Gcm
import SealedTransfer.Rsa.Oaep
import SealedTransfer.Rsa.Pss
import SealedTransfer.Message.Json
import SealedTransfer.Asn1.Integer
import SealedTransfer.Asn1.ObjectId
import SealedTransfer.Asn1.BitString
import SealedTransfer.Asn1.Time
import SealedTransfer.Fault
import SealedTransfer.Key.Private
import SealedTransfer.Key.Fingerprint
import SealedTransfer.Key.Any
import SealedTransfer.Cipher.Payload
import SealedTransfer.Cipher.Seal
import SealedTransfer.Uuid
import SealedTransfer.Transfer
import SealedTransfer.Proofs.Asn1.Canonical
import SealedTransfer.Proofs.Storage
import SealedTransfer.Proofs.Message.Payload
import SealedTransfer.Proofs.Cipher.Payload
import SealedTransfer.Proofs.Cipher.Seal
import SealedTransfer.Proofs.Envelope.Runs
import SealedTransfer.Proofs.Transfer.Authentic
import SealedTransfer.Proofs.Transfer.Rejections
import SealedTransfer.Proofs.Transfer.RoundTrip
import SealedTransfer.Proofs.Envelope.Landing
import SealedTransfer.Proofs.Envelope.Failing
import SealedTransfer.Proofs.Asn1.Integer
import SealedTransfer.Proofs.Key.Exchanged
import SealedTransfer.Proofs.Key.Private
import SealedTransfer.Proofs.Key.Restored
import SealedTransfer.Proofs.Transfer.Retrying
import SealedTransfer.Proofs.Transfer.Relabelling
import SealedTransfer.Proofs.Json.Reader
import SealedTransfer.Proofs.Message.Json
import SealedTransfer.Proofs.Message.Spelling
import SealedTransfer.Proofs.Transfer.Refusing
import SealedTransfer.Proofs.Time.Calendar
import SealedTransfer.Proofs.Time.Rfc3339
import SealedTransfer.Proofs.Certificate
import SealedTransfer.Proofs.Key.Public
import SealedTransfer.Proofs.Key.Certified
import SealedTransfer.Proofs.Transfer.Exchange
import SealedTransfer.Proofs.Transfer.Downgrading
import SealedTransfer.Proofs.Entropy
import SealedTransfer.Proofs.Envelope.Drawing
import SealedTransfer.Proofs.Envelope.Correspondence
import SealedTransfer.Proofs.Transfer.Randomness
import SealedTransfer.Proofs.Key.Resolution
import SealedTransfer.Proofs.Key.Forms
import SealedTransfer.Proofs.Key.Chain
import SealedTransfer.Proofs.Envelope.Sealing
import SealedTransfer.Proofs.Transfer.Recipient
import SealedTransfer.Proofs.Cipher.Layout
import SealedTransfer.Proofs.Rsa.Pss
import SealedTransfer.Proofs.Cipher.Signature
import SealedTransfer.Proofs.Envelope.Stamping
import SealedTransfer.Proofs.Envelope.Settings
import SealedTransfer.Proofs.Asn1.Fields
import SealedTransfer.Proofs.Certificate.SignatureName
import SealedTransfer.Proofs.Envelope.Carrying
