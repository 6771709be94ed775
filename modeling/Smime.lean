import Smime.X690.Length
import Smime.X690.Value
import Smime.X690.Encoding
import Smime.X690.Der
import Smime.X690.Growth
import Smime.X690.Unique
import Smime.X690.Rearranged
import Smime.X690.Reordered
import Smime.Utils.BerToDerCms
import Smime.Utils.Calls
import Smime.Utils.Regions
import Smime.Cms.ImplicitSets
import Smime.Cms.SignedData
import Smime.Cms.EnvelopedData
import Smime.Cms.Distinguished
import Smime.Utils.CmsRefinement
import Smime.Utils.CmsCanonical
import Smime.Utils.CmsEncrypted
import Smime.Data.Except
import Smime.Data.Utf8
import Smime.Utils.BerToDer
import Smime.Utils.LengthCodec
import Smime.Utils.LengthExact
import Smime.Utils.TlvHeader
import Smime.Utils.Flatten
import Smime.Utils.Children
import Smime.Utils.BerElement
import Smime.Utils.Recognition
import Smime.Utils.Canonical
import Smime.Utils.SameValue
import Smime.Errors
import Smime.Mail.Message
import Smime.Mail.Entity
import Smime.ClearSigned
import Smime.X509.Certificate
import Smime.X509.Oid
import Smime.X509.Pkcs7
import Smime.Types
import Smime.Externals
import Smime.Utils.Text
import Smime.Utils.Address
import Smime.CmsUtils
import Smime.CertInfo
import Smime.Sender
import Smime.Ocsp
import Smime.Chain
import Smime.PrepareSigner
import Smime.VerifySignedData
import Smime.CandidateKey
import Smime.SignerVerdict
import Smime.SignatureSoundness
import Smime.LayerReport
import Smime.SignersIndependent
import Smime.CreateCms
import Smime.SignRoundTrip
import Smime.NestedMessages
import Smime.ModifiedMessage
import Smime.SignerViolations
import Smime.BlockModes.Cbc
import Smime.BlockModes.TwoPass
import Smime.Data.Call
import Smime.Ciphers
import Smime.Decrypt.KeyAgreement
import Smime.Decrypt.Content
import Smime.DecryptVerify
import Smime.Layers
import Smime.SenderResolution
import Smime.LayerSender
import Smime.SenderAuthenticity
import Smime.Encrypt
import Smime.EncryptDecrypt
import Smime.RecipientRoundTrip
import Smime.SignatureModes
import Smime.VerifySuccess
import Smime.OcspAcceptance
import Smime.Revocation
import Smime.InnermostContent
import Smime.VerifyFrame
import Smime.Data.Base64
import Smime.Data.Splice
import Smime.EncryptionLayers
import Smime.Reencoding
import Smime.RewrittenReport
import Smime.SignedContent
import Smime.DeliveredPlaintext
import Smime.SignerDefects
import Smime.LostFailures
import Smime.CarriedSender
import Smime.ShownAlike
import Smime.SenderFallback
import Smime.OuterDate
import Smime.PlainVerifier
import Smime.Command
import Smime.ChainVerdict
import Smime.AlgorithmProtection
import Smime.SenderMatching
import Smime.DomainForms
import Smime.MailboxNames
import Smime.SenderOutcome
import Smime.CandidateCertificates
import Smime.SignedAttributes
import Smime.FileOctets
import Smime.WildDuck
import Smime.Data.Utf8Chars
import Smime.Rfc3211
import Smime.RecipientSearch
import Smime.MultiRecipient
import Smime.ValidationProxy
import Smime.ProxyRevocation
import Smime.OcspRoundTrip
import Smime.Pkcs12
import Smime.DecryptCommand
import Smime.SafeEntries
import Smime.ModifyCms
import Smime.RunModify
import Smime.Utils.HeaderReturns
import Smime.Utils.BerToDerReturns
import Smime.Utils.SortReturns
import Smime.Utils.Normaliser
