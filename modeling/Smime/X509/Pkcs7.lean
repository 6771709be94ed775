import Smime.X509.Oid

/-! Parsed CMS structures, with the fields that the sources under `src/` read of
`cryptography_x509::pkcs7`. A SET OF or SEQUENCE OF is the list of its elements
in the order of the encoding. -/
namespace Smime.X509

open X690 (Octets)

/-- `values` are the whole elements of the SET OF. -/
structure Attribute where
  typeId : ObjectIdentifier
  values : List Octets
  deriving DecidableEq

structure IssuerAndSerialNumber where
  issuer : Name
  serialNumber : Octets
  deriving DecidableEq

inductive SignerIdentifier where
  | issuerAndSerialNumber (ias : IssuerAndSerialNumber)
  | subjectKeyIdentifier (ski : Octets)
  deriving DecidableEq

structure SignerInfo where
  version : UInt8
  issuerAndSerialNumber : SignerIdentifier
  digestAlgorithm : AlgorithmIdentifier
  authenticatedAttributes : Option (List Attribute)
  digestEncryptionAlgorithm : AlgorithmIdentifier
  encryptedDigest : Octets
  deriving DecidableEq

structure CmsAlgorithmProtection where
  digestAlgorithm : AlgorithmIdentifier
  signatureAlgorithm : Option AlgorithmIdentifier
  deriving DecidableEq

inductive CertificateChoices where
  | certificate (cert : Certificate)
  | v1AttrCert
  | v2AttrCert
  | otherCertificate
  deriving DecidableEq

inductive RevocationInfoChoice where
  | crl
  | other (otherRevInfoFormat : ObjectIdentifier) (otherRevInfo : Octets)
  deriving DecidableEq

/-- The encapsulated content of a SignedData: `other` is any content type but
id-data. -/
inductive EncapContent where
  | data (eContent : Option Octets)
  | other
  deriving DecidableEq

structure SignedData where
  version : UInt8
  content : EncapContent
  certificates : Option (List CertificateChoices)
  crls : Option (List RevocationInfoChoice)
  signerInfos : List SignerInfo
  deriving DecidableEq

structure OriginatorInfo where
  certs : Option (List CertificateChoices)
  crls : Option (List RevocationInfoChoice)
  deriving DecidableEq

inductive RecipientIdentifier where
  | issuerAndSerialNumber (ias : IssuerAndSerialNumber)
  | subjectKeyIdentifier (ski : Octets)
  deriving DecidableEq

structure KeyTransRecipientInfo where
  version : UInt8
  rid : RecipientIdentifier
  keyEncryptionAlgorithm : AlgorithmIdentifier
  encryptedKey : Octets
  deriving DecidableEq

structure OriginatorPublicKey where
  algorithm : AlgorithmIdentifier
  publicKey : Octets
  deriving DecidableEq

inductive OriginatorIdentifierOrKey where
  | issuerAndSerialNumber (ias : IssuerAndSerialNumber)
  | subjectKeyIdentifier (ski : Octets)
  | originatorKey (key : OriginatorPublicKey)
  deriving DecidableEq

inductive KeyAgreeRecipientIdentifier where
  | issuerAndSerialNumber (ias : IssuerAndSerialNumber)
  | rKeyId (subjectKeyIdentifier : Octets)
  deriving DecidableEq

structure RecipientEncryptedKey where
  rid : KeyAgreeRecipientIdentifier
  encryptedKey : Octets
  deriving DecidableEq

structure KeyAgreeRecipientInfo where
  version : UInt8
  originator : OriginatorIdentifierOrKey
  ukm : Option Octets
  keyEncryptionAlgorithm : AlgorithmIdentifier
  recipientEncryptedKeys : List RecipientEncryptedKey
  deriving DecidableEq

structure KekRecipientInfo where
  version : UInt8
  keyEncryptionAlgorithm : AlgorithmIdentifier
  encryptedKey : Octets
  deriving DecidableEq

structure PasswordRecipientInfo where
  version : UInt8
  keyDerivationAlgorithm : Option AlgorithmIdentifier
  keyEncryptionAlgorithm : AlgorithmIdentifier
  encryptedKey : Octets
  deriving DecidableEq

inductive RecipientInfo where
  | keyTrans (ktri : KeyTransRecipientInfo)
  | keyAgree (kari : KeyAgreeRecipientInfo)
  | kek (kekri : KekRecipientInfo)
  | password (pwri : PasswordRecipientInfo)
  | other
  deriving DecidableEq

structure EncryptedContentInfo where
  contentType : ObjectIdentifier
  contentEncryptionAlgorithm : AlgorithmIdentifier
  encryptedContent : Option Octets
  deriving DecidableEq

structure EnvelopedData where
  version : UInt8
  originatorInfo : Option OriginatorInfo
  recipientInfos : List RecipientInfo
  encryptedContentInfo : EncryptedContentInfo
  unprotectedAttrs : Option (List Attribute)
  deriving DecidableEq

structure AuthEnvelopedData where
  version : UInt8
  originatorInfo : Option OriginatorInfo
  recipientInfos : List RecipientInfo
  authEncryptedContentInfo : EncryptedContentInfo
  authAttrs : Option (List Attribute)
  mac : Octets
  unauthAttrs : Option (List Attribute)
  deriving DecidableEq

/-- The content of a ContentInfo. -/
inductive Content where
  | data (content : Option Octets)
  | signedData (signedData : SignedData)
  | envelopedData (envelopedData : EnvelopedData)
  | authEnvelopedData (authEnvelopedData : AuthEnvelopedData)
  | other
  deriving DecidableEq

end Smime.X509
