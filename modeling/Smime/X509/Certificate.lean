import Smime.X690.Length

/-! Parsed certificates and algorithm identifiers, with the fields that the
sources under `src/` read of the types of the `cryptography_x509` crate. -/
namespace Smime.X509

open X690 (Octets)

abbrev ObjectIdentifier := List Nat

inductive TagClass where
  | universal
  | application
  | contextSpecific
  | private_
  deriving DecidableEq

structure Tag where
  value : Nat
  constructed : Bool
  tagClass : TagClass
  deriving DecidableEq

/-- `asn1::Tag::primitive`. -/
def Tag.primitive (value : Nat) : Tag := ⟨value, false, .universal⟩

/-- An element that is kept as it was read: `data` are its content octets,
`fullData` the whole element. -/
structure Tlv where
  tag : Tag
  data : Octets
  fullData : Octets
  deriving DecidableEq

/-- Date and time of a UTCTime or GeneralizedTime. -/
structure DateTime where
  year : Nat
  month : Nat
  day : Nat
  hour : Nat
  minute : Nat
  second : Nat
  deriving DecidableEq

/-- Parameters of an algorithm identifier inside other parameters. -/
inductive NestedParameters where
  | sha1 (null : Option Unit)
  | sha256 (null : Option Unit)
  | sha384 (null : Option Unit)
  | sha512 (null : Option Unit)
  | hmacWithSha1 (null : Option Unit)
  | hmacWithSha224 (null : Option Unit)
  | hmacWithSha256 (null : Option Unit)
  | hmacWithSha384 (null : Option Unit)
  | hmacWithSha512 (null : Option Unit)
  | other (oid : ObjectIdentifier) (params : Option Tlv)
  deriving DecidableEq

structure NestedAlgorithm where
  oid : ObjectIdentifier
  params : NestedParameters
  deriving DecidableEq

structure MaskGenAlgorithm where
  oid : ObjectIdentifier
  params : NestedAlgorithm
  deriving DecidableEq

structure RsaPssParameters where
  hashAlgorithm : NestedAlgorithm
  maskGenAlgorithm : MaskGenAlgorithm
  saltLength : Nat
  trailerField : Option Nat
  deriving DecidableEq

structure RsaOaepParameters where
  hashAlgorithm : NestedAlgorithm
  maskGenAlgorithm : MaskGenAlgorithm
  pSourceFunc : Option NestedAlgorithm
  deriving DecidableEq

inductive EcParameters where
  | namedCurve (curve : ObjectIdentifier)
  | implicitCurve
  | specifiedCurve
  deriving DecidableEq

structure Pbkdf2Params where
  salt : Octets
  iterationCount : Nat
  keyLength : Option Nat
  prf : NestedAlgorithm
  deriving DecidableEq

/-- Nonce and tag length of an AEAD cipher. -/
structure AeadParameters where
  nonce : Octets
  icvLen : Nat
  deriving DecidableEq

inductive AlgorithmParameters where
  | rsa (null : Option Unit)
  | rsaPss (params : Option RsaPssParameters)
  | rsaWithSha256 (null : Option Unit)
  | rsaWithSha384 (null : Option Unit)
  | rsaWithSha512 (null : Option Unit)
  | rsaesOaep (params : RsaOaepParameters)
  | ecdsa (params : Option EcParameters)
  | ed25519
  | ed448
  | x25519
  | mlDsa44
  | mlDsa65
  | mlDsa87
  | aes128Cbc (iv : Octets)
  | aes192Cbc (iv : Octets)
  | aes256Cbc (iv : Octets)
  | desEde3Cbc (iv : Octets)
  | rc2Cbc
  | aes128Gcm (params : AeadParameters)
  | aes192Gcm (params : AeadParameters)
  | aes256Gcm (params : AeadParameters)
  | aes128Ccm (params : AeadParameters)
  | aes192Ccm (params : AeadParameters)
  | aes256Ccm (params : AeadParameters)
  | cekHkdfSha256 (algorithm : Tlv)
  | pbkdf2 (params : Pbkdf2Params)
  | other (oid : ObjectIdentifier) (params : Option Tlv)
  deriving DecidableEq

structure AlgorithmIdentifier where
  oid : ObjectIdentifier
  params : AlgorithmParameters
  deriving DecidableEq

/-- The value of an attribute of a distinguished name. -/
inductive AttributeValue where
  | anyString (tlv : Tlv)
  | printableString (text : String)
  | otherString (tag : Tag)
  deriving DecidableEq

def AttributeValue.tag : AttributeValue → Tag
  | anyString tlv => tlv.tag
  | printableString _ => .primitive 0x13
  | otherString tag => tag

structure AttributeTypeValue where
  typeId : ObjectIdentifier
  value : AttributeValue
  deriving DecidableEq

/-- A distinguished name: relative distinguished names in order. -/
abbrev Name := List (List AttributeTypeValue)

structure SubjectPublicKeyInfo where
  algorithm : AlgorithmIdentifier
  subjectPublicKey : Octets
  deriving DecidableEq

/-- `value` is the content of `extnValue`. -/
structure Extension where
  extnId : ObjectIdentifier
  value : Octets
  deriving DecidableEq

/-- `extensions` is the result of `Certificate::extensions`; `unread` are the
fields that no source reads. -/
structure Certificate where
  serial : Octets
  issuer : Name
  notBefore : DateTime
  notAfter : DateTime
  subject : Name
  spki : SubjectPublicKeyInfo
  extensions : Option (List Extension)
  signatureAlg : AlgorithmIdentifier
  signature : Octets
  unread : Octets
  deriving DecidableEq

/-- `Extensions::get_extension`. -/
def getExtension (extensions : List Extension) (oid : ObjectIdentifier) : Option Extension :=
  extensions.find? (·.extnId == oid)

inductive GeneralName where
  | rfc822Name (name : String)
  | dnsName (name : String)
  | uniformResourceIdentifier (uri : String)
  | ipAddress (octets : Octets)
  | otherName (typeId : ObjectIdentifier) (value : Tlv)
  | other
  deriving DecidableEq

inductive Qualifier where
  | cpsUri
  | userNotice
  deriving DecidableEq

structure PolicyQualifierInfo where
  policyQualifierId : ObjectIdentifier
  qualifier : Qualifier
  deriving DecidableEq

structure PolicyInformation where
  policyIdentifier : ObjectIdentifier
  policyQualifiers : Option (List PolicyQualifierInfo)
  deriving DecidableEq

/-- What names the signer of an OCSP response. -/
inductive ResponderId where
  | byName (name : Name)
  | byKey (hash : Octets)
  deriving DecidableEq

structure CertId where
  hashAlgorithm : AlgorithmIdentifier
  issuerNameHash : Octets
  issuerKeyHash : Octets
  serialNumber : Octets
  deriving DecidableEq

inductive CertStatus where
  | good
  | revoked
  | unknown
  deriving DecidableEq

structure SingleResponse where
  certId : CertId
  certStatus : CertStatus
  thisUpdate : DateTime
  nextUpdate : Option DateTime
  deriving DecidableEq

structure ResponseData where
  responderId : ResponderId
  responses : List SingleResponse
  unread : Octets
  deriving DecidableEq

structure BasicOcspResponse where
  tbsResponseData : ResponseData
  signatureAlgorithm : AlgorithmIdentifier
  signature : Octets
  certs : Option (List Certificate)
  deriving DecidableEq

structure OcspResponse where
  responseStatus : Nat
  responseBytes : Option BasicOcspResponse
  deriving DecidableEq

end Smime.X509
