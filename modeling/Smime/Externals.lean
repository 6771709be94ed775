import Smime.Mail.Message
import Smime.Types
import Smime.X509.Pkcs7

/-! What the verification calls outside `src/`: the ASN.1, MIME, date and
cryptography crates, and the certificate chain verifier. Nothing is assumed of
them here. An error that only ever is printed is its text. -/
namespace Smime

open X690 (Octets)
open X509 Mail

inductive HashType where
  | none
  | sha256
  | sha384
  | sha512
  | sha3_256
  | sha3_384
  | sha3_512
  | shake128
  | shake256
  | other (name : String)
  deriving DecidableEq

inductive SignatureParameters where
  | rsaPkcs1v15 (hash : HashType)
  | rsaPss (hash : HashType)
  | ecdsa (hash : HashType)
  | edDsa (hash : HashType)
  | other
  deriving DecidableEq

/-- Schemes that verify a signature over a hash of the data. -/
inductive PrehashScheme where
  | rsaPkcs1v15
  | rsaPss
  | p256
  | p384
  | p521
  deriving DecidableEq

inductive MlDsa where
  | mlDsa44
  | mlDsa65
  | mlDsa87
  deriving DecidableEq

/-- `asn1::parse_single` and `asn1::write_single` at the types of the sources. -/
structure Asn1 where
  parseContentInfo : Octets → Except String Content
  parseAttributes : Octets → Except String (List Attribute)
  parseObjectIdentifier : Octets → Except String ObjectIdentifier
  parseObjectIdentifiers : Octets → Except String (List ObjectIdentifier)
  parseOctetString : Octets → Except String Octets
  parseTime : Octets → Except String DateTime
  parseCmsAlgorithmProtection : Octets → Except String CmsAlgorithmProtection
  parseAlgorithmIdentifier : Octets → Except String AlgorithmIdentifier
  parseCertificate : Octets → Except String Certificate
  parseSubjectPublicKeyInfo : Octets → Except String SubjectPublicKeyInfo
  parseSubjectAlternativeName : Octets → Except String (List GeneralName)
  parsePolicies : Octets → Except String (List PolicyInformation)
  parseAuthorityKeyIdentifier : Octets → Except String (Option Octets)
  parseOcspResponse : Octets → Except String OcspResponse
  writeAttribute : Attribute → Except String Octets
  writeName : Name → Except String Octets
  writeSubjectPublicKeyInfo : SubjectPublicKeyInfo → Except String Octets
  writeCertificate : Certificate → Except String Octets
  writeTbsCertificate : Certificate → Except String Octets
  writeResponseData : ResponseData → Except String Octets

/-- `{:?}` and `{}` of foreign types, and other texts. -/
structure Texts where
  debugOid : ObjectIdentifier → String
  displayOid : ObjectIdentifier → String
  debugSerial : Octets → String
  debugTag : Tag → String
  debugHashType : HashType → String
  debugAlgorithmParameters : AlgorithmParameters → String
  dnToString : Name → String
  utf8Error : Octets → String
  localize : SmimeError → String
  toRfc3339 : Instant → String
  domainToAscii : String → Option String
  encodePem : String → Octets → String
  parsePemMany : Octets → Except String (List (String × Octets))

/-- `mail_parser` and `chrono`. -/
structure Clock where
  parseMessage : Octets → Option Message
  mailTimestamp : MailDate → Int
  timestampOpt : Int → Option Instant
  withYmdAndHms : DateTime → Option Instant
  now : Instant
  nowAsn1 : DateTime

structure Signatures where
  digest : HashType → Octets → Octets
  sha1Of : Octets → Octets
  hashOidToHashType : ObjectIdentifier → Except String HashType
  permittedSignatureAlgorithms : List AlgorithmIdentifier
  identifySignatureAlgorithmParameters :
    AlgorithmIdentifier → Except String SignatureParameters
  verifySignatureWithSignatureAlgorithm :
    AnyPublicKey → AlgorithmIdentifier → Octets → Octets → Except String Unit
  prehashKeyFromDer : PrehashScheme → Octets → Except String Unit
  prehashSignature : PrehashScheme → Octets → Except String Unit
  verifyPrehash : PrehashScheme → HashType → Octets → Octets → Octets → Except String Unit
  ed25519KeyFromDer : Octets → Except String Unit
  ed25519Signature : Octets → Except String Unit
  verifyEd25519 : Octets → Octets → Octets → Except String Unit
  verifyMlDsa : MlDsa → Octets → Octets → Octets → Except String Unit

/-- The chain verifier, with the contents of the built-in bundles. -/
structure ChainVerifier where
  Store : Type
  Builder : Type
  Verifier : Type
  caBundle : TrustStore → Octets
  newStore : List Certificate → Except String Store
  newBuilder : Builder
  withStore : Builder → Store → Except String Builder
  withMaxChainDepth : Builder → Nat → Except String Builder
  withTime : Builder → DateTime → Except String Builder
  buildEmailVerifier : Builder → Except String Verifier
  verify : Verifier → Certificate → List Certificate → Except String (List Certificate)

structure Externals extends Asn1, Texts, Clock, Signatures, ChainVerifier

end Smime
