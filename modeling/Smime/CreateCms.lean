import Smime.Encrypt
import Smime.ModifyCms
import Smime.VerifySignedData

/-! `src/create_cms.rs`: messages that are signed with a given key, and put into
MIME entities. `none` is a panic. -/
namespace Smime.CreateCms

open X690 (Octets tlv)
open X509 Utils ModifyCms

/-- What the generator calls outside `src/` beyond encryption: `writeSignedData`
writes a ContentInfo with a SignedData and its digestAlgorithms, which nothing here
reads, and `now` is the time as a Date header has it. -/
structure CreateExternals extends CmsExternals where
  parseName : Octets → Except String Name
  writeSignedData : (digestAlgorithms : List AlgorithmIdentifier) → SignedData → Except String Octets
  nowHeader : String

variable (env : CreateExternals)

section Attributes

/-- `PKCS7_DATA_OID`, as it is written. -/
def pkcs7DataOidDer : Octets := tlv [0x06] [0x2A, 0x86, 0x48, 0x86, 0xF7, 0x0D, 0x01, 0x07, 0x01]

def contentTypeAttr : Attribute := ⟨contentTypeOid, [pkcs7DataOidDer]⟩

def messageDigestAttr (contentHash : Octets) : Attribute :=
  ⟨messageDigestOid, [tlv [0x04] contentHash]⟩

/-- `asn1::BigInt::new`: an integer in as few octets as possible. -/
def bigInt (octets : Octets) : Option Octets :=
  match octets with
  | [] => none
  | [octet] => some [octet]
  | first :: second :: rest =>
      if first = 0x00 ∧ second.toNat < 0x80 ∨ first = 0xFF ∧ 0x80 ≤ second.toNat then none
      else some (first :: second :: rest)

/-- The signed attributes as they are read again, and the signature over them. -/
def signAttrs (sign : Octets → Octets) (contentHash : Octets) :
    Option (List Attribute × Octets) := do
  let attrsSetDer ←
    (writeSetOf env.toExternals [contentTypeAttr, messageDigestAttr contentHash]).toOption
  let attrsSignature := sign attrsSetDer
  let parsedAttrs ← (env.parseAttributes attrsSetDer).toOption
  return (parsedAttrs, attrsSignature)

end Attributes

section SignedData

def signerInfoOf (issuer : Name) (serial : Octets) (digestAlg sigAlg : AlgorithmIdentifier)
    (parsedAttrs : List Attribute) (attrsSignature : Octets) : SignerInfo where
  version := 1
  issuerAndSerialNumber := .issuerAndSerialNumber ⟨issuer, serial⟩
  digestAlgorithm := digestAlg
  authenticatedAttributes := some parsedAttrs
  digestEncryptionAlgorithm := sigAlg
  encryptedDigest := attrsSignature

/-- RFC 5652, section 5.1: version 5 only because of the staples. -/
def signedDataOf (certs : List Certificate) (crls : List RevocationInfoChoice)
    (signerInfo : SignerInfo) (content : Octets) : SignedData where
  version := if crls.isEmpty then 1 else 5
  content := .data (some content)
  certificates := some (certs.map .certificate)
  crls := if crls.isEmpty then none else some crls
  signerInfos := [signerInfo]

/-- `AlgorithmParameters::Sha256` with NULL. -/
def sha256Algorithm : AlgorithmIdentifier :=
  ⟨sha256Oid, .other sha256Oid (some ⟨.primitive 5, [], [0x05, 0x00]⟩)⟩

def rsaSha256Alg : AlgorithmIdentifier := ⟨[1, 2, 840, 113549, 1, 1, 11], .rsaWithSha256 (some ())⟩

/-- An OCSP response as other revocation information. -/
def ocspChoice (ocspRespDer : Octets) : Option RevocationInfoChoice := do
  let ocspTlv ← (env.parseTlv ocspRespDer).toOption
  return .other riOcspOid ocspTlv.fullData

/-- The arguments of `build_stapled_cms` but the content. -/
structure StapledSigner where
  leafDer : Octets
  rootDer : Octets
  extraCertDers : List Octets
  leafSerial : Octets
  signerIssuerNameDer : Octets
  ocspRespDers : List Octets
  leafSign : Octets → Octets

/-- The leaf signs `content`; leaf, root and the extra certificates are embedded,
and the OCSP staples. -/
def buildStapledCms (signer : StapledSigner) (content : Octets) : Option Octets := do
  let contentHash := env.digest .sha256 content
  let (parsedAttrs, attrsSignature) ← signAttrs env signer.leafSign contentHash
  let leafCert ← (env.parseCertificate signer.leafDer).toOption
  let rootCert ← (env.parseCertificate signer.rootDer).toOption
  let signerIssuer ← (env.parseName signer.signerIssuerNameDer).toOption
  let leafSerial ← bigInt signer.leafSerial
  let signerInfo :=
    signerInfoOf signerIssuer leafSerial sha256Algorithm rsaSha256Alg parsedAttrs attrsSignature
  let extraCerts ← signer.extraCertDers.mapM fun der => (env.parseCertificate der).toOption
  let crlChoices ← signer.ocspRespDers.mapM (ocspChoice env)
  (env.writeSignedData [sha256Algorithm]
    (signedDataOf (leafCert :: rootCert :: extraCerts) crlChoices signerInfo content)).toOption

end SignedData

section Staples

/-- What `build_ocsp_response` calls beyond that: whether there is such a date, and
the encodings of a time and of a response. -/
structure OcspExternals extends CreateExternals where
  dateExists : DateTime → Bool
  writeGeneralizedTime : DateTime → Octets
  writeOcspResponse : OcspResponse → Except String Octets

/-- Hash algorithm of the CertID. -/
inductive CertIdHash where
  | sha1
  | sha256
  deriving DecidableEq

def CertIdHash.algorithm : CertIdHash → AlgorithmIdentifier
  | .sha1 => ⟨sha1Oid, .other sha1Oid (some ⟨.primitive 5, [], [0x05, 0x00]⟩)⟩
  | .sha256 => sha256Algorithm

def CertIdHash.hash (env : Externals) : CertIdHash → Octets → Octets
  | .sha1 => env.sha1Of
  | .sha256 => sha256Of env

/-- The arguments of `build_ocsp_response`; a date is a year, month and day. -/
structure StapleArgs where
  leafIssuerNameDer : Octets
  issuerPubkeyBits : Octets
  leafSerial : Octets
  responderNameDer : Octets
  good : Bool
  thisUpdate : Nat × Nat × Nat
  nextUpdate : Option (Nat × Nat × Nat)
  embeddedCerts : List Certificate
  certIdHash : CertIdHash
  ocspSign : Octets → Octets

/-- Midnight of a date. -/
def midnight (date : Nat × Nat × Nat) : DateTime := ⟨date.1, date.2.1, date.2.2, 0, 0, 0⟩

variable (env : OcspExternals)

def genTime (date : Nat × Nat × Nat) : Option DateTime :=
  if env.dateExists (midnight date) then some (midnight date) else none

def optionalTime : Option (Nat × Nat × Nat) → Option (Option DateTime)
  | none => some none
  | some date => (genTime env date).map some

/-- The response before it is written. Of the signed data only the time of
production is not read, and the time of the revocation, which is the same. -/
def basicOcspResponse (args : StapleArgs) : Option BasicOcspResponse := do
  let serial ← bigInt args.leafSerial
  let thisUpdate ← genTime env args.thisUpdate
  let nextUpdate ← optionalTime env args.nextUpdate
  let single : SingleResponse :=
    { certId :=
        { hashAlgorithm := args.certIdHash.algorithm
          issuerNameHash := args.certIdHash.hash env.toExternals args.leafIssuerNameDer
          issuerKeyHash := args.certIdHash.hash env.toExternals args.issuerPubkeyBits
          serialNumber := serial }
      certStatus := if args.good then .good else .revoked
      thisUpdate
      nextUpdate }
  let responderName ← (env.parseName args.responderNameDer).toOption
  let tbsResponseData : ResponseData :=
    ⟨.byName responderName, [single], env.writeGeneralizedTime thisUpdate⟩
  let tbsDer ← (env.writeResponseData tbsResponseData).toOption
  return {
    tbsResponseData
    signatureAlgorithm := rsaSha256Alg
    signature := args.ocspSign tbsDer
    certs := if args.embeddedCerts.isEmpty then none else some args.embeddedCerts }

/-- An `OCSPResponse` with one statement about the leaf. -/
def buildOcspResponse (args : StapleArgs) : Option Octets := do
  let basic ← basicOcspResponse env args
  (env.writeOcspResponse ⟨0, some basic⟩).toOption

end Staples

section Entities

/-- The end of the header of an opaque entity. -/
def pkcs7Header (smimeType : String) : Octets :=
  utf8 ("Content-Type: application/pkcs7-mime;\r\n smime-type=" ++ smimeType ++
    "; name=\"smime.p7m\"\r\nContent-Disposition: attachment; filename=\"smime.p7m\"\r\n" ++
    "Content-Transfer-Encoding: base64\r\n\r\n")

/-- The form that a layer takes when nested inside another CMS layer. -/
def mimePkcs7Entity (cmsDer : Octets) (smimeType : String) : Octets :=
  pkcs7Header smimeType ++ wrapBase64 cmsDer

/-- `str::contains`. -/
def contains (text pattern : String) : Bool :=
  text.toList.tails.any fun rest => pattern.toList.isPrefixOf rest

/-- The header of a message: a signed one is from Anu, any other from Kalle. -/
def fixtureHeader (subject smimeType : String) : Octets :=
  let from_ :=
    if contains smimeType "signed" then
      "=?UTF-8?B?QW51IEFsbGtpcmphc3RhamE=?= <anu@naide.ee>"
    else "=?UTF-8?B?S2FsbGUgS3LDvHB0aWph?= <kalle@naide.ee>"
  utf8 ("From: " ++ from_ ++ "\r\nTo: =?UTF-8?B?VGlpdSBUaWhhbmU=?= <tiiu@naide.ee>\r\nSubject: " ++
    subject ++ "\r\nDate: " ++ env.nowHeader ++ "\r\nMIME-Version: 1.0\r\n")

/-- What `write_fixture_eml` writes. -/
def fixtureEml (cmsDer : Octets) (subject smimeType : String) : Octets :=
  fixtureHeader env subject smimeType ++ mimePkcs7Entity cmsDer smimeType

end Entities

section Nesting

/-- A layer of `gen_nested_fixtures`: what `sign` and `encrypt` hold fixed. -/
inductive Layer where
  | sign (signer : StapledSigner)
  | encrypt (random : EncryptRandom env.toCmsExternals) (certsPem : List String)
      (cipher : ContentCipher) (pkcs1v15 : Bool)

namespace Layer

variable {env}

/-- The CMS of the layer around `content`. -/
def build (layer : Layer env) (content : Octets) : Option Octets :=
  match layer with
  | sign signer => buildStapledCms env signer content
  | encrypt random certsPem cipher pkcs1v15 =>
      (Smime.encrypt env.toCmsExternals random certsPem content cipher pkcs1v15).bind
        Except.toOption

def smimeType : Layer env → String
  | sign _ => "signed-data"
  | encrypt _ _ _ _ => "enveloped-data"

/-- The layers around `content`, the outermost one first: each is an entity. -/
def nest : List (Layer env) → Octets → Option Octets
  | [], content => some content
  | layer :: inner, content => do
      let body ← nest inner content
      let cmsDer ← layer.build body
      return mimePkcs7Entity cmsDer layer.smimeType

/-- The outermost layer is a message. -/
def nestedEml (subject : String) (layer : Layer env) (inner : List (Layer env)) (content : Octets) :
    Option Octets := do
  let body ← nest inner content
  let cmsDer ← layer.build body
  return fixtureEml env cmsDer subject layer.smimeType

end Layer

end Nesting

end Smime.CreateCms
