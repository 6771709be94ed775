import Smime.Command
import Smime.ModifyCms
import Smime.ValidationProxy

/-! `run_modify` of `src/modify_cms.rs`: certificates, a CRL and an OCSP response are
added to the SignedData of a message, which is written with a part of its header. -/
namespace Smime.ModifyCms

open X690 (Octets)
open X509 Mail Utils
open ValidationProxy (ProxyExternals authorityInformationAccessOid ocspOid)

section Arguments

structure ModifyArgs where
  eml : String := "tmp/galileo.eml"
  cert : String := "tmp/Sectigo Public Email Protection CA R36.pem"
  output : String := "tmp/galileo_modified.eml"
  certPath : Option String := none
  crlPath : Option String := none
  ocspPath : Option String := none
  ocsp : Bool := false

/-- `HeaderName` of `mail_parser`, as far as the tool asks for it. -/
inductive HeaderName where
  | from_
  | to
  | subject
  | date
  | contentType
  | contentDisposition
  | contentTransferEncoding
  | mimeVersion
  | other
  deriving DecidableEq

/-- A header field, from its name to the end of its last line. -/
structure Header where
  name : HeaderName
  offsetField : Nat
  offsetEnd : Nat
  deriving DecidableEq

/-- What the tool calls outside `src/` beyond the proxy. `headersOf` are the fields of
a part, by its position, `bodyText` the HTML or text body of a message and
`parsePemText` is `pem::parse`. `writeSignedData` writes a ContentInfo: what no source
reads of a SignedData is taken from its former DER, but for the CRLs that are added. A
request has a body when its answer is a success. -/
structure ModifyExternals extends ProxyExternals where
  headersOf : Octets → Nat → List Header
  bodyText : Octets → Option Octets
  formatDate : Instant → String
  parsePemText : Octets → Except String Octets
  parseSequence : Octets → Except String Unit
  parseTlv : Octets → Except String Unit
  writeSignedData : (former : Octets) → SignedData → (crls : List Octets) → Except String Octets
  buildClient : Except String Unit
  clientGet : String → Option Octets
  clientPost : String → Octets → Option Octets

end Arguments

variable (env : ModifyExternals)

section Message

def isPkcs7Mime (info : PartInfo) : Bool :=
  info.contentType.any fun ct =>
    eqIgnoreAsciiCase ct.cType "application" &&
      ct.cSubtype.any fun subtype =>
        eqIgnoreAsciiCase subtype "pkcs7-mime" || eqIgnoreAsciiCase subtype "x-pkcs7-mime"

def p7mContents (emlContent : Octets) (message : Message) : Except String Octets :=
  match message.parts.find? fun part => isPkcs7Mime part.toPartInfo with
  | some part => .ok part.contents
  | none =>
      orError "No PKCS#7 MIME part found in message"
        (if message.parts.isEmpty then env.bodyText emlContent else none)

/-- The DER, and the SignedData in it. -/
def readSignedData (target : Target) (contents : Octets) : Except String (Octets × SignedData) := do
  let p7mDer ← (berToDerCms target contents).mapError fun e => "BER-to-DER: " ++ e
  let contentInfo ← (env.parseContentInfo p7mDer).mapError fun e =>
    "Failed to parse PKCS#7 message: " ++ e
  match contentInfo with
  | .signedData signedData => return (p7mDer, signedData)
  | _ => .error "Not a SignedData PKCS#7 message"

/-- `root_part`, by its position. -/
def rootId (message : Message) : Nat :=
  (message.parts.findIdx? fun part => isPkcs7Mime part.toPartInfo).getD 0

def allowedHeaders (name : HeaderName) : Bool := name ≠ .other

def keptHeaders (emlContent : Octets) : List Header → Call String Octets
  | [] => .ok []
  | header :: rest =>
      if allowedHeaders header.name then do
        let raw ← Call.slice emlContent header.offsetField header.offsetEnd
        let others ← keptHeaders emlContent rest
        return raw ++ others
      else keptHeaders emlContent rest

def dateHeader (time : DateTime) : String :=
  "Date: " ++ ((env.withYmdAndHms time).map env.formatDate).getD "" ++ "\r\n"

/-- A signing-time with one value that parses; a later one replaces an earlier one. -/
def signingTimeStep (found : Option String) (attr : Attribute) : Option String :=
  if attr.typeId = signingTimeOid then
    match attr.values with
    | [value] =>
        match env.parseTime value with
        | .ok time => some (dateHeader env time)
        | .error _ => found
    | _ => found
  else found

/-- The signing time of the first signer, as a Date field. -/
def signingTimeHeader (signedData : SignedData) : Option String :=
  ((signedData.signerInfos.head?.bind SignerInfo.authenticatedAttributes).getD []).foldl
    (signingTimeStep env) none

def headersBytes (emlContent : Octets) (headers : List Header) (signedData : SignedData) :
    Call String Octets := do
  let kept ← keptHeaders emlContent headers
  let hasDate := headers.any fun header => header.name = .date
  let date := if hasDate then none else signingTimeHeader env signedData
  return kept ++ utf8 (date.getD "") ++ lineBreak

end Message

section Certificates

variable (fs : FileSystem)

/-- `fs::read_to_string`. -/
def readToString (path : String) : Except String Octets := do
  let bytes ← fs.read path
  match fromUtf8 env.toExternals bytes with
  | .ok _ => return bytes
  | .error _ => .error "stream did not contain valid UTF-8"

def readPem (kind path : String) : Except String Octets := do
  let text ← (readToString env fs path).mapError fun e =>
    "Failed to read " ++ kind ++ " file " ++ fs.debugPath path ++ ": " ++ e
  env.parsePemText text

def extraCertificates : Option String → Except String (List Certificate)
  | none => .ok []
  | some path => do
      let der ← readPem env fs "extra certificate" path
      let extra ← (env.parseCertificate der).mapError fun e =>
        "Failed to re-parse extra certificate: " ++ e
      return [extra]

/-- The intermediate certificate, and the certificates that are added. -/
def addedCertificates (args : ModifyArgs) : Except String (Certificate × List Certificate) := do
  let certDer ← readPem env fs "certificate" args.cert
  let intermediateCert ← (env.parseCertificate certDer).mapError fun e =>
    "Failed to decode intermediate certificate: " ++ e
  let intermediateDer ← env.writeCertificate intermediateCert
  let intermediateCertForSet ← (env.parseCertificate intermediateDer).mapError fun e =>
    "Failed to re-parse intermediate certificate: " ++ e
  let extra ← extraCertificates env fs args.certPath
  return (intermediateCert, intermediateCertForSet :: extra)

def subjectCertificate (certs : List CertificateChoices) : Except String Certificate :=
  match certs.head? with
  | some (.certificate cert) => do
      let subjectCertDer ← env.writeCertificate cert
      (env.parseCertificate subjectCertDer).mapError fun e =>
        "Failed to parse subject certificate: " ++ e
  | _ => .error "No subject certificate found in CMS"

def checkSubject (subject intermediateCert : Certificate) : Except String Unit := do
  let intermediatePubkey ← (publicKey env.toExternals intermediateCert).mapError fun e =>
    "Failed to extract intermediate public key: " ++ e
  (ValidationProxy.verifySignedBy env.toProxyExternals subject intermediatePubkey).mapError fun e =>
    "Subject certificate was not signed by the provided intermediate: " ++ e

end Certificates

section Revocation

variable (fs : FileSystem)

def validateFetchUrl : String → Except String Unit :=
  ValidationProxy.validateFetchUrl env.toProxyExternals

def getCrlUrls : Certificate → List String := ValidationProxy.getCrlUrls env.toProxyExternals

/-- All of the OCSP URLs, where the proxy takes the first one. -/
def getOcspUrls (cert : Certificate) : List String :=
  match cert.extensions.bind fun extensions =>
      extensionValue extensions authorityInformationAccessOid env.parseAccessDescriptions with
  | none => []
  | some ads =>
      (ads.filter fun ad => ad.accessMethod = ocspOid).filterMap fun ad =>
        ValidationProxy.uriOf ad.accessLocation

/-- The first answer to a request that the scheme of its URL allows. -/
def fetchFirst (send : String → Option Octets) (urls : List String) : Option Octets :=
  urls.findSome? fun url =>
    match validateFetchUrl env url with
    | .ok () => send url
    | .error _ => none

def createOcspRequest (cert issuer : Certificate) : Except String Octets := do
  let issuerNameDer ← env.writeName cert.issuer
  env.writeOcspRequest
    { reqCert :=
        { hashAlgorithm := ValidationProxy.sha1Algorithm
          issuerNameHash := env.sha1Of issuerNameDer
          issuerKeyHash := env.sha1Of issuer.spki.subjectPublicKey
          serialNumber := cert.serial }
      rawRequestExtensions := none }

/-- What is fetched from the first of the URLs that answers, or nothing. -/
def fetched (urls : List String) (send : Except String (String → Option Octets)) :
    Except String Octets :=
  if urls.isEmpty then .ok []
  else do
    let send ← send
    env.buildClient.mapError fun e => "Failed to build HTTP client: " ++ e
    return (fetchFirst env send urls).getD []

def crlBytes (args : ModifyArgs) (subject : Certificate) : Except String Octets :=
  match args.crlPath with
  | some path => (fs.read path).mapError fun e =>
      "Failed to read CRL file " ++ fs.debugPath path ++ ": " ++ e
  | none => fetched env (getCrlUrls env subject) (.ok env.clientGet)

def ocspBytes (args : ModifyArgs) (subject intermediateCert : Certificate) : Except String Octets :=
  if !args.ocsp then .ok []
  else
    match args.ocspPath with
    | some path => (fs.read path).mapError fun e =>
        "Failed to read OCSP response file " ++ fs.debugPath path ++ ": " ++ e
    | none => fetched env (getOcspUrls env subject) do
        let ocspReq ← createOcspRequest env subject intermediateCert
        return fun url => env.clientPost url ocspReq

/-- The octets of a CRL that is added. -/
def capturedCrl (crlBytes : Octets) : Except String (List Octets) :=
  if crlBytes.isEmpty then .ok []
  else do
    (env.parseSequence crlBytes).mapError fun e => "Failed to capture CRL content: " ++ e
    return [crlBytes]

def capturedOcsp (ocspBytes : Octets) : Except String (List RevocationInfoChoice) :=
  if ocspBytes.isEmpty then .ok []
  else do
    (env.parseTlv ocspBytes).mapError fun e => "Failed to capture OCSP content: " ++ e
    return [.other riOcspOid ocspBytes]

end Revocation

section SignedData

/-- RFC 5652, section 5.1, from the certificates and the revocation information. -/
def modifiedVersion (version : UInt8) (certs : List CertificateChoices)
    (crls : List RevocationInfoChoice) : UInt8 :=
  let hasOtherRevInfo := crls.any fun choice =>
    match choice with
    | .other _ _ => true
    | .crl => false
  if hasOtherRevInfo || certs.contains .otherCertificate then 5
  else if certs.contains .v2AttrCert then 4
  else if certs.contains .v1AttrCert then 3
  else max version 1

def modifiedSignedData (signedData : SignedData) (added : List Certificate)
    (choices : List RevocationInfoChoice) : SignedData :=
  let certs := signedData.certificates.getD [] ++ added.map .certificate
  let crls := signedData.crls.getD [] ++ choices
  { signedData with
    version := modifiedVersion signedData.version certs crls
    certificates := some certs
    crls := if crls.isEmpty then signedData.crls else some crls }

/-- What is encoded has to decode to a SignedData again. -/
def encodeSignedData (former : Octets) (signedData : SignedData) (crls : List Octets) :
    Except String Octets := do
  let encoded ← (env.writeSignedData former signedData crls).mapError fun e =>
    "Failed to encode back: " ++ e
  let decodedBack ← (env.parseContentInfo encoded).mapError fun e =>
    "Failed to decode back: " ++ e
  match decodedBack with
  | .signedData _ => return encoded
  | _ => .error "Failed to decode back as SignedData: unexpected content"

/-- The DER of the SignedData with everything that is added to it. -/
def modifiedCms (fs : FileSystem) (args : ModifyArgs) (p7mDer : Octets) (signedData : SignedData) :
    Except String Octets := do
  let (intermediateCert, added) ← addedCertificates env fs args
  let subject ← subjectCertificate env
    (signedData.certificates.getD [] ++ added.map .certificate)
  checkSubject env subject intermediateCert
  let crls ← capturedCrl env (← crlBytes env fs args subject)
  let ocsp ← capturedOcsp env (← ocspBytes env fs args subject intermediateCert)
  encodeSignedData env p7mDer
    (modifiedSignedData signedData added ((crls.map fun _ => .crl) ++ ocsp)) crls

end SignedData

section Tool

variable (fs : FileSystem) (target : Target) (args : ModifyArgs)

/-- The file that is written. -/
def outputBytes : Call String Octets := do
  let emlContent ← Call.returned ((fs.read args.eml).mapError fun e =>
    "Failed to read EML file " ++ fs.debugPath args.eml ++ ": " ++ e)
  let message ← Call.returned (orError "Failed to parse EML" (env.parseMessage emlContent))
  let contents ← Call.returned (p7mContents env emlContent message)
  let (p7mDer, signedData) ← Call.returned (readSignedData env target contents)
  -- Without parts there is no root part to take the header of.
  let _ ← Call.index message.parts (rootId message)
  let headers ← headersBytes env emlContent (env.headersOf emlContent (rootId message)) signedData
  let encoded ← Call.returned (modifiedCms env fs args p7mDer signedData)
  return headers ++ wrapBase64 encoded

def runModify : Call String Unit := do
  let output ← outputBytes env fs target args
  Call.returned (fs.write args.output output)

end Tool

end Smime.ModifyCms
