import Smime.CmsUtils
import Smime.CertInfo

/-! `check_algorithms` and `prepare_signer` of `src/lib.rs`: what is checked of a
SignerInfo before any signature is. -/
namespace Smime

open X690 (Octets)
open X509 Utils

variable (env : Externals)

section Algorithms

/-- The index of the signer in an error about its digest algorithm. -/
def setDigestIdx (idx : Nat) : SmimeError → SmimeError
  | .disallowedDigestAlg alg _ => .disallowedDigestAlg alg idx
  | .unsupportedDigestAlg alg _ => .unsupportedDigestAlg alg idx
  | err => err

/-- RFC 5754, section 3.2: absent parameters stand for NULL. -/
def withNullParams : AlgorithmParameters → AlgorithmParameters
  | .rsaWithSha256 none => .rsaWithSha256 (some ())
  | .rsaWithSha384 none => .rsaWithSha384 (some ())
  | .rsaWithSha512 none => .rsaWithSha512 (some ())
  | params => params

/-- The hash of the signature algorithm differs from the digest algorithm. -/
def digestMismatchWarnings (sigParams : SignatureParameters) (hashType : HashType) (idx : Nat) :
    List SmimeError :=
  match sigParams with
  | .rsaPkcs1v15 hash | .rsaPss hash | .ecdsa hash | .edDsa hash =>
      if hash ≠ .none ∧ hash ≠ hashType then
        [.digestAlgorithmWarning ("digest algorithm '" ++ env.debugHashType hashType ++
          "' mismatches signature hash algorithm '" ++ env.debugHashType hash ++ "'") idx]
      else []
  | .other => []

/-- RFC 4056, section 2.1. -/
def rsaPssWarnings (params : AlgorithmParameters) (idx : Nat) : List SmimeError :=
  match params with
  | .rsaPss (some pss) =>
      let hashOid := pss.hashAlgorithm.oid
      let mgfOid := pss.maskGenAlgorithm.params.oid
      (if hashOid ≠ mgfOid then
        [.rsaPssParameterWarning ("MGF1 hash '" ++ env.displayOid mgfOid ++
          "' differs from hashAlgorithm '" ++ env.displayOid hashOid ++ "'") idx]
      else []) ++
        match pss.trailerField with
        | some trailer =>
            if trailer ≠ 1 then
              [.rsaPssParameterWarning ("trailerField has unexpected value " ++ toString trailer ++
                " (expected 1)") idx]
            else []
        | none => []
  | _ => []

/-- RFC 9882, section 3.3: the digests that are strong enough for ML-DSA. -/
def minHashes (sigOid : ObjectIdentifier) : Option (List HashType) :=
  if sigOid = mlDsa44Oid then
    some [.sha256, .sha384, .sha512, .sha3_256, .sha3_384, .sha3_512, .shake128, .shake256]
  else if sigOid = mlDsa65Oid then some [.sha384, .sha512, .sha3_384, .sha3_512, .shake256]
  else if sigOid = mlDsa87Oid then some [.sha512, .sha3_512, .shake256]
  else none

def weakDigestWarnings (sigOid : ObjectIdentifier) (hashType : HashType) (idx : Nat) :
    List SmimeError :=
  match minHashes sigOid with
  | some allowed =>
      if allowed.contains hashType then []
      else
        [.digestAlgorithmWarning ("digest algorithm '" ++ env.debugHashType hashType ++
          "' is weaker than recommended for signature algorithm '" ++ env.debugOid sigOid ++
          "'") idx]
  | none => []

/-- The warnings about the algorithms of an acceptable signer. -/
def checkAlgorithms (signer : SignerInfo) (idx : Nat) : Except SmimeError (List SmimeError) := do
  let hashType ← (hashOidToHashTypePermitted env signer.digestAlgorithm.oid).mapError
    (setDigestIdx idx)
  let sigAlg := signer.digestEncryptionAlgorithm
  if sigAlg.oid = rsaOid then .ok []
  else if !env.permittedSignatureAlgorithms.contains
      { sigAlg with params := withNullParams sigAlg.params } then
    .error (.disallowedSignatureAlg (env.debugOid sigAlg.oid) idx)
  else do
    let sigParams ← (env.identifySignatureAlgorithmParameters sigAlg).mapError fun _ =>
      .unsupportedSignatureAlg (env.debugOid sigAlg.oid) idx
    return digestMismatchWarnings env sigParams hashType idx ++
      rsaPssWarnings env sigAlg.params idx ++ weakDigestWarnings env sigAlg.oid hashType idx

end Algorithms

section Attributes

/-- What the loop over the signed attributes has seen, with the failures it
has recorded. -/
structure AttributeScan where
  signingTime : Option Instant := none
  contentTypeCount : Nat := 0
  smimeCapabilitiesCount : Nat := 0
  signingTimeCount : Nat := 0
  failures : List SmimeError := []

/-- RFC 5652, section 11.1: one value, the type of the content. -/
def contentTypeFailures (idx : Nat) (values : List Octets) : List SmimeError :=
  match values with
  | [value] =>
      match env.parseObjectIdentifier value with
      | .ok oid => if oid ≠ pkcs7DataOid then [.contentTypeMismatch idx] else []
      | .error _ => [.malformedContentTypeAttr idx]
  | _ => [.malformedContentTypeAttr idx]

/-- RFC 6211: the algorithms that the attribute protects are the signer's. -/
def algorithmProtectionFailures (signer : SignerInfo) (idx : Nat) (values : List Octets) :
    List SmimeError :=
  match values with
  | [value] =>
      match env.parseCmsAlgorithmProtection value with
      | .ok prot =>
          (if prot.digestAlgorithm ≠ signer.digestAlgorithm then
            [.algorithmProtectionMismatch "digestAlgorithm" idx]
          else []) ++
            match prot.signatureAlgorithm with
            | some sigAlg =>
                if sigAlg ≠ signer.digestEncryptionAlgorithm then
                  [.algorithmProtectionMismatch "signatureAlgorithm" idx]
                else []
            | none => []
      | .error _ => []
  | _ => []

/-- A value of signing-time that does not parse leaves the time unset; a later
one replaces an earlier one. -/
def readSigningTime (signingTime : Option Instant) (values : List Octets) : Option Instant :=
  match values with
  | [value] =>
      match env.parseTime value with
      | .ok time => asn1ToChrono env time
      | .error _ => signingTime
  | _ => signingTime

def unsupportedSigningCertificate (idx : Nat) : SmimeError :=
  .raw ("unsupported ESS signingCertificate signed attribute for signer: " ++ toString idx)

def AttributeScan.step (signer : SignerInfo) (idx : Nat) (scan : AttributeScan)
    (attr : Attribute) : AttributeScan :=
  if attr.typeId = contentTypeOid then
    { scan with
      contentTypeCount := scan.contentTypeCount + 1
      failures := scan.failures ++ contentTypeFailures env idx attr.values }
  else if attr.typeId = signingTimeOid then
    { scan with
      signingTimeCount := scan.signingTimeCount + 1
      signingTime := readSigningTime env scan.signingTime attr.values }
  else if attr.typeId = cmsAlgorithmProtectionOid then
    { scan with
      failures := scan.failures ++ algorithmProtectionFailures env signer idx attr.values }
  else if attr.typeId = smimeCapabilitiesOid then
    { scan with smimeCapabilitiesCount := scan.smimeCapabilitiesCount + 1 }
  else if attr.typeId = signingCertificateOid ∨ attr.typeId = signingCertificateV2Oid then
    { scan with failures := scan.failures ++ [unsupportedSigningCertificate idx] }
  else scan

def scanAttributes (signer : SignerInfo) (idx : Nat) : AttributeScan :=
  (signer.authenticatedAttributes.getD []).foldl (AttributeScan.step env signer idx) {}

/-- Failures about the numbers of attributes. -/
def cardinalityFailures (signer : SignerInfo) (idx : Nat) (scan : AttributeScan) :
    List SmimeError :=
  (if signer.authenticatedAttributes.isSome ∧ scan.contentTypeCount = 0 then
    [.missingContentTypeAttr idx]
  else []) ++
  (if scan.contentTypeCount > 1 then [.attributeCardinality "content-type" idx] else []) ++
  (if scan.smimeCapabilitiesCount > 1 then [.attributeCardinality "SMIMECapabilities" idx]
  else []) ++
  (if scan.signingTimeCount > 1 then [.attributeCardinality "signing-time" idx] else [])

end Attributes

section Candidates

def sidText (sid : SignerIdentifier) : String :=
  match sid with
  | .issuerAndSerialNumber ias =>
      env.dnToString ias.issuer ++ " (" ++ env.debugSerial ias.serialNumber ++ ")"
  | .subjectKeyIdentifier ski => "SKI: " ++ hexEncode ski

/-- RFC 5652, section 5.3. -/
def expectedSignerVersion : SignerIdentifier → UInt8
  | .issuerAndSerialNumber _ => 1
  | .subjectKeyIdentifier _ => 3

def signerVersionFailures (signer : SignerInfo) (idx : Nat) : List SmimeError :=
  let expected := expectedSignerVersion signer.issuerAndSerialNumber
  if signer.version ≠ expected then
    [.cmsVersionMismatch "SignerInfo" expected signer.version (some idx)]
  else []

def iasMatchesCert (ias : IssuerAndSerialNumber) (cert : Certificate) : Bool :=
  cert.issuer == ias.issuer && cert.serial == ias.serialNumber

def skiMatchesCert (ski : Octets) (cert : Certificate) : Bool :=
  cert.extensions.any fun extensions =>
    (extensionValue extensions subjectKeyIdentifierOid env.parseOctetString).any (· == ski)

def sidMatchesCert (sid : SignerIdentifier) (cert : Certificate) : Bool :=
  match sid with
  | .issuerAndSerialNumber ias => iasMatchesCert ias cert
  | .subjectKeyIdentifier ski => skiMatchesCert env ski cert

/-- The failures recorded, and for a signer that is not skipped its signing time
and the certificates that match it. -/
def prepareSigner (signer : SignerInfo) (certs : List Certificate) (idx : Nat) :
    List SmimeError × Option (Option Instant × List Certificate) :=
  let versionFailures := signerVersionFailures signer idx
  match checkAlgorithms env signer idx with
  | .error err => (versionFailures ++ [err], none)
  | .ok warnings =>
      let scan := scanAttributes env signer idx
      let failures := versionFailures ++ warnings ++ scan.failures ++
        cardinalityFailures signer idx scan
      let candidates := certs.filter (sidMatchesCert env signer.issuerAndSerialNumber)
      if candidates.isEmpty then
        (failures ++ [.signerCertNotFound (sidText env signer.issuerAndSerialNumber)], none)
      else (failures, some (scan.signingTime, candidates))

end Candidates

end Smime
