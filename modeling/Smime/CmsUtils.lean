import Smime.Data.Except
import Smime.Utils.Text
import Smime.X690.Value

/-! `src/cms_utils.rs`, with the public key extraction of `src/types.rs` and
`hash_oid_to_hash_type_permitted` of `src/lib.rs`: the message digest and the
signature of one signer under one key. -/
namespace Smime

open X690 (Octets tlv)
open X509 Utils

section Digests

variable (env : Externals)

def isPermittedHash : HashType → Bool
  | .sha256 | .sha384 | .sha512 | .sha3_256 | .sha3_384 | .sha3_512 | .shake128 | .shake256 => true
  | .none | .other _ => false

/-- The index 0 of the errors is replaced by the caller. -/
def hashOidToHashTypePermitted (oid : ObjectIdentifier) : Except SmimeError HashType :=
  match env.hashOidToHashType oid with
  | .ok hash =>
      if isPermittedHash hash then .ok hash
      else .error (.disallowedDigestAlg (env.debugHashType hash) 0)
  | .error _ => .error (.unsupportedDigestAlg (env.debugOid oid) 0)

def computeHash (hash : HashType) (data : Octets) : Except String Octets :=
  if isPermittedHash hash then .ok (env.digest hash data)
  else .error ("Unsupported hash algorithm: " ++ env.debugHashType hash)

def verifyMessageDigest (digestAlgorithm : AlgorithmIdentifier)
    (authenticatedAttributes : Option (List Attribute)) (content : Octets) :
    Except SmimeError Unit := do
  let attrs ← orError (.digestVerify "message-digest attribute missing") authenticatedAttributes
  let hashType ← (env.hashOidToHashType digestAlgorithm.oid).mapError fun _ =>
    .unsupportedDigestAlg (env.debugOid digestAlgorithm.oid) 0
  let computedDigest ← (computeHash env hashType content).mapError fun _ =>
    .disallowedDigestAlg (env.debugHashType hashType) 0
  match attrs.filter (·.typeId == messageDigestOid) with
  | [] => .error (.digestVerify "message-digest attribute missing")
  | _ :: _ :: _ => .error (.digestVerify "multiple message-digest attribute instances")
  | [attr] =>
      match attr.values with
      | [single] => do
          let expectedDigest ← (env.parseOctetString single).mapError fun e =>
            .digestVerify ("malformed message-digest value: " ++ e)
          if expectedDigest = computedDigest then .ok ()
          else .error (.digestVerify ("digests not equivalent: expected " ++
            hexEncode expectedDigest ++ ", computed " ++ hexEncode computedDigest))
      | values => .error (.digestVerify
          ("message-digest attribute must have exactly one value, found " ++
            toString values.length))

end Digests

section PublicKeys

variable (env : Externals)

/-- The family of a public key by the parameters of its algorithm. -/
def keyFamily (params : AlgorithmParameters) : Except SmimeError KeyFamily :=
  match params with
  | .rsa _ | .rsaPss _ => .ok .rsa
  | .ed25519 => .ok .ed25519
  | .ed448 => .ok .ed448
  | .ecdsa (some (.namedCurve curve)) =>
      if curve = ecSecp384r1 then .ok .p384
      else if curve = ecSecp256r1 then .ok .p256
      else if curve = ecSecp521r1 then .ok .p521
      else .error (.unsupportedPublicKey "unknown named curve")
  | .mlDsa44 => .ok .mlDsa44
  | .mlDsa65 => .ok .mlDsa65
  | .mlDsa87 => .ok .mlDsa87
  | _ => .error (.unsupportedPublicKey "unknown public key algorithm")

/-- `KeyCryptoOps::public_key`. -/
def publicKey (cert : Certificate) : Except String AnyPublicKey := do
  let spkiDer ← env.writeSubjectPublicKeyInfo cert.spki
  let family ← (keyFamily cert.spki.algorithm.params).mapError env.localize
  return { family, algorithm := cert.spki.algorithm.oid, spkiDer }

end PublicKeys

section Signatures

variable (env : Externals)

def checkHashIn (allowed : List HashType) (hash : HashType) (err : String) : Except String Unit :=
  if allowed.contains hash then .ok () else .error err

/-- Whether the hash is allowed with the signature scheme. -/
def checkHashAllowed (params : SignatureParameters) : Except String Unit :=
  let allowed (hash : HashType) (label : String) :=
    checkHashIn [.sha256, .sha384, .sha512, .sha3_256, .sha3_384, .sha3_512] hash
      ("Unsupported " ++ label ++ " hash algorithm: " ++ env.debugHashType hash)
  match params with
  | .rsaPkcs1v15 hash => allowed hash "RSA PKCS#1 v1.5"
  | .rsaPss hash => allowed hash "RSA-PSS"
  | .ecdsa hash => allowed hash "ECDSA"
  | .edDsa _ | .other => .ok ()

/-- Reject hash algorithms that are too weak for the key size. -/
def checkHashRecommended (key : AnyPublicKey) (params : SignatureParameters) :
    Except String Unit :=
  let recommended (hash : HashType) (hashes : List HashType) (label : String) :=
    checkHashIn hashes hash
      (label ++ ": hash " ++ env.debugHashType hash ++ " is too weak for this key size")
  match key.family, params with
  | .p256, .ecdsa hash =>
      recommended hash [.sha256, .sha3_256, .sha384, .sha3_384, .sha512, .sha3_512] "ECDSA P-256"
  | .p384, .ecdsa hash =>
      recommended hash [.sha384, .sha3_384, .sha512, .sha3_512] "ECDSA P-384"
  | .p521, .ecdsa hash => recommended hash [.sha512, .sha3_512] "ECDSA P-521"
  | _, _ => .ok ()

def labelled (label : String) (result : Except String Unit) : Except String Unit :=
  result.mapError (label ++ ·)

/-- `verify_rsa_pkcs1v15` and `verify_rsa_pss`: `label` is the scheme's. -/
def verifyRsa (scheme : PrehashScheme) (label : String) (spkiDer : Octets) (hash : HashType)
    (data signature : Octets) : Except String Unit := do
  labelled "Failed to parse RSA public key: " (env.prehashKeyFromDer scheme spkiDer)
  labelled ("Invalid " ++ label ++ " signature: ") (env.prehashSignature scheme signature)
  let prehash ← computeHash env hash data
  labelled "Signature verification failed: "
    (env.verifyPrehash scheme hash spkiDer prehash signature)

/-- `verify_p256`, `verify_p384` and `verify_p521`: `label` is the curve's. -/
def verifyEcdsa (scheme : PrehashScheme) (label : String) (spkiDer : Octets) (hash : HashType)
    (data signature : Octets) : Except String Unit := do
  let prehash ← computeHash env hash data
  labelled ("Invalid " ++ label ++ " public key: ") (env.prehashKeyFromDer scheme spkiDer)
  labelled "Invalid ECDSA signature: " (env.prehashSignature scheme signature)
  labelled "Signature verification failed: "
    (env.verifyPrehash scheme hash spkiDer prehash signature)

def verifyEd25519 (spkiDer data signature : Octets) : Except String Unit := do
  labelled "Invalid Ed25519 public key: " (env.ed25519KeyFromDer spkiDer)
  labelled "Invalid Ed25519 signature: " (env.ed25519Signature signature)
  labelled "Signature verification failed: " (env.verifyEd25519 spkiDer data signature)

def extractSubjectPublicKey (spkiDer : Octets) : Except String Octets := do
  let spki ← (env.parseSubjectPublicKeyInfo spkiDer).mapError
    ("Failed to parse SubjectPublicKeyInfo: " ++ ·)
  return spki.subjectPublicKey

/-- `verify_mldsa44`, `verify_mldsa65` and `verify_mldsa87`, with the lengths of
a key and of a signature. -/
def verifyMlDsa (level : MlDsa) (label : String) (keyLen signatureLen : Nat)
    (spkiDer data signature : Octets) : Except String Unit := do
  let keyBytes ← extractSubjectPublicKey env spkiDer
  if keyBytes.length ≠ keyLen then
    .error (label ++ " verification key must be " ++ toString keyLen ++ " bytes, got " ++
      toString keyBytes.length)
  else if signature.length ≠ signatureLen then
    .error (label ++ " signature must be " ++ toString signatureLen ++ " bytes, got " ++
      toString signature.length)
  else env.verifyMlDsa level keyBytes data signature

def verifySignature (issuerPublicKey : AnyPublicKey) (params : SignatureParameters)
    (signature data : Octets) : Except String Unit := do
  checkHashAllowed env params
  checkHashRecommended env issuerPublicKey params
  let spkiDer := issuerPublicKey.spkiDer
  match issuerPublicKey.family, params with
  | .rsa, .rsaPkcs1v15 hash => verifyRsa env .rsaPkcs1v15 "PKCS1v15" spkiDer hash data signature
  | .rsa, .rsaPss hash => verifyRsa env .rsaPss "PSS" spkiDer hash data signature
  | .p256, .ecdsa hash => verifyEcdsa env .p256 "P-256" spkiDer hash data signature
  | .p384, .ecdsa hash => verifyEcdsa env .p384 "P-384" spkiDer hash data signature
  | .p521, .ecdsa hash => verifyEcdsa env .p521 "P-521" spkiDer hash data signature
  | .ed25519, _ => verifyEd25519 env spkiDer data signature
  | .mlDsa44, _ => verifyMlDsa env .mlDsa44 "ML-DSA-44" 1312 2420 spkiDer data signature
  | .mlDsa65, _ => verifyMlDsa env .mlDsa65 "ML-DSA-65" 1952 3309 spkiDer data signature
  | .mlDsa87, _ => verifyMlDsa env .mlDsa87 "ML-DSA-87" 2592 4627 spkiDer data signature
  | _, _ => .error "Unsupported key type or signature parameters"

/-- `asn1::SetOfWriter`, which sorts the encodings of the elements. -/
def writeSetOf (attrs : List Attribute) : Except String Octets := do
  let ders ← attrs.mapM env.writeAttribute
  return tlv [0x31] (ders.insertionSort (· ≤ ·)).flatten

def encodeSignedAttrs (attrs : List Attribute) : Except SmimeError Octets := do
  let encodedAttrs ← attrs.mapM fun attr => do
    let der ← (env.writeAttribute attr).mapError fun e =>
      SmimeError.sigVerify ("failed to encode signed attribute: " ++ e)
    return (der, attr)
  let sortedAttrs := (encodedAttrs.insertionSort fun a b => a.1 ≤ b.1).map Prod.snd
  (writeSetOf env sortedAttrs).mapError fun e =>
    .sigVerify ("failed to encode signed attributes SET OF: " ++ e)

def doVerifySignature (publicKey : AnyPublicKey)
    (digestAlgorithm signatureAlgorithm : AlgorithmIdentifier) (signatureValue data : Octets) :
    Except SmimeError Unit := do
  let hashType ← hashOidToHashTypePermitted env digestAlgorithm.oid
  let res :=
    if signatureAlgorithm.oid = rsaOid then
      verifySignature env publicKey (.rsaPkcs1v15 hashType) signatureValue data
    else
      env.verifySignatureWithSignatureAlgorithm publicKey signatureAlgorithm signatureValue data
  res.mapError .sigVerify

/-- The signature covers the signed attributes as a DER SET OF. -/
def verifyDetachedSignature (publicKey : AnyPublicKey)
    (digestAlgorithm signatureAlgorithm : AlgorithmIdentifier)
    (authenticatedAttributes : List Attribute) (signatureValue : Octets) :
    Except SmimeError Unit := do
  let data ← encodeSignedAttrs env authenticatedAttributes
  doVerifySignature env publicKey digestAlgorithm signatureAlgorithm signatureValue data

/-- Without signed attributes the signature covers the raw eContent. -/
def verifyEcontentSignature (publicKey : AnyPublicKey)
    (digestAlgorithm signatureAlgorithm : AlgorithmIdentifier)
    (authenticatedAttributes : Option (List Attribute)) (signatureValue eContent : Octets) :
    Except SmimeError Unit := do
  let data ← match authenticatedAttributes with
    | some attrs => encodeSignedAttrs env attrs
    | none => .ok eContent
  doVerifySignature env publicKey digestAlgorithm signatureAlgorithm signatureValue data

end Signatures

end Smime
