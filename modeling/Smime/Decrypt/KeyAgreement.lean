import Smime.Ciphers
import Smime.Data.Except
import Smime.PrepareSigner

/-! `decrypt_kari_cek` of `src/decrypt.rs` and what it calls: the content
encryption key of a KeyAgreeRecipientInfo, by ECDH or X25519, a key derivation
and the AES key wrap. -/
namespace Smime

open X690 (Octets)
open X509 Utils

variable (env : CmsExternals)

section Schemes

inductive Kdf where
  | x963 (hash : KdfHash)
  | hkdf (hash : KdfHash)
  deriving DecidableEq

/-- The key agreement schemes with their names. -/
def ecdhAlgorithmNames : List (ObjectIdentifier × String) :=
  [(dhStdSha1Oid, "dhSinglePass-stdDH-sha1kdf"), (dhStdSha224Oid, "dhSinglePass-stdDH-sha224kdf"),
    (dhStdSha256Oid, "dhSinglePass-stdDH-sha256kdf"),
    (dhStdSha384Oid, "dhSinglePass-stdDH-sha384kdf"),
    (dhStdSha512Oid, "dhSinglePass-stdDH-sha512kdf"),
    (dhCofSha1Oid, "dhSinglePass-cofactorDH-sha1kdf"),
    (dhCofSha224Oid, "dhSinglePass-cofactorDH-sha224kdf"),
    (dhCofSha256Oid, "dhSinglePass-cofactorDH-sha256kdf"),
    (dhCofSha384Oid, "dhSinglePass-cofactorDH-sha384kdf"),
    (dhCofSha512Oid, "dhSinglePass-cofactorDH-sha512kdf"),
    (dhHkdfSha256Oid, "dhSinglePass-stdDH-hkdf-sha256"),
    (dhHkdfSha384Oid, "dhSinglePass-stdDH-hkdf-sha384"),
    (dhHkdfSha512Oid, "dhSinglePass-stdDH-hkdf-sha512")]

def ecdhAlgorithmName (oid : ObjectIdentifier) : String :=
  (ecdhAlgorithmNames.lookup oid).getD ("ECDH (" ++ env.displayOid oid ++ ")")

def isCofactorDh (oid : ObjectIdentifier) : Bool :=
  [dhCofSha1Oid, dhCofSha224Oid, dhCofSha256Oid, dhCofSha384Oid, dhCofSha512Oid].contains oid

/-- RFC 5753, section 7.1.4, and RFC 8418, section 7. -/
def identifyKdf (oid : ObjectIdentifier) : Except SmimeError Kdf :=
  if oid = dhStdSha1Oid ∨ oid = dhCofSha1Oid then .ok (.x963 .sha1)
  else if oid = dhStdSha224Oid ∨ oid = dhCofSha224Oid then .ok (.x963 .sha224)
  else if oid = dhStdSha256Oid ∨ oid = dhCofSha256Oid then .ok (.x963 .sha256)
  else if oid = dhStdSha384Oid ∨ oid = dhCofSha384Oid then .ok (.x963 .sha384)
  else if oid = dhStdSha512Oid ∨ oid = dhCofSha512Oid then .ok (.x963 .sha512)
  else if oid = dhHkdfSha256Oid then .ok (.hkdf .sha256)
  else if oid = dhHkdfSha384Oid then .ok (.hkdf .sha384)
  else if oid = dhHkdfSha512Oid then .ok (.hkdf .sha512)
  else .error (.unsupportedKeyEncryptionAlg
    ("unsupported ECDH KDF scheme: " ++ env.displayOid oid))

def extractWrapAlgorithmOid (kea : AlgorithmIdentifier) : Except SmimeError ObjectIdentifier :=
  match kea.params with
  | .other _ (some tlv) => do
      let wrapAlg ← (env.parseAlgorithmIdentifier tlv.fullData).mapError fun e =>
        .decryptionFailed ("wrap alg parse: " ++ e)
      return wrapAlg.oid
  | _ => .error (.decryptionFailed "KARI missing KeyWrapAlgorithm params")

def aesWrapKeyLen (oid : ObjectIdentifier) : Except SmimeError Nat :=
  if oid = aes128WrapOid then .ok 16
  else if oid = aes192WrapOid then .ok 24
  else if oid = aes256WrapOid then .ok 32
  else .error (.unsupportedKeyEncryptionAlg
    ("unsupported key wrap algorithm: " ++ env.displayOid oid))

end Schemes

section Derivation

/-- `u32::to_be_bytes`. -/
def u32ToBeBytes (value : Nat) : Octets :=
  [UInt8.ofNat (value / 2 ^ 24), UInt8.ofNat (value / 2 ^ 16), UInt8.ofNat (value / 2 ^ 8),
    UInt8.ofNat value]

/-- RFC 5753, section 7.2. -/
def buildEccCmsSharedInfo (wrapOid : ObjectIdentifier) (ukm : Option Octets) (kekLen : Nat) :
    Except SmimeError Octets :=
  (env.writeSharedInfo
    { keyInfo := ⟨wrapOid, .other wrapOid none⟩
      entityUInfo := ukm
      suppPubInfo := u32ToBeBytes (kekLen * 8) }).mapError fun e =>
    .decryptionFailed ("SharedInfo DER: " ++ e)

def x963Kdf (hash : KdfHash) (z sharedInfo : Octets) (keyLen : Nat) : Except SmimeError Octets :=
  orError (.decryptionFailed "X9.63-KDF output too long") (env.x963Kdf hash z sharedInfo keyLen)

/-- RFC 5869: the salt is the ukm, or empty. -/
def hkdfDerive (hash : KdfHash) (z : Octets) (ukm : Option Octets) (sharedInfo : Octets)
    (keyLen : Nat) : Except SmimeError Octets :=
  match hash with
  | .sha256 | .sha384 | .sha512 =>
      (env.hkdf hash (some (ukm.getD [])) z sharedInfo keyLen).mapError fun e =>
        .decryptionFailed ("HKDF expand: " ++ e)
  | .sha1 | .sha224 => .error (.unsupportedKeyEncryptionAlg "HKDF only supports SHA-256/384/512")

def deriveKek (kdf : Kdf) (z : Octets) (ukm : Option Octets) (sharedInfo : Octets)
    (kekLen : Nat) : Except SmimeError Octets :=
  match kdf with
  | .x963 hash => x963Kdf env hash z sharedInfo kekLen
  | .hkdf hash => hkdfDerive env hash z ukm sharedInfo kekLen

def aesKeyUnwrap (kek : Octets) (kekLen : Nat) (wrappedKey : Octets) :
    Except SmimeError Octets :=
  if kekLen = 16 ∨ kekLen = 24 ∨ kekLen = 32 then do
    (env.keyWrapInit kekLen kek).mapError fun e => .decryptionFailed ("KEK init: " ++ e)
    (env.unwrapKey kek wrappedKey).mapError fun e => .decryptionFailed ("AES unwrap: " ++ e)
  else .error (.decryptionFailed ("Invalid KEK length: " ++ toString kekLen))

end Derivation

section SharedSecret

/-- `try_into` an array. -/
def toBytes (n : Nat) (octets : Octets) : Option (Bytes n) :=
  if h : octets.length = n then some ⟨octets, h⟩ else none

/-- The scalar is in an OCTET STRING of its own. -/
def extractX25519PrivateKey (pkcs8PrivateKey : Octets) : Except SmimeError (Bytes 32) := do
  let inner ← (env.parseOctetString pkcs8PrivateKey).mapError fun e =>
    .privateKeyParseFailed ("X25519 private key OCTET STRING: " ++ e)
  orError (.privateKeyParseFailed ("X25519 private key must be 32 bytes, got " ++
    toString inner.length)) (toBytes 32 inner)

/-- RFC 8418. -/
def x25519SharedSecret (pki : PrivateKeyInfo) (keaOid : ObjectIdentifier)
    (originatorKey : OriginatorPublicKey) : Except SmimeError Octets :=
  if isCofactorDh keaOid then
    .error (.unsupportedKeyEncryptionAlg
      ("cofactor DH not defined for X25519 (" ++ env.displayOid keaOid ++ ")"))
  else if originatorKey.algorithm.oid ≠ x25519Oid then
    .error (.decryptionFailed ("originatorKey algorithm " ++
      env.displayOid originatorKey.algorithm.oid ++ " is not id-X25519"))
  else do
    let sk ← extractX25519PrivateKey env pki.privateKey
    let pk ← orError (.decryptionFailed ("X25519 public key must be 32 bytes, got " ++
      toString originatorKey.publicKey.length)) (toBytes 32 originatorKey.publicKey)
    let shared := env.x25519 sk pk
    if shared.val = List.replicate 32 0 then
      .error (.decryptionFailed "X25519 shared secret is all-zero")
    else return shared.val

def nistCurve (oid : ObjectIdentifier) : Option NistCurve :=
  if oid = ecSecp256r1 then some .p256
  else if oid = ecSecp384r1 then some .p384
  else if oid = ecSecp521r1 then some .p521
  else none

def NistCurve.label : NistCurve → String
  | p256 => "P-256"
  | p384 => "P-384"
  | p521 => "P-521"

def ecdh (curve : NistCurve) (privateKeyDer publicKey : Octets) : Except SmimeError Octets := do
  let sk ← (env.ecSecretKeyFromPkcs8 curve privateKeyDer).mapError fun e =>
    .privateKeyParseFailed (curve.label ++ ": " ++ e)
  let pk ← (env.ecPublicKeyFromSec1 curve publicKey).mapError fun e =>
    .decryptionFailed ("invalid " ++ curve.label ++ " point: " ++ e)
  return env.diffieHellman sk pk

/-- RFC 5753. -/
def ecSharedSecret (privateKeyDer : Octets) (pki : PrivateKeyInfo) (keaOid : ObjectIdentifier)
    (originatorKey : OriginatorPublicKey) : Except SmimeError Octets := do
  let curveOid ← pki.parametersOid.mapError fun e => .privateKeyParseFailed ("EC curve OID: " ++ e)
  if originatorKey.algorithm.oid ≠ ecOid then
    .error (.decryptionFailed ("originatorKey algorithm " ++
      env.displayOid originatorKey.algorithm.oid ++ " is not id-ecPublicKey"))
  else if isCofactorDh keaOid ∧ (nistCurve curveOid).isNone then
    .error (.unsupportedKeyEncryptionAlg
      ("cofactor DH not supported for curve " ++ env.displayOid curveOid))
  else
    match nistCurve curveOid with
    | some curve => ecdh env curve privateKeyDer originatorKey.publicKey
    | none => .error (.privateKeyParseFailed
        ("unsupported EC curve: " ++ env.displayOid curveOid))

/-- By the type of the private key. -/
def sharedSecret (privateKeyDer : Octets) (keaOid : ObjectIdentifier)
    (originatorKey : OriginatorPublicKey) : Except SmimeError Octets := do
  let pki ← (env.parsePrivateKeyInfo privateKeyDer).mapError fun e =>
    .privateKeyParseFailed ("PKCS#8: " ++ e)
  if pki.algorithm = x448Oid then
    .error (.unsupportedKeyEncryptionAlg "X448 key agreement is not supported")
  else if pki.algorithm = x25519Oid then x25519SharedSecret env pki keaOid originatorKey
  else ecSharedSecret env privateKeyDer pki keaOid originatorKey

end SharedSecret

section Recipient

def rekMatchesCert (rid : KeyAgreeRecipientIdentifier) (cert : Certificate) : Bool :=
  match rid with
  | .issuerAndSerialNumber ias => iasMatchesCert ias cert
  | .rKeyId ski => skiMatchesCert env.toExternals ski cert

/-- The first of the keys for `cert` that unwraps. -/
def unwrapFirst (kek : Octets) (kekLen : Nat) (cert : Certificate) :
    Option SmimeError → List RecipientEncryptedKey → Except SmimeError Octets
  | lastErr, [] =>
      .error (lastErr.getD (.decryptionFailed "KARI has no matching RecipientEncryptedKey"))
  | lastErr, rek :: rest =>
      if !rekMatchesCert env rek.rid cert then unwrapFirst kek kekLen cert lastErr rest
      else
        match aesKeyUnwrap env kek kekLen rek.encryptedKey with
        | .ok cek => .ok cek
        | .error e => unwrapFirst kek kekLen cert (some e) rest

/-- The key, with warnings. -/
def decryptKariCek (privateKeyDer : Octets) (kari : KeyAgreeRecipientInfo) (cert : Certificate) :
    Except SmimeError (Octets × List SmimeError) :=
  match kari.originator with
  | .originatorKey originatorKey => do
      let kea := kari.keyEncryptionAlgorithm
      let kdf ← identifyKdf env kea.oid
      let warnings :=
        if kdf = .x963 .sha1 then [.weakKeyEncryptionAlg "X9.63-KDF with SHA-1"] else []
      let wrapAlgOid ← extractWrapAlgorithmOid env kea
      let kekLen ← aesWrapKeyLen env wrapAlgOid
      let z ← sharedSecret env privateKeyDer kea.oid originatorKey
      let sharedInfo ← buildEccCmsSharedInfo env wrapAlgOid kari.ukm kekLen
      let kek ← deriveKek env kdf z kari.ukm sharedInfo kekLen
      let cek ← unwrapFirst env kek kekLen cert none kari.recipientEncryptedKeys
      return (cek, warnings)
  | _ => .error (.unsupportedKeyEncryptionAlg "KARI originator must be originatorKey for ECDH")

end Recipient

end Smime
