import Smime.Decrypt.Content

/-! `src/encrypt.rs`: an EnvelopedData or AuthEnvelopedData for a list of
recipient certificates. What is drawn at random is an argument. -/
namespace Smime

open X690 (Octets)
open X509 Utils BlockModes

variable (env : CmsExternals)

inductive ContentCipher where
  | aes256Cbc
  | aes256Gcm
  deriving DecidableEq

section Random

/-- What is drawn for one recipient. -/
structure RecipientRandom where
  rng : Octets
  scalar : (curve : NistCurve) → env.EcSecretKey curve
  x25519Secret : Bytes 32

structure EncryptRandom where
  cek : Bytes 32
  iv : Bytes 16
  nonce : Bytes 12
  recipient : Nat → RecipientRandom env

end Random

section Content

/-- `none` is a panic. -/
def encryptAesCbc (cek : Octets) (iv : Bytes 16) (plaintext : Octets) : Option Octets :=
  match cek.length with
  | 16 => some (cbcEncrypt 16 (env.encryptBlock .aes128 cek) iv.val plaintext)
  | 24 => some (cbcEncrypt 16 (env.encryptBlock .aes192 cek) iv.val plaintext)
  | 32 => some (cbcEncrypt 16 (env.encryptBlock .aes256 cek) iv.val plaintext)
  | _ => none

/-- Ciphertext and tag; `none` is a panic. -/
def encryptAes256Gcm (cek : Octets) (nonce : Bytes 12) (aad plaintext : Octets) :
    Option (Octets × Octets) :=
  (env.gcmEncrypt cek nonce.val aad plaintext).toOption

end Content

section Validation

def rsaPublicKeyOf (cert : Certificate) : Except SmimeError env.RsaPublicKey := do
  let spkiDer ← (env.writeSubjectPublicKeyInfo cert.spki).mapError fun e =>
    .raw ("SPKI DER: " ++ e)
  (env.rsaPublicKeyFromDer spkiDer).mapError fun e => .raw ("invalid RSA public key: " ++ e)

/-- RSA with 2048 to 4096 bits, P-256, P-384, P-521 or X25519. -/
def validateSpki (cert : Certificate) : Except SmimeError Unit :=
  match cert.spki.algorithm.params with
  | .rsa _ => do
      let pk ← rsaPublicKeyOf env cert
      let bits := env.rsaModulusBits pk
      if 2048 ≤ bits ∧ bits ≤ 4096 then return ()
      else .error (.raw ("unsupported RSA key size: " ++ toString bits ++
        " bits (expected 2048-4096)"))
  | .ecdsa (some (.namedCurve curve)) =>
      if curve = ecSecp256r1 ∨ curve = ecSecp384r1 ∨ curve = ecSecp521r1 then .ok ()
      else .error (.raw ("unsupported EC curve: " ++ env.displayOid curve))
  | .x25519 => .ok ()
  | other => .error (.raw ("unsupported recipient key type: " ++
      env.debugAlgorithmParameters other))

def parsePem (certPem : String) : Except SmimeError Octets :=
  (env.parsePem certPem).mapError fun e => .raw ("invalid certificate PEM: " ++ e)

def parseCert (der : Octets) : Except SmimeError Certificate :=
  (env.parseCertificate der).mapError fun e => .raw ("invalid certificate: " ++ e)

end Validation

section Ktri

/-- `PSS_SHA256_HASH_ALG`. -/
def sha256HashAlg : NestedAlgorithm := ⟨sha256Oid, .sha256 (some ())⟩

def oaepSha256Parameters : RsaOaepParameters := ⟨sha256HashAlg, ⟨mgf1Oid, sha256HashAlg⟩, none⟩

def keyTransportPadding (pkcs1v15 : Bool) : RsaPadding :=
  if pkcs1v15 then .pkcs1v15 else .oaep .sha256 .sha256

def keyTransportAlgorithm (pkcs1v15 : Bool) : AlgorithmIdentifier :=
  if pkcs1v15 then ⟨rsaOid, .rsa (some ())⟩ else ⟨rsaesOaepOid, .rsaesOaep oaepSha256Parameters⟩

def issuerAndSerialNumberOf (cert : Certificate) : IssuerAndSerialNumber :=
  ⟨cert.issuer, cert.serial⟩

def ktriOf (cert : Certificate) (pkcs1v15 : Bool) (encryptedCek : Octets) :
    KeyTransRecipientInfo where
  version := 0
  rid := .issuerAndSerialNumber (issuerAndSerialNumberOf cert)
  keyEncryptionAlgorithm := keyTransportAlgorithm pkcs1v15
  encryptedKey := encryptedCek

def buildKtri (random : RecipientRandom env) (cek : Octets) (cert : Certificate)
    (pkcs1v15 : Bool) : Except SmimeError Octets := do
  let rsaPub ← rsaPublicKeyOf env cert
  let prefix_ := if pkcs1v15 then "RSA PKCS#1 v1.5: " else "RSA-OAEP: "
  let encryptedCek ←
    (env.rsaEncrypt rsaPub (keyTransportPadding pkcs1v15) random.rng cek).mapError fun e =>
      .raw (prefix_ ++ e)
  (env.writeRecipientInfo (.keyTrans (ktriOf cert pkcs1v15 encryptedCek))).mapError fun e =>
    .raw ("KTRI DER: " ++ e)

end Ktri

section Kari

def aes256WrapAlgorithm : AlgorithmIdentifier := ⟨aes256WrapOid, .other aes256WrapOid none⟩

/-- The ECC-CMS-SharedInfo of AES-256 key wrap, without a ukm. -/
def wrapSharedInfo : EccCmsSharedInfo where
  keyInfo := aes256WrapAlgorithm
  entityUInfo := none
  suppPubInfo := u32ToBeBytes 256

def writeWrapSharedInfo : Except SmimeError Octets :=
  (env.writeSharedInfo wrapSharedInfo).mapError fun e => .raw ("SharedInfo DER: " ++ e)

def wrapAlgTlv : Except SmimeError Tlv := do
  let wrapAlgDer ← (env.writeAlgorithmIdentifier aes256WrapAlgorithm).mapError fun e =>
    .raw ("wrap alg DER: " ++ e)
  (env.parseTlv wrapAlgDer).mapError fun e => .raw ("wrap alg TLV: " ++ e)

/-- The KEK has the length of the cipher's key, so that the cipher is there. -/
def wrapCek (kek cek : Octets) : Except SmimeError Octets :=
  (env.wrapKey kek cek).mapError fun e => .raw ("AES key wrap: " ++ e)

def kariOf (cert : Certificate) (originatorKey : OriginatorPublicKey)
    (keaOid : ObjectIdentifier) (wrapAlg : Tlv) (wrappedCek : Octets) :
    KeyAgreeRecipientInfo where
  version := 3
  originator := .originatorKey originatorKey
  ukm := none
  keyEncryptionAlgorithm := ⟨keaOid, .other keaOid (some wrapAlg)⟩
  recipientEncryptedKeys :=
    [⟨.issuerAndSerialNumber (issuerAndSerialNumberOf cert), wrappedCek⟩]

def writeKari (kari : KeyAgreeRecipientInfo) : Except SmimeError Octets :=
  (env.writeRecipientInfo (.keyAgree kari)).mapError fun e => .raw ("KARI DER: " ++ e)

def ecOriginatorKey (curveOid : ObjectIdentifier) (publicKey : Octets) : OriginatorPublicKey :=
  ⟨⟨ecOid, .ecdsa (some (.namedCurve curveOid))⟩, publicKey⟩

def x25519OriginatorKey (publicKey : Octets) : OriginatorPublicKey :=
  ⟨⟨x25519Oid, .x25519⟩, publicKey⟩

/-- ECDH with the X9.63 KDF of SHA-256. -/
def buildKari (random : RecipientRandom env) (cek : Octets) (cert : Certificate)
    (curveOid : ObjectIdentifier) : Except SmimeError Octets := do
  let sharedInfo ← writeWrapSharedInfo env
  let wrapAlg ← wrapAlgTlv env
  match nistCurve curveOid with
  | none => .error (.raw ("unsupported EC curve: " ++ env.displayOid curveOid))
  | some curve => do
      let recipientPk ← (env.ecPublicKeyFromSec1 curve cert.spki.subjectPublicKey).mapError fun e =>
        .raw ("invalid recipient EC point: " ++ e)
      let ephSk := random.scalar curve
      let z := env.diffieHellman ephSk recipientPk
      let kek ← orError (.raw "X9.63-KDF output too long") (env.x963Kdf .sha256 z sharedInfo 32)
      let wrappedCek ← wrapCek env kek cek
      let originatorKey := ecOriginatorKey curveOid (env.ecToSec1 (env.ecPublicKeyOf ephSk))
      writeKari env (kariOf cert originatorKey dhStdSha256Oid wrapAlg wrappedCek)

/-- RFC 8418: X25519 with HKDF-SHA256, without a salt. -/
def buildKariX25519 (random : RecipientRandom env) (cek : Octets) (cert : Certificate) :
    Except SmimeError Octets := do
  let recipientPk ← orError (.raw "X25519 public key must be 32 bytes")
    (toBytes 32 cert.spki.subjectPublicKey)
  let ephSk := random.x25519Secret
  let shared := env.x25519 ephSk recipientPk
  if shared.val = List.replicate 32 0 then .error (.raw "X25519 shared secret is all-zero")
  else do
    let sharedInfo ← writeWrapSharedInfo env
    let kek ← (env.hkdf .sha256 none shared.val sharedInfo 32).mapError fun e =>
      .raw ("HKDF expand: " ++ e)
    let wrappedCek ← wrapCek env kek cek
    let wrapAlg ← wrapAlgTlv env
    let originatorKey := x25519OriginatorKey (env.x25519PublicKeyOf ephSk).val
    writeKari env (kariOf cert originatorKey dhHkdfSha256Oid wrapAlg wrappedCek)

end Kari

section Encrypt

def buildRecipientInfo (random : RecipientRandom env) (cek : Octets) (cert : Certificate)
    (pkcs1v15 : Bool) : Except SmimeError Octets := do
  validateSpki env cert
  match cert.spki.algorithm.params with
  | .rsa _ => buildKtri env random cek cert pkcs1v15
  | .ecdsa (some (.namedCurve curve)) => buildKari env random cek cert curve
  | .x25519 => buildKariX25519 env random cek cert
  -- No other key is valid.
  | _ => .error (.raw "validate_spki accepted an unsupported key type")

def buildRecipientInfos (random : Nat → RecipientRandom env) (cek : Octets) (pkcs1v15 : Bool) :
    (idx : Nat) → List Octets → Except SmimeError (List Octets)
  | _, [] => .ok []
  | idx, der :: rest => do
      let cert ← parseCert env der
      let risDer ← buildRecipientInfo env (random idx) cek cert pkcs1v15
      let others ← buildRecipientInfos random cek pkcs1v15 (idx + 1) rest
      return risDer :: others

def isKtri (ri : RecipientInfo) : Bool :=
  match ri with
  | .keyTrans _ => true
  | _ => false

def envelopedDataOf (recipientInfos : List RecipientInfo) (iv : Bytes 16)
    (ciphertext : Octets) : EnvelopedData where
  version := if recipientInfos.all isKtri then 0 else 2
  originatorInfo := none
  recipientInfos
  encryptedContentInfo :=
    { contentType := pkcs7DataOid
      contentEncryptionAlgorithm := ⟨aes256CbcOid, .aes256Cbc iv.val⟩
      encryptedContent := some ciphertext }
  unprotectedAttrs := none

def authEnvelopedDataOf (recipientInfos : List RecipientInfo) (nonce : Bytes 12)
    (ciphertext tag : Octets) : AuthEnvelopedData where
  version := 0
  originatorInfo := none
  recipientInfos
  authEncryptedContentInfo :=
    { contentType := pkcs7DataOid
      contentEncryptionAlgorithm := ⟨aes256GcmOid, .aes256Gcm ⟨nonce.val, 16⟩⟩
      encryptedContent := some ciphertext }
  authAttrs := none
  mac := tag
  unauthAttrs := none

/-- The content for the recipients; `none` is a panic. -/
def encryptContent (random : EncryptRandom env) (recipientInfos : List RecipientInfo)
    (plaintext : Octets) (cipher : ContentCipher) : Option (Except SmimeError Octets) :=
  match cipher with
  | .aes256Cbc => do
      let ciphertext ← encryptAesCbc env random.cek.val random.iv plaintext
      let enveloped := envelopedDataOf recipientInfos random.iv ciphertext
      return (env.writeContentInfo (.envelopedData enveloped)).mapError fun e =>
        .raw ("EnvelopedData DER: " ++ e)
  | .aes256Gcm => do
      let (ciphertext, tag) ← encryptAes256Gcm env random.cek.val random.nonce [] plaintext
      let authEnveloped := authEnvelopedDataOf recipientInfos random.nonce ciphertext tag
      return (env.writeContentInfo (.authEnvelopedData authEnveloped)).mapError fun e =>
        .raw ("AuthEnvelopedData DER: " ++ e)

/-- The RecipientInfos of the certificates, as they are written. -/
def recipientInfosFor (random : EncryptRandom env) (certsPem : List String) (pkcs1v15 : Bool) :
    Except SmimeError (List Octets) := do
  let certDers ← certsPem.mapM (parsePem env)
  buildRecipientInfos env random.recipient random.cek.val pkcs1v15 0 certDers

/-- The DER of a ContentInfo; `none` is a panic. -/
def encrypt (random : EncryptRandom env) (certsPem : List String) (plaintext : Octets)
    (cipher : ContentCipher) (pkcs1v15 : Bool) : Option (Except SmimeError Octets) :=
  if certsPem.isEmpty then some (.error (.raw "no recipient certificates provided"))
  else
    match recipientInfosFor env random certsPem pkcs1v15 with
    | .error e => some (.error e)
    | .ok risDer => do
        let recipientInfos ← risDer.mapM fun der => (env.parseRecipientInfo der).toOption
        encryptContent env random recipientInfos plaintext cipher

end Encrypt

end Smime
