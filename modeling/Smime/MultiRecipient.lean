import Mathlib.Data.List.Perm.Basic
import Smime.CreateCms
import Smime.RecipientSearch
import Smime.Rfc3211

/-! One message for recipients of every kind: `gen_multi_recipient_fixtures` of
`src/create_cms.rs` with what it calls, against `src/decrypt.rs`. `none` is a panic. -/
namespace Smime.CreateCms

open X690 (Octets)
open X509 Utils BlockModes

/-- What the builders of recipients call beyond encryption. The key identifier of a
KEK recipient is written, and never read. -/
structure FixtureExternals extends CreateExternals where
  rsaToPublicKey : RsaPrivateKey → RsaPublicKey
  writeIssuerAndSerialNumber : IssuerAndSerialNumber → Except String Octets
  parseIssuerAndSerialNumber : Octets → Except String IssuerAndSerialNumber
  writeKekRecipientInfo : (keyIdentifier : Octets) → KekRecipientInfo → Except String Octets

variable (env : FixtureExternals)

section Builders

/-- The name of a recipient, written and read again. -/
def readIas (cert : Certificate) : Option IssuerAndSerialNumber := do
  let iasDer ← (env.writeIssuerAndSerialNumber (issuerAndSerialNumberOf cert)).toOption
  (env.parseIssuerAndSerialNumber iasDer).toOption

/-- The key is encrypted with the public half of a private key. -/
def ktriInfo (rng cek keyDer certDer : Octets) : Option KeyTransRecipientInfo := do
  let rsaKey ← (env.rsaPrivateKeyFromPkcs8 keyDer).toOption
  let encryptedCek ← (env.rsaEncrypt (env.rsaToPublicKey rsaKey) .pkcs1v15 rng cek).toOption
  let cert ← (env.parseCertificate certDer).toOption
  let ias ← readIas env cert
  return ⟨0, .issuerAndSerialNumber ias, ⟨rsaOid, .rsa (some ())⟩, encryptedCek⟩

def buildKtri (rng cek keyDer certDer : Octets) : Option Octets := do
  let ktri ← ktriInfo env rng cek keyDer certDer
  (env.writeRecipientInfo (.keyTrans ktri)).toOption

/-- Of an agreed secret: the X9.63 KDF of SHA-256 and AES-256 key wrap. -/
def kariInfo (originatorKey : OriginatorPublicKey) (z cek : Octets)
    (rid : KeyAgreeRecipientIdentifier) : Option KeyAgreeRecipientInfo := do
  let wrapAlgDer ← (env.writeAlgorithmIdentifier aes256WrapAlgorithm).toOption
  let sharedInfoDer ← (env.writeSharedInfo wrapSharedInfo).toOption
  let kek ← env.x963Kdf .sha256 z sharedInfoDer 32
  let wrappedCek ← (env.wrapKey kek cek).toOption
  let wrapAlgTlv ← (env.parseTlv wrapAlgDer).toOption
  return ⟨3, .originatorKey originatorKey, none,
    ⟨dhStdSha256Oid, .other dhStdSha256Oid (some wrapAlgTlv)⟩, [⟨rid, wrappedCek⟩]⟩

def kariP256Info (ephSk : env.EcSecretKey .p256) (cek certDer : Octets) :
    Option KeyAgreeRecipientInfo := do
  let cert ← (env.parseCertificate certDer).toOption
  let recipientPk ← (env.ecPublicKeyFromSec1 .p256 cert.spki.subjectPublicKey).toOption
  let ias ← readIas env cert
  kariInfo env (ecOriginatorKey ecSecp256r1 (env.ecToSec1 (env.ecPublicKeyOf ephSk)))
    (env.diffieHellman ephSk recipientPk) cek (.issuerAndSerialNumber ias)

def buildKariP256 (ephSk : env.EcSecretKey .p256) (cek certDer : Octets) : Option Octets := do
  let kari ← kariP256Info env ephSk cek certDer
  (env.writeRecipientInfo (.keyAgree kari)).toOption

/-- The scalar of the ephemeral key. -/
def x25519EphSk : Bytes 32 :=
  ⟨[0xa5, 0x46, 0xe3, 0x6b, 0xf0, 0x52, 0x7c, 0x9d, 0x3b, 0x16, 0x15, 0x4b, 0x82, 0x46, 0x5e, 0xdd,
    0x62, 0x14, 0x4c, 0x0a, 0xc1, 0xfc, 0x5a, 0x18, 0x50, 0x6a, 0x22, 0x44, 0xba, 0x44, 0x9a, 0xc4],
    rfl⟩

/-- The scalar of `tests/keys/test_x25519.key`. -/
def x25519RecipientSk : Bytes 32 :=
  ⟨[0xB8, 0xCA, 0x04, 0x26, 0xD4, 0x4B, 0xAD, 0xBF, 0x6D, 0x87, 0x49, 0xF4, 0x45, 0x98, 0x04, 0x45,
    0x9D, 0x71, 0x77, 0x76, 0x96, 0x89, 0xCB, 0xC1, 0xD6, 0x45, 0x6D, 0x08, 0xDE, 0x84, 0x36, 0x67],
    rfl⟩

/-- The subject key identifier of `tests/keys/test_x25519.pem`. -/
def x25519Ski : Octets :=
  [0xcd, 0x4b, 0xe3, 0x00, 0xeb, 0x86, 0x8e, 0xcb, 0x96, 0x45, 0xd7, 0x00, 0x45, 0xf6, 0x68, 0x04,
    0x3d, 0x18, 0x25, 0xf7]

def kariX25519Info (cek : Octets) : Option KeyAgreeRecipientInfo :=
  kariInfo env (x25519OriginatorKey (env.x25519PublicKeyOf x25519EphSk).val)
    (env.x25519 x25519EphSk (env.x25519PublicKeyOf x25519RecipientSk)).val cek (.rKeyId x25519Ski)

def buildKariX25519 (cek : Octets) : Option Octets := do
  let kari ← kariX25519Info env cek
  (env.writeRecipientInfo (.keyAgree kari)).toOption

/-- 00 01 .. 1f. -/
def fixtureKek : Octets := (List.range 32).map UInt8.ofNat

def kekriInfo (cek : Octets) : Option KekRecipientInfo := do
  let wrappedCek ← (env.wrapKey fixtureKek cek).toOption
  return ⟨4, aes256WrapAlgorithm, wrappedCek⟩

def buildKekri (cek : Octets) : Option Octets := do
  let kekri ← kekriInfo env cek
  (env.writeKekRecipientInfo [0x01, 0x02, 0x03, 0x04] kekri).toOption

def pwriKekOid : ObjectIdentifier := [1, 2, 840, 113549, 1, 9, 16, 3, 9]
def pbkdf2Oid : ObjectIdentifier := [1, 2, 840, 113549, 1, 5, 12]
def hmacWithSha256Oid : ObjectIdentifier := [1, 2, 840, 113549, 2, 9]

/-- AES-256-CBC with the IV of the wrap. -/
def innerAlgorithm (wrapIv : Bytes 16) : AlgorithmIdentifier := ⟨aes256CbcOid, .aes256Cbc wrapIv.val⟩

def fixturePbkdf2Params (salt : Bytes 16) : Pbkdf2Params :=
  ⟨salt.val, 100000, some 32, ⟨hmacWithSha256Oid, .hmacWithSha256 (some ())⟩⟩

def pwriInfo (salt iv : Bytes 16) (rng : (n : Nat) → Bytes n) (cek : Octets) (password : String) :
    Option PasswordRecipientInfo := do
  let kek := env.pbkdf2Hmac .sha256 (utf8 password) salt.val 100000 32
  let (encryptedKey, wrapIv) ← rfc3211WrapCek env.toCmsExternals rng iv kek cek
  let innerAlgDer ← (env.writeAlgorithmIdentifier (innerAlgorithm wrapIv)).toOption
  let innerAlgTlv ← (env.parseTlv innerAlgDer).toOption
  return ⟨0, some ⟨pbkdf2Oid, .pbkdf2 (fixturePbkdf2Params salt)⟩,
    ⟨pwriKekOid, .other pwriKekOid (some innerAlgTlv)⟩, encryptedKey⟩

def buildPwri (salt iv : Bytes 16) (rng : (n : Nat) → Bytes n) (cek : Octets) (password : String) :
    Option Octets := do
  let pwri ← pwriInfo env salt iv rng cek password
  (env.writeRecipientInfo (.password pwri)).toOption

/-- The version in a key transport is overwritten. -/
def withVersion (version : UInt8) (riDer : Octets) : Option Octets := do
  match ← (env.parseRecipientInfo riDer).toOption with
  | .keyTrans ktri => (env.writeRecipientInfo (.keyTrans { ktri with version })).toOption
  | _ => none

def buildEnvelopedDataDer (risDer : List Octets) (ciphertext : Octets) (iv : Bytes 16)
    (version : UInt8) : Option Octets := do
  let ris ← risDer.mapM fun der => (env.parseRecipientInfo der).toOption
  (env.writeContentInfo
    (.envelopedData { envelopedDataOf ris iv ciphertext with version })).toOption

end Builders

section Recipients

/-- A recipient of a fixture, with the contents of its files and what is drawn for it.
A key transport may be given another version than it is built with. -/
inductive Recipient where
  | ktri (version : Option UInt8) (rng keyDer certDer : Octets)
  | kariP256 (ephSk : env.EcSecretKey .p256) (certDer : Octets)
  | kariX25519
  | kekri
  | pwri (password : String) (salt iv : Bytes 16) (rng : (n : Nat) → Bytes n)

variable {env}

namespace Recipient

def build (cek : Octets) : Recipient env → Option Octets
  | ktri none rng keyDer certDer => buildKtri env rng cek keyDer certDer
  | ktri (some version) rng keyDer certDer => do
      let riDer ← buildKtri env rng cek keyDer certDer
      withVersion env version riDer
  | kariP256 ephSk certDer => buildKariP256 env ephSk cek certDer
  | kariX25519 => buildKariX25519 env cek
  | kekri => buildKekri env cek
  | pwri password salt iv rng => buildPwri env salt iv rng cek password

/-- What is in the RecipientInfo. -/
def info (cek : Octets) : Recipient env → Option RecipientInfo
  | ktri version rng keyDer certDer =>
      (ktriInfo env rng cek keyDer certDer).map fun ktri =>
        .keyTrans { ktri with version := version.getD 0 }
  | kariP256 ephSk certDer => (kariP256Info env ephSk cek certDer).map .keyAgree
  | kariX25519 => (kariX25519Info env cek).map .keyAgree
  | kekri => (kekriInfo env cek).map .kek
  | pwri password salt iv rng => (pwriInfo env salt iv rng cek password).map .password

/-- The only thing about a recipient that is noted: a version that is not that of a
key transport by issuer and serial number. -/
def versionWarning (idx : Nat) : Recipient env → Option SmimeError
  | ktri (some version) _ _ _ =>
      if version ≠ 0 then some (.cmsVersionMismatch "KeyTransRecipientInfo" 0 version (some idx))
      else none
  | _ => none

def hasVersion0 : Recipient env → Bool
  | ktri version _ _ _ => version.getD 0 == 0
  | _ => false

def isPwri : Recipient env → Bool
  | pwri _ _ _ _ => true
  | _ => false

end Recipient

variable (env)

/-- An EnvelopedData with AES-256-CBC for the recipients. -/
def multiRecipientDer (cek : Bytes 32) (iv : Bytes 16) (recipients : List (Recipient env))
    (version : UInt8) (plaintext : Octets) : Option Octets := do
  let ciphertext ← encryptAesCbc env.toCmsExternals cek.val iv plaintext
  let risDer ← recipients.mapM (Recipient.build cek.val)
  buildEnvelopedDataDer env risDer ciphertext iv version

variable {env}

/-- RFC 5652, section 6.1, of these recipients. -/
def expectedVersion (recipients : List (Recipient env)) : UInt8 :=
  if recipients.any Recipient.isPwri then 3
  else if recipients.all Recipient.hasVersion0 then 0
  else 2

def versionWarnings (recipients : List (Recipient env)) : List SmimeError :=
  (recipients.mapIdx Recipient.versionWarning).filterMap id

end Recipients

section Laws

/-- What is written is read again, a public key is that of its private key, and a
derived key has the length that was asked for. -/
structure FixtureLaws : Prop where
  encodings : EncodingLaws env.toCmsExternals
  agreement : AgreementLaws env.toCmsExternals
  ciphers : CipherLaws env.toCmsExternals
  ias : ∀ (ias : IssuerAndSerialNumber) (der : Octets),
    env.writeIssuerAndSerialNumber ias = .ok der → env.parseIssuerAndSerialNumber der = .ok ias
  innerAlgorithm : ∀ (iv : Bytes 16) (der : Octets),
    env.writeAlgorithmIdentifier (innerAlgorithm iv) = .ok der →
      env.parseAlgorithmIdentifier der = .ok (innerAlgorithm iv)
  recipientInfo : ∀ (recipient : Recipient env) (cek der : Octets) (ri : RecipientInfo),
    recipient.info cek = some ri → env.writeRecipientInfo ri = .ok der →
      env.parseRecipientInfo der = .ok ri
  kekRecipientInfo : ∀ (keyIdentifier der : Octets) (kekri : KekRecipientInfo),
    env.writeKekRecipientInfo keyIdentifier kekri = .ok der →
      env.parseRecipientInfo der = .ok (.kek kekri)
  enveloped : ∀ (ders : List Octets) (ris : List RecipientInfo) (iv : Bytes 16) (version : UInt8)
    (ciphertext der : Octets),
      List.Forall₂ (fun d ri => env.parseRecipientInfo d = .ok ri) ders ris →
        env.writeContentInfo (.envelopedData { envelopedDataOf ris iv ciphertext with version }) =
            .ok der →
          ∃ ordered : List RecipientInfo, ordered.Perm ris ∧ env.parseContentInfo der =
            .ok (.envelopedData { envelopedDataOf ordered iv ciphertext with version })
  rsaPair : ∀ sk : env.RsaPrivateKey, RsaPair env.toCmsExternals (env.rsaToPublicKey sk) sk
  pbkdf2Length : ∀ (hash : KdfHash) (password salt : Octets) (rounds keyLen : Nat),
    (env.pbkdf2Hmac hash password salt rounds keyLen).length = keyLen
  x25519Nonzero : (env.x25519 x25519EphSk (env.x25519PublicKeyOf x25519RecipientSk)).val ≠
    List.replicate 32 0

/-- The key material opens what is built for the recipient. -/
inductive Holds (keys : DecryptionKeys) : Recipient env → Prop
  | ktri (version : Option UInt8) (rng : Octets) :
      Holds keys (.ktri version rng keys.privateKeyDer keys.recipientCertDer)
  | kariP256 (ephSk sk : env.EcSecretKey .p256) (cert : Certificate) (pki : PrivateKeyInfo)
      (hCert : env.parseCertificate keys.recipientCertDer = .ok cert)
      (hPki : env.parsePrivateKeyInfo keys.privateKeyDer = .ok pki) (hAlgorithm : pki.algorithm = ecOid)
      (hCurve : pki.parametersOid = .ok ecSecp256r1)
      (hPrivate : env.ecSecretKeyFromPkcs8 .p256 keys.privateKeyDer = .ok sk)
      (hPair : env.ecPublicKeyFromSec1 .p256 cert.spki.subjectPublicKey =
        .ok (env.ecPublicKeyOf sk)) :
      Holds keys (.kariP256 ephSk keys.recipientCertDer)
  | kariX25519 (cert : Certificate) (pki : PrivateKeyInfo)
      (hCert : env.parseCertificate keys.recipientCertDer = .ok cert)
      (hSki : skiMatchesCert env.toExternals x25519Ski cert = true)
      (hPki : env.parsePrivateKeyInfo keys.privateKeyDer = .ok pki)
      (hAlgorithm : pki.algorithm = x25519Oid)
      (hPrivate : extractX25519PrivateKey env.toCmsExternals pki.privateKey =
        .ok x25519RecipientSk) : Holds keys .kariX25519
  | kekri (hFeature : env.features.decryptKek = true) (hKek : keys.kek = some fixtureKek) :
      Holds keys .kekri
  | pwri (password : String) (salt iv : Bytes 16) (rng : (n : Nat) → Bytes n)
      (hFeature : env.features.decryptPwri = true) (hPassword : keys.password = some password) :
      Holds keys (.pwri password salt iv rng)

/-- What is built for the recipient does not open with the key material: a wrong
password, another pre-shared key or private key, or nothing for the recipient at all. -/
def Refused (cek : Octets) (keys : DecryptionKeys) (recipient : Recipient env) : Prop :=
  ∀ (cert : Option Certificate) (ri : RecipientInfo) (found : Octets),
    parseRecipientCert env.toCmsExternals keys.recipientCertDer = .ok cert →
      recipient.info cek = some ri → ¬ Opens env.toCmsExternals keys cert ri found

/-- There is no certificate, or one that does not have the name. -/
def LacksName (keys : DecryptionKeys) (names : Certificate → Bool) : Prop :=
  ∀ cert : Certificate, parseRecipientCert env.toCmsExternals keys.recipientCertDer = .ok (some cert) →
    names cert = false

/-- The key material has nothing for the recipient: another certificate or none, no
pre-shared key or one of another length, no password. -/
inductive Lacks (keys : DecryptionKeys) : Recipient env → Prop
  | ktri (version : Option UInt8) (rng keyDer certDer : Octets)
      (h : ∀ other, env.parseCertificate certDer = .ok other →
        LacksName env keys (iasMatchesCert (issuerAndSerialNumberOf other))) :
      Lacks keys (.ktri version rng keyDer certDer)
  | kariP256 (ephSk : env.EcSecretKey .p256) (certDer : Octets)
      (h : ∀ other, env.parseCertificate certDer = .ok other →
        LacksName env keys (iasMatchesCert (issuerAndSerialNumberOf other))) :
      Lacks keys (.kariP256 ephSk certDer)
  | kariX25519 (h : LacksName env keys (skiMatchesCert env.toExternals x25519Ski)) :
      Lacks keys .kariX25519
  | kekri (h : ∀ kek, keys.kek = some kek → kek.length ≠ 32) : Lacks keys .kekri
  | kekriDisabled (h : env.features.decryptKek = false) : Lacks keys .kekri
  | pwri (password : String) (salt iv : Bytes 16) (rng : (n : Nat) → Bytes n)
      (h : keys.password = none) : Lacks keys (.pwri password salt iv rng)
  | pwriDisabled (password : String) (salt iv : Bytes 16) (rng : (n : Nat) → Bytes n)
      (h : env.features.decryptPwri = false) : Lacks keys (.pwri password salt iv rng)

end Laws

section Built

variable {env}

theorem readIas_eq (laws : FixtureLaws env) {cert : Certificate} {ias : IssuerAndSerialNumber}
    (h : readIas env cert = some ias) : ias = issuerAndSerialNumberOf cert := by
  simp only [readIas, Option.bind_eq_bind, Option.bind_eq_some_iff, toOption_eq_some_iff] at h
  obtain ⟨der, hWrite, hRead⟩ := h
  rw [laws.ias _ der hWrite, Except.ok.injEq] at hRead
  exact hRead.symm

theorem withVersion_some {version : UInt8} {riDer der : Octets} {ktri : KeyTransRecipientInfo}
    (hRead : env.parseRecipientInfo riDer = .ok (.keyTrans ktri))
    (h : withVersion env version riDer = some der) :
    env.writeRecipientInfo (.keyTrans { ktri with version }) = .ok der := by
  rw [withVersion, hRead] at h
  exact toOption_eq_some_iff.mp h

theorem ktriInfo_version {rng cek keyDer certDer : Octets} {ktri : KeyTransRecipientInfo}
    (h : ktriInfo env rng cek keyDer certDer = some ktri) : ktri.version = 0 := by
  simp only [ktriInfo, Option.bind_eq_bind, Option.bind_eq_some_iff, Option.pure_def,
    Option.some.injEq] at h
  obtain ⟨_, -, _, -, _, -, _, -, rfl⟩ := h
  rfl

/-- What is built for a recipient is read again. -/
theorem Recipient.build_some (laws : FixtureLaws env) {recipient : Recipient env}
    {cek der : Octets} (h : recipient.build cek = some der) :
    ∃ ri : RecipientInfo, recipient.info cek = some ri ∧ env.parseRecipientInfo der = .ok ri := by
  cases recipient with
  | ktri version rng keyDer certDer =>
      have hAsBuilt : ∀ (ktri : KeyTransRecipientInfo),
          ktriInfo env rng cek keyDer certDer = some ktri →
            (Recipient.ktri none rng keyDer certDer : Recipient env).info cek =
              some (.keyTrans ktri) := by
        intro ktri hKtri
        rw [Recipient.info, hKtri, Option.map_some, Option.getD_none, ← ktriInfo_version hKtri]
      cases version with
      | none =>
          simp only [Recipient.build, buildKtri, Option.bind_eq_bind, Option.bind_eq_some_iff,
            toOption_eq_some_iff] at h
          obtain ⟨ktri, hKtri, hWrite⟩ := h
          have hInfo := hAsBuilt ktri hKtri
          exact ⟨_, hInfo, laws.recipientInfo _ cek der _ hInfo hWrite⟩
      | some version =>
          simp only [Recipient.build, buildKtri, Option.bind_eq_bind, Option.bind_eq_some_iff,
            toOption_eq_some_iff] at h
          obtain ⟨riDer, ⟨ktri, hKtri, hFirst⟩, hVersion⟩ := h
          have hRead := laws.recipientInfo _ cek riDer _ (hAsBuilt ktri hKtri) hFirst
          have hInfo : (Recipient.ktri (some version) rng keyDer certDer : Recipient env).info cek =
              some (.keyTrans { ktri with version }) := by
            rw [Recipient.info, hKtri, Option.map_some, Option.getD_some]
          exact ⟨_, hInfo, laws.recipientInfo _ cek der _ hInfo (withVersion_some hRead hVersion)⟩
  | kariP256 ephSk certDer =>
      simp only [Recipient.build, buildKariP256, Option.bind_eq_bind, Option.bind_eq_some_iff,
        toOption_eq_some_iff] at h
      obtain ⟨kari, hKari, hWrite⟩ := h
      have hInfo : (Recipient.kariP256 ephSk certDer : Recipient env).info cek =
          some (.keyAgree kari) := by
        rw [Recipient.info, hKari, Option.map_some]
      exact ⟨_, hInfo, laws.recipientInfo _ cek der _ hInfo hWrite⟩
  | kariX25519 =>
      simp only [Recipient.build, buildKariX25519, Option.bind_eq_bind, Option.bind_eq_some_iff,
        toOption_eq_some_iff] at h
      obtain ⟨kari, hKari, hWrite⟩ := h
      have hInfo : (Recipient.kariX25519 : Recipient env).info cek = some (.keyAgree kari) := by
        rw [Recipient.info, hKari, Option.map_some]
      exact ⟨_, hInfo, laws.recipientInfo _ cek der _ hInfo hWrite⟩
  | kekri =>
      simp only [Recipient.build, buildKekri, Option.bind_eq_bind, Option.bind_eq_some_iff,
        toOption_eq_some_iff] at h
      obtain ⟨kekri, hKekri, hWrite⟩ := h
      refine ⟨.kek kekri, ?_, laws.kekRecipientInfo _ der kekri hWrite⟩
      rw [Recipient.info, hKekri, Option.map_some]
  | pwri password salt iv rng =>
      simp only [Recipient.build, buildPwri, Option.bind_eq_bind, Option.bind_eq_some_iff,
        toOption_eq_some_iff] at h
      obtain ⟨pwri, hPwri, hWrite⟩ := h
      have hInfo : (Recipient.pwri password salt iv rng : Recipient env).info cek =
          some (.password pwri) := by
        rw [Recipient.info, hPwri, Option.map_some]
      exact ⟨_, hInfo, laws.recipientInfo _ cek der _ hInfo hWrite⟩

/-- One RecipientInfo for each recipient. -/
def BuiltAs (cek : Octets) (recipient : Recipient env) (ri : RecipientInfo) : Prop :=
  recipient.info cek = some ri

theorem mapM_build_some (laws : FixtureLaws env) {cek : Octets} {recipients : List (Recipient env)}
    {risDer : List Octets} (h : recipients.mapM (Recipient.build cek) = some risDer) :
    ∃ ris : List RecipientInfo, List.Forall₂ (BuiltAs cek) recipients ris ∧
      List.Forall₂ (fun der ri => env.parseRecipientInfo der = .ok ri) risDer ris := by
  have hEach := mapM_eq_some_iff.mp h
  clear h
  induction hEach with
  | nil => exact ⟨[], .nil, .nil⟩
  | cons hDer _ ih =>
      obtain ⟨ri, hInfo, hRead⟩ := Recipient.build_some laws hDer
      obtain ⟨ris, hBuilt, hParsed⟩ := ih
      exact ⟨ri :: ris, .cons hInfo hBuilt, .cons hRead hParsed⟩

end Built

section Opens

variable {env} {keys : DecryptionKeys} {cert : Option Certificate} {recipient : Recipient env}
  {cek : Bytes 32} {ri : RecipientInfo}

theorem parseRecipientCert_own (laws : FixtureLaws env) {own : Certificate}
    (h : env.parseCertificate keys.recipientCertDer = .ok own) :
    parseRecipientCert env.toCmsExternals keys.recipientCertDer = .ok (some own) := by
  have hNonempty : keys.recipientCertDer.isEmpty = false := by
    rw [List.isEmpty_eq_false_iff]
    intro hNil
    rw [hNil] at h
    exact laws.encodings.empty own h
  simp [parseRecipientCert, hNonempty, h, Except.mapError]

/-- Only the certificate counts for which of the keys is unwrapped. -/
theorem decryptKariCek_rid {originatorKey : OriginatorPublicKey} {keaOid : ObjectIdentifier}
    {wrapAlg : Tlv} {wrappedCek privateKeyDer : Octets} {rid : KeyAgreeRecipientIdentifier}
    {own : Certificate} (h : rekMatchesCert env.toCmsExternals rid own = true) :
    decryptKariCek env.toCmsExternals privateKeyDer ⟨3, .originatorKey originatorKey, none,
        ⟨keaOid, .other keaOid (some wrapAlg)⟩, [⟨rid, wrappedCek⟩]⟩ own =
      decryptKariCek env.toCmsExternals privateKeyDer
        (kariOf own originatorKey keaOid wrapAlg wrappedCek) own := by
  have hOwn : rekMatchesCert env.toCmsExternals
      (.issuerAndSerialNumber (issuerAndSerialNumberOf own)) own = true :=
    iasMatchesCert_iff.mpr rfl
  simp only [decryptKariCek, kariOf, unwrapFirst, h, hOwn]

/-- With the secret that the sender agreed on, the key unwraps. -/
theorem decryptKariCek_info (laws : FixtureLaws env) {originatorKey : OriginatorPublicKey}
    {z : Octets} {rid : KeyAgreeRecipientIdentifier} {kari : KeyAgreeRecipientInfo}
    {own : Certificate} (hInfo : kariInfo env originatorKey z cek.val rid = some kari)
    (hNamed : rekMatchesCert env.toCmsExternals rid own = true)
    (hZ : sharedSecret env.toCmsExternals keys.privateKeyDer dhStdSha256Oid originatorKey = .ok z) :
    decryptKariCek env.toCmsExternals keys.privateKeyDer kari own = .ok (cek.val, []) := by
  simp only [kariInfo, Option.bind_eq_bind, Option.bind_eq_some_iff, toOption_eq_some_iff,
    Option.pure_def, Option.some.injEq] at hInfo
  obtain ⟨wrapAlgDer, hWrapAlgDer, sharedInfo, hSharedInfo, kek, hKek, wrappedCek, hWrap, wrapAlg,
    hWrapAlg, rfl⟩ := hInfo
  have hDerived : deriveKek env.toCmsExternals (.x963 .sha256) z none sharedInfo 32 = .ok kek := by
    rw [deriveKek, x963Kdf, orError_eq_ok_iff]
    exact hKek
  rw [decryptKariCek_rid hNamed]
  exact decryptKariCek_own laws.encodings laws.ciphers rfl (by decide) hWrapAlgDer hWrapAlg hZ
    hSharedInfo hDerived (laws.agreement.x963Kdf _ _ _ _ _ hKek) hWrap

theorem decryptKekriCek_own (laws : FixtureLaws env) {kekri : KekRecipientInfo}
    (hInfo : kekriInfo env cek.val = some kekri) :
    decryptKekriCek env.toCmsExternals (some fixtureKek) kekri = .ok (cek.val, []) := by
  simp only [kekriInfo, Option.bind_eq_bind, Option.bind_eq_some_iff, toOption_eq_some_iff,
    Option.pure_def, Option.some.injEq] at hInfo
  obtain ⟨wrappedCek, hWrap, rfl⟩ := hInfo
  have hLength : fixtureKek.length = 32 := rfl
  have hLen : aesWrapKeyLen env.toCmsExternals aes256WrapAlgorithm.oid = .ok 32 := rfl
  have hUnwrap : aesKeyUnwrap env.toCmsExternals fixtureKek 32 wrappedCek = .ok cek.val := by
    simp [aesKeyUnwrap, laws.ciphers.keyWrapInit fixtureKek hLength, Except.mapError,
      laws.ciphers.keyWrap fixtureKek cek.val wrappedCek hLength hWrap]
  simp [decryptKekriCek, orError, hLen, hLength, hUnwrap]

/-- The key derived from the password, without a warning. -/
theorem derivePbkdf2Key_fixture (salt : Bytes 16) (password : String) :
    derivePbkdf2Key env.toCmsExternals (fixturePbkdf2Params salt) password 32 =
      .ok (env.pbkdf2Hmac .sha256 (utf8 password) salt.val 100000 32, []) := by
  simp [derivePbkdf2Key, fixturePbkdf2Params, salt.property, Option.filter]

theorem decryptPwriCek_own (laws : FixtureLaws env) {salt iv : Bytes 16}
    {rng : (n : Nat) → Bytes n} {password : String} {pwri : PasswordRecipientInfo}
    (hInfo : pwriInfo env salt iv rng cek.val password = some pwri) :
    decryptPwriCek env.toCmsExternals (some password) pwri = .ok (cek.val, []) := by
  have hKek : (env.pbkdf2Hmac .sha256 (utf8 password) salt.val 100000 32).length = 32 :=
    laws.pbkdf2Length _ _ _ _ _
  have hDerive := @derivePbkdf2Key_fixture env salt password
  simp only [pwriInfo, Option.bind_eq_bind, Option.bind_eq_some_iff, toOption_eq_some_iff,
    Option.pure_def, Option.some.injEq] at hInfo
  generalize env.pbkdf2Hmac .sha256 (utf8 password) salt.val 100000 32 = kek at hKek hDerive hInfo
  have hCekLength : cek.val.length = 32 := cek.property
  have hThree : 3 ≤ cek.val.length := by omega
  have hLength : ∀ block : Octets, block.length = 16 →
      (env.encryptBlock .aes256 kek block).length = 16 :=
    fun block hBlock => laws.ciphers.blockLength kek block hKek hBlock
  have hInverse : ∀ block : Octets, block.length = 16 →
      env.decryptBlock .aes256 kek (env.encryptBlock .aes256 kek block) = block :=
    fun block hBlock => laws.ciphers.block kek block hKek hBlock
  obtain ⟨padding, parts, hParts, hTwo, hFlatten, hWrapped⟩ :=
    @rfc3211WrapCek_eq env.toCmsExternals .aes256 kek rng iv cek.val (by rw [hKek]; rfl) hLength
      hThree
  obtain ⟨⟨encryptedKey, wrapIv⟩, hWrap, innerAlgDer, hInnerDer, innerAlgTlv, hInnerTlv, rfl⟩ := hInfo
  rw [hWrapped, Option.some.injEq, Prod.mk.injEq] at hWrap
  obtain ⟨rfl, rfl⟩ := hWrap
  have hUnwrap := @pwriUnwrapCek_encryptTwice env.toCmsExternals .aes256 kek rfl hKek hLength
    hInverse iv.val parts iv.property hParts hTwo
  rw [hFlatten] at hUnwrap
  have hRead : readPwriCek (pwriPayload cek.val padding) = .ok cek.val :=
    readPwriCek_ok_iff.mpr ⟨padding, rfl, hThree, by omega⟩
  have hInner := laws.innerAlgorithm iv innerAlgDer hInnerDer
  rw [← laws.encodings.tlv innerAlgDer innerAlgTlv hInnerTlv] at hInner
  simp [decryptPwriCek, orError, extractPwriInnerAlgorithm, hInner, Except.mapError, innerAlgorithm,
    cbcCipher, BlockCipher.keySize, hDerive, hUnwrap, hRead]

theorem x25519SharedSecret_fixture (laws : FixtureLaws env) {pki : PrivateKeyInfo}
    (hPki : env.parsePrivateKeyInfo keys.privateKeyDer = .ok pki)
    (hAlgorithm : pki.algorithm = x25519Oid)
    (hPrivate : extractX25519PrivateKey env.toCmsExternals pki.privateKey =
      .ok x25519RecipientSk) :
    sharedSecret env.toCmsExternals keys.privateKeyDer dhStdSha256Oid
        (x25519OriginatorKey (env.x25519PublicKeyOf x25519EphSk).val) =
      .ok (env.x25519 x25519EphSk (env.x25519PublicKeyOf x25519RecipientSk)).val := by
  have hX448 : x25519Oid ≠ x448Oid := by decide
  have hStd : isCofactorDh dhStdSha256Oid = false := by decide
  have hBytes : toBytes 32 (env.x25519PublicKeyOf x25519EphSk).val =
      some (env.x25519PublicKeyOf x25519EphSk) := toBytes_eq_some_iff.mpr rfl
  have hNonzero := laws.x25519Nonzero
  rw [laws.agreement.x25519] at hNonzero ⊢
  simp [sharedSecret, x25519SharedSecret, x25519OriginatorKey, hPki, hAlgorithm, hX448, hStd,
    hPrivate, hBytes, orError, hNonzero, Except.mapError, -List.reduceReplicate]

/-- What is built for a recipient, its holder opens. -/
theorem tryRecipient_holds (laws : FixtureLaws env) (hHolds : Holds env keys recipient)
    (hInfo : recipient.info cek.val = some ri)
    (hCert : parseRecipientCert env.toCmsExternals keys.recipientCertDer = .ok cert) :
    tryRecipient env.toCmsExternals keys cert ri = some (.ok (cek.val, [])) := by
  have hOwnCert : ∀ own : Certificate, env.parseCertificate keys.recipientCertDer = .ok own →
      cert = some own := by
    intro own hOwn
    rw [parseRecipientCert_own laws hOwn, Except.ok.injEq] at hCert
    exact hCert.symm
  cases hHolds with
  | ktri version rng =>
      simp only [Recipient.info, Option.map_eq_some_iff, ktriInfo, Option.bind_eq_bind,
        Option.bind_eq_some_iff, toOption_eq_some_iff, Option.pure_def, Option.some.injEq] at hInfo
      obtain ⟨ktri, ⟨sk, hPrivate, encryptedCek, hEncrypt, own, hOwn, ias, hIas, rfl⟩, rfl⟩ := hInfo
      have hName := readIas_eq laws hIas
      subst hName
      have hMatch : iasMatchesCert (issuerAndSerialNumberOf own) own = true :=
        iasMatchesCert_iff.mpr rfl
      have hDecrypt := laws.rsaPair sk _ _ _ _ hEncrypt
      rw [hOwnCert own hOwn]
      simp [tryRecipient, ktriMatchesCert, hMatch, decryptKtriCek, hPrivate, hDecrypt,
        Except.mapError]
  | kariP256 ephSk sk own pki hOwn hPki hAlgorithm hCurve hPrivate hPair =>
      simp only [Recipient.info, Option.map_eq_some_iff, kariP256Info, Option.bind_eq_bind,
        Option.bind_eq_some_iff, toOption_eq_some_iff] at hInfo
      obtain ⟨kari, ⟨other, hOther, recipientPk, hPublic, ias, hIas, hKari⟩, rfl⟩ := hInfo
      rw [hOwn, Except.ok.injEq] at hOther
      subst hOther
      rw [hPair, Except.ok.injEq] at hPublic
      subst hPublic
      have hName := readIas_eq laws hIas
      subst hName
      have hZ := @ecSharedSecret_own env.toCmsExternals keys.privateKeyDer laws.agreement
        ecSecp256r1 .p256 pki sk ephSk rfl hPki hAlgorithm hCurve hPrivate
      rw [hOwnCert own hOwn, tryRecipient, Option.map_some,
        decryptKariCek_info laws hKari (iasMatchesCert_iff.mpr rfl) hZ]
  | kariX25519 own pki hOwn hSki hPki hAlgorithm hPrivate =>
      simp only [Recipient.info, Option.map_eq_some_iff, kariX25519Info] at hInfo
      obtain ⟨kari, hKari, rfl⟩ := hInfo
      have hZ := x25519SharedSecret_fixture laws hPki hAlgorithm hPrivate
      rw [hOwnCert own hOwn, tryRecipient, Option.map_some, decryptKariCek_info laws hKari hSki hZ]
  | kekri hFeature hKek =>
      simp only [Recipient.info, Option.map_eq_some_iff] at hInfo
      obtain ⟨kekri, hKekri, rfl⟩ := hInfo
      rw [tryRecipient, if_pos hFeature, hKek, decryptKekriCek_own laws hKekri]
  | pwri password salt iv rng hFeature hPassword =>
      simp only [Recipient.info, Option.map_eq_some_iff] at hInfo
      obtain ⟨pwri, hPwri, rfl⟩ := hInfo
      rw [tryRecipient, if_pos hFeature, hPassword, decryptPwriCek_own laws hPwri]

/-- Without anything for the recipient, its RecipientInfo stays closed. -/
theorem Lacks.refused (laws : FixtureLaws env) (hLacks : Lacks env keys recipient)
    (cek : Octets) : Refused env cek keys recipient := by
  intro cert ri found hCert hInfo
  have hNames : ∀ {names : Certificate → Bool} {own : Certificate}, LacksName env keys names →
      cert = some own → names own = false := by
    intro names own hLacksName hOwn
    rw [hOwn] at hCert
    exact hLacksName own hCert
  intro hOpens
  cases hLacks with
  | ktri version rng keyDer certDer hOther =>
      simp only [Recipient.info, Option.map_eq_some_iff, ktriInfo, Option.bind_eq_bind,
        Option.bind_eq_some_iff, toOption_eq_some_iff, Option.pure_def, Option.some.injEq] at hInfo
      obtain ⟨ktri, ⟨sk, -, encryptedCek, -, other, hRead, ias, hIas, rfl⟩, rfl⟩ := hInfo
      have hName := readIas_eq laws hIas
      subst hName
      cases hOpens with
      | keyTrans present named decrypted =>
          have hNot := hNames (hOther other hRead) present
          have named : iasMatchesCert (issuerAndSerialNumberOf other) _ = true := named
          rw [hNot] at named
          cases named
  | kariP256 ephSk certDer hOther =>
      simp only [Recipient.info, Option.map_eq_some_iff, kariP256Info, kariInfo,
        Option.bind_eq_bind, Option.bind_eq_some_iff, toOption_eq_some_iff, Option.pure_def,
        Option.some.injEq] at hInfo
      obtain ⟨kari, ⟨other, hRead, _, -, ias, hIas, _, -, _, -, _, -, _, -, _, -, rfl⟩, rfl⟩ := hInfo
      have hName := readIas_eq laws hIas
      subst hName
      cases hOpens with
      | keyAgree present derived listed named unwrapped =>
          have hNot := hNames (hOther other hRead) present
          rw [List.mem_singleton.mp listed, rekMatchesCert, hNot] at named
          cases named
  | kariX25519 hOther =>
      simp only [Recipient.info, Option.map_eq_some_iff, kariX25519Info, kariInfo,
        Option.bind_eq_bind, Option.bind_eq_some_iff, toOption_eq_some_iff, Option.pure_def,
        Option.some.injEq] at hInfo
      obtain ⟨kari, ⟨_, -, _, -, _, -, _, -, _, -, rfl⟩, rfl⟩ := hInfo
      cases hOpens with
      | keyAgree present derived listed named unwrapped =>
          have hNot := hNames hOther present
          rw [List.mem_singleton.mp listed, rekMatchesCert, hNot] at named
          cases named
  | kekri hKek =>
      simp only [Recipient.info, Option.map_eq_some_iff, kekriInfo, Option.bind_eq_bind,
        Option.bind_eq_some_iff, toOption_eq_some_iff, Option.pure_def, Option.some.injEq] at hInfo
      obtain ⟨kekri, ⟨wrappedCek, -, rfl⟩, rfl⟩ := hInfo
      have hLen : aesWrapKeyLen env.toCmsExternals aes256WrapAlgorithm.oid = .ok 32 := rfl
      cases hOpens with
      | kek enabled decrypted =>
          cases hOwn : keys.kek with
          | none =>
              rw [decryptKekriCek, hOwn] at decrypted
              cases decrypted
          | some kek =>
              have hLength := hKek kek hOwn
              simp [decryptKekriCek, hOwn, orError, hLen, hLength] at decrypted
  | kekriDisabled hFeature =>
      simp only [Recipient.info, Option.map_eq_some_iff] at hInfo
      obtain ⟨kekri, -, rfl⟩ := hInfo
      cases hOpens with
      | kek enabled decrypted =>
          rw [hFeature] at enabled
          cases enabled
  | pwri password salt iv rng hPassword =>
      simp only [Recipient.info, Option.map_eq_some_iff] at hInfo
      obtain ⟨pwri, -, rfl⟩ := hInfo
      cases hOpens with
      | password enabled decrypted =>
          rw [decryptPwriCek, hPassword] at decrypted
          cases decrypted
  | pwriDisabled password salt iv rng hFeature =>
      simp only [Recipient.info, Option.map_eq_some_iff] at hInfo
      obtain ⟨pwri, -, rfl⟩ := hInfo
      cases hOpens with
      | password enabled decrypted =>
          rw [hFeature] at enabled
          cases enabled

end Opens

section Versions

variable {env} {cek : Octets} {recipient : Recipient env} {ri : RecipientInfo}

theorem recipientVersionWarning_built (h : recipient.info cek = some ri) (idx : Nat) :
    recipientVersionWarning idx ri = recipient.versionWarning idx := by
  cases recipient with
  | ktri version rng keyDer certDer =>
      simp only [Recipient.info, Option.map_eq_some_iff, ktriInfo, Option.bind_eq_bind,
        Option.bind_eq_some_iff, toOption_eq_some_iff, Option.pure_def, Option.some.injEq] at h
      obtain ⟨ktri, ⟨_, -, _, -, _, -, _, -, rfl⟩, rfl⟩ := h
      cases version <;> rfl
  | kariP256 ephSk certDer =>
      simp only [Recipient.info, Option.map_eq_some_iff, kariP256Info, kariInfo,
        Option.bind_eq_bind, Option.bind_eq_some_iff, toOption_eq_some_iff, Option.pure_def,
        Option.some.injEq] at h
      obtain ⟨kari, ⟨_, -, _, -, _, -, _, -, _, -, _, -, _, -, _, -, rfl⟩, rfl⟩ := h
      rfl
  | kariX25519 =>
      simp only [Recipient.info, Option.map_eq_some_iff, kariX25519Info, kariInfo,
        Option.bind_eq_bind, Option.bind_eq_some_iff, toOption_eq_some_iff, Option.pure_def,
        Option.some.injEq] at h
      obtain ⟨kari, ⟨_, -, _, -, _, -, _, -, _, -, rfl⟩, rfl⟩ := h
      rfl
  | kekri =>
      simp only [Recipient.info, Option.map_eq_some_iff, kekriInfo, Option.bind_eq_bind,
        Option.bind_eq_some_iff, toOption_eq_some_iff, Option.pure_def, Option.some.injEq] at h
      obtain ⟨kekri, ⟨_, -, rfl⟩, rfl⟩ := h
      rfl
  | pwri password salt iv rng =>
      simp only [Recipient.info, Option.map_eq_some_iff, pwriInfo, Option.bind_eq_bind,
        Option.bind_eq_some_iff, toOption_eq_some_iff, Option.pure_def, Option.some.injEq] at h
      obtain ⟨pwri, ⟨_, -, _, -, _, -, rfl⟩, rfl⟩ := h
      rfl

theorem recipientVersionWarnings_built {recipients : List (Recipient env)}
    {ris : List RecipientInfo} (h : List.Forall₂ (BuiltAs cek) recipients ris) :
    recipientVersionWarnings ris = versionWarnings recipients := by
  rw [recipientVersionWarnings, versionWarnings,
    h.mapIdx_eq fun idx _ _ hInfo => (recipientVersionWarning_built hInfo idx).symm]

def needsVersion3 (ri : RecipientInfo) : Bool :=
  match ri with
  | .password _ | .other => true
  | _ => false

def hasVersion0 (ri : RecipientInfo) : Bool :=
  match ri with
  | .keyTrans ktri => ktri.version == 0
  | _ => false

/-- The kind of a RecipientInfo is that of its recipient. -/
theorem info_kinds (h : recipient.info cek = some ri) :
    recipient.isPwri = needsVersion3 ri ∧ recipient.hasVersion0 = hasVersion0 ri := by
  cases recipient <;>
    (simp only [Recipient.info, Option.map_eq_some_iff] at h
     obtain ⟨built, -, rfl⟩ := h
     exact ⟨rfl, rfl⟩)

theorem expectedVersion_built {recipients : List (Recipient env)} {ris : List RecipientInfo}
    (h : List.Forall₂ (BuiltAs cek) recipients ris) (iv : Bytes 16) (version : UInt8)
    (ciphertext : Octets) :
    expectedEnvelopedDataVersion { envelopedDataOf ris iv ciphertext with version } =
      expectedVersion recipients := by
  have hExpected : expectedEnvelopedDataVersion { envelopedDataOf ris iv ciphertext with version } =
      if ris.any needsVersion3 then 3 else if ris.all hasVersion0 then 0 else 2 := rfl
  rw [hExpected, expectedVersion, h.any_eq fun _ _ hInfo => (info_kinds hInfo).1,
    h.all_eq fun _ _ hInfo => (info_kinds hInfo).2]

theorem expectedVersion_perm {recipients others : List (Recipient env)}
    (h : recipients.Perm others) : expectedVersion recipients = expectedVersion others := by
  rw [expectedVersion, expectedVersion, h.any_eq, h.all_eq]

end Versions

section Delivery

variable {env}

/-- Every part of the key material is that of a recipient, or the attempt at the
recipient fails. -/
structure KeysFor (env : FixtureExternals) (cek : Octets) (keys : DecryptionKeys)
    (recipients : List (Recipient env)) : Prop where
  certificate : ∃ cert, parseRecipientCert env.toCmsExternals keys.recipientCertDer = .ok cert
  each : ∀ recipient ∈ recipients, Holds env keys recipient ∨ Refused env cek keys recipient

variable {keys : DecryptionKeys} {cek : Bytes 32} {recipients : List (Recipient env)}
  {ris : List RecipientInfo}

theorem recoverCek_holds (laws : FixtureLaws env) (hKeys : KeysFor env cek.val keys recipients)
    (hBuilt : List.Forall₂ (BuiltAs cek.val) recipients ris)
    (hHolds : ∃ recipient ∈ recipients, Holds env keys recipient) :
    recoverCek env.toCmsExternals keys ris 32 = .ok (cek.val, versionWarnings recipients) := by
  obtain ⟨cert, hCert⟩ := hKeys.certificate
  have hSearch : searchRecipients env.toCmsExternals keys cert none ris = .ok (cek.val, []) := by
    apply searchRecipients_found
    · intro ri hRi opened hOpened
      obtain ⟨recipient, hMem, hInfo⟩ := hBuilt.exists_left hRi
      rcases hKeys.each recipient hMem with hOwn | hRefused
      · rw [tryRecipient_holds laws hOwn hInfo hCert] at hOpened
        cases hOpened
        rfl
      · exact absurd (opens_of_tryRecipient hOpened) (hRefused cert ri opened.1 hCert hInfo)
    · obtain ⟨recipient, hMem, hOwn⟩ := hHolds
      obtain ⟨ri, hRi, hInfo⟩ := hBuilt.exists_right hMem
      exact ⟨ri, hRi, tryRecipient_holds laws hOwn hInfo hCert⟩
  have hLength : cek.val.length = 32 := cek.property
  simp [recoverCek, hCert, hSearch, hLength, recipientVersionWarnings_built hBuilt]

theorem recoverCek_refused (hKeys : KeysFor env cek.val keys recipients)
    (hBuilt : List.Forall₂ (BuiltAs cek.val) recipients ris)
    (hNone : ∀ recipient ∈ recipients, ¬ Holds env keys recipient) :
    ∃ e, recoverCek env.toCmsExternals keys ris 32 = .error e := by
  obtain ⟨cert, hCert⟩ := hKeys.certificate
  have hClosed : ∀ ri ∈ ris, ∀ found, ¬ Opens env.toCmsExternals keys cert ri found := by
    intro ri hRi found
    obtain ⟨recipient, hMem, hInfo⟩ := hBuilt.exists_left hRi
    have hRefused := (hKeys.each recipient hMem).resolve_left (hNone recipient hMem)
    exact hRefused cert ri found hCert hInfo
  obtain ⟨e, hSearch⟩ := searchRecipients_none hClosed none
  exact ⟨e, by rw [recoverCek, hCert, Except.ok_bind', hSearch, Except.error_bind']⟩

theorem KeysFor.perm {others : List (Recipient env)} (h : KeysFor env cek.val keys recipients)
    (hPerm : others.Perm recipients) : KeysFor env cek.val keys others :=
  ⟨h.certificate, fun recipient hMem => h.each recipient (hPerm.mem_iff.mp hMem)⟩

/-- A message for recipients of any kinds, in any order: whoever holds the key of one
of them gets the content, and versions that do not fit are noted; when the attempts at
all of them fail, the layer has one more failure and no content. -/
theorem multiRecipientDer_opens (env : FixtureExternals) (laws : FixtureLaws env)
    {cek : Bytes 32} {iv : Bytes 16} {recipients : List (Recipient env)} {version : UInt8}
    {plaintext der : Octets}
    (hBuilt : multiRecipientDer env cek iv recipients version plaintext = some der) :
    ∃ (enveloped : EnvelopedData) (ordered : List (Recipient env)),
      env.parseContentInfo der = .ok (.envelopedData enveloped) ∧ ordered.Perm recipients ∧
        ∀ keys : DecryptionKeys, KeysFor env cek.val keys recipients → ∀ result : SmimeValidationResult,
          let after := decryptEnvelopedDataLayer env.toCmsExternals enveloped keys result
          let noted := result.failures ++
            versionMismatch "EnvelopedData" (expectedVersion recipients) version
          ((∃ recipient ∈ recipients, Holds env keys recipient) →
              after.signedContent = some plaintext ∧
                after.failures = noted ++ versionWarnings ordered) ∧
            ((∀ recipient ∈ recipients, ¬ Holds env keys recipient) →
              after.signedContent = result.signedContent ∧ ∃ e, after.failures = noted ++ [e]) := by
  simp only [multiRecipientDer, buildEnvelopedDataDer, Option.bind_eq_bind, Option.bind_eq_some_iff,
    toOption_eq_some_iff] at hBuilt
  obtain ⟨ciphertext, hEncrypt, risDer, hRisDer, ris, hRis, hWrite⟩ := hBuilt
  obtain ⟨built, hInfos, hParsed⟩ := mapM_build_some laws hRisDer
  rw [mapM_toOption hParsed, Option.some.injEq] at hRis
  subst hRis
  obtain ⟨read, hPerm, hRead⟩ := laws.enveloped risDer built iv version ciphertext der hParsed hWrite
  -- The set is read in another order than the recipients were given in.
  obtain ⟨ordered, hOrderedInfos, hOrdered⟩ := List.perm_comp_forall₂ hPerm hInfos.flip
  have hOrderedInfos : List.Forall₂ (BuiltAs cek.val) ordered read := hOrderedInfos.flip
  refine ⟨_, ordered, hRead, hOrdered, fun keys hKeys result => ?_⟩
  have hVersion := expectedVersion_built hOrderedInfos iv version ciphertext
  rw [expectedVersion_perm hOrdered] at hVersion
  have hOrderedKeys := hKeys.perm hOrdered
  have hPlain := decryptCbc_encryptAesCbc laws.ciphers hEncrypt
  constructor
  · intro ⟨recipient, hMem, hHolds⟩
    have hCek := recoverCek_holds laws hOrderedKeys hOrderedInfos
      ⟨recipient, hOrdered.mem_iff.mpr hMem, hHolds⟩
    have hDecrypt : decryptEnvelopedData env.toCmsExternals
        { envelopedDataOf read iv ciphertext with version } keys =
          .ok (some plaintext, versionWarnings ordered) := by
      simp [decryptEnvelopedData, envelopedDataOf, resolveCekHkdf, cbcCipher, orError,
        BlockCipher.keySize, hCek, contentKey, hPlain, weakCipherWarnings]
    simp [decryptEnvelopedDataLayer, hDecrypt, hVersion, recordDecryption,
      SmimeValidationResult.extend]
  · intro hNone
    obtain ⟨e, hCek⟩ := recoverCek_refused hOrderedKeys hOrderedInfos
      fun recipient hMem => hNone recipient (hOrdered.mem_iff.mp hMem)
    have hDecrypt : decryptEnvelopedData env.toCmsExternals
        { envelopedDataOf read iv ciphertext with version } keys = .error e := by
      simp [decryptEnvelopedData, envelopedDataOf, resolveCekHkdf, cbcCipher, orError,
        BlockCipher.keySize, hCek]
    simp [decryptEnvelopedDataLayer, hDecrypt, hVersion, recordDecryption,
      SmimeValidationResult.extend, SmimeValidationResult.push]

end Delivery

section Fixtures

variable {env}

/-- The recipients of the first fixture. -/
def multiTypeAll (rng rsaKeyDer rsaCertDer p256CertDer : Octets) (ephSk : env.EcSecretKey .p256)
    (salt iv : Bytes 16) (padding : (n : Nat) → Bytes n) : List (Recipient env) :=
  [.ktri none rng rsaKeyDer rsaCertDer, .kariP256 ephSk p256CertDer, .kariX25519, .kekri,
    .pwri "zone.eu" salt iv padding]

def multiTypeRsaPwri (rng rsaKeyDer rsaCertDer : Octets) (salt iv : Bytes 16)
    (padding : (n : Nat) → Bytes n) : List (Recipient env) :=
  [.ktri none rng rsaKeyDer rsaCertDer, .pwri "zone.eu" salt iv padding]

/-- A version 2 that is not that of the name in it. -/
def ktriBadVersion (rng rsaKeyDer rsaCertDer : Octets) : List (Recipient env) :=
  [.ktri (some 2) rng rsaKeyDer rsaCertDer]

example (rng rsaKeyDer rsaCertDer p256CertDer : Octets) (ephSk : env.EcSecretKey .p256)
    (salt iv : Bytes 16) (padding : (n : Nat) → Bytes n) :
    expectedVersion (multiTypeAll rng rsaKeyDer rsaCertDer p256CertDer ephSk salt iv padding) = 3 ∧
      expectedVersion
        (multiTypeRsaPwri rng rsaKeyDer rsaCertDer salt iv padding : List (Recipient env)) = 3 :=
  ⟨rfl, rfl⟩

example (rng rsaKeyDer rsaCertDer : Octets) :
    expectedVersion (ktriBadVersion rng rsaKeyDer rsaCertDer : List (Recipient env)) = 2 ∧
      versionWarnings (ktriBadVersion rng rsaKeyDer rsaCertDer : List (Recipient env)) =
        [.cmsVersionMismatch "KeyTransRecipientInfo" 0 2 (some 0)] :=
  ⟨rfl, rfl⟩

end Fixtures

section Samples

/-! The pre-shared key and `test_p256.pem`, of which the receiver has the first. -/

def kekWrapped : Octets :=
  octets 38 0x0a2eafa38830022858b9ef2af35288f38b001ee05ebc15d4394dc0f840b942a72d25f1d730e6
    ++ octets 2 0x092a
def kekRecipientDer : Octets :=
  octets 38 0xa2420201043006040401020304300b060960864801650304012d04280a2eafa38830022858b9
    ++ octets 30 0xef2af35288f38b001ee05ebc15d4394dc0f840b942a72d25f1d730e6092a
def ecNameDer : Octets :=
  octets 38 0x304b303331173015060355040a0c0e5a6f6e65204d65646961204fc39c311830160603550403
    ++ octets 38 0x0c0f4b616c6c65204b72c3bc7074696a6102144dbcc3ca1817b7e2c6ecfd98f012b03009a70b
    ++ octets 1 0x5e
def twoKindsDer : Octets :=
  octets 38 0x3082019106092a864886f70d010703a08201823082017e02010231820139a181f2020103a05b
    ++ octets 38 0xa159301306072a8648ce3d020106082a8648ce3d030107034200041202798a026065d9cf01e7
    ++ octets 38 0xef9d3209731ed13c8fbee2f3e362a1047aba6570afe9606e28ae6be7856d8f526d832d75bbae
    ++ octets 38 0xe21b1e0d37d23258b585bb86cd427a301506062b8104010b01300b060960864801650304012d
    ++ octets 38 0x30793077304b303331173015060355040a0c0e5a6f6e65204d65646961204fc39c3118301606
    ++ octets 38 0x035504030c0f4b616c6c65204b72c3bc7074696a6102144dbcc3ca1817b7e2c6ecfd98f012b0
    ++ octets 38 0x3009a70b5e042862442125559627a5d9b2098ff363ff155c6d9c5ac6d7db5d02b4dc3a16c0bf
    ++ octets 38 0x37c215b3596591eb1ba2420201043006040401020304300b060960864801650304012d04280a
    ++ octets 38 0x2eafa38830022858b9ef2af35288f38b001ee05ebc15d4394dc0f840b942a72d25f1d730e609
    ++ octets 38 0x2a303c06092a864886f70d010701301d060960864801650304012a04100ab306823035661bb8
    ++ octets 25 0xdba21cc25352318010d080177e453afdde612c95fa08946a50

def sampleKekri : KekRecipientInfo := ⟨4, aes256WrapAlgorithm, kekWrapped⟩

def twoKinds (ris : List RecipientInfo) : EnvelopedData :=
  { envelopedDataOf ris sampleIv firstCipherBlock with version := 2 }

/-- As `roundTripExternals`, for these two recipients. -/
def twoKindsExternals : FixtureExternals where
  toCreateExternals :=
    { toCmsExternals :=
        { roundTripExternals with
          parseContentInfo := fun der =>
            if der = twoKindsDer then .ok (.envelopedData (twoKinds [ecRecipient, .kek sampleKekri]))
            else unanswered
          parseRecipientInfo := fun der =>
            if der = kekRecipientDer then .ok (.kek sampleKekri)
            else roundTripExternals.parseRecipientInfo der
          writeContentInfo := fun content =>
            if content = .envelopedData (twoKinds [.kek sampleKekri, ecRecipient]) then .ok twoKindsDer
            else unanswered
          x25519 := fun _ _ => ⟨List.replicate 32 1, List.length_replicate⟩
          pbkdf2Hmac := fun _ _ _ _ keyLen => List.replicate keyLen 0
          wrapKey := fun kek key =>
            if kek = fixtureKek ∧ key = sampleCek.val then .ok kekWrapped
            else if kek = ecKek ∧ key = sampleCek.val then .ok ecWrapped
            else unanswered
          unwrapKey := fun kek wrapped =>
            if kek = fixtureKek ∧ wrapped = kekWrapped then .ok sampleCek.val
            else if kek = ecKek ∧ wrapped = ecWrapped then .ok sampleCek.val
            else unanswered }
      parseName := fun _ => unanswered
      writeSignedData := fun _ _ => unanswered
      nowHeader := "" }
  rsaToPublicKey _ := ()
  writeIssuerAndSerialNumber ias :=
    if ias = issuerAndSerialNumberOf ecCert then .ok ecNameDer else unanswered
  parseIssuerAndSerialNumber der :=
    if der = ecNameDer then .ok (issuerAndSerialNumberOf ecCert) else unanswered
  writeKekRecipientInfo keyIdentifier kekri :=
    if keyIdentifier = [0x01, 0x02, 0x03, 0x04] ∧ kekri = sampleKekri then .ok kekRecipientDer
    else unanswered

/-- What is written of the two is read again in the order of the set. -/
theorem twoKinds_written {ris : List RecipientInfo} {iv : Bytes 16} {version : UInt8}
    {ciphertext der : Octets}
    (h : twoKindsExternals.writeContentInfo
      (.envelopedData { envelopedDataOf ris iv ciphertext with version }) = .ok der) :
    ris = [.kek sampleKekri, ecRecipient] ∧ version = 2 ∧
      twoKindsExternals.parseContentInfo der = .ok (.envelopedData
        { envelopedDataOf [ecRecipient, .kek sampleKekri] iv ciphertext with version := 2 }) := by
  simp only [twoKindsExternals] at h
  split_ifs at h with hContent
  · cases h
    rw [Content.envelopedData.injEq] at hContent
    have hVersion : version = 2 := congrArg EnvelopedData.version hContent
    have hInfos : ris = [.kek sampleKekri, ecRecipient] :=
      congrArg EnvelopedData.recipientInfos hContent
    have hRest := congrArg EnvelopedData.encryptedContentInfo hContent
    simp only [twoKinds, envelopedDataOf, EncryptedContentInfo.mk.injEq, AlgorithmIdentifier.mk.injEq,
      AlgorithmParameters.aes256Cbc.injEq, Option.some.injEq, true_and] at hRest
    obtain ⟨hIv, rfl⟩ := hRest
    obtain rfl := Subtype.ext hIv
    exact ⟨hInfos, hVersion, if_pos rfl⟩
  · cases h

theorem twoKinds_recipientInfo {der : Octets} {ri : RecipientInfo}
    (h : twoKindsExternals.writeRecipientInfo ri = .ok der) :
    twoKindsExternals.parseRecipientInfo der = .ok ri := by
  have hOther : ecRecipientDer ≠ kekRecipientDer ∧ xRecipientDer ≠ kekRecipientDer ∧
      xRecipientDer ≠ ecRecipientDer := by
    decide +kernel
  simp only [twoKindsExternals, roundTripExternals] at h ⊢
  split_ifs at h with hEc hX
  · cases h
    rw [if_neg hOther.1, if_pos rfl, hEc]
  · cases h
    rw [if_neg hOther.2.1, if_neg hOther.2.2, if_pos rfl, hX]
  · cases h

theorem twoKindsLaws : FixtureLaws twoKindsExternals where
  encodings :=
    { empty := sampleEncodings.empty
      tlv := sampleEncodings.tlv
      wrapAlgorithm := sampleEncodings.wrapAlgorithm
      recipientInfo := fun _ _ _ _ _ _ _ _ h => twoKinds_recipientInfo h
      enveloped := fun ders ris iv ciphertext der _ h => by
        obtain ⟨rfl, -, hRead⟩ := twoKinds_written h
        exact ⟨_, List.Perm.swap _ _ _, hRead⟩
      authEnveloped := fun _ _ _ _ _ _ _ h => by
        simp [twoKindsExternals, unanswered] at h }
  agreement :=
    ⟨sampleAgreement.sec1, sampleAgreement.ecdh, fun _ _ => rfl, sampleAgreement.x963Kdf,
      sampleAgreement.hkdf, sampleAgreement.noSalt⟩
  ciphers :=
    { keyWrapInit := sampleCiphers.keyWrapInit
      keyWrap := fun kek key wrapped _ h => by
        have hOther : ecKek ≠ fixtureKek := by decide +kernel
        simp only [twoKindsExternals] at h ⊢
        split_ifs at h with hKek hEc
        · cases h
          rw [if_pos ⟨hKek.1, rfl⟩, hKek.2]
        · cases h
          rw [if_neg fun hFirst => hOther (hEc.1.symm.trans hFirst.1), if_pos ⟨hEc.1, rfl⟩, hEc.2]
        · cases h
      blockLength := sampleCiphers.blockLength
      block := sampleCiphers.block
      gcm := sampleCiphers.gcm }
  ias ias der h := by
    simp only [twoKindsExternals] at h ⊢
    split_ifs at h with hName
    · cases h
      rw [if_pos rfl, hName]
    · cases h
  innerAlgorithm iv der h := by
    have hOther : innerAlgorithm iv ≠ aes256WrapAlgorithm := fun hSame =>
      absurd (congrArg AlgorithmIdentifier.oid hSame) (show aes256CbcOid ≠ aes256WrapOid by decide)
    simp only [twoKindsExternals, roundTripExternals, if_neg hOther] at h
    cases h
  recipientInfo _ _ _ _ _ h := twoKinds_recipientInfo h
  kekRecipientInfo keyIdentifier der kekri h := by
    simp only [twoKindsExternals] at h ⊢
    split_ifs at h with hKekri
    · cases h
      rw [if_pos rfl, hKekri.2]
    · cases h
  enveloped ders ris iv version ciphertext der _ h := by
    obtain ⟨rfl, rfl, hRead⟩ := twoKinds_written h
    exact ⟨_, List.Perm.swap _ _ _, hRead⟩
  rsaPair _ _ _ _ _ h := by cases h
  pbkdf2Length _ _ _ _ _ := List.length_replicate
  x25519Nonzero := by decide +kernel

def sampleRecipients : List (Recipient twoKindsExternals) := [.kekri, .kariP256 true ecCertDer]

/-- Without a certificate the other RecipientInfo is skipped. -/
theorem multiRecipientDer_opens_sample :
    ∃ enveloped, twoKindsExternals.parseContentInfo twoKindsDer = .ok (.envelopedData enveloped) ∧
      (decryptEnvelopedDataLayer twoKindsExternals.toCmsExternals enveloped { kek := some fixtureKek }
        {}).signedContent = some sampleText := by
  have hBuilt : multiRecipientDer twoKindsExternals sampleCek sampleIv sampleRecipients 2 sampleText =
      some twoKindsDer := by decide +kernel
  obtain ⟨enveloped, ordered, hRead, -, hOpens⟩ :=
    multiRecipientDer_opens twoKindsExternals twoKindsLaws hBuilt
  have hKek : Holds twoKindsExternals { kek := some fixtureKek } .kekri := .kekri rfl rfl
  have hKeys : KeysFor twoKindsExternals sampleCek.val { kek := some fixtureKek }
      sampleRecipients := by
    refine ⟨⟨none, rfl⟩, fun recipient hMem => ?_⟩
    rcases List.mem_pair.mp hMem with rfl | rfl
    · exact .inl hKek
    · have hLacks : Lacks twoKindsExternals { kek := some fixtureKek }
          (.kariP256 true ecCertDer) := by
        refine .kariP256 _ _ fun other _ cert hCert => ?_
        cases hCert
      exact .inr (hLacks.refused twoKindsLaws _)
  exact ⟨enveloped, hRead, ((hOpens _ hKeys {}).1 ⟨.kekri, List.mem_cons_self, hKek⟩).1⟩

end Samples

end Smime.CreateCms
