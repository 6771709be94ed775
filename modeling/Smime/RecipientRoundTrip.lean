import Smime.Encrypt

/-! One recipient: a RecipientInfo that encryption builds for a certificate is
opened with the private key of the certificate, and with that of no other. -/
namespace Smime

open X690 (Octets)
open X509 Utils

section Laws

/-- How a recipient's key was encrypted, by the type of the key. -/
inductive BuiltRecipient (env : CmsExternals) (cek : Octets) (cert : Certificate)
    (pkcs1v15 : Bool) : RecipientInfo → Prop
  | ktri (null : Option Unit) (pk : env.RsaPublicKey) (rng encryptedCek : Octets)
      (hParams : cert.spki.algorithm.params = .rsa null)
      (hPublic : rsaPublicKeyOf env cert = .ok pk)
      (hEncrypt : env.rsaEncrypt pk (keyTransportPadding pkcs1v15) rng cek = .ok encryptedCek) :
      BuiltRecipient env cek cert pkcs1v15 (.keyTrans (ktriOf cert pkcs1v15 encryptedCek))
  | kari (curveOid : ObjectIdentifier) (curve : NistCurve) (recipientPk : env.EcPublicKey curve)
      (ephSk : env.EcSecretKey curve) (sharedInfo wrapAlgDer kek wrappedCek : Octets) (wrapAlg : Tlv)
      (hParams : cert.spki.algorithm.params = .ecdsa (some (.namedCurve curveOid)))
      (hCurve : nistCurve curveOid = some curve)
      (hPublic : env.ecPublicKeyFromSec1 curve cert.spki.subjectPublicKey = .ok recipientPk)
      (hSharedInfo : env.writeSharedInfo wrapSharedInfo = .ok sharedInfo)
      (hWrapAlgDer : env.writeAlgorithmIdentifier aes256WrapAlgorithm = .ok wrapAlgDer)
      (hWrapAlg : env.parseTlv wrapAlgDer = .ok wrapAlg)
      (hKek : env.x963Kdf .sha256 (env.diffieHellman ephSk recipientPk) sharedInfo 32 = some kek)
      (hWrap : env.wrapKey kek cek = .ok wrappedCek) :
      BuiltRecipient env cek cert pkcs1v15 (.keyAgree (kariOf cert
        (ecOriginatorKey curveOid (env.ecToSec1 (env.ecPublicKeyOf ephSk))) dhStdSha256Oid wrapAlg
        wrappedCek))
  | kariX25519 (recipientPk ephSk : Bytes 32) (sharedInfo wrapAlgDer kek wrappedCek : Octets)
      (wrapAlg : Tlv) (hParams : cert.spki.algorithm.params = .x25519)
      (hPublic : cert.spki.subjectPublicKey = recipientPk.val)
      (hNonzero : (env.x25519 ephSk recipientPk).val ≠ List.replicate 32 0)
      (hSharedInfo : env.writeSharedInfo wrapSharedInfo = .ok sharedInfo)
      (hWrapAlgDer : env.writeAlgorithmIdentifier aes256WrapAlgorithm = .ok wrapAlgDer)
      (hWrapAlg : env.parseTlv wrapAlgDer = .ok wrapAlg)
      (hKek : env.hkdf .sha256 none (env.x25519 ephSk recipientPk).val sharedInfo 32 = .ok kek)
      (hWrap : env.wrapKey kek cek = .ok wrappedCek) :
      BuiltRecipient env cek cert pkcs1v15 (.keyAgree (kariOf cert
        (x25519OriginatorKey (env.x25519PublicKeyOf ephSk).val) dhHkdfSha256Oid wrapAlg wrappedCek))

/-- What is written is read again. A SET OF is read in the order of its encoding. -/
structure EncodingLaws (env : CmsExternals) : Prop where
  empty : ∀ cert : Certificate, env.parseCertificate [] ≠ .ok cert
  tlv : ∀ (der : Octets) (element : Tlv), env.parseTlv der = .ok element → element.fullData = der
  wrapAlgorithm : ∀ der : Octets, env.writeAlgorithmIdentifier aes256WrapAlgorithm = .ok der →
    env.parseAlgorithmIdentifier der = .ok aes256WrapAlgorithm
  recipientInfo : ∀ (certDer cek der : Octets) (cert : Certificate) (pkcs1v15 : Bool)
    (ri : RecipientInfo), env.parseCertificate certDer = .ok cert →
      BuiltRecipient env cek cert pkcs1v15 ri → env.writeRecipientInfo ri = .ok der →
        env.parseRecipientInfo der = .ok ri
  enveloped : ∀ (ders : List Octets) (ris : List RecipientInfo) (iv : Bytes 16)
    (ciphertext der : Octets), List.Forall₂ (fun d ri => env.parseRecipientInfo d = .ok ri) ders ris →
      env.writeContentInfo (.envelopedData (envelopedDataOf ris iv ciphertext)) = .ok der →
        ∃ ordered : List RecipientInfo, ordered.Perm ris ∧
          env.parseContentInfo der = .ok (.envelopedData (envelopedDataOf ordered iv ciphertext))
  authEnveloped : ∀ (ders : List Octets) (ris : List RecipientInfo) (nonce : Bytes 12)
    (ciphertext tag der : Octets),
      List.Forall₂ (fun d ri => env.parseRecipientInfo d = .ok ri) ders ris →
        env.writeContentInfo (.authEnvelopedData (authEnvelopedDataOf ris nonce ciphertext tag)) =
            .ok der →
          ∃ ordered : List RecipientInfo, ordered.Perm ris ∧
            env.parseContentInfo der =
              .ok (.authEnvelopedData (authEnvelopedDataOf ordered nonce ciphertext tag))

/-- Each party of a key agreement derives the same secret. -/
structure AgreementLaws (env : CmsExternals) : Prop where
  sec1 : ∀ (curve : NistCurve) (pk : env.EcPublicKey curve),
    env.ecPublicKeyFromSec1 curve (env.ecToSec1 pk) = .ok pk
  ecdh : ∀ (curve : NistCurve) (a b : env.EcSecretKey curve),
    env.diffieHellman a (env.ecPublicKeyOf b) = env.diffieHellman b (env.ecPublicKeyOf a)
  x25519 : ∀ a b : Bytes 32,
    env.x25519 a (env.x25519PublicKeyOf b) = env.x25519 b (env.x25519PublicKeyOf a)
  x963Kdf : ∀ (hash : KdfHash) (z sharedInfo kek : Octets) (keyLen : Nat),
    env.x963Kdf hash z sharedInfo keyLen = some kek → kek.length = keyLen
  hkdf : ∀ (hash : KdfHash) (salt : Option Octets) (ikm info okm : Octets) (keyLen : Nat),
    env.hkdf hash salt ikm info keyLen = .ok okm → okm.length = keyLen
  noSalt : ∀ (hash : KdfHash) (ikm info : Octets) (keyLen : Nat),
    env.hkdf hash none ikm info keyLen = env.hkdf hash (some []) ikm info keyLen

/-- What a symmetric cipher encrypts it decrypts under the same key. -/
structure CipherLaws (env : CmsExternals) : Prop where
  keyWrapInit : ∀ kek : Octets, kek.length = 32 → env.keyWrapInit 32 kek = .ok ()
  keyWrap : ∀ kek key wrapped : Octets, kek.length = 32 → env.wrapKey kek key = .ok wrapped →
    env.unwrapKey kek wrapped = .ok key
  blockLength : ∀ key block : Octets, key.length = 32 → block.length = 16 →
    (env.encryptBlock .aes256 key block).length = 16
  block : ∀ key block : Octets, key.length = 32 → block.length = 16 →
    env.decryptBlock .aes256 key (env.encryptBlock .aes256 key block) = block
  gcm : ∀ key nonce aad plaintext ciphertext tag : Octets, key.length = 32 → nonce.length = 12 →
    env.gcmEncrypt key nonce aad plaintext = .ok (ciphertext, tag) →
      tag.length = 16 ∧ env.gcmDecrypt key nonce aad ciphertext tag = .ok plaintext

/-- What is encrypted with the public key is decrypted with the private one. -/
def RsaPair (env : CmsExternals) (pk : env.RsaPublicKey) (sk : env.RsaPrivateKey) : Prop :=
  ∀ (padding : RsaPadding) (rng key encrypted : Octets),
    env.rsaEncrypt pk padding rng key = .ok encrypted → env.rsaDecrypt sk padding encrypted = .ok key

/-- The private key is that of the certificate. -/
inductive KeyMatches (env : CmsExternals) (cert : Certificate) (privateKeyDer : Octets) : Prop
  | rsa (null : Option Unit) (pk : env.RsaPublicKey) (sk : env.RsaPrivateKey)
      (hParams : cert.spki.algorithm.params = .rsa null)
      (hPublic : rsaPublicKeyOf env cert = .ok pk)
      (hPrivate : env.rsaPrivateKeyFromPkcs8 privateKeyDer = .ok sk) (hPair : RsaPair env pk sk)
  | ec (curveOid : ObjectIdentifier) (curve : NistCurve) (pki : PrivateKeyInfo)
      (sk : env.EcSecretKey curve)
      (hParams : cert.spki.algorithm.params = .ecdsa (some (.namedCurve curveOid)))
      (hCurve : nistCurve curveOid = some curve)
      (hPki : env.parsePrivateKeyInfo privateKeyDer = .ok pki) (hAlgorithm : pki.algorithm = ecOid)
      (hCurveOid : pki.parametersOid = .ok curveOid)
      (hPrivate : env.ecSecretKeyFromPkcs8 curve privateKeyDer = .ok sk)
      (hPair : env.ecPublicKeyFromSec1 curve cert.spki.subjectPublicKey =
        .ok (env.ecPublicKeyOf sk))
  | x25519 (pki : PrivateKeyInfo) (sk : Bytes 32) (hParams : cert.spki.algorithm.params = .x25519)
      (hPki : env.parsePrivateKeyInfo privateKeyDer = .ok pki)
      (hAlgorithm : pki.algorithm = x25519Oid)
      (hPrivate : extractX25519PrivateKey env pki.privateKey = .ok sk)
      (hPair : cert.spki.subjectPublicKey = (env.x25519PublicKeyOf sk).val)

end Laws

section Build

variable {env : CmsExternals} {random : RecipientRandom env} {cek der : Octets}
  {cert : Certificate} {pkcs1v15 : Bool}

theorem buildKtri_built {null : Option Unit} (hParams : cert.spki.algorithm.params = .rsa null)
    (h : buildKtri env random cek cert pkcs1v15 = .ok der) :
    ∃ ri : RecipientInfo, BuiltRecipient env cek cert pkcs1v15 ri ∧
      env.writeRecipientInfo ri = .ok der := by
  simp only [buildKtri, Except.bind_eq_ok_iff, Except.mapError_eq_ok_iff] at h
  obtain ⟨pk, hPublic, encryptedCek, hEncrypt, hWrite⟩ := h
  exact ⟨_, .ktri null pk random.rng encryptedCek hParams hPublic hEncrypt, hWrite⟩

theorem wrapAlgTlv_ok_iff {wrapAlg : Tlv} :
    wrapAlgTlv env = .ok wrapAlg ↔
      ∃ wrapAlgDer : Octets, env.writeAlgorithmIdentifier aes256WrapAlgorithm = .ok wrapAlgDer ∧
        env.parseTlv wrapAlgDer = .ok wrapAlg := by
  simp only [wrapAlgTlv, Except.bind_eq_ok_iff, Except.mapError_eq_ok_iff]

theorem buildKari_built {curveOid : ObjectIdentifier}
    (hParams : cert.spki.algorithm.params = .ecdsa (some (.namedCurve curveOid)))
    (h : buildKari env random cek cert curveOid = .ok der) :
    ∃ ri : RecipientInfo, BuiltRecipient env cek cert pkcs1v15 ri ∧
      env.writeRecipientInfo ri = .ok der := by
  unfold buildKari at h
  cases hCurve : nistCurve curveOid with
  | none =>
      simp [hCurve, Except.bind_eq_ok_iff] at h
  | some curve =>
      simp only [hCurve, Except.bind_eq_ok_iff, Except.mapError_eq_ok_iff, orError_eq_ok_iff,
        wrapAlgTlv_ok_iff, writeWrapSharedInfo, wrapCek, writeKari] at h
      obtain ⟨sharedInfo, hSharedInfo, wrapAlg, ⟨wrapAlgDer, hWrapAlgDer, hWrapAlg⟩, recipientPk,
        hPublic, kek, hKek, wrappedCek, hWrap, hWrite⟩ := h
      exact ⟨_, .kari curveOid curve recipientPk (random.scalar curve) sharedInfo wrapAlgDer kek
        wrappedCek wrapAlg hParams hCurve hPublic hSharedInfo hWrapAlgDer hWrapAlg hKek hWrap,
        hWrite⟩

theorem toBytes_eq_some_iff {n : Nat} {octets : Octets} {bytes : Bytes n} :
    toBytes n octets = some bytes ↔ octets = bytes.val := by
  unfold toBytes
  split_ifs with h
  · rw [Option.some.injEq, Subtype.ext_iff]
  · constructor
    · intro hNone
      cases hNone
    · intro hSame
      rw [hSame] at h
      exact absurd bytes.property h

theorem buildKariX25519_built (hParams : cert.spki.algorithm.params = .x25519)
    (h : buildKariX25519 env random cek cert = .ok der) :
    ∃ ri : RecipientInfo, BuiltRecipient env cek cert pkcs1v15 ri ∧
      env.writeRecipientInfo ri = .ok der := by
  unfold buildKariX25519 at h
  rw [Except.bind_eq_ok_iff] at h
  obtain ⟨recipientPk, hPublic, h⟩ := h
  rw [orError_eq_ok_iff, toBytes_eq_some_iff] at hPublic
  dsimp only at h
  split_ifs at h with hZero
  simp only [Except.bind_eq_ok_iff, Except.mapError_eq_ok_iff, wrapAlgTlv_ok_iff,
    writeWrapSharedInfo, wrapCek, writeKari] at h
  obtain ⟨sharedInfo, hSharedInfo, kek, hKek, wrappedCek, hWrap, wrapAlg, ⟨wrapAlgDer, hWrapAlgDer,
    hWrapAlg⟩, hWrite⟩ := h
  exact ⟨_, .kariX25519 recipientPk random.x25519Secret sharedInfo wrapAlgDer kek wrappedCek wrapAlg
    hParams hPublic hZero hSharedInfo hWrapAlgDer hWrapAlg hKek hWrap, hWrite⟩

/-- What is built is the RecipientInfo of the certificate. -/
theorem buildRecipientInfo_built (h : buildRecipientInfo env random cek cert pkcs1v15 = .ok der) :
    ∃ ri : RecipientInfo, BuiltRecipient env cek cert pkcs1v15 ri ∧
      env.writeRecipientInfo ri = .ok der := by
  unfold buildRecipientInfo at h
  rw [Except.bind_eq_ok_iff] at h
  obtain ⟨-, -, h⟩ := h
  split at h
  next null hParams => exact buildKtri_built hParams h
  next curveOid hParams => exact buildKari_built hParams h
  next hParams => exact buildKariX25519_built hParams h
  next => cases h

end Build

section Names

variable {env : CmsExternals} {cek : Octets} {cert other : Certificate} {pkcs1v15 : Bool}
  {ri : RecipientInfo}

/-- A RecipientInfo in the right version, with one key, for the certificate. -/
inductive NamesRecipient (cert : Certificate) : RecipientInfo → Prop
  | ktri (algorithm : AlgorithmIdentifier) (key : Octets) :
      NamesRecipient cert
        (.keyTrans ⟨0, .issuerAndSerialNumber (issuerAndSerialNumberOf cert), algorithm, key⟩)
  | kari (originatorKey : OriginatorPublicKey) (ukm : Option Octets)
      (algorithm : AlgorithmIdentifier) (key : Octets) :
      NamesRecipient cert (.keyAgree ⟨3, .originatorKey originatorKey, ukm, algorithm,
        [⟨.issuerAndSerialNumber (issuerAndSerialNumberOf cert), key⟩]⟩)

theorem BuiltRecipient.names (h : BuiltRecipient env cek cert pkcs1v15 ri) :
    NamesRecipient cert ri := by
  cases h with
  | ktri => exact .ktri _ _
  | kari => exact .kari _ _ _ _
  | kariX25519 => exact .kari _ _ _ _

theorem iasMatchesCert_iff :
    iasMatchesCert (issuerAndSerialNumberOf other) cert = true ↔
      issuerAndSerialNumberOf other = issuerAndSerialNumberOf cert := by
  simp only [iasMatchesCert, issuerAndSerialNumberOf, Bool.and_eq_true, beq_iff_eq,
    IssuerAndSerialNumber.mk.injEq]
  exact and_congr eq_comm eq_comm

theorem recipientVersionWarning_named {idx : Nat} (h : NamesRecipient cert ri) :
    recipientVersionWarning idx ri = none := by
  cases h <;> rfl

/-- No private key opens the RecipientInfo of another certificate. -/
theorem tryRecipient_other {keys : DecryptionKeys} {found : Octets × List SmimeError}
    (hNames : NamesRecipient other ri)
    (hOther : issuerAndSerialNumberOf other ≠ issuerAndSerialNumberOf cert) :
    tryRecipient env keys (some cert) ri ≠ some (.ok found) := by
  have hNoMatch : iasMatchesCert (issuerAndSerialNumberOf other) cert = false := by
    rw [Bool.eq_false_iff]
    exact fun hMatch => hOther (iasMatchesCert_iff.mp hMatch)
  cases hNames with
  | ktri algorithm key => simp [tryRecipient, ktriMatchesCert, hNoMatch]
  | kari originatorKey ukm algorithm key =>
      simp [tryRecipient, decryptKariCek, Except.bind_eq_ok_iff, unwrapFirst, rekMatchesCert,
        hNoMatch]

end Names

section Opens

variable {env : CmsExternals} {cek privateKeyDer : Octets} {cert : Certificate} {pkcs1v15 : Bool}
  {ri : RecipientInfo}

theorem decryptKtriCek_own {sk : env.RsaPrivateKey} {encryptedCek : Octets}
    (hPrivate : env.rsaPrivateKeyFromPkcs8 privateKeyDer = .ok sk)
    (hDecrypt : env.rsaDecrypt sk (keyTransportPadding pkcs1v15) encryptedCek = .ok cek) :
    decryptKtriCek env privateKeyDer (ktriOf cert pkcs1v15 encryptedCek) = .ok (cek, []) := by
  cases pkcs1v15 with
  | true =>
      have hRsa : env.rsaDecrypt sk .pkcs1v15 encryptedCek = .ok cek := hDecrypt
      simp [decryptKtriCek, ktriOf, keyTransportAlgorithm, hPrivate, hRsa, Except.mapError]
  | false =>
      have hOaep : env.rsaDecrypt sk (.oaep .sha256 .sha256) encryptedCek = .ok cek := hDecrypt
      simp [decryptKtriCek, ktriOf, keyTransportAlgorithm, hPrivate, hOaep, Except.mapError,
        oaepSha256Parameters, sha256HashAlg, oaepDecrypt, oaepWarnings, oaepHash]

/-- With the secret that was agreed on, and its derivation, the key unwraps. -/
theorem decryptKariCek_own (encodings : EncodingLaws env) (ciphers : CipherLaws env) {kdf : Kdf}
    {keaOid : ObjectIdentifier} {originatorKey : OriginatorPublicKey} {wrapAlg : Tlv}
    {wrapAlgDer z sharedInfo kek wrappedCek : Octets} (hKdf : identifyKdf env keaOid = .ok kdf)
    (hStrong : kdf ≠ .x963 .sha1)
    (hWrapAlgDer : env.writeAlgorithmIdentifier aes256WrapAlgorithm = .ok wrapAlgDer)
    (hWrapAlg : env.parseTlv wrapAlgDer = .ok wrapAlg)
    (hZ : sharedSecret env privateKeyDer keaOid originatorKey = .ok z)
    (hSharedInfo : env.writeSharedInfo wrapSharedInfo = .ok sharedInfo)
    (hKek : deriveKek env kdf z none sharedInfo 32 = .ok kek) (hLength : kek.length = 32)
    (hWrap : env.wrapKey kek cek = .ok wrappedCek) :
    decryptKariCek env privateKeyDer (kariOf cert originatorKey keaOid wrapAlg wrappedCek) cert =
      .ok (cek, []) := by
  have hOid : extractWrapAlgorithmOid env ⟨keaOid, .other keaOid (some wrapAlg)⟩ =
      .ok aes256WrapOid := by
    have hParse := encodings.wrapAlgorithm wrapAlgDer hWrapAlgDer
    rw [← encodings.tlv wrapAlgDer wrapAlg hWrapAlg] at hParse
    simp [extractWrapAlgorithmOid, hParse, Except.mapError, aes256WrapAlgorithm]
  have hLen : aesWrapKeyLen env aes256WrapOid = .ok 32 := rfl
  have hInfo : buildEccCmsSharedInfo env aes256WrapOid none 32 = .ok sharedInfo := by
    rw [buildEccCmsSharedInfo, Except.mapError_eq_ok_iff]
    exact hSharedInfo
  have hUnwrap : aesKeyUnwrap env kek 32 wrappedCek = .ok cek := by
    simp [aesKeyUnwrap, ciphers.keyWrapInit kek hLength, Except.mapError,
      ciphers.keyWrap kek cek wrappedCek hLength hWrap]
  have hMatch : iasMatchesCert (issuerAndSerialNumberOf cert) cert = true :=
    iasMatchesCert_iff.mpr rfl
  simp [decryptKariCek, kariOf, hKdf, hStrong, hOid, hLen, hZ, hInfo, hKek, unwrapFirst,
    rekMatchesCert, hMatch, hUnwrap]

theorem ecSharedSecret_own (laws : AgreementLaws env) {curveOid : ObjectIdentifier}
    {curve : NistCurve} {pki : PrivateKeyInfo} {sk ephSk : env.EcSecretKey curve}
    (hCurve : nistCurve curveOid = some curve)
    (hPki : env.parsePrivateKeyInfo privateKeyDer = .ok pki) (hAlgorithm : pki.algorithm = ecOid)
    (hCurveOid : pki.parametersOid = .ok curveOid)
    (hPrivate : env.ecSecretKeyFromPkcs8 curve privateKeyDer = .ok sk) :
    sharedSecret env privateKeyDer dhStdSha256Oid
        (ecOriginatorKey curveOid (env.ecToSec1 (env.ecPublicKeyOf ephSk))) =
      .ok (env.diffieHellman ephSk (env.ecPublicKeyOf sk)) := by
  have hX448 : ecOid ≠ x448Oid := by decide
  have hX25519 : ecOid ≠ x25519Oid := by decide
  have hPrime : isCofactorDh dhStdSha256Oid = false := by decide
  simp [sharedSecret, ecSharedSecret, ecOriginatorKey, hPki, hAlgorithm, hX448, hX25519, hCurveOid,
    hPrime, hCurve, ecdh, hPrivate, laws.sec1, laws.ecdh curve sk ephSk, Except.mapError]

theorem x25519SharedSecret_own (laws : AgreementLaws env) {pki : PrivateKeyInfo}
    {sk ephSk : Bytes 32} (hPki : env.parsePrivateKeyInfo privateKeyDer = .ok pki)
    (hAlgorithm : pki.algorithm = x25519Oid)
    (hPrivate : extractX25519PrivateKey env pki.privateKey = .ok sk)
    (hNonzero : (env.x25519 ephSk (env.x25519PublicKeyOf sk)).val ≠ List.replicate 32 0) :
    sharedSecret env privateKeyDer dhHkdfSha256Oid
        (x25519OriginatorKey (env.x25519PublicKeyOf ephSk).val) =
      .ok (env.x25519 ephSk (env.x25519PublicKeyOf sk)).val := by
  have hX448 : x25519Oid ≠ x448Oid := by decide
  have hStd : isCofactorDh dhHkdfSha256Oid = false := by decide
  have hBytes : toBytes 32 (env.x25519PublicKeyOf ephSk).val = some (env.x25519PublicKeyOf ephSk) :=
    toBytes_eq_some_iff.mpr rfl
  rw [laws.x25519] at hNonzero ⊢
  simp [sharedSecret, x25519SharedSecret, x25519OriginatorKey, hPki, hAlgorithm, hX448, hStd,
    hPrivate, hBytes, orError, hNonzero, Except.mapError, -List.reduceReplicate]

/-- The private key of the certificate opens its RecipientInfo. -/
theorem tryRecipient_own (encodings : EncodingLaws env) (agreement : AgreementLaws env)
    (ciphers : CipherLaws env) {keys : DecryptionKeys}
    (hBuilt : BuiltRecipient env cek cert pkcs1v15 ri)
    (hKey : KeyMatches env cert keys.privateKeyDer) :
    tryRecipient env keys (some cert) ri = some (.ok (cek, [])) := by
  have hMatch : iasMatchesCert (issuerAndSerialNumberOf cert) cert = true :=
    iasMatchesCert_iff.mpr rfl
  cases hBuilt with
  | ktri null pk rng encryptedCek hParams hPublic hEncrypt =>
      cases hKey with
      | rsa _ otherPk sk _ hOther hPrivate hPair =>
          rw [hPublic, Except.ok.injEq] at hOther
          subst hOther
          have hOwn := @decryptKtriCek_own env cek keys.privateKeyDer cert pkcs1v15 sk encryptedCek
            hPrivate (hPair _ rng cek encryptedCek hEncrypt)
          simp [tryRecipient, ktriMatchesCert, ktriOf, hMatch] at hOwn ⊢
          exact hOwn
      | ec _ _ _ _ hOther => rw [hParams] at hOther; cases hOther
      | x25519 _ _ hOther => rw [hParams] at hOther; cases hOther
  | kari curveOid curve recipientPk ephSk sharedInfo wrapAlgDer kek wrappedCek wrapAlg hParams hCurve
      hPublic hSharedInfo hWrapAlgDer hWrapAlg hKek hWrap =>
      cases hKey with
      | rsa _ _ _ hOther => rw [hParams] at hOther; cases hOther
      | x25519 _ _ hOther => rw [hParams] at hOther; cases hOther
      | ec otherOid otherCurve pki sk hOther hOtherCurve hPki hAlgorithm hCurveOid hPrivate hPair =>
          rw [hParams] at hOther
          cases hOther
          rw [hCurve] at hOtherCurve
          cases hOtherCurve
          rw [hPublic, Except.ok.injEq] at hPair
          subst hPair
          have hZ := @ecSharedSecret_own env keys.privateKeyDer agreement curveOid curve pki sk ephSk
            hCurve hPki hAlgorithm hCurveOid hPrivate
          have hDerived : deriveKek env (.x963 .sha256)
              (env.diffieHellman ephSk (env.ecPublicKeyOf sk)) none sharedInfo 32 = .ok kek := by
            rw [deriveKek, x963Kdf, orError_eq_ok_iff]
            exact hKek
          rw [tryRecipient, Option.map_some]
          rw [decryptKariCek_own encodings ciphers rfl (by decide) hWrapAlgDer hWrapAlg hZ hSharedInfo
            hDerived (agreement.x963Kdf _ _ _ _ _ hKek) hWrap]
  | kariX25519 recipientPk ephSk sharedInfo wrapAlgDer kek wrappedCek wrapAlg hParams hPublic hNonzero
      hSharedInfo hWrapAlgDer hWrapAlg hKek hWrap =>
      cases hKey with
      | rsa _ _ _ hOther => rw [hParams] at hOther; cases hOther
      | ec _ _ _ _ hOther => rw [hParams] at hOther; cases hOther
      | x25519 pki sk _ hPki hAlgorithm hPrivate hPair =>
          have hSame : recipientPk = env.x25519PublicKeyOf sk :=
            Subtype.ext (hPublic.symm.trans hPair)
          subst hSame
          have hZ := @x25519SharedSecret_own env keys.privateKeyDer agreement pki sk ephSk hPki
            hAlgorithm hPrivate hNonzero
          have hDerived : deriveKek env (.hkdf .sha256)
              (env.x25519 ephSk (env.x25519PublicKeyOf sk)).val none sharedInfo 32 = .ok kek := by
            rw [agreement.noSalt] at hKek
            simp [deriveKek, hkdfDerive, hKek]
          rw [tryRecipient, Option.map_some]
          rw [decryptKariCek_own encodings ciphers rfl (by decide) hWrapAlgDer hWrapAlg hZ hSharedInfo
            hDerived (agreement.hkdf _ _ _ _ _ _ hKek) hWrap]

end Opens

end Smime
