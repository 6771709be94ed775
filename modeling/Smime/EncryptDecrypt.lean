import Smime.Data.Base64
import Smime.Layers
import Smime.RecipientRoundTrip

/-! Decryption undoes encryption: every recipient of a message gets its content,
whoever the other recipients are. -/
namespace Smime

open X690 (Octets tlv)
open X509 Utils BlockModes

section Search

variable {env : CmsExternals} {keys : DecryptionKeys} {cert : Option Certificate}
  {found : Octets × List SmimeError}

/-- When one RecipientInfo opens, and no other with another key, the search
gets its key. -/
theorem searchRecipients_found {ris : List RecipientInfo} (lastErr : Option SmimeError)
    (hOnly : ∀ ri ∈ ris, ∀ opened : Octets × List SmimeError,
      tryRecipient env keys cert ri = some (.ok opened) → opened = found)
    (hFound : ∃ ri ∈ ris, tryRecipient env keys cert ri = some (.ok found)) :
    searchRecipients env keys cert lastErr ris = .ok found := by
  obtain ⟨first, hSearch⟩ := exists_searchRecipients hFound lastErr
  obtain ⟨ri, hMem, hTry⟩ := searchRecipients_ok hSearch
  rw [hSearch, hOnly ri hMem first hTry]

end Search

section Recipients

variable {env : CmsExternals}

/-- The certificates of the list, each with its DER. -/
def ListsCerts (env : CmsExternals) (certsPem : List String)
    (certs : List (Octets × Certificate)) : Prop :=
  List.Forall₂ (fun pem cert => env.parsePem pem = .ok cert.1 ∧
    env.parseCertificate cert.1 = .ok cert.2) certsPem certs

/-- One RecipientInfo for each certificate. -/
def BuiltFor (env : CmsExternals) (cek : Octets) (pkcs1v15 : Bool)
    (certs : List (Octets × Certificate)) (ris : List RecipientInfo) : Prop :=
  List.Forall₂ (fun cert ri => BuiltRecipient env cek cert.2 pkcs1v15 ri) certs ris

theorem buildRecipientInfos_built (encodings : EncodingLaws env)
    {random : Nat → RecipientRandom env} {cek : Octets} {pkcs1v15 : Bool} {idx : Nat}
    {certs : List (Octets × Certificate)} {risDer : List Octets}
    (hCerts : ∀ cert ∈ certs, env.parseCertificate cert.1 = .ok cert.2)
    (h : buildRecipientInfos env random cek pkcs1v15 idx (certs.map Prod.fst) = .ok risDer) :
    ∃ ris : List RecipientInfo, BuiltFor env cek pkcs1v15 certs ris ∧
      List.Forall₂ (fun der ri => env.parseRecipientInfo der = .ok ri) risDer ris := by
  induction certs generalizing idx risDer with
  | nil =>
      cases h
      exact ⟨[], .nil, .nil⟩
  | cons cert rest ih =>
      have hCert := hCerts cert List.mem_cons_self
      simp only [List.map_cons, buildRecipientInfos, parseCert, hCert, Except.bind_eq_ok_iff,
        Except.mapError_eq_ok_iff, Except.ok.injEq, exists_eq_left', Except.pure_eq_ok'] at h
      obtain ⟨der, hDer, others, hOthers, rfl⟩ := h
      obtain ⟨ri, hBuilt, hWrite⟩ := buildRecipientInfo_built hDer
      obtain ⟨ris, hRest, hParsed⟩ :=
        ih (fun other hOther => hCerts other (List.mem_cons_of_mem _ hOther)) hOthers
      exact ⟨ri :: ris, .cons hBuilt hRest,
        .cons (encodings.recipientInfo cert.1 cek der cert.2 pkcs1v15 ri hCert hBuilt hWrite)
          hParsed⟩

theorem mapM_parsePem {certsPem : List String} {certs : List (Octets × Certificate)}
    (h : ListsCerts env certsPem certs) :
    certsPem.mapM (parsePem env) = .ok (certs.map Prod.fst) := by
  rw [Except.mapM_eq_ok_iff, List.forall₂_map_right_iff]
  refine h.imp fun pem cert hPem => ?_
  rw [parsePem, Except.mapError_eq_ok_iff]
  exact hPem.1

theorem forall_parseCertificate {certsPem : List String} {certs : List (Octets × Certificate)}
    (h : ListsCerts env certsPem certs) :
    ∀ cert ∈ certs, env.parseCertificate cert.1 = .ok cert.2 := by
  induction h with
  | nil => simp
  | cons hPem _ ih => exact List.forall_mem_cons.mpr ⟨hPem.2, ih⟩

theorem mapM_toOption {f : Octets → Except String RecipientInfo} {ders : List Octets}
    {ris : List RecipientInfo} (h : List.Forall₂ (fun der ri => f der = .ok ri) ders ris) :
    ders.mapM (fun der => (f der).toOption) = some ris := by
  induction h with
  | nil => rfl
  | cons hParsed _ ih =>
      rw [List.mapM_cons, hParsed, ih]
      rfl

end Recipients

section Key

variable {env : CmsExternals} {cek : Octets} {pkcs1v15 : Bool}
  {certs : List (Octets × Certificate)} {ris ordered : List RecipientInfo}

theorem BuiltFor.names (h : BuiltFor env cek pkcs1v15 certs ris) :
    List.Forall₂ (fun cert ri => NamesRecipient cert.2 ri) certs ris :=
  h.imp fun _ _ hBuilt => hBuilt.names

theorem recipientVersionWarnings_named (h : ∀ ri ∈ ordered, ∃ cert, NamesRecipient cert ri) :
    recipientVersionWarnings ordered = [] := by
  have hNone : ∀ warning ∈ ordered.mapIdx recipientVersionWarning, warning = none := by
    intro warning hWarning
    rw [List.mem_mapIdx] at hWarning
    obtain ⟨idx, hIdx, rfl⟩ := hWarning
    obtain ⟨cert, hNames⟩ := h _ (List.getElem_mem hIdx)
    exact recipientVersionWarning_named hNames
  rw [recipientVersionWarnings, List.filterMap_eq_nil_iff]
  exact hNone

def recipientIds (certs : List (Octets × Certificate)) : List IssuerAndSerialNumber :=
  certs.map fun cert => issuerAndSerialNumberOf cert.2

/-- In any order of the RecipientInfos, a recipient gets the content encryption
key, without a warning. -/
theorem recoverCek_own (encodings : EncodingLaws env) (agreement : AgreementLaws env)
    (ciphers : CipherLaws env) (hBuilt : BuiltFor env cek pkcs1v15 certs ris)
    (hDistinct : (recipientIds certs).Nodup) (hOrdered : ordered.Perm ris)
    (hLength : cek.length = 32) {cert : Octets × Certificate} (hCert : cert ∈ certs)
    (hParse : env.parseCertificate cert.1 = .ok cert.2) {keys : DecryptionKeys}
    (hKeyCert : keys.recipientCertDer = cert.1) (hKey : KeyMatches env cert.2 keys.privateKeyDer) :
    recoverCek env keys ordered 32 = .ok (cek, []) := by
  have hNonempty : cert.1.isEmpty = false := by
    rw [List.isEmpty_eq_false_iff]
    intro hNil
    rw [hNil] at hParse
    exact encodings.empty cert.2 hParse
  have hRecipientCert : parseRecipientCert env keys.recipientCertDer = .ok (some cert.2) := by
    simp [parseRecipientCert, hKeyCert, hNonempty, hParse, Except.mapError]
  have hFound : searchRecipients env keys (some cert.2) none ordered = .ok (cek, []) := by
    apply searchRecipients_found
    · -- Any other RecipientInfo is that of another certificate.
      intro ri hRi other hOther
      obtain ⟨owner, hOwner, hOwnerBuilt⟩ := hBuilt.exists_left (hOrdered.mem_iff.mp hRi)
      by_cases hSame : issuerAndSerialNumberOf owner.2 = issuerAndSerialNumberOf cert.2
      · have hOwn : owner = cert :=
          List.inj_on_of_nodup_map hDistinct hOwner hCert hSame
        subst hOwn
        rw [tryRecipient_own encodings agreement ciphers hOwnerBuilt hKey] at hOther
        cases hOther
        rfl
      · exact absurd hOther (tryRecipient_other hOwnerBuilt.names hSame)
    · obtain ⟨ri, hRi, hOwnBuilt⟩ := hBuilt.exists_right hCert
      exact ⟨ri, hOrdered.mem_iff.mpr hRi,
        tryRecipient_own encodings agreement ciphers hOwnBuilt hKey⟩
  have hVersions : recipientVersionWarnings ordered = [] := by
    apply recipientVersionWarnings_named
    intro ri hRi
    obtain ⟨owner, -, hOwnerBuilt⟩ := hBuilt.exists_left (hOrdered.mem_iff.mp hRi)
    exact ⟨owner.2, hOwnerBuilt.names⟩
  simp [recoverCek, hRecipientCert, hFound, hLength, hVersions]

end Key

section Content

variable {env : CmsExternals} {ris : List RecipientInfo} {plaintext ciphertext : Octets}
  {keys : DecryptionKeys} {cek : Bytes 32}

theorem decryptCbc_encryptAesCbc (ciphers : CipherLaws env) {iv : Bytes 16}
    (hEncrypt : encryptAesCbc env cek.val iv plaintext = some ciphertext) :
    decryptCbc env .aes256 cek.val iv.val ciphertext = .ok plaintext := by
  have hCipher : encryptAesCbc env cek.val iv plaintext =
      some (cbcEncrypt 16 (env.encryptBlock .aes256 cek.val) iv.val plaintext) := by
    rw [encryptAesCbc, cek.property]
    rfl
  rw [hCipher, Option.some.injEq] at hEncrypt
  have hRound := @cbcDecrypt_cbcEncrypt 16 (env.encryptBlock .aes256 cek.val)
    (env.decryptBlock .aes256 cek.val) (by decide) (by decide)
    (fun block => ciphers.blockLength cek.val block cek.property)
    (fun block => ciphers.block cek.val block cek.property) iv.val iv.property plaintext
  rw [hEncrypt] at hRound
  simp [decryptCbc, checkCbcLengths, BlockCipher.keySize, BlockCipher.blockSize, cek.property,
    iv.property, hRound, orError]

theorem decryptEnvelopedData_own (ciphers : CipherLaws env) {iv : Bytes 16}
    (hCek : recoverCek env keys ris 32 = .ok (cek.val, []))
    (hEncrypt : encryptAesCbc env cek.val iv plaintext = some ciphertext) :
    decryptEnvelopedData env (envelopedDataOf ris iv ciphertext) keys =
      .ok (some plaintext, []) := by
  have hPlain := decryptCbc_encryptAesCbc ciphers hEncrypt
  simp [decryptEnvelopedData, envelopedDataOf, resolveCekHkdf, cbcCipher, orError,
    BlockCipher.keySize, hCek, contentKey, hPlain, weakCipherWarnings]

theorem decryptAuthEnvelopedData_own (ciphers : CipherLaws env) {nonce : Bytes 12} {tag : Octets}
    (hCek : recoverCek env keys ris 32 = .ok (cek.val, []))
    (hEncrypt : encryptAes256Gcm env cek.val nonce [] plaintext = some (ciphertext, tag)) :
    decryptAuthEnvelopedData env (authEnvelopedDataOf ris nonce ciphertext tag) keys =
      .ok (some plaintext, []) := by
  have hGcm : env.gcmEncrypt cek.val nonce.val [] plaintext = .ok (ciphertext, tag) := by
    rw [encryptAes256Gcm] at hEncrypt
    cases hSealed : env.gcmEncrypt cek.val nonce.val [] plaintext with
    | error e => rw [hSealed] at hEncrypt; cases hEncrypt
    | ok sealed => rw [hSealed] at hEncrypt; cases hEncrypt; rfl
  obtain ⟨hTag, hPlain⟩ := ciphers.gcm cek.val nonce.val [] plaintext ciphertext tag cek.property
    nonce.property hGcm
  simp [decryptAuthEnvelopedData, authEnvelopedDataOf, resolveCekHkdf, aeadCipher, orError, hCek,
    contentKey, authAttrsDer, decryptAead, decryptAesGcm, hTag, nonce.property, cek.property, hPlain,
    Except.mapError]

/-- The version is 0 when all RecipientInfos are of the key transport. -/
theorem expectedVersion_envelopedDataOf {iv : Bytes 16}
    (hNames : ∀ ri ∈ ris, ∃ cert : Certificate, NamesRecipient cert ri) :
    expectedEnvelopedDataVersion (envelopedDataOf ris iv ciphertext) =
      (envelopedDataOf ris iv ciphertext).version := by
  unfold expectedEnvelopedDataVersion envelopedDataOf
  dsimp only
  rw [if_neg (by simp), if_neg ?hKinds]
  case hKinds =>
    simp only [Bool.or_eq_true, List.any_eq_true, not_or, not_exists, not_and]
    refine ⟨by simp, fun ri hRi => ?_⟩
    obtain ⟨cert, hName⟩ := hNames ri hRi
    cases hName <;> simp
  apply if_congr _ rfl rfl
  simp only [Option.isNone_none, Bool.true_and, List.all_eq_true]
  refine forall₂_congr fun ri hRi => ?_
  obtain ⟨cert, hName⟩ := hNames ri hRi
  cases hName <;> simp [isKtri]

end Content

section RoundTrip

/-- A message is for the certificates: it has one RecipientInfo for each, the
layer records nothing but the outcome of the decryption, and each private key
decrypts the content. -/
structure EncryptedFor (env : CmsExternals) (certs : List (Octets × Certificate))
    (plaintext : Octets) (recipientInfos : List RecipientInfo)
    (decrypt : DecryptionKeys → Except SmimeError (Option Octets × List SmimeError))
    (layer : DecryptionKeys → SmimeValidationResult → SmimeValidationResult) : Prop where
  recipients : ∃ ris : List RecipientInfo, recipientInfos.Perm ris ∧
    List.Forall₂ (fun cert ri => NamesRecipient cert.2 ri) certs ris
  versions : ∀ (keys : DecryptionKeys) (result : SmimeValidationResult),
    (layer keys result).failures = (recordDecryption (decrypt keys) result).failures
  opens : ∀ cert ∈ certs, ∀ keys : DecryptionKeys, keys.recipientCertDer = cert.1 →
    KeyMatches env cert.2 keys.privateKeyDer → decrypt keys = .ok (some plaintext, [])

/-- The content that a cipher gives. -/
def DecryptsTo (env : CmsExternals) (certs : List (Octets × Certificate)) (plaintext : Octets) :
    ContentCipher → Content → Prop
  | .aes256Cbc, .envelopedData enveloped =>
      EncryptedFor env certs plaintext enveloped.recipientInfos (decryptEnvelopedData env enveloped)
        (decryptEnvelopedDataLayer env enveloped)
  | .aes256Gcm, .authEnvelopedData authEnveloped =>
      EncryptedFor env certs plaintext authEnveloped.recipientInfos
        (decryptAuthEnvelopedData env authEnveloped)
        (decryptAuthEnvelopedDataLayer env authEnveloped)
  | _, _ => False

variable {env : CmsExternals} {cek : Bytes 32} {pkcs1v15 : Bool}
  {certs : List (Octets × Certificate)} {ris ordered : List RecipientInfo}
  {plaintext ciphertext : Octets}

theorem recordDecryption_failures_congr
    (outcome : Except SmimeError (Option Octets × List SmimeError))
    {result other : SmimeValidationResult} (h : result.failures = other.failures) :
    (recordDecryption outcome result).failures = (recordDecryption outcome other).failures := by
  rcases outcome with e | ⟨_ | content, warnings⟩
  · simp [recordDecryption, SmimeValidationResult.push, h]
  · exact h
  · simp [recordDecryption, SmimeValidationResult.extend, h]

theorem encryptedFor_enveloped (encodings : EncodingLaws env) (agreement : AgreementLaws env)
    (ciphers : CipherLaws env) {iv : Bytes 16} (hBuilt : BuiltFor env cek.val pkcs1v15 certs ris)
    (hCerts : ∀ cert ∈ certs, env.parseCertificate cert.1 = .ok cert.2)
    (hDistinct : (recipientIds certs).Nodup) (hOrdered : ordered.Perm ris)
    (hEncrypt : encryptAesCbc env cek.val iv plaintext = some ciphertext) :
    DecryptsTo env certs plaintext .aes256Cbc
      (.envelopedData (envelopedDataOf ordered iv ciphertext)) where
  recipients := ⟨ris, hOrdered, hBuilt.names⟩
  versions := by
    intro keys result
    have hNames : ∀ ri ∈ ordered, ∃ cert : Certificate, NamesRecipient cert ri := by
      intro ri hRi
      obtain ⟨cert, -, hOwn⟩ := hBuilt.exists_left (hOrdered.mem_iff.mp hRi)
      exact ⟨cert.2, hOwn.names⟩
    apply recordDecryption_failures_congr
    simp [versionMismatch, expectedVersion_envelopedDataOf hNames, SmimeValidationResult.extend]
  opens := by
    intro cert hCert keys hKeyCert hKey
    exact decryptEnvelopedData_own ciphers
      (recoverCek_own encodings agreement ciphers hBuilt hDistinct hOrdered cek.property hCert
        (hCerts cert hCert) hKeyCert hKey) hEncrypt

theorem encryptedFor_authEnveloped (encodings : EncodingLaws env) (agreement : AgreementLaws env)
    (ciphers : CipherLaws env) {nonce : Bytes 12} {tag : Octets}
    (hBuilt : BuiltFor env cek.val pkcs1v15 certs ris)
    (hCerts : ∀ cert ∈ certs, env.parseCertificate cert.1 = .ok cert.2)
    (hDistinct : (recipientIds certs).Nodup) (hOrdered : ordered.Perm ris)
    (hEncrypt : encryptAes256Gcm env cek.val nonce [] plaintext = some (ciphertext, tag)) :
    DecryptsTo env certs plaintext .aes256Gcm
      (.authEnvelopedData (authEnvelopedDataOf ordered nonce ciphertext tag)) where
  recipients := ⟨ris, hOrdered, hBuilt.names⟩
  versions := by
    intro keys result
    apply recordDecryption_failures_congr
    simp [versionMismatch, authEnvelopedDataOf, SmimeValidationResult.extend]
  opens := by
    intro cert hCert keys hKeyCert hKey
    exact decryptAuthEnvelopedData_own ciphers
      (recoverCek_own encodings agreement ciphers hBuilt hDistinct hOrdered cek.property hCert
        (hCerts cert hCert) hKeyCert hKey) hEncrypt

/-- The content is written, in some order of the RecipientInfos, as it is encrypted. -/
theorem encryptContent_decrypts (encodings : EncodingLaws env) (agreement : AgreementLaws env)
    (ciphers : CipherLaws env) {random : EncryptRandom env} {risDer : List Octets} {der : Octets}
    (hBuilt : BuiltFor env random.cek.val pkcs1v15 certs ris)
    (hParsed : List.Forall₂ (fun d ri => env.parseRecipientInfo d = .ok ri) risDer ris)
    (hCerts : ∀ cert ∈ certs, env.parseCertificate cert.1 = .ok cert.2)
    (hDistinct : (recipientIds certs).Nodup) (cipher : ContentCipher)
    (h : encryptContent env random ris plaintext cipher = some (.ok der)) :
    ∃ content : Content, env.parseContentInfo der = .ok content ∧
      DecryptsTo env certs plaintext cipher content := by
  cases cipher with
  | aes256Cbc =>
      simp only [encryptContent, Option.bind_eq_bind, Option.bind_eq_some_iff, Option.pure_def,
        Option.some.injEq, Except.mapError_eq_ok_iff] at h
      obtain ⟨ciphertext, hEncrypt, hWrite⟩ := h
      obtain ⟨ordered, hOrdered, hRead⟩ :=
        encodings.enveloped risDer ris random.iv ciphertext der hParsed hWrite
      exact ⟨_, hRead, encryptedFor_enveloped encodings agreement ciphers hBuilt hCerts hDistinct
        hOrdered hEncrypt⟩
  | aes256Gcm =>
      simp only [encryptContent, Option.bind_eq_bind, Option.bind_eq_some_iff, Option.pure_def,
        Option.some.injEq, Except.mapError_eq_ok_iff] at h
      obtain ⟨⟨ciphertext, tag⟩, hEncrypt, hWrite⟩ := h
      obtain ⟨ordered, hOrdered, hRead⟩ :=
        encodings.authEnveloped risDer ris random.nonce ciphertext tag der hParsed hWrite
      exact ⟨_, hRead, encryptedFor_authEnveloped encodings agreement ciphers hBuilt hCerts hDistinct
        hOrdered hEncrypt⟩

end RoundTrip

section Unsupported

variable {env : CmsExternals}

theorem buildRecipientInfos_unsupported {random : Nat → RecipientRandom env} {cek : Octets}
    {pkcs1v15 : Bool} {ders risDer : List Octets} {idx : Nat}
    (h : buildRecipientInfos env random cek pkcs1v15 idx ders = .ok risDer) {der : Octets}
    (hDer : der ∈ ders) {cert : Certificate} (hCert : env.parseCertificate der = .ok cert) :
    validateSpki env cert = .ok () := by
  induction ders generalizing idx risDer with
  | nil => cases hDer
  | cons first rest ih =>
      simp only [buildRecipientInfos, Except.bind_eq_ok_iff, parseCert,
        Except.mapError_eq_ok_iff] at h
      obtain ⟨firstCert, hFirst, ri, hRi, others, hOthers, -⟩ := h
      rcases List.mem_cons.mp hDer with rfl | hRest
      · rw [hCert, Except.ok.injEq] at hFirst
        subst hFirst
        rw [buildRecipientInfo, Except.bind_eq_ok_iff] at hRi
        obtain ⟨⟨⟩, hValid, -⟩ := hRi
        exact hValid
      · exact ih hOthers hRest

/-- A certificate that is not supported is an error, not a recipient less. -/
theorem encrypt_unsupported (random : EncryptRandom env) {certsPem : List String} {pem : String}
    {der : Octets} {cert : Certificate} (plaintext : Octets) (cipher : ContentCipher)
    (pkcs1v15 : Bool) (hPem : pem ∈ certsPem) (hDer : env.parsePem pem = .ok der)
    (hCert : env.parseCertificate der = .ok cert) (hUnsupported : validateSpki env cert ≠ .ok ()) :
    ∃ err : SmimeError, encrypt env random certsPem plaintext cipher pkcs1v15 =
      some (.error err) := by
  have hNonempty : certsPem.isEmpty = false := by
    rw [List.isEmpty_eq_false_iff]
    exact List.ne_nil_of_mem hPem
  cases hInfos : recipientInfosFor env random certsPem pkcs1v15 with
  | error err => exact ⟨err, by simp [encrypt, hNonempty, hInfos]⟩
  | ok risDer =>
      rw [recipientInfosFor, Except.bind_eq_ok_iff] at hInfos
      obtain ⟨ders, hDers, hBuild⟩ := hInfos
      have hMem : der ∈ ders := by
        rw [Except.mapM_eq_ok_iff] at hDers
        obtain ⟨found, hFound, hParse⟩ := hDers.exists_right hPem
        rw [parsePem, Except.mapError_eq_ok_iff, hDer, Except.ok.injEq] at hParse
        rw [hParse]
        exact hFound
      exact absurd (buildRecipientInfos_unsupported hBuild hMem hCert) hUnsupported

end Unsupported

/-- Decryption undoes encryption for every recipient, and a certificate that is
not supported is an error. -/
theorem decrypt_encrypt (env : CmsExternals) (encodings : EncodingLaws env)
    (agreement : AgreementLaws env) (ciphers : CipherLaws env) (random : EncryptRandom env)
    (certsPem : List String) (plaintext : Octets) (cipher : ContentCipher) (pkcs1v15 : Bool) :
    (∀ (certs : List (Octets × Certificate)) (der : Octets), ListsCerts env certsPem certs →
        (recipientIds certs).Nodup →
          encrypt env random certsPem plaintext cipher pkcs1v15 = some (.ok der) →
            ∃ content : Content, env.parseContentInfo der = .ok content ∧
              DecryptsTo env certs plaintext cipher content) ∧
      ∀ pem ∈ certsPem, ∀ (certDer : Octets) (cert : Certificate),
        env.parsePem pem = .ok certDer → env.parseCertificate certDer = .ok cert →
          validateSpki env cert ≠ .ok () →
            ∃ err : SmimeError,
              encrypt env random certsPem plaintext cipher pkcs1v15 = some (.error err) := by
  constructor
  · intro certs der hList hDistinct hEncrypt
    have hCerts := forall_parseCertificate hList
    have hDers := mapM_parsePem hList
    rw [encrypt] at hEncrypt
    by_cases hEmpty : certsPem.isEmpty = true
    · rw [if_pos hEmpty] at hEncrypt
      cases hEncrypt
    rw [if_neg hEmpty] at hEncrypt
    cases hInfos : recipientInfosFor env random certsPem pkcs1v15 with
    | error err =>
        rw [hInfos] at hEncrypt
        cases hEncrypt
    | ok risDer =>
        rw [hInfos] at hEncrypt
        rw [recipientInfosFor, hDers, Except.ok_bind'] at hInfos
        obtain ⟨ris, hBuilt, hParsed⟩ := buildRecipientInfos_built encodings hCerts hInfos
        dsimp only at hEncrypt
        rw [mapM_toOption hParsed] at hEncrypt
        exact encryptContent_decrypts encodings agreement ciphers hBuilt hParsed hCerts hDistinct
          cipher hEncrypt
  · intro pem hPem certDer cert hDer hCert hUnsupported
    exact encrypt_unsupported random plaintext cipher pkcs1v15 hPem hDer hCert hUnsupported

section Samples

/-! A message for the certificates `test_p256.pem` and `test_x25519.pem` of the
tests. The outside answers as it does for them. -/

/-- A string of `len` octets as a number. -/
@[irreducible] def octets : (len value : Nat) → Octets
  | 0, _ => []
  | len + 1, value => UInt8.ofNat (value / 256 ^ len) :: octets len (value % 256 ^ len)

/-- "Zone Media OÜ". -/
def organization : Octets := octets 14 0x5a6f6e65204d65646961204fc39c
/-- "Kalle Krüptija". -/
def ecCommonName : Octets := octets 15 0x4b616c6c65204b72c3bc7074696a61
/-- "X25519 Test". -/
def xCommonName : Octets := octets 11 0x5832353531392054657374

def testNameDer (commonName : Octets) : Octets :=
  tlv [0x30]
    (tlv [0x31] (tlv [0x30] (octets 5 0x060355040a ++ tlv [0x0C] organization))
      ++ tlv [0x31] (tlv [0x30] (octets 5 0x0603550403 ++ tlv [0x0C] commonName)))

/-- The subject is the issuer. -/
def testCertDer (serial signatureAlg commonName validity spki extensions signature : Octets) :
    Octets :=
  tlv [0x30]
    (tlv [0x30]
      (octets 5 0xa003020102 ++ tlv [0x02] serial ++ signatureAlg ++ testNameDer commonName
        ++ validity ++ testNameDer commonName ++ tlv [0x30] spki
        ++ tlv [0xA3] (tlv [0x30] extensions))
      ++ signatureAlg ++ tlv [0x03] (0 :: signature))

/-- Base64 in lines of 64 columns. -/
def testCertPem (der : Octets) : String :=
  let body := (base64 der).map fun digit => Char.ofNat digit.toNat
  "-----BEGIN CERTIFICATE-----\n"
    ++ String.join ((body.toChunks 64).map fun line => String.ofList (line ++ ['\n']))
    ++ "-----END CERTIFICATE-----\n"

def ecSerial : Octets := octets 20 0x4dbcc3ca1817b7e2c6ecfd98f012b03009a70b5e
def ecKeyId : Octets := octets 20 0xf64b2d7d3416291398ca1a3d14d25103987c3e85
def ecPoint : Octets :=
  octets 38 0x042b24822f6d00624b41a515f3a844d02a40dbaeb378d757ab4e1c2d8157471bb5ca0738e09d
    ++ octets 27 0x8aae44b006dbd362d2e1460bf0fea7743a91d957b83ba0f8294f4f
def ecSignature : Octets :=
  octets 38 0x30450221008e061bfb5f83a2ecff28ebfdf30fc442d5a992cd71d017f27ddd550d7fb150a302
    ++ octets 33 0x203e2250a44e91e873ceb58f2ac50cb65a214bfe19c3fbea04b98572f8184f118a

def ecCertDer : Octets :=
  testCertDer ecSerial (octets 12 0x300a06082a8648ce3d040302) ecCommonName
    (octets 32 0x301e170d3236303430313134333834325a170d3431303332383134333834325a)
    (octets 21 0x301306072a8648ce3d020106082a8648ce3d030107 ++ tlv [0x03] (0 :: ecPoint))
    (octets 11 0x301d0603551d0e04160414 ++ ecKeyId
      ++ octets 13 0x301f0603551d23041830168014 ++ ecKeyId
      ++ octets 17 0x300f0603551d130101ff040530030101ff)
    ecSignature

def ecKeyDer : Octets :=
  octets 36 0x308187020100301306072a8648ce3d020106082a8648ce3d030107046d306b0201010420
    ++ octets 37 0x52973fdfd86af3ef6e43dbbf211f51bc88d23adf72b4ef821c44d875e2ae4286a144034200
    ++ ecPoint

def xKeyId : Octets := octets 20 0xcd4be300eb868ecb9645d70045f668043d1825f7
def xPublic : Bytes 32 :=
  ⟨octets 32 0xa7042297f056097fde52321e171625db7ebc7fe57ab5a32e391f21141eaeac52, by decide +kernel⟩

def xCertDer : Octets :=
  testCertDer [1] (octets 15 0x300d06092a864886f70d01010b0500) xCommonName
    (octets 32 0x301e170d3230303130313030303030305a170d3330313233313030303030305a)
    (octets 7 0x300506032b656e ++ tlv [0x03] (0 :: xPublic.val))
    (octets 11 0x301d0603551d0e04160414 ++ xKeyId) (List.replicate 64 0)

def ecCertPem : String := testCertPem ecCertDer
def xCertPem : String := testCertPem xCertDer

def xSecret : Bytes 32 :=
  ⟨octets 32 0xb8ca0426d44badbf6d8749f4459804459d7177769689cbc1d6456d08de843667, by decide +kernel⟩
def xEphemeral : Bytes 32 :=
  ⟨octets 32 0xf017edd8dcc5d9fe498bcdf1b73fd501ef409fa2db9fb4a9e72ca6616269f584, by decide +kernel⟩
def xEphemeralPublic : Bytes 32 :=
  ⟨octets 32 0x56c4fd66c183900f2802e086e0631e81a2481e5674c0299a4015feda4d319571, by decide +kernel⟩
def xShared : Bytes 32 :=
  ⟨octets 32 0xa27ed6c8e360189e53e45925ba914f22f31f5c66a60bc39cb41f37160053ef0b, by decide +kernel⟩

def ecEphemeralPoint : Octets :=
  octets 38 0x041202798a026065d9cf01e7ef9d3209731ed13c8fbee2f3e362a1047aba6570afe9606e28ae
    ++ octets 27 0x6be7856d8f526d832d75bbaee21b1e0d37d23258b585bb86cd427a
def ecShared : Octets :=
  octets 32 0x525d91c5cf3bdec7b85c18f67f4df26d8a56bbfb43592be79cb938a5e872526d

def wrapAlgDer : Octets := octets 13 0x300b060960864801650304012d
def sharedInfoDer : Octets := tlv [0x30] (wrapAlgDer ++ octets 8 0xa206040400000100)

def xKek : Octets :=
  octets 32 0x347ee2222b7ac1872c08bf80b8d4af2c00eaf1ab081eea14d18b643e4ecd93bd
def ecKek : Octets :=
  octets 32 0x99e9f6a28c3c7a49e7e457045118bc9fef9444c326f124dda16e453d78a08c62
def xWrapped : Octets :=
  octets 40 0x04367ff51cc72051310cd5d4235cdcdd31e6a554c0fdb864effa1e3fa715f809abb4cdc58ae44b56
def ecWrapped : Octets :=
  octets 40 0x62442125559627a5d9b2098ff363ff155c6d9c5ac6d7db5d02b4dc3a16c0bf37c215b3596591eb1b

def sampleCek : Bytes 32 :=
  ⟨octets 32 0x288d0ef61a84fe02a36dfd2295cff401639e7e3f45823833b76979febd88a564, by decide +kernel⟩
def sampleIv : Bytes 16 := ⟨octets 16 0x0ab306823035661bb8dba21cc2535231, by decide +kernel⟩
def firstBlock : Octets := octets 16 0x42d66aee5f3e6d10b3d0a917c958593a
def firstCipherBlock : Octets := octets 16 0xd080177e453afdde612c95fa08946a50

def kariDer (originator agreement commonName serial wrapped : Octets) : Octets :=
  tlv [0xA1]
    (octets 3 0x020103 ++ tlv [0xA0] (tlv [0xA1] originator) ++ tlv [0x30] (agreement ++ wrapAlgDer)
      ++ tlv [0x30] (tlv [0x30]
        (tlv [0x30] (testNameDer commonName ++ tlv [0x02] serial) ++ tlv [0x04] wrapped)))

def xRecipientDer : Octets :=
  kariDer (octets 7 0x300506032b656e ++ tlv [0x03] (0 :: xEphemeralPublic.val))
    (octets 13 0x060b2a864886f70d0109100313) xCommonName [1] xWrapped
def ecRecipientDer : Octets :=
  kariDer
    (octets 21 0x301306072a8648ce3d020106082a8648ce3d030107 ++ tlv [0x03] (0 :: ecEphemeralPoint))
    (octets 8 0x06062b8104010b01) ecCommonName ecSerial ecWrapped

/-- The RecipientInfos are a SET OF. -/
def envelopedDer : Octets :=
  tlv [0x30]
    (octets 11 0x06092a864886f70d010703 ++ tlv [0xA0] (tlv [0x30]
      (octets 3 0x020102 ++ tlv [0x31] (xRecipientDer ++ ecRecipientDer) ++ tlv [0x30]
        (octets 11 0x06092a864886f70d010701
          ++ tlv [0x30] (octets 11 0x060960864801650304012a ++ tlv [0x04] sampleIv.val)
          ++ tlv [0x80] firstCipherBlock))))

def sampleText : Octets := octets 5 0x48656c6c6f

def utf8Name (typeId : ObjectIdentifier) (text : Octets) : List AttributeTypeValue :=
  [⟨typeId, .anyString ⟨.primitive 0x0C, text, tlv [0x0C] text⟩⟩]

def testName (commonName : Octets) : Name :=
  [utf8Name [2, 5, 4, 10] organization, utf8Name commonNameOid commonName]

def ecCert : Certificate where
  serial := ecSerial
  issuer := testName ecCommonName
  notBefore := ⟨2026, 4, 1, 14, 38, 42⟩
  notAfter := ⟨2041, 3, 28, 14, 38, 42⟩
  subject := testName ecCommonName
  spki := ⟨⟨ecOid, .ecdsa (some (.namedCurve ecSecp256r1))⟩, ecPoint⟩
  extensions := some
    [⟨subjectKeyIdentifierOid, tlv [0x04] ecKeyId⟩,
      ⟨authorityKeyIdentifierOid, tlv [0x30] (tlv [0x80] ecKeyId)⟩,
      ⟨[2, 5, 29, 19], octets 5 0x30030101ff⟩]
  signatureAlg := ⟨[1, 2, 840, 10045, 4, 3, 2], .other [1, 2, 840, 10045, 4, 3, 2] none⟩
  signature := ecSignature
  unread := []

def xCert : Certificate where
  serial := [1]
  issuer := testName xCommonName
  notBefore := ⟨2020, 1, 1, 0, 0, 0⟩
  notAfter := ⟨2030, 12, 31, 0, 0, 0⟩
  subject := testName xCommonName
  spki := ⟨⟨x25519Oid, .x25519⟩, xPublic.val⟩
  extensions := some [⟨subjectKeyIdentifierOid, tlv [0x04] xKeyId⟩]
  signatureAlg := sha256WithRsaAlg
  signature := List.replicate 64 0
  unread := []

def wrapAlg : Tlv := ⟨⟨0x10, true, .universal⟩, wrapAlgDer.drop 2, wrapAlgDer⟩

def ecRecipient : RecipientInfo :=
  .keyAgree (kariOf ecCert (ecOriginatorKey ecSecp256r1 ecEphemeralPoint) dhStdSha256Oid wrapAlg
    ecWrapped)

def xRecipient : RecipientInfo :=
  .keyAgree (kariOf xCert (x25519OriginatorKey xEphemeralPublic.val) dhHkdfSha256Oid wrapAlg
    xWrapped)

/-- The message with its RecipientInfos in the order of their encodings. -/
def sampleEnveloped : EnvelopedData :=
  envelopedDataOf [xRecipient, ecRecipient] sampleIv firstCipherBlock

def zeroBytes : Bytes 32 := ⟨List.replicate 32 0, by decide +kernel⟩

def samplePublicKeyOf (secret : Bytes 32) : Bytes 32 :=
  if secret = xSecret then xPublic
  else if secret = xEphemeral then xEphemeralPublic
  else zeroBytes

def sampleX25519 (secret public_ : Bytes 32) : Bytes 32 :=
  if secret = xEphemeral ∧ public_ = xPublic ∨ secret = xSecret ∧ public_ = xEphemeralPublic then
    xShared
  else zeroBytes

/-- Under the content encryption key only this block matters. -/
def sampleBlock (block : Octets) : Octets :=
  if block = firstBlock then firstCipherBlock
  else if block = firstCipherBlock then firstBlock
  else block

/-- An EC key is `false` for the recipient and `true` for the sender. -/
def roundTripExternals : CmsExternals :=
  { cmsExternals (fun _ => none) (fun der =>
      if der = envelopedDer then .ok (.envelopedData sampleEnveloped) else unanswered) with
    parseAlgorithmIdentifier := fun der =>
      if der = wrapAlgDer then .ok aes256WrapAlgorithm else unanswered
    parseCertificate := fun der =>
      if der = ecCertDer then .ok ecCert
      else if der = xCertDer then .ok xCert
      else unanswered
    parseTlv := fun der => if der = wrapAlgDer then .ok wrapAlg else unanswered
    parseRecipientInfo := fun der =>
      if der = ecRecipientDer then .ok ecRecipient
      else if der = xRecipientDer then .ok xRecipient
      else unanswered
    writeAlgorithmIdentifier := fun alg =>
      if alg = aes256WrapAlgorithm then .ok wrapAlgDer else unanswered
    writeSharedInfo := fun info => if info = wrapSharedInfo then .ok sharedInfoDer else unanswered
    writeRecipientInfo := fun ri =>
      if ri = ecRecipient then .ok ecRecipientDer
      else if ri = xRecipient then .ok xRecipientDer
      else unanswered
    writeContentInfo := fun content =>
      if content = .envelopedData (envelopedDataOf [ecRecipient, xRecipient] sampleIv
        firstCipherBlock) then .ok envelopedDer
      else unanswered
    parsePem := fun pem =>
      if pem = ecCertPem then .ok ecCertDer
      else if pem = xCertPem then .ok xCertDer
      else unanswered
    EcSecretKey := fun _ => Bool
    EcPublicKey := fun _ => Bool
    parsePrivateKeyInfo := fun der =>
      if der = ecKeyDer then .ok ⟨ecOid, .ok ecSecp256r1, ecKeyDer.drop 29⟩ else unanswered
    ecSecretKeyFromPkcs8 := fun _ der => if der = ecKeyDer then .ok false else unanswered
    ecPublicKeyFromSec1 := fun _ point =>
      if point = ecPoint then .ok false
      else if point = ecEphemeralPoint then .ok true
      else unanswered
    ecPublicKeyOf := id
    ecToSec1 := fun key => if key then ecEphemeralPoint else ecPoint
    diffieHellman := fun secret key => if secret = key then [] else ecShared
    x25519 := sampleX25519
    x25519PublicKeyOf := samplePublicKeyOf
    x963Kdf := fun hash z sharedInfo keyLen =>
      if hash = .sha256 ∧ z = ecShared ∧ sharedInfo = sharedInfoDer ∧ keyLen = 32 then some ecKek
      else none
    hkdf := fun hash salt ikm info keyLen =>
      if hash = .sha256 ∧ salt.getD [] = [] ∧ ikm = xShared.val ∧ info = sharedInfoDer ∧
        keyLen = 32 then .ok xKek
      else unanswered
    keyWrapInit := fun kekLen kek => if kek.length = kekLen then .ok () else unanswered
    wrapKey := fun kek key =>
      if kek = ecKek ∧ key = sampleCek.val then .ok ecWrapped
      else if kek = xKek ∧ key = sampleCek.val then .ok xWrapped
      else unanswered
    unwrapKey := fun kek wrapped =>
      if kek = ecKek ∧ wrapped = ecWrapped then .ok sampleCek.val
      else if kek = xKek ∧ wrapped = xWrapped then .ok sampleCek.val
      else unanswered
    encryptBlock := fun _ _ => sampleBlock
    decryptBlock := fun _ _ => sampleBlock }

theorem firstCipherBlock_ne : firstCipherBlock ≠ firstBlock := by decide +kernel

theorem sampleBlock_length {block : Octets} (h : block.length = 16) :
    (sampleBlock block).length = 16 := by
  unfold sampleBlock
  split_ifs
  · decide +kernel
  · decide +kernel
  · exact h

theorem sampleBlock_sampleBlock (block : Octets) : sampleBlock (sampleBlock block) = block := by
  unfold sampleBlock
  split_ifs <;> simp_all [firstCipherBlock_ne]

theorem sampleX25519_comm (a b : Bytes 32) :
    sampleX25519 a (samplePublicKeyOf b) = sampleX25519 b (samplePublicKeyOf a) := by
  have hKeys : xEphemeral ≠ xSecret ∧ xPublic ≠ xEphemeralPublic ∧ zeroBytes ≠ xPublic ∧
      zeroBytes ≠ xEphemeralPublic := by
    decide +kernel
  have hPublic : ∀ secret : Bytes 32, samplePublicKeyOf secret = xPublic ↔ secret = xSecret := by
    intro secret
    unfold samplePublicKeyOf
    split_ifs <;> simp_all [eq_comm]
  have hEphemeral : ∀ secret : Bytes 32,
      samplePublicKeyOf secret = xEphemeralPublic ↔ secret = xEphemeral := by
    intro secret
    unfold samplePublicKeyOf
    split_ifs <;> simp_all [eq_comm]
  unfold sampleX25519
  simp only [hPublic, hEphemeral]
  apply if_congr _ rfl rfl
  rw [or_comm, @and_comm (a = xSecret), @and_comm (a = xEphemeral)]

theorem envelopedDataOf_inj {ris others : List RecipientInfo} {iv other : Bytes 16}
    {ciphertext sealed_ : Octets}
    (h : envelopedDataOf ris iv ciphertext = envelopedDataOf others other sealed_) :
    ris = others ∧ iv = other ∧ ciphertext = sealed_ := by
  have hInfos := congrArg EnvelopedData.recipientInfos h
  have hContent := congrArg EnvelopedData.encryptedContentInfo h
  simp only [envelopedDataOf, EncryptedContentInfo.mk.injEq, AlgorithmIdentifier.mk.injEq,
    AlgorithmParameters.aes256Cbc.injEq, Option.some.injEq, true_and] at hInfos hContent
  exact ⟨hInfos, Subtype.ext hContent.1, hContent.2⟩

theorem sampleEncodings : EncodingLaws roundTripExternals where
  empty cert h := by
    have hOther : ecCertDer ≠ [] ∧ xCertDer ≠ [] := by decide +kernel
    simp only [roundTripExternals] at h
    rw [if_neg hOther.1.symm, if_neg hOther.2.symm] at h
    cases h
  tlv der element h := by
    simp only [roundTripExternals] at h
    split_ifs at h with hDer
    · cases h
      exact hDer.symm
    · cases h
  wrapAlgorithm der h := by
    simp only [roundTripExternals, if_true, Except.ok.injEq] at h
    simp [roundTripExternals, ← h]
  recipientInfo certDer cek der cert pkcs1v15 ri hCert hBuilt h := by
    have hOther : xRecipientDer ≠ ecRecipientDer := by decide +kernel
    simp only [roundTripExternals] at h ⊢
    split_ifs at h with hEc hX
    · cases h
      rw [if_pos rfl, hEc]
    · cases h
      rw [if_neg hOther, if_pos rfl, hX]
    · cases h
  enveloped ders ris iv ciphertext der hParsed h := by
    simp only [roundTripExternals] at h ⊢
    split_ifs at h with hContent
    · cases h
      rw [Content.envelopedData.injEq] at hContent
      obtain ⟨rfl, rfl, rfl⟩ := envelopedDataOf_inj hContent
      exact ⟨[xRecipient, ecRecipient], List.Perm.swap _ _ _, if_pos rfl⟩
    · cases h
  authEnveloped ders ris nonce ciphertext tag der hParsed h := by
    simp [roundTripExternals, unanswered] at h

theorem sampleAgreement : AgreementLaws roundTripExternals where
  sec1 curve pk := by
    have hOther : ecEphemeralPoint ≠ ecPoint := by decide +kernel
    cases pk <;> simp [roundTripExternals, hOther]
  ecdh curve a b := by
    cases a <;> cases b <;> rfl
  x25519 := sampleX25519_comm
  x963Kdf hash z sharedInfo kek keyLen h := by
    have hLength : ecKek.length = 32 := by decide +kernel
    simp only [roundTripExternals] at h
    split_ifs at h with hInput
    cases h
    rw [hLength, hInput.2.2.2]
  hkdf hash salt ikm info okm keyLen h := by
    have hLength : xKek.length = 32 := by decide +kernel
    simp only [roundTripExternals] at h
    split_ifs at h with hInput
    · cases h
      rw [hLength, hInput.2.2.2.2]
    · cases h
  noSalt hash ikm info keyLen := rfl

theorem sampleCiphers : CipherLaws roundTripExternals where
  keyWrapInit kek h := by simp [roundTripExternals, h]
  keyWrap kek key wrapped hLength h := by
    have hOther : xKek ≠ ecKek := by decide +kernel
    simp only [roundTripExternals] at h ⊢
    split_ifs at h with hEc hX
    · cases h
      rw [if_pos ⟨hEc.1, rfl⟩, hEc.2]
    · cases h
      rw [if_neg (fun hFirst => hOther (hX.1.symm.trans hFirst.1)), if_pos ⟨hX.1, rfl⟩, hX.2]
    · cases h
  blockLength key block hKey hBlock := sampleBlock_length hBlock
  block key block hKey hBlock := sampleBlock_sampleBlock block
  gcm key nonce aad plaintext ciphertext tag hKey hNonce h := by cases h

def sampleRandom : EncryptRandom roundTripExternals where
  cek := sampleCek
  iv := sampleIv
  nonce := ⟨List.replicate 12 0, by decide +kernel⟩
  recipient _ := ⟨[], fun _ => true, xEphemeral⟩

def sampleKeys : DecryptionKeys where
  privateKeyDer := ecKeyDer
  recipientCertDer := ecCertDer

/-- The second RecipientInfo is the one that the private key opens. -/
theorem decrypt_encrypt_sample :
    decryptEnvelopedData roundTripExternals sampleEnveloped sampleKeys =
      .ok (some sampleText, []) := by
  have hPems : xCertPem ≠ ecCertPem ∧ xCertDer ≠ ecCertDer := by decide +kernel
  have hList : ListsCerts roundTripExternals [ecCertPem, xCertPem]
      [(ecCertDer, ecCert), (xCertDer, xCert)] := by
    refine .cons ⟨?_, ?_⟩ (.cons ⟨?_, ?_⟩ .nil)
    · simp only [roundTripExternals, if_true]
    · simp only [roundTripExternals, if_true]
    · simp only [roundTripExternals, if_neg hPems.1, if_true]
    · simp only [roundTripExternals, if_neg hPems.2, if_true]
  have hDistinct : (recipientIds [(ecCertDer, ecCert), (xCertDer, xCert)]).Nodup := by
    decide +kernel
  have hEncrypt : encrypt roundTripExternals sampleRandom [ecCertPem, xCertPem] sampleText
      .aes256Cbc false = some (.ok envelopedDer) := by
    have hInfos : recipientInfosFor roundTripExternals sampleRandom [ecCertPem, xCertPem] false =
        .ok [ecRecipientDer, xRecipientDer] := by
      rw [recipientInfosFor, mapM_parsePem hList]
      decide +kernel
    rw [encrypt, if_neg (by simp), hInfos]
    decide +kernel
  obtain ⟨content, hRead, hDecrypts⟩ :=
    (decrypt_encrypt roundTripExternals sampleEncodings sampleAgreement sampleCiphers sampleRandom
      [ecCertPem, xCertPem] sampleText .aes256Cbc false).1 _ _ hList hDistinct hEncrypt
  have hContent : roundTripExternals.parseContentInfo envelopedDer =
      .ok (.envelopedData sampleEnveloped) := if_pos rfl
  rw [hContent, Except.ok.injEq] at hRead
  subst hRead
  refine hDecrypts.opens (ecCertDer, ecCert) List.mem_cons_self sampleKeys rfl ?_
  exact .ec ecSecp256r1 .p256 ⟨ecOid, .ok ecSecp256r1, ecKeyDer.drop 29⟩ false rfl rfl
    (if_pos rfl) rfl rfl (if_pos rfl) (if_pos rfl)

end Samples

end Smime
