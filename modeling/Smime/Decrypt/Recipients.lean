import Smime.BlockModes.Cbc
import Smime.Decrypt.KeyAgreement

/-! `recover_cek` of `src/decrypt.rs`: the content encryption key from the first
RecipientInfo that the key material opens. -/
namespace Smime

open X690 (Octets)
open X509 Utils BlockModes

/-- `password` and `kek` are there with their cargo features only. -/
structure DecryptionKeys where
  privateKeyDer : Octets := []
  recipientCertDer : Octets := []
  password : Option String := none
  kek : Option Octets := none

variable (env : CmsExternals)

section Ktri

def oaepHash : NestedParameters → Option OaepHash
  | .sha1 _ => some .sha1
  | .sha256 _ => some .sha256
  | .sha384 _ => some .sha384
  | .sha512 _ => some .sha512
  | _ => none

/-- RFC 3560, section 3: only the empty label, explicit or by default. -/
def isDefaultPSource (pSource : NestedAlgorithm) : Bool :=
  pSource.oid == pSpecifiedOid &&
    match pSource.params with
    | .other _ param => param.all (·.data.isEmpty)
    | _ => false

def oaepDecrypt (privateKey : env.RsaPrivateKey) (encryptedKey : Octets)
    (params : RsaOaepParameters) : Except SmimeError Octets :=
  let mgf1Params := params.maskGenAlgorithm.params.params
  match oaepHash params.hashAlgorithm.params with
  | none => .error (.unsupportedKeyEncryptionAlg ("RSAES-OAEP with unsupported hash: " ++
      env.debugNestedParameters params.hashAlgorithm.params))
  | some hash =>
      match oaepHash mgf1Params with
      | none => .error (.unsupportedKeyEncryptionAlg
          ("RSAES-OAEP with unsupported MGF1 hash: " ++ env.debugNestedParameters mgf1Params))
      | some mgf1Hash =>
          (env.rsaDecrypt privateKey (.oaep hash mgf1Hash) encryptedKey).mapError .decryptionFailed

def oaepWarnings (params : RsaOaepParameters) : List SmimeError :=
  if oaepHash params.hashAlgorithm.params = some .sha1 ∨
      oaepHash params.maskGenAlgorithm.params.params = some .sha1 then
    [.weakKeyEncryptionAlg "RSAES-OAEP with SHA-1"]
  else []

/-- RSA key transport. -/
def decryptKtriCek (privateKeyDer : Octets) (ktri : KeyTransRecipientInfo) :
    Except SmimeError (Octets × List SmimeError) := do
  let privateKey ← (env.rsaPrivateKeyFromPkcs8 privateKeyDer).mapError .privateKeyParseFailed
  match ktri.keyEncryptionAlgorithm.params with
  | .rsa _ => do
      let cek ← (env.rsaDecrypt privateKey .pkcs1v15 ktri.encryptedKey).mapError fun e =>
        .decryptionFailed ("RSAES-PKCS1-v1_5 key decryption: " ++ e)
      return (cek, [])
  | .rsaesOaep params =>
      if params.pSourceFunc.any fun pSource => !isDefaultPSource pSource then
        .error (.unsupportedKeyEncryptionAlg ("non-default OAEP pSourceFunc: " ++
          ((params.pSourceFunc.map fun pSource => env.displayOid pSource.oid).getD "")))
      else if params.maskGenAlgorithm.oid ≠ mgf1Oid then
        .error (.unsupportedKeyEncryptionAlg ("non-MGF1 OAEP maskGenFunc: " ++
          env.displayOid params.maskGenAlgorithm.oid))
      else do
        let cek ← oaepDecrypt env privateKey ktri.encryptedKey params
        return (cek, oaepWarnings params)
  | other => .error (.unsupportedKeyEncryptionAlg (env.debugAlgorithmParameters other))

def ktriMatchesCert (ktri : KeyTransRecipientInfo) (cert : Certificate) : Bool :=
  match ktri.rid with
  | .issuerAndSerialNumber ias => iasMatchesCert ias cert
  | .subjectKeyIdentifier ski => skiMatchesCert env.toExternals ski cert

end Ktri

section Cbc

/-- `new_from_slices`. -/
def checkCbcLengths (cipher : BlockCipher) (key iv : Octets) : Except SmimeError Unit :=
  if key.length = cipher.keySize ∧ iv.length = cipher.blockSize then .ok ()
  else .error (.decryptionFailed env.invalidLength)

def cbcDecryptNoPadding (cipher : BlockCipher) (key iv data : Octets) :
    Except SmimeError Octets := do
  checkCbcLengths env cipher key iv
  orError (.decryptionFailed env.unpadError)
    (cbcDecryptRaw cipher.blockSize (env.decryptBlock cipher key) iv data)

/-- The cipher of a CBC content or key encryption algorithm, with its IV. -/
def cbcCipher (params : AlgorithmParameters) : Option (BlockCipher × Octets) :=
  match params with
  | .aes128Cbc iv => some (.aes128, iv)
  | .aes192Cbc iv => some (.aes192, iv)
  | .aes256Cbc iv => some (.aes256, iv)
  | .desEde3Cbc iv => if env.features.decrypt3des then some (.tdesEde3, iv) else none
  | _ => none

end Cbc

section Pwri

/-- `derive_pbkdf2_key` of `src/cms_utils.rs`. -/
def derivePbkdf2Key (params : Pbkdf2Params) (password : String) (keyLen : Nat) :
    Except String (Octets × List SmimeError) :=
  if params.salt.length < 8 then
    .error ("PBKDF2 salt length " ++ toString params.salt.length ++ " is below minimum of 8 bytes")
  else if params.iterationCount = 0 then .error "PBKDF2 iteration count 0 is invalid"
  else if params.iterationCount > 100000000 then
    .error ("PBKDF2 iteration count " ++ toString params.iterationCount ++ " is unreasonably high")
  else
    let warnings := if params.iterationCount < 100000 then
      [SmimeError.pbkdf2LowIterationCount params.iterationCount] else []
    let derive (hash : KdfHash) : Octets :=
      env.pbkdf2Hmac hash (utf8 password) params.salt params.iterationCount keyLen
    match params.keyLength.filter (· ≠ keyLen) with
    | some keyLength => .error ("PBKDF2 keyLength " ++ toString keyLength ++
        " does not match cipher key length " ++ toString keyLen)
    | none =>
        match params.prf.params with
        | .hmacWithSha1 _ =>
            .ok (derive .sha1, warnings ++ [.weakKeyEncryptionAlg "PBKDF2 with HMAC-SHA-1"])
        | .hmacWithSha224 _ => .error "PBKDF2 with HMAC-SHA-224 not supported"
        | .hmacWithSha256 _ => .ok (derive .sha256, warnings)
        | .hmacWithSha384 _ => .ok (derive .sha384, warnings)
        | .hmacWithSha512 _ => .ok (derive .sha512, warnings)
        | _ => .error ("Unsupported PBKDF2 PRF: " ++ env.displayOid params.prf.oid)

def extractPwriInnerAlgorithm (kea : AlgorithmIdentifier) :
    Except SmimeError AlgorithmIdentifier :=
  match kea.params with
  | .other _ (some tlv) => (env.parseAlgorithmIdentifier tlv.fullData).mapError fun e =>
      .decryptionFailed ("PWRI inner alg: " ++ e)
  | _ => .error (.decryptionFailed "PWRI-KEK missing algorithm params")

/-- RFC 3211, section 2.3.2. -/
def pwriUnwrapCek (cipher : BlockCipher) (kek iv ct : Octets) : Except SmimeError Octets :=
  let bs := cipher.blockSize
  if ct.length < 2 * bs ∨ ct.length % bs ≠ 0 then
    .error (.decryptionFailed "PWRI encrypted key too short or not block-aligned")
  else do
    let n := ct.length / bs
    -- The last block is decrypted first, and is the IV of the blocks before it.
    let lastBlock ← cbcDecryptNoPadding env cipher kek ((ct.drop ((n - 2) * bs)).take bs)
      (ct.drop ((n - 1) * bs))
    let buf ← cbcDecryptNoPadding env cipher kek lastBlock (ct.take ((n - 1) * bs))
    cbcDecryptNoPadding env cipher kek iv (buf ++ lastBlock)

/-- RFC 3211, section 2.3.1: length, check value, key and padding. -/
def readPwriCek (decrypted : Octets) : Except SmimeError Octets :=
  match decrypted with
  | cekLen :: a :: b :: c :: rest =>
      let cek := rest.take cekLen.toNat
      if cekLen.toNat + 4 > decrypted.length then
        .error (.decryptionFailed
          ("PWRI CEK length " ++ toString cekLen.toNat ++ " exceeds unwrapped data"))
      else if cekLen.toNat < 3 then
        .error (.decryptionFailed
          ("PWRI CEK length " ++ toString cekLen.toNat ++ " too short for check value"))
      else if [a, b, c] ≠ (cek.take 3).map fun octet => ~~~octet then
        .error (.decryptionFailed "PWRI check value mismatch")
      else .ok cek
  | _ => .error (.decryptionFailed "PWRI unwrap produced output too short")

def decryptPwriCek (password : Option String) (pwri : PasswordRecipientInfo) :
    Except SmimeError (Octets × List SmimeError) := do
  let password ← orError (.decryptionFailed "password required for PasswordRecipientInfo") password
  let innerAlg ← extractPwriInnerAlgorithm env pwri.keyEncryptionAlgorithm
  let (cipher, iv) ← orError (.unsupportedKeyEncryptionAlg
    ("PWRI cipher: " ++ env.debugAlgorithmParameters innerAlg.params)) (cbcCipher env innerAlg.params)
  let kda ← orError (.unsupportedKeyEncryptionAlg "PWRI without keyDerivationAlgorithm")
    pwri.keyDerivationAlgorithm
  let (kek, warnings) ←
    match kda.params with
    | .pbkdf2 params =>
        (derivePbkdf2Key env params password cipher.keySize).mapError .decryptionFailed
    | other => .error (.unsupportedKeyEncryptionAlg
        ("PWRI KDF: " ++ env.debugAlgorithmParameters other))
  let decrypted ← pwriUnwrapCek env cipher kek iv pwri.encryptedKey
  let cek ← readPwriCek decrypted
  return (cek, warnings)

end Pwri

/-- A pre-shared key. -/
def decryptKekriCek (kek : Option Octets) (kekri : KekRecipientInfo) :
    Except SmimeError (Octets × List SmimeError) := do
  let kek ← orError (.decryptionFailed "pre-shared key required for KEKRecipientInfo") kek
  let kekLen ← aesWrapKeyLen env kekri.keyEncryptionAlgorithm.oid
  if kek.length ≠ kekLen then
    .error (.decryptionFailed ("KEK length " ++ toString kek.length ++
      " does not match algorithm (expected " ++ toString kekLen ++ ")"))
  else do
    let cek ← aesKeyUnwrap env kek kekLen kekri.encryptedKey
    return (cek, [])

section Search

/-- RFC 5652, sections 6.2.1 to 6.2.4: structure, expected and actual version. -/
def recipientVersion (ri : RecipientInfo) : Option (String × UInt8 × UInt8) :=
  match ri with
  | .keyTrans ktri =>
      let expected : UInt8 :=
        match ktri.rid with
        | .issuerAndSerialNumber _ => 0
        | .subjectKeyIdentifier _ => 2
      some ("KeyTransRecipientInfo", expected, ktri.version)
  | .keyAgree kari => some ("KeyAgreeRecipientInfo", 3, kari.version)
  | .kek kekri => some ("KEKRecipientInfo", 4, kekri.version)
  | .password pwri => some ("PasswordRecipientInfo", 0, pwri.version)
  | .other => none

def recipientVersionWarning (idx : Nat) (ri : RecipientInfo) : Option SmimeError :=
  match recipientVersion ri with
  | some (structure_, expected, actual) =>
      if actual ≠ expected then some (.cmsVersionMismatch structure_ expected actual (some idx))
      else none
  | none => none

def recipientVersionWarnings (recipientInfos : List RecipientInfo) : List SmimeError :=
  (recipientInfos.mapIdx recipientVersionWarning).filterMap id

/-- One RecipientInfo; `none` when it is skipped. -/
def tryRecipient (keys : DecryptionKeys) (cert : Option Certificate) (ri : RecipientInfo) :
    Option (Except SmimeError (Octets × List SmimeError)) :=
  match ri with
  | .keyTrans ktri =>
      match cert with
      | some cert =>
          if ktriMatchesCert env ktri cert then some (decryptKtriCek env keys.privateKeyDer ktri)
          else none
      | none => none
  | .keyAgree kari => cert.map (decryptKariCek env keys.privateKeyDer kari)
  | .password pwri =>
      if env.features.decryptPwri then some (decryptPwriCek env keys.password pwri) else none
  | .kek kekri =>
      if env.features.decryptKek then some (decryptKekriCek env keys.kek kekri) else none
  | .other => none

/-- The first RecipientInfo that opens; otherwise the last error. -/
def searchRecipients (keys : DecryptionKeys) (cert : Option Certificate) :
    Option SmimeError → List RecipientInfo → Except SmimeError (Octets × List SmimeError)
  | lastErr, [] => .error (lastErr.getD .noMatchingRecipient)
  | lastErr, ri :: rest =>
      match tryRecipient env keys cert ri with
      | none => searchRecipients keys cert lastErr rest
      | some (.ok found) => .ok found
      | some (.error e) => searchRecipients keys cert (some e) rest

def parseRecipientCert (recipientCertDer : Octets) : Except SmimeError (Option Certificate) :=
  if recipientCertDer.isEmpty then .ok none
  else do
    let cert ← (env.parseCertificate recipientCertDer).mapError fun e =>
      .decryptionFailed ("recipient certificate: " ++ e)
    return some cert

def recoverCek (keys : DecryptionKeys) (recipientInfos : List RecipientInfo)
    (expectedKeyLen : Nat) : Except SmimeError (Octets × List SmimeError) := do
  let cert ← parseRecipientCert env keys.recipientCertDer
  let (cek, warnings) ← searchRecipients env keys cert none recipientInfos
  if cek.length ≠ expectedKeyLen then
    .error (.decryptionFailed ("CEK length " ++ toString cek.length ++
      " does not match algorithm (expected " ++ toString expectedKeyLen ++ ")"))
  else return (cek, recipientVersionWarnings recipientInfos ++ warnings)

/-- The key and the warnings of a RecipientInfo that opens. -/
def openedBy (keys : DecryptionKeys) (cert : Option Certificate) (ri : RecipientInfo) :
    Option (Octets × List SmimeError) :=
  (tryRecipient env keys cert ri).bind Except.toOption

variable {env} {keys : DecryptionKeys} {cert : Option Certificate}
  {found : Octets × List SmimeError}

theorem openedBy_eq_some_iff {ri : RecipientInfo} :
    openedBy env keys cert ri = some found ↔
      tryRecipient env keys cert ri = some (.ok found) := by
  rw [openedBy, Option.bind_eq_some_iff]
  constructor
  · rintro ⟨outcome, hTry, hOk⟩
    rw [hTry, toOption_eq_some_iff.mp hOk]
  · intro hTry
    exact ⟨_, hTry, rfl⟩

/-- The search ends with the first RecipientInfo that opens. -/
theorem searchRecipients_eq_ok_iff (lastErr : Option SmimeError)
    (recipientInfos : List RecipientInfo) :
    searchRecipients env keys cert lastErr recipientInfos = .ok found ↔
      recipientInfos.findSome? (openedBy env keys cert) = some found := by
  induction recipientInfos generalizing lastErr with
  | nil => simp [searchRecipients]
  | cons ri rest ih =>
      rw [searchRecipients, List.findSome?_cons, openedBy]
      cases tryRecipient env keys cert ri with
      | none => exact ih lastErr
      | some outcome =>
          cases outcome with
          | error e => exact ih (some e)
          | ok opened => simp [Except.toOption]

theorem searchRecipients_ok {lastErr : Option SmimeError} {recipientInfos : List RecipientInfo}
    (h : searchRecipients env keys cert lastErr recipientInfos = .ok found) :
    ∃ ri ∈ recipientInfos, tryRecipient env keys cert ri = some (.ok found) := by
  rw [searchRecipients_eq_ok_iff] at h
  obtain ⟨ri, hMem, hOpened⟩ := List.exists_of_findSome?_eq_some h
  exact ⟨ri, hMem, openedBy_eq_some_iff.mp hOpened⟩

/-- One RecipientInfo that opens is enough. -/
theorem exists_searchRecipients {recipientInfos : List RecipientInfo}
    (hFound : ∃ ri ∈ recipientInfos, tryRecipient env keys cert ri = some (.ok found))
    (lastErr : Option SmimeError) :
    ∃ first, searchRecipients env keys cert lastErr recipientInfos = .ok first := by
  obtain ⟨ri, hMem, hOpens⟩ := hFound
  cases hFirst : recipientInfos.findSome? (openedBy env keys cert) with
  | none =>
      have hNone := List.findSome?_eq_none_iff.mp hFirst ri hMem
      rw [openedBy_eq_some_iff.mpr hOpens] at hNone
      cases hNone
  | some first => exact ⟨first, (searchRecipients_eq_ok_iff lastErr recipientInfos).mpr hFirst⟩

end Search

end Smime
