import Smime.EncryptionLayers
import Smime.SignedContent

/-! What a result without failures says about the content of the layers: whether
it is there, and that encrypted layers were opened with a recovered key. -/
namespace Smime

open X690 (Octets)
open X509 Mail Utils

section Meaning

variable (env : CmsExternals) (keys : DecryptionKeys)

/-- A RecipientInfo gives the key, of the length that is asked for. -/
def RecoversCek (recipientInfos : List RecipientInfo) (keyLen : Nat) (cek : Octets) : Prop :=
  cek.length = keyLen ∧ ∃ cert : Option Certificate,
    parseRecipientCert env keys.recipientCertDer = .ok cert ∧
      ∃ ri ∈ recipientInfos, ∃ warnings : List SmimeError,
        tryRecipient env keys cert ri = some (.ok (cek, warnings))

/-- The encrypted content is decrypted with a recovered key. -/
inductive Decrypts : Content → Octets → Prop where
  | enveloped {envelopedData : EnvelopedData} {ciphertext plaintext iv cek key : Octets}
      {cea : AlgorithmParameters} {innerAlgDer : Option Octets} {cipher : BlockCipher}
      (hContent : envelopedData.encryptedContentInfo.encryptedContent = some ciphertext)
      (hAlgorithm : resolveCekHkdf env
        envelopedData.encryptedContentInfo.contentEncryptionAlgorithm.params =
          .ok (cea, innerAlgDer))
      (hCipher : cbcCipher env cea = some (cipher, iv))
      (hCek : RecoversCek env keys envelopedData.recipientInfos cipher.keySize cek)
      (hKey : contentKey env cek innerAlgDer = .ok key)
      (hPlaintext : decryptCbc env cipher key iv ciphertext = .ok plaintext) :
      Decrypts (.envelopedData envelopedData) plaintext
  | authEnveloped {authEnveloped : AuthEnvelopedData} {ciphertext plaintext cek key aad : Octets}
      {cea : AlgorithmParameters} {innerAlgDer : Option Octets} {mode : AeadMode} {keyLen : Nat}
      {params : AeadParameters}
      (hContent : authEnveloped.authEncryptedContentInfo.encryptedContent = some ciphertext)
      (hAlgorithm : resolveCekHkdf env
        authEnveloped.authEncryptedContentInfo.contentEncryptionAlgorithm.params =
          .ok (cea, innerAlgDer))
      (hCipher : aeadCipher cea = some (mode, keyLen, params))
      (hCek : RecoversCek env keys authEnveloped.recipientInfos keyLen cek)
      (hKey : contentKey env cek innerAlgDer = .ok key)
      (hAad : authAttrsDer env authEnveloped.authAttrs = .ok aad)
      (hPlaintext : decryptAead env mode cea key aad ciphertext authEnveloped.mac params =
        .ok plaintext) :
      Decrypts (.authEnvelopedData authEnveloped) plaintext

/-- An encrypted content that is left out. -/
def LacksContent : Content → Prop
  | .envelopedData envelopedData => envelopedData.encryptedContentInfo.encryptedContent = none
  | .authEnvelopedData authEnveloped =>
      authEnveloped.authEncryptedContentInfo.encryptedContent = none
  | _ => False

/-- What is recorded about the version of an encrypted content. -/
def versionFailures : Content → List SmimeError
  | .envelopedData envelopedData =>
      versionMismatch "EnvelopedData" (expectedEnvelopedDataVersion envelopedData)
        envelopedData.version
  | .authEnvelopedData authEnveloped =>
      versionMismatch "AuthEnvelopedData" 0 authEnveloped.version
  | _ => []

end Meaning

section Recovery

variable {env : CmsExternals} {keys : DecryptionKeys}

theorem recoverCek_ok {recipientInfos : List RecipientInfo} {keyLen : Nat} {cek : Octets}
    {warnings : List SmimeError}
    (h : recoverCek env keys recipientInfos keyLen = .ok (cek, warnings)) :
    RecoversCek env keys recipientInfos keyLen cek := by
  simp only [recoverCek, Except.bind_eq_ok_iff] at h
  obtain ⟨cert, hCert, ⟨found, foundWarnings⟩, hFound, h⟩ := h
  dsimp only at h
  split at h
  next => cases h
  next hLength =>
    cases h
    obtain ⟨ri, hMem, hOpens⟩ := searchRecipients_ok hFound
    exact ⟨not_not.mp hLength, cert, hCert, ri, hMem, foundWarnings, hOpens⟩

/-- The plaintext, or that there is nothing to decrypt. -/
theorem decryptEnvelopedData_cases {envelopedData : EnvelopedData} {plaintext : Option Octets}
    {warnings : List SmimeError}
    (h : decryptEnvelopedData env envelopedData keys = .ok (plaintext, warnings)) :
    (plaintext = none ∧ LacksContent (.envelopedData envelopedData)) ∨
      ∃ octets : Octets, plaintext = some octets ∧
        Decrypts env keys (.envelopedData envelopedData) octets := by
  unfold decryptEnvelopedData at h
  dsimp only at h
  cases hContent : envelopedData.encryptedContentInfo.encryptedContent with
  | none =>
      rw [hContent] at h
      cases h
      exact .inl ⟨rfl, hContent⟩
  | some ciphertext =>
      right
      rw [hContent] at h
      dsimp only at h
      split at h
      · cases h
      · simp only [Except.bind_eq_ok_iff, orError_eq_ok_iff] at h
        obtain ⟨⟨cea, innerAlgDer⟩, hAlgorithm, ⟨cipher, iv⟩, hCipher, ⟨cek, cekWarnings⟩, hCek, key,
          hKey, octets, hPlaintext, h⟩ := h
        cases h
        exact ⟨octets, rfl,
          .enveloped hContent hAlgorithm hCipher (recoverCek_ok hCek) hKey hPlaintext⟩

theorem decryptAuthEnvelopedData_cases {authEnveloped : AuthEnvelopedData}
    {plaintext : Option Octets} {warnings : List SmimeError}
    (h : decryptAuthEnvelopedData env authEnveloped keys = .ok (plaintext, warnings)) :
    (plaintext = none ∧ LacksContent (.authEnvelopedData authEnveloped)) ∨
      ∃ octets : Octets, plaintext = some octets ∧
        Decrypts env keys (.authEnvelopedData authEnveloped) octets := by
  unfold decryptAuthEnvelopedData at h
  dsimp only at h
  cases hContent : authEnveloped.authEncryptedContentInfo.encryptedContent with
  | none =>
      rw [hContent] at h
      cases h
      exact .inl ⟨rfl, hContent⟩
  | some ciphertext =>
      right
      rw [hContent] at h
      dsimp only at h
      split at h
      · cases h
      · simp only [Except.bind_eq_ok_iff, orError_eq_ok_iff] at h
        obtain ⟨⟨cea, innerAlgDer⟩, hAlgorithm, ⟨mode, keyLen, params⟩, hCipher,
          ⟨cek, cekWarnings⟩, hCek, key, hKey, aad, hAad, octets, hPlaintext, h⟩ := h
        cases h
        exact ⟨octets, rfl,
          .authEnveloped hContent hAlgorithm hCipher (recoverCek_ok hCek) hKey hAad hPlaintext⟩

theorem decryptEnvelopedData_lacks {envelopedData : EnvelopedData}
    (h : LacksContent (.envelopedData envelopedData)) :
    decryptEnvelopedData env envelopedData keys = .ok (none, []) := by
  have hNone : envelopedData.encryptedContentInfo.encryptedContent = none := h
  rw [decryptEnvelopedData]
  dsimp only
  rw [hNone]

theorem decryptAuthEnvelopedData_lacks {authEnveloped : AuthEnvelopedData}
    (h : LacksContent (.authEnvelopedData authEnveloped)) :
    decryptAuthEnvelopedData env authEnveloped keys = .ok (none, []) := by
  have hNone : authEnveloped.authEncryptedContentInfo.encryptedContent = none := h
  rw [decryptAuthEnvelopedData]
  dsimp only
  rw [hNone]

end Recovery

section Layer

variable {env : CmsExternals} {ctx : LayerContext} {eml : Octets} {outermostFrom : Option Addr}
  {outermostDate : Option Instant}

/-- What comes of an encrypted content: its plaintext, nothing because it is left
out, or a failure. -/
def EncryptedOutcome (env : CmsExternals) (keys : DecryptionKeys) (content : Content)
    (after : SmimeValidationResult) : Prop :=
  (∃ plaintext : Octets, after.signedContent = some plaintext ∧
      Decrypts env keys content plaintext) ∨
    (after.signedContent = none ∧
      ((LacksContent content ∧ after.failures = versionFailures content) ∨ after.failures ≠ []))

theorem recordDecryption_outcome {keys : DecryptionKeys} {content : Content}
    {outcome : Except SmimeError (Option Octets × List SmimeError)}
    {result : SmimeValidationResult} (hContent : result.signedContent = none)
    (hFailures : result.failures = versionFailures content)
    (h : ∀ (plaintext : Option Octets) (warnings : List SmimeError),
      outcome = .ok (plaintext, warnings) →
        (plaintext = none ∧ LacksContent content) ∨
          ∃ octets : Octets, plaintext = some octets ∧ Decrypts env keys content octets) :
    EncryptedOutcome env keys content (recordDecryption outcome result) := by
  match outcome with
  | .error e => exact .inr ⟨hContent, .inr (by simp [recordDecryption])⟩
  | .ok (none, warnings) =>
      rcases h none warnings rfl with ⟨-, hLacks⟩ | ⟨octets, hSome, -⟩
      · exact .inr ⟨hContent, .inl ⟨hLacks, hFailures⟩⟩
      · cases hSome
  | .ok (some plaintext, warnings) =>
      rcases h (some plaintext) warnings rfl with ⟨hNone, -⟩ | ⟨octets, hSome, hDecrypts⟩
      · cases hNone
      · cases hSome
        exact .inl ⟨plaintext, rfl, hDecrypts⟩

theorem processContent_outcome {content : Content} {result : SmimeValidationResult}
    (hEncrypted : (contentEncryption env content).isSome) (hContent : result.signedContent = none)
    (hFailures : result.failures = []) :
    EncryptedOutcome env ctx.keys content
      (processContent env ctx content outermostFrom outermostDate result) := by
  cases content with
  | data content => cases hEncrypted
  | other => cases hEncrypted
  | signedData signedData => cases hEncrypted
  | envelopedData envelopedData =>
      apply recordDecryption_outcome
      · exact hContent
      · simp [hFailures, versionFailures]
      · exact fun plaintext warnings => decryptEnvelopedData_cases
  | authEnvelopedData authEnveloped =>
      apply recordDecryption_outcome
      · exact hContent
      · simp [hFailures, versionFailures]
      · exact fun plaintext warnings => decryptAuthEnvelopedData_cases

/-- An encrypted content that is left out leaves nothing but what is recorded
about its version. -/
theorem processContent_lacks {content : Content} {result : SmimeValidationResult}
    (hLacks : LacksContent content) (hContent : result.signedContent = none)
    (hFailures : result.failures = []) :
    let after := processContent env ctx content outermostFrom outermostDate result
    after.signedContent = none ∧ after.failures = versionFailures content := by
  cases content with
  | data content => cases hLacks
  | other => cases hLacks
  | signedData signedData => cases hLacks
  | envelopedData envelopedData =>
      rw [processContent, decryptEnvelopedDataLayer, decryptEnvelopedData_lacks hLacks]
      refine ⟨hContent, ?_⟩
      simp [recordDecryption, hFailures, versionFailures]
  | authEnvelopedData authEnveloped =>
      rw [processContent, decryptAuthEnvelopedDataLayer, decryptAuthEnvelopedData_lacks hLacks]
      refine ⟨hContent, ?_⟩
      simp [recordDecryption, hFailures, versionFailures]

/-- A verification that records nothing has the content that it verified. -/
theorem verifySignedData_content_of_silent (env : Externals) (signedData : SignedData)
    (target : SignedTarget) (trust : TrustConfig) (sender : Option Addr) (date : Option Instant)
    (result : SmimeValidationResult)
    (h : (verifySignedData env signedData target trust.stores trust.caFilePem sender date
      result).failures = []) :
    (verifySignedData env signedData target trust.stores trust.caFilePem sender date
      result).signedContent.isSome := by
  have hSilent := (startVerification_silent_iff env signedData target trust sender date result).1
  have hContent := startVerification_signedContent env signedData target trust.stores
    trust.caFilePem sender date result
  have hRun := verifySignedData_run env signedData target trust.stores trust.caFilePem sender date
    result
  generalize (startVerification env signedData target trust.stores trust.caFilePem sender date
    result).1 = start at hSilent hContent hRun
  generalize verifySignedData env signedData target trust.stores trust.caFilePem sender date
    result = after at h hRun ⊢
  cases hRun with
  | stopped hNone =>
      obtain ⟨-, -, ctx, hCtx⟩ := hSilent.mp (by simp [h])
      exact absurd hCtx (hNone ctx)
  | @looped ctx hCtx =>
      have hStart := hContent hCtx.1
      obtain ⟨hReplaced, hKept⟩ := foldl_signerStep_contentStep ctx (indexed ctx.signers)
        { result := start }
      by_cases hUses : ∃ signer ∈ indexed ctx.signers, UsesWorkaround ctx signer.1 signer.2
      · rw [hReplaced hUses]
        rfl
      · rw [hKept hUses, hStart]
        rfl

/-- The CMS of a layer decides what comes of the layer. -/
theorem decryptAndVerifyOneLayer_of_content {content : Content}
    (h : layerContent env ctx eml = some content) :
    ∃ message : Message, env.parseMessage eml = some message ∧
      decryptAndVerifyOneLayer env ctx eml outermostFrom outermostDate =
        processContent env ctx content outermostFrom outermostDate (layerHeaders env message) := by
  unfold decryptAndVerifyOneLayer
  cases hMessage : env.parseMessage eml with
  | none => simp [layerContent, hMessage] at h
  | some message =>
      cases hCt : message.contentType with
      | none => simp [layerContent, hMessage, hCt] at h
      | some ct =>
          rw [layerContent_of_message hMessage hCt] at h
          split at h
          next hKind =>
            cases hContent : pkcs7MimeContent env ctx.target message with
            | error e =>
                rw [hContent] at h
                cases h
            | ok read =>
                rw [hContent] at h
                cases h
                refine ⟨message, rfl, ?_⟩
                simp only [hCt, hKind, hContent, ne_eq, not_true_eq_false, if_false]
          next => cases h

/-- Without a CMS that is read, nothing is recorded only if a clear-signed content
is verified. -/
theorem content_of_silent_none (hNone : layerContent env ctx eml = none)
    (h : (decryptAndVerifyOneLayer env ctx eml outermostFrom outermostDate).failures = []) :
    (decryptAndVerifyOneLayer env ctx eml outermostFrom outermostDate).signedContent.isSome := by
  unfold decryptAndVerifyOneLayer at h ⊢
  cases hMessage : env.parseMessage eml with
  | none => simp [hMessage] at h
  | some message =>
      simp only [hMessage] at h ⊢
      cases hCt : message.contentType with
      | none => simp [hCt] at h
      | some ct =>
          simp only [hCt] at h ⊢
          rw [layerContent_of_message hMessage hCt] at hNone
          by_cases hKind : smimeContentKind ct = .pkcs7Mime
          · rw [if_pos hKind] at hNone
            cases hContent : pkcs7MimeContent env ctx.target message with
            | error e => simp [hKind, hContent] at h
            | ok content =>
                rw [hContent] at hNone
                cases hNone
          · rw [if_pos hKind] at h ⊢
            rcases verifySmimeFromEmlDetailed_cases env.toExternals ctx.target eml ctx.trust with
              ⟨message, signedData, signed, signingSystem, -, hResult⟩ | ⟨-, signingSystem, err, hResult⟩
            · rw [hResult] at h ⊢
              exact verifySignedData_content_of_silent _ _ _ _ _ _ _ h
            · rw [hResult] at h
              cases h

/-- A layer that records nothing has its content, unless it is encrypted and the
content is left out. -/
theorem decryptAndVerifyOneLayer_silent
    (h : (decryptAndVerifyOneLayer env ctx eml outermostFrom outermostDate).failures = []) :
    (decryptAndVerifyOneLayer env ctx eml outermostFrom outermostDate).signedContent.isSome ∨
      ∃ content : Content, layerContent env ctx eml = some content ∧ LacksContent content ∧
        versionFailures content = [] := by
  cases hLayer : layerContent env ctx eml with
  | none => exact .inl (content_of_silent_none hLayer h)
  | some content =>
      obtain ⟨message, -, hResult⟩ := @decryptAndVerifyOneLayer_of_content env ctx eml outermostFrom
        outermostDate content hLayer
      rw [hResult] at h ⊢
      by_cases hEncrypted : (contentEncryption env content).isSome
      · rcases @processContent_outcome env ctx outermostFrom outermostDate content
          (layerHeaders env message) hEncrypted rfl rfl with
          ⟨plaintext, hContent, -⟩ | ⟨-, ⟨hLacks, hFailures⟩ | hFailed⟩
        · rw [hContent]
          exact .inl rfl
        · exact .inr ⟨content, rfl, hLacks, hFailures.symm.trans h⟩
        · exact absurd h hFailed
      · left
        cases content with
        | data content => cases h
        | other => cases h
        | envelopedData envelopedData => exact absurd rfl hEncrypted
        | authEnvelopedData authEnveloped => exact absurd rfl hEncrypted
        | signedData signedData =>
            unfold processContent verifySignedDataLayer at h ⊢
            dsimp only at h ⊢
            cases hTarget : SignedTarget.ofEcontent signedData with
            | error e => simp [hTarget, layerHeaders] at h
            | ok target =>
                rw [hTarget] at h
                exact verifySignedData_content_of_silent _ _ _ _ _ _ _ h

end Layer

section Loop

variable (env : CmsExternals) (ctx : LayerContext) (eml : Octets)

/-- Without failures, a message that is encrypted gives a content, and each of
its encrypted layers was decrypted to it with a recovered key. -/
def DeliversPlaintext : Prop :=
  (layerEncryption env ctx eml).isSome →
    (decryptAndVerifySmimeFromEmlDetailed env ctx eml).failures = [] →
      (decryptAndVerifySmimeFromEmlDetailed env ctx eml).signedContent.isSome ∧
        ∀ state ∈ layerStates env ctx maxDecryptDepth 0 { currentEml := eml },
          ∀ content : Content, layerContent env ctx state.currentEml = some content →
            (contentEncryption env content).isSome →
              ∃ plaintext : Octets, (state.process env ctx).signedContent = some plaintext ∧
                Decrypts env ctx.keys content plaintext

/-- The loop ends with an encrypted layer whose content is left out, and whose
version is as it has to be. -/
def EndsEmpty (states : List LayerState) : Prop :=
  ∃ (closing : LayerState) (content : Content), closingState env ctx states = some closing ∧
    layerContent env ctx closing.currentEml = some content ∧ LacksContent content ∧
      versionFailures content = []

variable {env ctx}

theorem layerLoop_closing (remaining depth : Nat) (state : LayerState) :
    let closing := closingState env ctx (layerStates env ctx remaining depth state)
    (layerLoop env ctx remaining depth state).failures =
        (closing.map fun layer => (layer.process env ctx).failures).getD [nestingFailure] ∧
      (layerLoop env ctx remaining depth state).signedContent =
        closing.bind fun layer => (layer.process env ctx).signedContent := by
  induction remaining, depth, state using layerLoop_induction env ctx with
  | hLimit depth state => exact ⟨rfl, rfl⟩
  | hLast remaining depth state hLast =>
      rw [layerStates_last hLast, layerLoop_last hLast, closingState_single hLast]
      exact ⟨rfl, rfl⟩
  | hNested remaining depth state eml hNested ih =>
      rw [layerStates_nested hNested, layerLoop_nested hNested,
        closingState_cons_nested (by rw [hNested]; rfl)]
      exact ih

theorem decryptAndVerify_closing (env : CmsExternals) (ctx : LayerContext) (eml : Octets) :
    let closing := closingState env ctx (layerStates env ctx maxDecryptDepth 0 { currentEml := eml })
    (decryptAndVerifySmimeFromEmlDetailed env ctx eml).failures =
        (closing.map fun layer => (layer.process env ctx).failures).getD [nestingFailure] ∧
      (decryptAndVerifySmimeFromEmlDetailed env ctx eml).signedContent =
        closing.bind fun layer => (layer.process env ctx).signedContent :=
  layerLoop_closing maxDecryptDepth 0 { currentEml := eml }

theorem process_lacks {state : LayerState} {content : Content}
    (hContent : layerContent env ctx state.currentEml = some content)
    (hLacks : LacksContent content) :
    (state.process env ctx).signedContent = none ∧
      (state.process env ctx).failures = versionFailures content := by
  unfold LayerState.process
  obtain ⟨message, -, hResult⟩ := @decryptAndVerifyOneLayer_of_content env ctx state.currentEml
    (addrOf state.outerFromAddress state.outerFromComment) state.outerDate content hContent
  rw [hResult]
  exact processContent_lacks hLacks rfl rfl

theorem process_outcome {state : LayerState} {content : Content}
    (hContent : layerContent env ctx state.currentEml = some content)
    (hEncrypted : (contentEncryption env content).isSome) :
    EncryptedOutcome env ctx.keys content (state.process env ctx) := by
  unfold LayerState.process
  obtain ⟨message, -, hResult⟩ := @decryptAndVerifyOneLayer_of_content env ctx state.currentEml
    (addrOf state.outerFromAddress state.outerFromComment) state.outerDate content hContent
  rw [hResult]
  exact processContent_outcome hEncrypted rfl rfl

theorem nestedEml_none_of_content {result : SmimeValidationResult}
    (h : result.signedContent = none) : nestedEml env result = none := by
  rw [nestedEml, h]
  rfl

/-- A decryption without failures delivers the plaintext unless the encrypted
content of the layer that ends the loop is left out. -/
theorem deliversPlaintext_iff (env : CmsExternals) (ctx : LayerContext) (eml : Octets) :
    DeliversPlaintext env ctx eml ↔
      ((layerEncryption env ctx eml).isSome →
        ¬ EndsEmpty env ctx (layerStates env ctx maxDecryptDepth 0 { currentEml := eml })) := by
  unfold DeliversPlaintext
  apply imp_congr_right
  intro _
  obtain ⟨hFailures, hContent⟩ := decryptAndVerify_closing env ctx eml
  rw [hFailures, hContent]
  constructor
  · rintro hDelivers ⟨closing, content, hClosing, hRead, hLacks, hVersion⟩
    rw [hClosing] at hDelivers
    obtain ⟨hNone, hLayer⟩ := process_lacks hRead hLacks
    have hSome := (hDelivers (hLayer.trans hVersion)).1
    rw [Option.bind_some, hNone] at hSome
    cases hSome
  · intro hNot hSilent
    cases hClosing : closingState env ctx
      (layerStates env ctx maxDecryptDepth 0 { currentEml := eml }) with
    | none =>
        rw [hClosing] at hSilent
        cases hSilent
    | some closing =>
        rw [hClosing] at hSilent
        have hDelivered : (closing.process env ctx).signedContent.isSome := by
          rcases decryptAndVerifyOneLayer_silent hSilent with hSome | ⟨content, hRead, hLacks, hVersion⟩
          · exact hSome
          · exact absurd ⟨closing, content, hClosing, hRead, hLacks, hVersion⟩ hNot
        refine ⟨hDelivered, fun state hState content hRead hEncrypted => ?_⟩
        rcases process_outcome hRead hEncrypted with hPlaintext | ⟨hNone, -⟩
        · exact hPlaintext
        · have hLast := closingState_of_mem maxDecryptDepth 0 _ hState
            (nestedEml_none_of_content hNone)
          rw [hClosing, Option.some.injEq] at hLast
          rw [hLast, hNone] at hDelivered
          cases hDelivered

end Loop

section Samples

/-! An EnvelopedData that leaves its encrypted content out. -/

def hollowDer : Octets :=
  octets 38 0x307106092a864886f70d010703a06430620201023131a22f0201043003040102300b06096086
    ++ octets 38 0x4801650304010504188d838055fdc0c1d1ad109a70d133e2372932603baa0b55ee302a06092a
    ++ octets 38 0x864886f70d010701301d060960864801650304010204100bcc7803c858c2422eb5745fc54683
    ++ [0x2d]

def hollowEml : Octets :=
  ascii "From: anu@naide.ee\r\n" ++ pkcs7MimeHeader ++ base64 hollowDer ++ crlf

def hollowEnveloped : EnvelopedData where
  version := 2
  originatorInfo := none
  recipientInfos := [.kek ⟨4, aes128WrapAlg, (hollowDer.drop 47).take 24⟩]
  encryptedContentInfo :=
    ⟨pkcs7DataOid, ⟨[2, 16, 840, 1, 101, 3, 4, 1, 2], .aes128Cbc (hollowDer.drop 99)⟩, none⟩
  unprotectedAttrs := none

def hollowMessage (eml : Octets) : Option Message :=
  if eml = hollowEml then
    some (singlePart pkcs7MimeType (some ⟨none, some "anu@naide.ee"⟩) hollowDer eml)
  else none

def hollowContentInfo (der : Octets) : Except String Content :=
  if der = hollowDer then .ok (.envelopedData hollowEnveloped) else unanswered

def hollowExternals : CmsExternals := cmsExternals hollowMessage hollowContentInfo

/-- There is nothing to decrypt, and the command succeeds without a content. -/
theorem not_deliversPlaintext :
    ¬ ∀ (env : CmsExternals) (ctx : LayerContext) (eml : Octets),
      DeliversPlaintext env ctx eml := by
  intro h
  have hEncrypted : (layerEncryption hollowExternals noKeys hollowEml).isSome = true := by
    decide +kernel
  have hResult : (decryptAndVerifySmimeFromEmlDetailed hollowExternals noKeys hollowEml).failures =
      [] ∧ (decryptAndVerifySmimeFromEmlDetailed hollowExternals noKeys
        hollowEml).signedContent.isSome = false := by
    decide +kernel
  have hDelivered := (h hollowExternals noKeys hollowEml hEncrypted hResult.1).1
  rw [hResult.2] at hDelivered
  cases hDelivered

end Samples

end Smime
