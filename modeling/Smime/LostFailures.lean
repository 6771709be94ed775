import Smime.DeliveredPlaintext
import Smime.LayerSender
import Smime.SignerDefects

/-! What is amiss with a layer, each defect with the failure that stands for it,
and when the loop over the layers keeps these failures: those of a layer whose
content is processed further are in the result only if they are recorded again. -/
namespace Smime

open X690 (Octets)
open X509 Mail Utils

section Decryption

variable (env : CmsExternals) (keys : DecryptionKeys)

/-- What the decryption of a content comes to, if it is an encrypted one. -/
def contentDecryption : Content → Option (Except SmimeError (Option Octets × List SmimeError))
  | .envelopedData envelopedData => some (decryptEnvelopedData env envelopedData keys)
  | .authEnvelopedData authEnveloped => some (decryptAuthEnvelopedData env authEnveloped keys)
  | _ => none

def contentRecipients : Content → List RecipientInfo
  | .envelopedData envelopedData => envelopedData.recipientInfos
  | .authEnvelopedData authEnveloped => authEnveloped.recipientInfos
  | _ => []

/-- What is weak or odd about an encrypted content that is opened. -/
inductive DecryptionWarning : Content → SmimeError → Prop where
  | weakCipher {envelopedData : EnvelopedData} {cea : AlgorithmParameters}
      {innerAlgDer : Option Octets} {iv : Octets}
      (hAlgorithm : resolveCekHkdf env
        envelopedData.encryptedContentInfo.contentEncryptionAlgorithm.params =
          .ok (cea, innerAlgDer))
      (hCipher : cbcCipher env cea = some (.tdesEde3, iv)) :
      DecryptionWarning (.envelopedData envelopedData) (.weakContentEncryptionAlg "3DES-CBC")
  | recipientVersion {content : Content} {err : SmimeError}
      (hVersion : err ∈ recipientVersionWarnings (contentRecipients content)) :
      DecryptionWarning content err
  | opener {content : Content} {cert : Option Certificate} {found : Octets × List SmimeError}
      {err : SmimeError} (hCert : parseRecipientCert env keys.recipientCertDer = .ok cert)
      (hOpener : (contentRecipients content).findSome? (openedBy env keys cert) = some found)
      (hWarning : err ∈ found.2) : DecryptionWarning content err

variable {env keys} {err : SmimeError}

theorem recoverCek_warnings {recipientInfos : List RecipientInfo} {keyLen : Nat} {cek : Octets}
    {warnings : List SmimeError}
    (h : recoverCek env keys recipientInfos keyLen = .ok (cek, warnings)) :
    err ∈ warnings ↔
      err ∈ recipientVersionWarnings recipientInfos ∨
        ∃ (cert : Option Certificate) (found : Octets × List SmimeError),
          parseRecipientCert env keys.recipientCertDer = .ok cert ∧
            recipientInfos.findSome? (openedBy env keys cert) = some found ∧ err ∈ found.2 := by
  simp only [recoverCek, Except.bind_eq_ok_iff] at h
  obtain ⟨cert, hCert, ⟨opened, opening⟩, hFound, h⟩ := h
  have hFirst := (searchRecipients_eq_ok_iff none recipientInfos).mp hFound
  split at h
  next => cases h
  next =>
    cases h
    rw [List.mem_append, hCert]
    apply or_congr_right
    constructor
    · exact fun hWarning => ⟨cert, (opened, opening), rfl, hFirst, hWarning⟩
    · rintro ⟨other, found, hOther, hOpener, hWarning⟩
      cases hOther
      rw [hFirst] at hOpener
      cases hOpener
      exact hWarning

theorem mem_weakCipherWarnings {cipher : BlockCipher} :
    err ∈ weakCipherWarnings cipher ↔
      cipher = .tdesEde3 ∧ err = .weakContentEncryptionAlg "3DES-CBC" := by
  unfold weakCipherWarnings
  rw [List.mem_ite_nil_right, List.mem_singleton]

theorem decryptionWarning_enveloped_iff {envelopedData : EnvelopedData} {cea : AlgorithmParameters}
    {innerAlgDer : Option Octets} {cipher : BlockCipher} {iv : Octets}
    (hAlgorithm : resolveCekHkdf env
      envelopedData.encryptedContentInfo.contentEncryptionAlgorithm.params = .ok (cea, innerAlgDer))
    (hCipher : cbcCipher env cea = some (cipher, iv)) :
    DecryptionWarning env keys (.envelopedData envelopedData) err ↔
      (cipher = .tdesEde3 ∧ err = .weakContentEncryptionAlg "3DES-CBC") ∨
        err ∈ recipientVersionWarnings envelopedData.recipientInfos ∨
          ∃ (cert : Option Certificate) (found : Octets × List SmimeError),
            parseRecipientCert env keys.recipientCertDer = .ok cert ∧
              envelopedData.recipientInfos.findSome? (openedBy env keys cert) = some found ∧
                err ∈ found.2 := by
  constructor
  · intro hWarning
    cases hWarning with
    | weakCipher hOther hWeak =>
        rw [hAlgorithm] at hOther
        cases hOther
        rw [hCipher] at hWeak
        cases hWeak
        exact .inl ⟨rfl, rfl⟩
    | recipientVersion hVersion => exact .inr (.inl hVersion)
    | opener hCert hOpener hWarning => exact .inr (.inr ⟨_, _, hCert, hOpener, hWarning⟩)
  · rintro (⟨rfl, rfl⟩ | hVersion | ⟨cert, found, hCert, hOpener, hWarning⟩)
    · exact .weakCipher hAlgorithm hCipher
    · exact .recipientVersion hVersion
    · exact .opener hCert hOpener hWarning

theorem decryptionWarning_authEnveloped_iff {authEnveloped : AuthEnvelopedData} :
    DecryptionWarning env keys (.authEnvelopedData authEnveloped) err ↔
      err ∈ recipientVersionWarnings authEnveloped.recipientInfos ∨
        ∃ (cert : Option Certificate) (found : Octets × List SmimeError),
          parseRecipientCert env keys.recipientCertDer = .ok cert ∧
            authEnveloped.recipientInfos.findSome? (openedBy env keys cert) = some found ∧
              err ∈ found.2 := by
  constructor
  · intro hWarning
    cases hWarning with
    | recipientVersion hVersion => exact .inl hVersion
    | opener hCert hOpener hWarning => exact .inr ⟨_, _, hCert, hOpener, hWarning⟩
  · rintro (hVersion | ⟨cert, found, hCert, hOpener, hWarning⟩)
    · exact .recipientVersion hVersion
    · exact .opener hCert hOpener hWarning

/-- The warnings of a decryption are what is weak or odd about the content. -/
theorem mem_warnings_iff {content : Content} {plaintext : Octets} {warnings : List SmimeError}
    (h : contentDecryption env keys content = some (.ok (some plaintext, warnings))) :
    err ∈ warnings ↔ DecryptionWarning env keys content err := by
  cases content with
  | data content => cases h
  | other => cases h
  | signedData signedData => cases h
  | envelopedData envelopedData =>
      have hDecrypted := Option.some.inj h
      unfold decryptEnvelopedData at hDecrypted
      dsimp only at hDecrypted
      split at hDecrypted
      next => cases hDecrypted
      next ciphertext hContent =>
        split at hDecrypted
        · cases hDecrypted
        · simp only [Except.bind_eq_ok_iff, orError_eq_ok_iff] at hDecrypted
          obtain ⟨⟨cea, innerAlgDer⟩, hAlgorithm, ⟨cipher, iv⟩, hCipher, ⟨cek, cekWarnings⟩, hCek,
            key, -, octets, -, hDecrypted⟩ := hDecrypted
          cases hDecrypted
          rw [List.mem_append, mem_weakCipherWarnings, recoverCek_warnings hCek,
            decryptionWarning_enveloped_iff hAlgorithm hCipher]
  | authEnvelopedData authEnveloped =>
      have hDecrypted := Option.some.inj h
      unfold decryptAuthEnvelopedData at hDecrypted
      dsimp only at hDecrypted
      split at hDecrypted
      next => cases hDecrypted
      next ciphertext hContent =>
        split at hDecrypted
        · cases hDecrypted
        · simp only [Except.bind_eq_ok_iff, orError_eq_ok_iff] at hDecrypted
          obtain ⟨⟨cea, innerAlgDer⟩, -, ⟨mode, keyLen, params⟩, -, ⟨cek, cekWarnings⟩, hCek, key,
            -, aad, -, octets, -, hDecrypted⟩ := hDecrypted
          cases hDecrypted
          rw [recoverCek_warnings hCek, decryptionWarning_authEnveloped_iff]

end Decryption

section Contents

variable (env : CmsExternals) (keys : DecryptionKeys)

/-- What is amiss with the CMS of a layer, apart from the verification of a
SignedData. -/
inductive CmsDefect : Content → SmimeError → Prop where
  | foreign {content : Content} (hSigned : ∀ signedData, content ≠ .signedData signedData)
      (hEncrypted : contentDecryption env keys content = none) : CmsDefect content .noPkcs7Content
  | withoutContent {signedData : SignedData} {err : SmimeError}
      (hTarget : SignedTarget.ofEcontent signedData = .error err) :
      CmsDefect (.signedData signedData) err
  | version {content : Content} {err : SmimeError} (hVersion : err ∈ versionFailures content) :
      CmsDefect content err
  | undecrypted {content : Content} {err : SmimeError}
      (hDecryption : contentDecryption env keys content = some (.error err)) :
      CmsDefect content err
  | warning {content : Content} {plaintext : Octets} {warnings : List SmimeError}
      {err : SmimeError}
      (hOpened : contentDecryption env keys content = some (.ok (some plaintext, warnings)))
      (hWarning : DecryptionWarning env keys content err) : CmsDefect content err

variable {env keys} {ctx : LayerContext} {outermostFrom : Option Addr}
  {outermostDate : Option Instant}

theorem cmsDefect_encrypted_iff {content : Content} {err : SmimeError}
    {outcome : Except SmimeError (Option Octets × List SmimeError)}
    (hOutcome : contentDecryption env keys content = some outcome) :
    CmsDefect env keys content err ↔
      err ∈ versionFailures content ∨ outcome = .error err ∨
        ∃ (plaintext : Octets) (warnings : List SmimeError),
          outcome = .ok (some plaintext, warnings) ∧ err ∈ warnings := by
  constructor
  · intro hDefect
    cases hDefect with
    | foreign _ hNone =>
        rw [hOutcome] at hNone
        cases hNone
    | withoutContent => cases hOutcome
    | version hVersion => exact .inl hVersion
    | undecrypted hError =>
        rw [hOutcome] at hError
        exact .inr (.inl (Option.some.inj hError))
    | warning hOpened hWarning =>
        rw [← mem_warnings_iff hOpened] at hWarning
        rw [hOutcome] at hOpened
        exact .inr (.inr ⟨_, _, Option.some.inj hOpened, hWarning⟩)
  · rintro (hVersion | rfl | ⟨plaintext, warnings, rfl, hWarning⟩)
    · exact .version hVersion
    · exact .undecrypted hOutcome
    · exact .warning hOutcome ((mem_warnings_iff hOutcome).mp hWarning)

theorem recordDecryption_records
    (outcome : Except SmimeError (Option Octets × List SmimeError))
    (result : SmimeValidationResult) :
    Records
      (fun err => outcome = .error err ∨ ∃ (plaintext : Octets) (warnings : List SmimeError),
        outcome = .ok (some plaintext, warnings) ∧ err ∈ warnings)
      result (recordDecryption outcome result) := by
  match outcome with
  | .error e =>
      refine (Records.push result e).congr fun err => ?_
      simp [eq_comm]
  | .ok (none, warnings) =>
      refine (Records.of_failures rfl).congr fun err => ?_
      simp
  | .ok (some plaintext, warnings) =>
      refine ((Records.extend result warnings).after_same rfl).congr fun err => ?_
      simp

/-- An encrypted content records what is amiss with it. -/
theorem processContent_records {content : Content}
    {outcome : Except SmimeError (Option Octets × List SmimeError)}
    (hOutcome : contentDecryption env ctx.keys content = some outcome)
    (result : SmimeValidationResult) :
    Records (CmsDefect env ctx.keys content) result
      (processContent env ctx content outermostFrom outermostDate result) := by
  have hDefect := fun err => @cmsDefect_encrypted_iff env ctx.keys content err outcome hOutcome
  cases content with
  | data content => cases hOutcome
  | other => cases hOutcome
  | signedData signedData => cases hOutcome
  | envelopedData envelopedData =>
      cases hOutcome
      have hVersion := Records.extend result (versionFailures (.envelopedData envelopedData))
      refine ((hVersion.after_same ?_).trans (recordDecryption_records _ _)).congr
        fun err => (hDefect err).symm
      rfl
  | authEnvelopedData authEnveloped =>
      cases hOutcome
      have hVersion := Records.extend result (versionFailures (.authEnvelopedData authEnveloped))
      refine ((hVersion.after_same ?_).trans (recordDecryption_records _ _)).congr
        fun err => (hDefect err).symm
      rfl

end Contents

section Layer

variable (env : CmsExternals) (ctx : LayerContext)

/-- What keeps a message that is not opaque from being verified. -/
inductive ClearSignedDefect (eml : Octets) (message : Message) (ct : ContentType) :
    SmimeError → Prop where
  | boundary (hBoundary : lacksBoundary ct = true) :
      ClearSignedDefect eml message ct .missingBoundary
  | unsigned (hBoundary : lacksBoundary ct = false)
      (hKind : smimeContentKind ct ≠ .signedMultipart) :
      ClearSignedDefect eml message ct .noSmimeSig
  | unread {err : SmimeError} (hBoundary : lacksBoundary ct = false)
      (hKind : smimeContentKind ct = .signedMultipart)
      (hInput : clearSignedInput env.toExternals ctx.target message eml = .error err) :
      ClearSignedDefect eml message ct err

/-- What is amiss with a layer. -/
inductive LayerDefect (eml : Octets) (outermostFrom : Option Addr)
    (outermostDate : Option Instant) : SmimeError → Prop where
  | unparsed (hMessage : env.parseMessage eml = none) :
      LayerDefect eml outermostFrom outermostDate .parseEml
  | untyped {message : Message} (hMessage : env.parseMessage eml = some message)
      (hCt : message.contentType = none) :
      LayerDefect eml outermostFrom outermostDate .missingContentType
  | clearSigned {message : Message} {ct : ContentType} {err : SmimeError}
      (hMessage : env.parseMessage eml = some message) (hCt : message.contentType = some ct)
      (hKind : smimeContentKind ct ≠ .pkcs7Mime)
      (hDefect : ClearSignedDefect env ctx eml message ct err) :
      LayerDefect eml outermostFrom outermostDate err
  | unread {message : Message} {ct : ContentType} {err : SmimeError}
      (hMessage : env.parseMessage eml = some message) (hCt : message.contentType = some ct)
      (hKind : smimeContentKind ct = .pkcs7Mime)
      (hContent : pkcs7MimeContent env ctx.target message = .error err) :
      LayerDefect eml outermostFrom outermostDate err
  | cms {content : Content} {err : SmimeError} (hContent : layerContent env ctx eml = some content)
      (hDefect : CmsDefect env ctx.keys content err) :
      LayerDefect eml outermostFrom outermostDate err
  | signed {layer : SignedLayer} {err : SmimeError}
      (hLayer : signedLayer env ctx eml outermostFrom outermostDate = some layer)
      (hDefect : VerificationDefect env.toExternals layer.signedData layer.target ctx.trust
        layer.sender layer.date err) :
      LayerDefect eml outermostFrom outermostDate err

variable {env ctx} {eml : Octets} {outermostFrom : Option Addr} {outermostDate : Option Instant}
  {message : Message} {ct : ContentType} {err : SmimeError}

/-- What is amiss with a layer that has a content type. -/
theorem layerDefect_iff (hMessage : env.parseMessage eml = some message)
    (hCt : message.contentType = some ct) :
    LayerDefect env ctx eml outermostFrom outermostDate err ↔
      (smimeContentKind ct ≠ .pkcs7Mime ∧ ClearSignedDefect env ctx eml message ct err) ∨
        (smimeContentKind ct = .pkcs7Mime ∧
          (pkcs7MimeContent env ctx.target message = .error err ∨ ∃ content : Content,
            pkcs7MimeContent env ctx.target message = .ok content ∧
              CmsDefect env ctx.keys content err)) ∨
          ∃ layer : SignedLayer, signedLayer env ctx eml outermostFrom outermostDate = some layer ∧
            VerificationDefect env.toExternals layer.signedData layer.target ctx.trust layer.sender
              layer.date err := by
  have hLayer := @layerContent_of_message env ctx eml message ct hMessage hCt
  constructor
  · intro hDefect
    cases hDefect with
    | unparsed hNone =>
        rw [hMessage] at hNone
        cases hNone
    | untyped hOther hNone =>
        rw [hMessage] at hOther
        cases hOther
        rw [hCt] at hNone
        cases hNone
    | clearSigned hOther hType hKind hDefect =>
        rw [hMessage] at hOther
        cases hOther
        rw [hCt] at hType
        cases hType
        exact .inl ⟨hKind, hDefect⟩
    | unread hOther hType hKind hContent =>
        rw [hMessage] at hOther
        cases hOther
        rw [hCt] at hType
        cases hType
        exact .inr (.inl ⟨hKind, .inl hContent⟩)
    | cms hContent hDefect =>
        rw [hLayer] at hContent
        split at hContent
        next hKind =>
          rw [toOption_eq_some_iff] at hContent
          exact .inr (.inl ⟨hKind, .inr ⟨_, hContent, hDefect⟩⟩)
        next => cases hContent
    | signed hSigned hDefect => exact .inr (.inr ⟨_, hSigned, hDefect⟩)
  · rintro (⟨hKind, hDefect⟩ | ⟨hKind, hContent | ⟨content, hContent, hDefect⟩⟩ |
      ⟨layer, hSigned, hDefect⟩)
    · exact .clearSigned hMessage hCt hKind hDefect
    · exact .unread hMessage hCt hKind hContent
    · rw [if_pos hKind, hContent] at hLayer
      exact .cms hLayer hDefect
    · exact .signed hSigned hDefect

/-- A verified layer records what is amiss with its SignedData. -/
theorem SignedLayer.verify_failures {layer : SignedLayer} (hFresh : layer.before.failures = []) :
    err ∈ (layer.verify env ctx).failures ↔
      VerificationDefect env.toExternals layer.signedData layer.target ctx.trust layer.sender
        layer.date err :=
  (verifySignedData_records env.toExternals layer.signedData layer.target ctx.trust layer.sender
    layer.date layer.before).mem_iff hFresh err

theorem clearSignedDefect_iff :
    ClearSignedDefect env ctx eml message ct err ↔
      (lacksBoundary ct = true ∧ err = .missingBoundary) ∨
        (lacksBoundary ct = false ∧
          ((smimeContentKind ct ≠ .signedMultipart ∧ err = .noSmimeSig) ∨
            (smimeContentKind ct = .signedMultipart ∧
              clearSignedInput env.toExternals ctx.target message eml = .error err))) := by
  constructor
  · intro hDefect
    cases hDefect with
    | boundary hBoundary => exact .inl ⟨hBoundary, rfl⟩
    | unsigned hBoundary hKind => exact .inr ⟨hBoundary, .inl ⟨hKind, rfl⟩⟩
    | unread hBoundary hKind hInput => exact .inr ⟨hBoundary, .inr ⟨hKind, hInput⟩⟩
  · rintro (⟨hBoundary, rfl⟩ | ⟨hBoundary, ⟨hKind, rfl⟩ | ⟨hKind, hInput⟩⟩)
    · exact .boundary hBoundary
    · exact .unsigned hBoundary hKind
    · exact .unread hBoundary hKind hInput

/-- A message that is not an opaque one records what keeps it from being verified,
or what is amiss with its SignedData. -/
theorem clearSigned_failures (hMessage : env.parseMessage eml = some message)
    (hCt : message.contentType = some ct) (hKind : smimeContentKind ct ≠ .pkcs7Mime) :
    err ∈ (verifySmimeFromEmlDetailed env.toExternals ctx.target eml ctx.trust).failures ↔
      ClearSignedDefect env ctx eml message ct err ∨
        ∃ layer : SignedLayer, signedLayer env ctx eml outermostFrom outermostDate = some layer ∧
          VerificationDefect env.toExternals layer.signedData layer.target ctx.trust layer.sender
            layer.date err := by
  rw [clearSignedDefect_iff]
  unfold verifySmimeFromEmlDetailed signedLayer
  simp only [hMessage, hCt]
  cases hBoundary : lacksBoundary ct with
  | true => cases hOwn : smimeContentKind ct <;> simp_all
  | false =>
      cases hOwn : smimeContentKind ct with
      | pkcs7Mime => exact absurd hOwn hKind
      | pkcs7Signature => simp
      | other => simp
      | signedMultipart =>
          unfold verifyClearSigned clearSignedLayer
          cases clearSignedInput env.toExternals ctx.target message eml with
          | error e => simp [eq_comm]
          | ok input =>
              have hVerified := @SignedLayer.verify_failures env ctx err
                { signedData := input.2
                  target := .detached input.1
                  sender := message.fromAddr
                  date := outerDateOf env.toExternals message
                  before := { signingSystem := .multipartSignedSmime } } rfl
              simpa [SignedLayer.verify] using hVerified

theorem cmsDefect_signedData_iff {signedData : SignedData} :
    CmsDefect env ctx.keys (.signedData signedData) err ↔
      SignedTarget.ofEcontent signedData = .error err := by
  constructor
  · intro hDefect
    cases hDefect with
    | foreign hSigned => exact absurd rfl (hSigned signedData)
    | withoutContent hTarget => exact hTarget
    | version hVersion => cases hVersion
    | undecrypted hDecryption => cases hDecryption
    | warning hOpened => cases hOpened
  · exact .withoutContent

theorem cmsDefect_foreign_iff {content : Content}
    (hSigned : ∀ signedData, content ≠ .signedData signedData)
    (hEncrypted : contentDecryption env ctx.keys content = none) :
    CmsDefect env ctx.keys content err ↔ err = .noPkcs7Content := by
  constructor
  · intro hDefect
    cases hDefect with
    | foreign => rfl
    | withoutContent => exact absurd rfl (hSigned _)
    | version hVersion =>
        cases content with
        | envelopedData | authEnvelopedData => cases hEncrypted
        | _ => cases hVersion
    | undecrypted hDecryption =>
        rw [hEncrypted] at hDecryption
        cases hDecryption
    | warning hOpened =>
        rw [hEncrypted] at hOpened
        cases hOpened
  · rintro rfl
    exact .foreign hSigned hEncrypted

/-- The CMS of an opaque message records what is amiss with it, or with its
SignedData. -/
theorem opaque_failures {content : Content}
    (hContent : pkcs7MimeContent env ctx.target message = .ok content) :
    err ∈ (processContent env ctx content outermostFrom outermostDate
        (layerHeaders env message)).failures ↔
      CmsDefect env ctx.keys content err ∨
        ∃ layer : SignedLayer, opaqueLayer env ctx message outermostFrom outermostDate = some layer ∧
          VerificationDefect env.toExternals layer.signedData layer.target ctx.trust layer.sender
            layer.date err := by
  unfold opaqueLayer
  rw [hContent]
  cases content with
  | data data =>
      have hSigned : ∀ signedData, Content.data data ≠ .signedData signedData := by simp
      rw [cmsDefect_foreign_iff hSigned rfl]
      simp [processContent, layerHeaders]
  | other =>
      have hSigned : ∀ signedData, Content.other ≠ .signedData signedData := by simp
      rw [cmsDefect_foreign_iff hSigned rfl]
      simp [processContent, layerHeaders]
  | envelopedData envelopedData =>
      rw [(processContent_records rfl _).mem_iff rfl]
      simp
  | authEnvelopedData authEnveloped =>
      rw [(processContent_records rfl _).mem_iff rfl]
      simp
  | signedData signedData =>
      rw [cmsDefect_signedData_iff]
      unfold processContent verifySignedDataLayer
      dsimp only
      cases SignedTarget.ofEcontent signedData with
      | error e => simp [layerHeaders, Except.toOption, eq_comm]
      | ok target =>
          have hVerified := @SignedLayer.verify_failures env ctx err
            { signedData
              target
              sender :=
                addrOf (layerHeaders env message).fromAddress (layerHeaders env message).fromComment
                  <|> outermostFrom
              date := (layerHeaders env message).date <|> outermostDate
              before := { layerHeaders env message with signingSystem := .mimePartSmime } } rfl
          simpa [SignedLayer.verify, toOption_ok] using hVerified

/-- A layer records what is amiss with it, and nothing else. -/
theorem decryptAndVerifyOneLayer_failures :
    err ∈ (decryptAndVerifyOneLayer env ctx eml outermostFrom outermostDate).failures ↔
      LayerDefect env ctx eml outermostFrom outermostDate err := by
  cases hMessage : env.parseMessage eml with
  | none =>
      unfold decryptAndVerifyOneLayer
      rw [hMessage]
      constructor
      · intro hErr
        rw [List.mem_singleton.mp hErr]
        exact .unparsed hMessage
      · intro hDefect
        cases hDefect with
        | unparsed => exact List.mem_singleton_self _
        | untyped hSome | clearSigned hSome | unread hSome =>
            rw [hMessage] at hSome
            cases hSome
        | cms hContent => simp [layerContent, hMessage] at hContent
        | signed hLayer => simp [signedLayer, hMessage] at hLayer
  | some message =>
      cases hCt : message.contentType with
      | none =>
          unfold decryptAndVerifyOneLayer
          simp only [hMessage, hCt]
          constructor
          · intro hErr
            rw [List.mem_singleton.mp hErr]
            exact .untyped hMessage hCt
          · intro hDefect
            cases hDefect with
            | untyped => exact List.mem_singleton_self _
            | unparsed hNone =>
                rw [hMessage] at hNone
                cases hNone
            | clearSigned hOther hType | unread hOther hType =>
                rw [hMessage] at hOther
                cases hOther
                rw [hCt] at hType
                cases hType
            | cms hContent => simp [layerContent, hMessage, hCt] at hContent
            | signed hLayer => simp [signedLayer, hMessage, hCt] at hLayer
      | some ct =>
          rw [layerDefect_iff hMessage hCt]
          by_cases hKind : smimeContentKind ct = .pkcs7Mime
          · obtain ⟨hLayer, hResult⟩ := @opaqueLayer_cases env ctx eml outermostFrom outermostDate
              message ct hMessage hCt hKind
            rw [hLayer]
            cases hContent : pkcs7MimeContent env ctx.target message with
            | error e =>
                rw [hContent] at hResult
                dsimp only at hResult
                rw [hResult, opaqueLayer, hContent]
                simp [hKind, eq_comm]
            | ok content =>
                rw [hContent] at hResult
                dsimp only at hResult
                rw [hResult, opaque_failures hContent]
                simp [hKind]
          · unfold decryptAndVerifyOneLayer
            simp only [hMessage, hCt, hKind, ne_eq, not_false_eq_true, if_true, true_and, false_and,
              false_or]
            exact clearSigned_failures hMessage hCt hKind

end Layer

section Loop

variable (env : CmsExternals) (ctx : LayerContext) (eml : Octets)

/-- What is amiss with the layer at hand. -/
def LayerState.HasDefect (state : LayerState) (err : SmimeError) : Prop :=
  LayerDefect env ctx state.currentEml (addrOf state.outerFromAddress state.outerFromComment)
    state.outerDate err

/-- The layers whose content is a further S/MIME message. -/
def passedStates : List LayerState :=
  (layerStates env ctx maxDecryptDepth 0 { currentEml := eml }).filter fun state =>
    (nestedEml env (state.process env ctx)).isSome

/-- What is amiss with the layer that ends the loop, or that it goes too deep. -/
def EndsWithDefect (err : SmimeError) : Prop :=
  match closingState env ctx (layerStates env ctx maxDecryptDepth 0 { currentEml := eml }) with
  | some closing => closing.HasDefect env ctx err
  | none => err = nestingFailure

variable {env ctx eml}

theorem process_failures {state : LayerState} {err : SmimeError} :
    err ∈ (state.process env ctx).failures ↔ state.HasDefect env ctx err :=
  decryptAndVerifyOneLayer_failures

theorem decryptAndVerify_records {err : SmimeError} :
    err ∈ (decryptAndVerifySmimeFromEmlDetailed env ctx eml).failures ↔
      EndsWithDefect env ctx eml err := by
  rw [(decryptAndVerify_closing env ctx eml).1, EndsWithDefect]
  cases closingState env ctx (layerStates env ctx maxDecryptDepth 0 { currentEml := eml }) with
  | none => exact List.mem_singleton
  | some closing => exact process_failures

/-- A layer is passed, or it is the one that ends the loop. -/
theorem mem_layerStates_cases {state : LayerState}
    (h : state ∈ layerStates env ctx maxDecryptDepth 0 { currentEml := eml }) :
    state ∈ passedStates env ctx eml ∨
      closingState env ctx (layerStates env ctx maxDecryptDepth 0 { currentEml := eml }) =
        some state := by
  cases hNested : nestedEml env (state.process env ctx) with
  | none => exact .inr (closingState_of_mem maxDecryptDepth 0 _ h hNested)
  | some content =>
      left
      apply List.mem_filter.mpr
      exact ⟨h, by rw [hNested]; rfl⟩

/-- Every failure of a layer is in the result, and the command succeeds only
without any, exactly when the layer that ends the loop has each defect of the
layers that are passed. -/
theorem failures_kept_iff (env : CmsExternals) (ctx : LayerContext) (eml : Octets) :
    ((∀ layer ∈ processedLayers env ctx eml, ∀ err ∈ layer.failures,
        err ∈ (decryptAndVerifySmimeFromEmlDetailed env ctx eml).failures) ∧
      (exitCode (decryptAndVerifySmimeFromEmlDetailed env ctx eml) = 0 →
        ∀ layer ∈ processedLayers env ctx eml, layer.failures = [])) ↔
      ∀ state ∈ passedStates env ctx eml, ∀ err : SmimeError,
        state.HasDefect env ctx err → EndsWithDefect env ctx eml err := by
  unfold processedLayers
  rw [List.forall_mem_map, List.forall_mem_map]
  constructor
  · rintro ⟨hKept, -⟩ state hState err hDefect
    rw [← decryptAndVerify_records]
    exact hKept state (List.mem_filter.mp hState).1 err (process_failures.mpr hDefect)
  · intro hPassed
    have hKept : ∀ state ∈ layerStates env ctx maxDecryptDepth 0 { currentEml := eml },
        ∀ err ∈ (state.process env ctx).failures,
          err ∈ (decryptAndVerifySmimeFromEmlDetailed env ctx eml).failures := by
      intro state hState err hErr
      rw [process_failures] at hErr
      rw [decryptAndVerify_records]
      rcases mem_layerStates_cases hState with hPass | hClosing
      · exact hPassed state hPass err hErr
      · rw [EndsWithDefect, hClosing]
        exact hErr
    refine ⟨hKept, fun hExit state hState => ?_⟩
    have hNone : (decryptAndVerifySmimeFromEmlDetailed env ctx eml).failures = [] := by
      simpa [exitCode] using hExit
    rw [List.eq_nil_iff_forall_not_mem]
    intro err hErr
    have hMem := hKept state hState err hErr
    rw [hNone] at hMem
    cases hMem

/-- The version of the outer SignedData is a failure of its layer, and the
command succeeds. -/
theorem not_failures_kept :
    ¬ ∀ (env : CmsExternals) (ctx : LayerContext) (eml : Octets),
      (∀ layer ∈ processedLayers env ctx eml, ∀ err ∈ layer.failures,
          err ∈ (decryptAndVerifySmimeFromEmlDetailed env ctx eml).failures) ∧
        (exitCode (decryptAndVerifySmimeFromEmlDetailed env ctx eml) = 0 →
          ∀ layer ∈ processedLayers env ctx eml, layer.failures = []) := by
  intro h
  have hRun : (processedLayers nestedExternals debugTrust outerEml).map
        SmimeValidationResult.failures = [[.cmsVersionMismatch "SignedData" 1 3 none], []] ∧
      exitCode (decryptAndVerifySmimeFromEmlDetailed nestedExternals debugTrust outerEml) = 0 := by
    decide +kernel
  obtain ⟨hLayers, hExit⟩ := hRun
  have hNone := (h nestedExternals debugTrust outerEml).2 hExit
  have hMem : [SmimeError.cmsVersionMismatch "SignedData" 1 3 none] ∈
      (processedLayers nestedExternals debugTrust outerEml).map SmimeValidationResult.failures := by
    rw [hLayers]
    exact List.mem_cons_self
  rcases List.mem_map.mp hMem with ⟨layer, hLayer, hFailures⟩
  rw [hNone layer hLayer] at hFailures
  cases hFailures

end Loop

end Smime
