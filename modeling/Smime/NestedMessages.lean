import Smime.Cms.Distinguished
import Smime.Data.Utf8Chars
import Smime.LayerReport
import Smime.SenderFallback
import Smime.SignRoundTrip
import Smime.Utils.CmsRefinement
import Smime.X690.Unique

/-! Nested messages from end to end: the layers that `src/create_cms.rs` puts
around a content are those that the loop of `src/decrypt_verify.rs` takes off
again, up to its nesting limit. -/
namespace Smime.CreateCms

open X690 (Octets)
open X509 Mail Utils ModifyCms

section Laws

/-- DER, with the sets of a SignedData in order that implicit tagging hides. -/
def IsCmsDer (der : Octets) : Prop :=
  ∃ value : X690.Value, der = value.encode ∧ value.SetsAscending ∧ Cms.SetsSorted value value

/-- An element in DER. -/
def InDer (der : Octets) : Prop :=
  ∃ value : X690.Value, der = value.encode ∧ value.SetsAscending

/-- What `build_stapled_cms` embeds as it is. -/
def StapledSigner.EmbedsDer (signer : StapledSigner) : Prop :=
  ∀ der ∈ signer.signerIssuerNameDer :: signer.leafDer :: signer.rootDer ::
    (signer.extraCertDers ++ signer.ocspRespDers), InDer der

/-- What `encrypt` writes for the certificates. -/
inductive Encrypted (env : CmsExternals) (certs : List (Octets × Certificate)) : Content → Prop
  | enveloped {cek : Octets} {pkcs1v15 : Bool} {ris : List RecipientInfo} {iv : Bytes 16}
      {ciphertext : Octets} (built : BuiltFor env cek pkcs1v15 certs ris) :
      Encrypted env certs (.envelopedData (envelopedDataOf ris iv ciphertext))
  | authEnveloped {cek : Octets} {pkcs1v15 : Bool} {ris : List RecipientInfo} {nonce : Bytes 12}
      {ciphertext tag : Octets} (built : BuiltFor env cek pkcs1v15 certs ris) :
      Encrypted env certs (.authEnvelopedData (authEnvelopedDataOf ris nonce ciphertext tag))

/-- The normalisation takes elements of this size and depth. -/
def Fits (target : Target) (der : Octets) : Prop :=
  der.length < target.usizeSize ∧
    ∀ value : X690.Value, der = value.encode → value.height ≤ maxBerDepth

/-- The header field of `mimePkcs7Entity`. -/
def pkcs7MimeTypeOf (smimeType : String) : ContentType :=
  ⟨"application", some "pkcs7-mime", [("smime-type", smimeType), ("name", "smime.p7m")]⟩

/-- A message of one part, whose contents are the CMS. -/
def CarriesCms (smimeType : String) (der : Octets) (message : Message) : Prop :=
  ∃ info : PartInfo, message.parts = [⟨info, .leaf⟩] ∧
    info.contentType = some (pkcs7MimeTypeOf smimeType) ∧ info.contents = der

/-- What the two directions rely on: the laws of the signature and the encryption,
DER from the writers when what they embed is in DER, and a parser that takes an entity apart as it was put
together, with a sender for a whole message only. -/
structure NestingLaws (env : CreateExternals) (subject : String) : Prop where
  signing : SigningLaws env
  encodings : EncodingLaws env.toCmsExternals
  agreement : AgreementLaws env.toCmsExternals
  ciphers : CipherLaws env.toCmsExternals
  signedDer : ∀ (signer : StapledSigner) (content : Octets) (sent : SignedData) (der : Octets),
    signer.EmbedsDer → Assembled env signer content sent →
      env.writeSignedData [sha256Algorithm] sent = .ok der → IsCmsDer der
  encryptedDer : ∀ (certs : List (Octets × Certificate)) (content : Content) (der : Octets),
    (∀ cert ∈ certs, InDer cert.1 ∧ env.parseCertificate cert.1 = .ok cert.2) →
      Encrypted env.toCmsExternals certs content → env.writeContentInfo content = .ok der →
        IsCmsDer der
  entity : ∀ (layer : Layer env) (der : Octets), ∃ message : Message,
    env.parseMessage (mimePkcs7Entity der layer.smimeType) = some message ∧
      CarriesCms layer.smimeType der message
  outermost : ∀ (layer : Layer env) (der : Octets), ∃ message : Message,
    env.parseMessage (fixtureEml env der subject layer.smimeType) = some message ∧
      CarriesCms layer.smimeType der message ∧ (message.fromAddr.bind Addr.address).isSome

end Laws

section Receiver

/-- The receiver trusts the signer of each layer, or has the key of one of its
recipients. The certificates of both are in DER, and so are the staples. Those of the
signers are listed. -/
inductive Received {env : CreateExternals} (ctx : LayerContext) :
    List (Layer env) → List Certificate → Prop
  | nil : Received ctx [] []
  | sign {signer : StapledSigner} {leaf : Certificate} {inner : List (Layer env)}
      {leaves : List Certificate} (inDer : signer.EmbedsDer) (owns : signer.Owns env leaf)
      (trusted : signer.TrustedBy env leaf ctx.trust) (rest : Received ctx inner leaves) :
      Received ctx (.sign signer :: inner) (leaf :: leaves)
  | encrypt {random : EncryptRandom env.toCmsExternals} {certsPem : List String}
      {cipher : ContentCipher} {pkcs1v15 : Bool} {certs : List (Octets × Certificate)}
      {cert : Octets × Certificate} {inner : List (Layer env)} {leaves : List Certificate}
      (listed : ListsCerts env.toCmsExternals certsPem certs)
      (inDer : ∀ cert ∈ certs, InDer cert.1) (distinct : (recipientIds certs).Nodup) (mem : cert ∈ certs)
      (own : ctx.keys.recipientCertDer = cert.1)
      (key : KeyMatches env.toCmsExternals cert.2 ctx.keys.privateKeyDer)
      (rest : Received ctx inner leaves) :
      Received ctx (.encrypt random certsPem cipher pkcs1v15 :: inner) leaves

/-- The CMS of every layer is one that the receiver's normalisation takes. -/
def AllFit {env : CreateExternals} (target : Target) (layers : List (Layer env))
    (content : Octets) : Prop :=
  ∀ (layer : Layer env) (inner : List (Layer env)) (body der : Octets),
    layer :: inner <:+ layers → Layer.nest inner content = some body →
      layer.build body = some der → Fits target der

/-- As `encryption_info` names it. -/
def cipherNames : ContentCipher → String × String
  | .aes256Cbc => ("AES-CBC", "256-bit")
  | .aes256Gcm => ("AES-GCM", "256-bit")

def Layer.cipherNames? {env : CreateExternals} : Layer env → Option (String × String)
  | .sign _ => none
  | .encrypt _ _ cipher _ => some (cipherNames cipher)

def infoNames (info : EncryptionInfo) : String × String := (info.cipher, info.keySize)

def SignedBy (env : CreateExternals) (leaf : Certificate) (entry : SignerValidation) : Prop :=
  entry.signatureValid = true ∧ EntryOf env.toExternals leaf entry

/-- A layer gives its content, and names its signer or its cipher. -/
structure OpensAs {env : CreateExternals} (layer : Layer env) (own : List Certificate)
    (body : Octets) (result : SmimeValidationResult) : Prop where
  failures : result.failures = []
  content : result.signedContent = some body
  signers : List.Forall₂ (SignedBy env) own result.signers
  cipher : result.encryptionInfo.map infoNames = layer.cipherNames?

end Receiver

section OneLayer

variable {env : CreateExternals} {subject : String} {ctx : LayerContext} {layer : Layer env}
  {inner : List (Layer env)} {leaves : List Certificate} {content body der : Octets}
  {message : Message}

theorem berToDerCms_fits {target : Target} (hDer : IsCmsDer der) (hFits : Fits target der) :
    berToDerCms target der = .ok der := by
  obtain ⟨value, rfl, hSets, hSorted⟩ := hDer
  rw [berToDerCms, berToDer_encode target hSets (hFits.2 value rfl) hFits.1]
  exact sortCmsImplicitSets_of_setsSorted hSorted hFits.1

theorem smimeContentKind_pkcs7MimeTypeOf (smimeType : String) :
    smimeContentKind (pkcs7MimeTypeOf smimeType) = .pkcs7Mime := by
  have hType : eqIgnoreAsciiCase "application" "application" = true := by decide
  have hSubtype : eqIgnoreAsciiCase "pkcs7-mime" "pkcs7-mime" = true := by decide
  simp [smimeContentKind, pkcs7MimeTypeOf, hType, hSubtype]

theorem CarriesCms.contentType {smimeType : String} (h : CarriesCms smimeType der message) :
    message.contentType = some (pkcs7MimeTypeOf smimeType) := by
  obtain ⟨info, hParts, hType, -⟩ := h
  rw [Message.contentType, hParts, List.head?_cons, Option.bind_some, hType]

theorem CarriesCms.isSmimeMime {smimeType : String} (h : CarriesCms smimeType der message) :
    isSmimeMime message = true := by
  rw [Smime.isSmimeMime, h.contentType, Option.any_some, smimeContentKind_pkcs7MimeTypeOf]
  rfl

/-- The CMS of the one part is parsed as it was written. -/
theorem CarriesCms.pkcs7MimeContent {smimeType : String} {read : Content}
    (h : CarriesCms smimeType der message) (hDer : IsCmsDer der) (hFits : Fits ctx.target der)
    (hRead : env.parseContentInfo der = .ok read) :
    pkcs7MimeContent env.toCmsExternals ctx.target message = .ok read := by
  obtain ⟨info, hParts, hType, hContents⟩ := h
  have hKind : hasKind .pkcs7Mime info = true := by
    rw [hasKind, hType, Option.any_some, smimeContentKind_pkcs7MimeTypeOf]
    rfl
  have hFound : (message.parts.find? fun part => hasKind .pkcs7Mime part.toPartInfo) =
      some ⟨info, .leaf⟩ := by
    rw [hParts, List.find?_cons, hKind]
  rw [Smime.pkcs7MimeContent, extractSmimeOpaqueP7mDer, hFound, orError, Except.ok_bind', hContents,
    berToDerCms_fits hDer hFits, Except.mapError, Except.ok_bind', hRead]
  rfl

theorem decryptAndVerifyOneLayer_carried {smimeType : String} {eml : Octets} {read : Content}
    (hMessage : env.parseMessage eml = some message) (hCarries : CarriesCms smimeType der message)
    (hDer : IsCmsDer der) (hFits : Fits ctx.target der)
    (hRead : env.parseContentInfo der = .ok read) (outermostFrom : Option Addr)
    (outermostDate : Option Instant) :
    decryptAndVerifyOneLayer env.toCmsExternals ctx eml outermostFrom outermostDate =
      processContent env.toCmsExternals ctx read outermostFrom outermostDate
        (layerHeaders env.toCmsExternals message) := by
  have hContent := hCarries.pkcs7MimeContent hDer hFits hRead
  rw [decryptAndVerifyOneLayer, hMessage]
  dsimp only
  rw [hCarries.contentType]
  dsimp only
  rw [if_neg (not_not.mpr (smimeContentKind_pkcs7MimeTypeOf smimeType)), hContent]

theorem readsCms_carried {smimeType : String} {eml : Octets} {read : Content}
    (hMessage : env.parseMessage eml = some message) (hCarries : CarriesCms smimeType der message)
    (hDer : IsCmsDer der) (hFits : Fits ctx.target der)
    (hRead : env.parseContentInfo der = .ok read) : ReadsCms env.toCmsExternals ctx eml message :=
  ⟨hMessage, ⟨_, hCarries.contentType, smimeContentKind_pkcs7MimeTypeOf smimeType⟩, read,
    hCarries.pkcs7MimeContent hDer hFits hRead⟩

section Encrypted

variable {random : EncryptRandom env.toCmsExternals} {certsPem : List String}
  {cipher : ContentCipher} {pkcs1v15 : Bool} {certs : List (Octets × Certificate)}
  {cert : Octets × Certificate}

/-- The RecipientInfos of an encrypted layer, and its content for them. -/
theorem encrypt_built (encodings : EncodingLaws env.toCmsExternals)
    (hList : ListsCerts env.toCmsExternals certsPem certs)
    (h : Smime.encrypt env.toCmsExternals random certsPem body cipher pkcs1v15 = some (.ok der)) :
    ∃ (ris : List RecipientInfo) (risDer : List Octets),
      BuiltFor env.toCmsExternals random.cek.val pkcs1v15 certs ris ∧
        List.Forall₂ (fun d ri => env.parseRecipientInfo d = .ok ri) risDer ris ∧
          encryptContent env.toCmsExternals random ris body cipher = some (.ok der) := by
  rw [Smime.encrypt] at h
  split_ifs at h with hEmpty
  · cases h
  cases hInfos : recipientInfosFor env.toCmsExternals random certsPem pkcs1v15 with
  | error err =>
      rw [hInfos] at h
      cases h
  | ok risDer =>
      rw [hInfos] at h
      rw [recipientInfosFor, mapM_parsePem hList, Except.ok_bind'] at hInfos
      obtain ⟨ris, hBuilt, hParsed⟩ :=
        buildRecipientInfos_built encodings (forall_parseCertificate hList) hInfos
      dsimp only at h
      rw [mapM_toOption hParsed] at h
      exact ⟨ris, risDer, hBuilt, hParsed, h⟩

/-- What is written is in DER, and says which cipher was taken. -/
theorem encryptContent_written (laws : NestingLaws env subject) {ris : List RecipientInfo}
    {risDer : List Octets} {read : Content}
    (hCerts : ∀ cert ∈ certs, InDer cert.1 ∧ env.parseCertificate cert.1 = .ok cert.2)
    (hBuilt : BuiltFor env.toCmsExternals random.cek.val pkcs1v15 certs ris)
    (hParsed : List.Forall₂ (fun d ri => env.parseRecipientInfo d = .ok ri) risDer ris)
    (h : encryptContent env.toCmsExternals random ris body cipher = some (.ok der))
    (hRead : env.parseContentInfo der = .ok read) :
    IsCmsDer der ∧
      (contentEncryption env.toCmsExternals read).map infoNames = some (cipherNames cipher) := by
  cases cipher with
  | aes256Cbc =>
      simp only [encryptContent, Option.bind_eq_bind, Option.bind_eq_some_iff, Option.pure_def,
        Option.some.injEq, Except.mapError_eq_ok_iff] at h
      obtain ⟨ciphertext, -, hWrite⟩ := h
      obtain ⟨ordered, -, hOrdered⟩ :=
        laws.encodings.enveloped risDer ris random.iv ciphertext der hParsed hWrite
      rw [hOrdered, Except.ok.injEq] at hRead
      subst hRead
      exact ⟨laws.encryptedDer certs _ _ hCerts (.enveloped hBuilt) hWrite, rfl⟩
  | aes256Gcm =>
      simp only [encryptContent, Option.bind_eq_bind, Option.bind_eq_some_iff, Option.pure_def,
        Option.some.injEq, Except.mapError_eq_ok_iff] at h
      obtain ⟨⟨ciphertext, tag⟩, -, hWrite⟩ := h
      obtain ⟨ordered, -, hOrdered⟩ :=
        laws.encodings.authEnveloped risDer ris random.nonce ciphertext tag der hParsed hWrite
      rw [hOrdered, Except.ok.injEq] at hRead
      subst hRead
      exact ⟨laws.encryptedDer certs _ _ hCerts (.authEnveloped hBuilt) hWrite, rfl⟩

theorem processContent_decrypted {read : Content} (hDecrypts : DecryptsTo env.toCmsExternals certs
      body cipher read) (hMem : cert ∈ certs) (hOwn : ctx.keys.recipientCertDer = cert.1)
    (hKey : KeyMatches env.toCmsExternals cert.2 ctx.keys.privateKeyDer)
    (outermostFrom : Option Addr) (outermostDate : Option Instant)
    (result : SmimeValidationResult) :
    let after := processContent env.toCmsExternals ctx read outermostFrom outermostDate result
    after.failures = result.failures ∧ after.signedContent = some body ∧
      after.signers = result.signers := by
  have hRecord : ∀ before : SmimeValidationResult, recordDecryption (.ok (some body, [])) before =
      { before with signedContent := some body } := by
    intro before
    simp [recordDecryption, SmimeValidationResult.extend]
  cases cipher with
  | aes256Cbc =>
      cases read with
      | envelopedData enveloped =>
          have hOpen := hDecrypts.opens cert hMem ctx.keys hOwn hKey
          have hFailures := hDecrypts.versions ctx.keys result
          rw [hOpen, hRecord] at hFailures
          refine ⟨hFailures, ?_⟩
          simp only [processContent, decryptEnvelopedDataLayer, hOpen, hRecord,
            SmimeValidationResult.signers_extend, and_self]
      | _ => exact hDecrypts.elim
  | aes256Gcm =>
      cases read with
      | authEnvelopedData authEnveloped =>
          have hOpen := hDecrypts.opens cert hMem ctx.keys hOwn hKey
          have hFailures := hDecrypts.versions ctx.keys result
          rw [hOpen, hRecord] at hFailures
          refine ⟨hFailures, ?_⟩
          simp only [processContent, decryptAuthEnvelopedDataLayer, hOpen, hRecord,
            SmimeValidationResult.signers_extend, and_self]
      | _ => exact hDecrypts.elim

end Encrypted

/-- One layer, whichever it is: the receiver gets its content without a failure. -/
theorem Received.opens (laws : NestingLaws env subject) (h : Received ctx (layer :: inner) leaves)
    {eml : Octets} (hMessage : env.parseMessage eml = some message)
    (hCarries : CarriesCms layer.smimeType der message) (hBuild : layer.build body = some der)
    (hFits : Fits ctx.target der) (hBody : (env.parseMessage body).isSome)
    {outermostFrom : Option Addr}
    (hFrom : (message.fromAddr.bind Addr.address).isSome ∨ outermostFrom.isSome)
    (outermostDate : Option Instant) :
    ReadsCms env.toCmsExternals ctx eml message ∧
      ∃ own rest : List Certificate, leaves = own ++ rest ∧ Received ctx inner rest ∧
        OpensAs layer own body (decryptAndVerifyOneLayer env.toCmsExternals ctx eml outermostFrom
          outermostDate) := by
  cases h with
  | @sign signer leaf _ rest inDer owns trusted hRest =>
      obtain ⟨sent, hAssembled, hWrite⟩ := buildStapledCms_some hBuild
      have hDer := laws.signedDer _ _ _ _ inDer hAssembled hWrite
      obtain ⟨signedData, hRead, hReads⟩ := buildStapledCms_reads laws.signing owns hBuild
      have hTarget : SignedTarget.ofEcontent signedData = .ok (.econtent body) := by
        rw [SignedTarget.ofEcontent, hReads.target]
      refine ⟨readsCms_carried hMessage hCarries hDer hFits hRead, [leaf], rest, rfl, hRest, ?_⟩
      obtain ⟨sender, hSender⟩ : ∃ sender : Addr,
          (addrOf (message.fromAddr.bind Addr.address) (message.fromAddr.bind Addr.name) <|>
            outermostFrom) = some sender := by
        rw [← Option.isSome_iff_exists]
        rcases hFrom with hOwn | hOuter
        · obtain ⟨address, hAddress⟩ := Option.isSome_iff_exists.mp hOwn
          simp [addrOf, hAddress]
        · cases addrOf (message.fromAddr.bind Addr.address) (message.fromAddr.bind Addr.name) with
          | none => exact hOuter
          | some own => rfl
      have hInfo : (processContent env.toCmsExternals ctx (.signedData signedData) outermostFrom
          outermostDate (layerHeaders env.toCmsExternals message)).encryptionInfo = none :=
        processContent_encryptionInfo rfl
      rw [decryptAndVerifyOneLayer_carried hMessage hCarries hDer hFits hRead]
      have hRun : VerifiedAs env leaf body (processContent env.toCmsExternals ctx
          (.signedData signedData) outermostFrom outermostDate
            (layerHeaders env.toCmsExternals message)) := by
        simp only [processContent, verifySignedDataLayer, hTarget, layerHeaders, hSender]
        exact verifySignedData_verified laws.signing owns trusted hBody hReads sender _ _ rfl rfl
      obtain ⟨entry, hSigners, hValid, hOf⟩ := hRun.signer
      refine ⟨hRun.failures, hRun.content, ?_, ?_⟩
      · rw [hSigners]
        exact .cons ⟨hValid, hOf⟩ .nil
      · rw [hInfo]
        rfl
  | @encrypt random certsPem cipher pkcs1v15 certs cert _ _ listed inDer distinct mem own key hRest =>
      have hEncrypt : Smime.encrypt env.toCmsExternals random certsPem body cipher pkcs1v15 =
          some (.ok der) := by
        rw [Layer.build, Option.bind_eq_some_iff] at hBuild
        obtain ⟨outcome, hOutcome, hOk⟩ := hBuild
        rw [toOption_eq_some_iff] at hOk
        rw [hOutcome, hOk]
      obtain ⟨ris, risDer, hBuilt, hParsed, hContent⟩ :=
        encrypt_built laws.encodings listed hEncrypt
      obtain ⟨read, hRead, hDecrypts⟩ := encryptContent_decrypts laws.encodings laws.agreement
        laws.ciphers hBuilt hParsed (forall_parseCertificate listed) distinct cipher hContent
      obtain ⟨hDer, hCipher⟩ := encryptContent_written laws
        (fun cert hMem => ⟨inDer cert hMem, forall_parseCertificate listed cert hMem⟩) hBuilt
        hParsed hContent hRead
      refine ⟨readsCms_carried hMessage hCarries hDer hFits hRead, [], leaves, rfl, hRest, ?_⟩
      rw [decryptAndVerifyOneLayer_carried hMessage hCarries hDer hFits hRead]
      obtain ⟨hFailures, hPlain, hSigners⟩ := processContent_decrypted hDecrypts mem own key
        outermostFrom outermostDate (layerHeaders env.toCmsExternals message)
      refine ⟨hFailures, hPlain, ?_, ?_⟩
      · rw [hSigners]
        exact .nil
      · rw [processContent_encryptionInfo rfl]
        exact hCipher

end OneLayer

section Text

theorem wellFormed_ascii {octets : Octets} (h : ∀ c ∈ octets, c.toNat < 0x80) :
    Utf8.WellFormed octets := by
  induction octets with
  | nil => rfl
  | cons c rest ih =>
      rw [List.forall_mem_cons] at h
      rw [Utf8.WellFormed, Utf8.run_ascii h.1, if_pos rfl]
      exact ih h.2

theorem wellFormed_wrapBase64 (der : Octets) : Utf8.WellFormed (wrapBase64 der) := by
  apply wellFormed_ascii
  intro c hMem
  rcases (isBase64Text_wrapBase64 der).1 c hMem with hDigit | rfl | hBreak
  · simp only [Base64.isDigit, Bool.or_eq_true, Bool.and_eq_true, decide_eq_true_eq, beq_iff_eq,
      UInt8.le_iff_toNat_le, ← UInt8.toNat_inj, UInt8.reduceToNat] at hDigit
    omega
  · decide
  · simp only [Base64.isLineBreak, Bool.or_eq_true, beq_iff_eq, ← UInt8.toNat_inj,
      UInt8.reduceToNat] at hBreak
    omega

theorem wellFormed_mimePkcs7Entity (der : Octets) (smimeType : String) :
    Utf8.WellFormed (mimePkcs7Entity der smimeType) := by
  apply Utf8.WellFormed.append
  · rw [pkcs7Header, utf8, Utf8.toList_toUTF8]
    exact Utf8.wellFormed_flatMap _
  · exact wellFormed_wrapBase64 der

/-- An entity is text, which the loop wants of a nested message. -/
theorem fromUtf8_mimePkcs7Entity (env : Externals) (der : Octets) (smimeType : String) :
    (fromUtf8 env (mimePkcs7Entity der smimeType)).toOption.isSome := by
  rw [fromUtf8, String.fromUTF8?,
    dif_pos (Utf8.wellFormed_iff_isValidUTF8.mp (wellFormed_mimePkcs7Entity der smimeType))]
  rfl

end Text

section Nesting

variable {env : CreateExternals} {subject : String} {ctx : LayerContext} {layer next : Layer env}
  {inner : List (Layer env)} {own rest leaves : List Certificate} {content body eml : Octets}
  {result : SmimeValidationResult} {results : List SmimeValidationResult}

/-- A message, and not of S/MIME. -/
def IsPlain (env : CreateExternals) (content : Octets) : Prop :=
  ∃ message : Message, env.parseMessage content = some message ∧ isSmimeMime message = false

/-- What there is in an entity. -/
theorem nest_cons (laws : NestingLaws env subject)
    (h : Layer.nest (layer :: inner) content = some eml) :
    ∃ (body der : Octets) (message : Message), Layer.nest inner content = some body ∧
      layer.build body = some der ∧ eml = mimePkcs7Entity der layer.smimeType ∧
        env.parseMessage eml = some message ∧ CarriesCms layer.smimeType der message := by
  simp only [Layer.nest, Option.bind_eq_bind, Option.bind_eq_some_iff, Option.pure_def,
    Option.some.injEq] at h
  obtain ⟨body, hBody, der, hDer, rfl⟩ := h
  obtain ⟨message, hMessage, hCarries⟩ := laws.entity layer der
  exact ⟨body, der, message, hBody, hDer, rfl, hMessage, hCarries⟩

theorem parses_nest (laws : NestingLaws env subject) (hPlain : IsPlain env content)
    (h : Layer.nest inner content = some body) : (env.parseMessage body).isSome := by
  cases inner with
  | nil =>
      cases h
      obtain ⟨message, hMessage, -⟩ := hPlain
      rw [hMessage]
      rfl
  | cons layer inner =>
      obtain ⟨-, -, message, -, -, -, hMessage, -⟩ := nest_cons laws h
      rw [hMessage]
      rfl

theorem nestedEml_nest (laws : NestingLaws env subject)
    (hContent : result.signedContent = some body)
    (h : Layer.nest (next :: inner) content = some body) :
    nestedEml env.toCmsExternals result = some body := by
  obtain ⟨-, der, message, -, -, rfl, hMessage, hCarries⟩ := nest_cons laws h
  rw [nestedEml, hContent, Option.filter_some, fromUtf8_mimePkcs7Entity, hMessage, Option.any_some,
    hCarries.isSmimeMime]
  rfl

theorem nestedEml_plain (hContent : result.signedContent = some content)
    (hPlain : IsPlain env content) : nestedEml env.toCmsExternals result = none := by
  obtain ⟨message, hMessage, hOther⟩ := hPlain
  rw [nestedEml, hContent, Option.filter_some, hMessage, Option.any_some, hOther, Bool.and_false]
  rfl

/-- What the layers of a message give together. -/
structure Reports (layers : List (Layer env)) (leaves : List Certificate) (content : Octets)
    (results : List SmimeValidationResult) : Prop where
  closing : ∃ closing : SmimeValidationResult,
    closingLayer env.toCmsExternals results = some closing ∧ closing.failures = [] ∧
      closing.signedContent = some content ∧
        closing.encryptionInfo.map infoNames = layers.getLast?.bind Layer.cipherNames?
  signers : List.Forall₂ (SignedBy env) leaves (results.flatMap SmimeValidationResult.signers)
  cipher : (results.findSome? SmimeValidationResult.encryptionInfo).map infoNames =
    layers.findSome? Layer.cipherNames?

theorem Reports.single (hOpens : OpensAs layer own content result)
    (hLast : nestedEml env.toCmsExternals result = none) :
    Reports [layer] own content [result] where
  closing := ⟨result, closingLayer_single hLast, hOpens.failures, hOpens.content, hOpens.cipher⟩
  signers := by
    rw [List.flatMap_singleton]
    exact hOpens.signers
  cipher := by
    have hCipher := hOpens.cipher
    rw [List.findSome?_singleton, List.findSome?_singleton]
    exact hCipher

theorem Reports.cons (hOpens : OpensAs layer own body result)
    (hNested : (nestedEml env.toCmsExternals result).isSome)
    (h : Reports (next :: inner) rest content results) :
    Reports (layer :: next :: inner) (own ++ rest) content (result :: results) where
  closing := by
    rw [closingLayer_cons_nested hNested, List.getLast?_cons_cons]
    exact h.closing
  signers := by
    rw [List.flatMap_cons]
    exact List.rel_append hOpens.signers h.signers
  cipher := by
    have hCipher := hOpens.cipher
    rw [List.findSome?_cons, List.findSome?_cons, ← hCipher, ← h.cipher]
    cases result.encryptionInfo <;> rfl

theorem AllFit.tail (h : AllFit ctx.target (layer :: inner) content) :
    AllFit ctx.target inner content :=
  fun other others body der hSuffix => h other others body der (hSuffix.trans (List.suffix_cons _ _))

/-- Inside a message the layers come off one after the other. -/
theorem innerLayers_reports (laws : NestingLaws env subject) (hPlain : IsPlain env content)
    {outermostFrom : Option Addr} (hFrom : outermostFrom.isSome) (outermostDate : Option Instant)
    (bound : Nat) (hReceived : Received ctx (layer :: inner) leaves)
    (hFits : AllFit ctx.target (layer :: inner) content)
    (hNest : Layer.nest (layer :: inner) content = some eml) :
    let results := innerLayers env.toCmsExternals ctx outermostFrom outermostDate bound eml
    (inner.length < bound → Reports (layer :: inner) leaves content results) ∧
      (bound ≤ inner.length → closingLayer env.toCmsExternals results = none) := by
  induction inner generalizing layer leaves eml bound with
  | nil =>
      cases bound with
      | zero => exact ⟨fun h => absurd h (Nat.not_lt_zero _), fun _ => rfl⟩
      | succ bound =>
          obtain ⟨body, der, message, hBody, hBuild, -, hMessage, hCarries⟩ := nest_cons laws hNest
          obtain rfl : content = body := Option.some.inj hBody
          obtain ⟨-, own, rest, rfl, hRest, hOpens⟩ := hReceived.opens laws hMessage hCarries hBuild
            (hFits layer [] content der (List.suffix_refl _) rfl hBuild)
            (parses_nest laws hPlain hBody) (.inr hFrom) outermostDate
          cases hRest
          have hLast := nestedEml_plain hOpens.content hPlain
          refine ⟨fun _ => ?_, fun h => absurd h (by simp)⟩
          rw [innerLayers, hLast, List.append_nil]
          exact .single hOpens hLast
  | cons next inner ih =>
      cases bound with
      | zero => exact ⟨fun h => absurd h (Nat.not_lt_zero _), fun _ => rfl⟩
      | succ bound =>
          obtain ⟨body, der, message, hBody, hBuild, -, hMessage, hCarries⟩ := nest_cons laws hNest
          obtain ⟨-, own, rest, rfl, hRest, hOpens⟩ := hReceived.opens laws hMessage hCarries hBuild
            (hFits layer (next :: inner) body der (List.suffix_refl _) hBody hBuild)
            (parses_nest laws hPlain hBody) (.inr hFrom) outermostDate
          have hNested := nestedEml_nest laws hOpens.content hBody
          have hSome : (nestedEml env.toCmsExternals (decryptAndVerifyOneLayer env.toCmsExternals
              ctx eml outermostFrom outermostDate)).isSome := by
            rw [hNested]
            rfl
          obtain ⟨hReports, hExceeded⟩ := ih bound hRest hFits.tail hBody
          rw [innerLayers, hNested]
          refine ⟨fun h => .cons hOpens hSome (hReports (Nat.lt_of_succ_lt_succ h)), fun h => ?_⟩
          rw [closingLayer_cons_nested hSome]
          exact hExceeded (Nat.le_of_succ_le_succ h)

/-- The layers of the whole message, of which the outermost one has the sender. -/
theorem layersOf_reports (laws : NestingLaws env subject) (hPlain : IsPlain env content)
    (hReceived : Received ctx (layer :: inner) leaves)
    (hFits : AllFit ctx.target (layer :: inner) content)
    (hBuilt : Layer.nestedEml subject layer inner content = some eml) :
    let results := layersOf env.toCmsExternals ctx eml
    (inner.length < maxDecryptDepth → Reports (layer :: inner) leaves content results) ∧
      (maxDecryptDepth ≤ inner.length → closingLayer env.toCmsExternals results = none) := by
  simp only [Layer.nestedEml, Option.bind_eq_bind, Option.bind_eq_some_iff, Option.pure_def,
    Option.some.injEq] at hBuilt
  obtain ⟨body, hBody, der, hBuild, rfl⟩ := hBuilt
  obtain ⟨message, hMessage, hCarries, hSender⟩ := laws.outermost layer der
  obtain ⟨hReads, own, rest, rfl, hRest, hOpens⟩ := hReceived.opens laws hMessage hCarries hBuild
    (hFits layer inner body der (List.suffix_refl _) hBody hBuild) (parses_nest laws hPlain hBody)
    (.inl hSender : _ ∨ (none : Option Addr).isSome) none
  obtain ⟨address, hAddress⟩ := Option.isSome_iff_exists.mp hSender
  have hShown : (LayerState.process env.toCmsExternals ctx
      { currentEml := fixtureEml env der subject layer.smimeType }).fromAddress.isSome :=
    process_fromAddress_isSome ⟨message, hMessage, hAddress, .inl hReads⟩
  rw [layersOf]
  dsimp only
  generalize hOutermost : decryptAndVerifyOneLayer env.toCmsExternals ctx
    (fixtureEml env der subject layer.smimeType) none none = outermost at hOpens
  have hFrom : outermost.fromAddress.isSome := by
    rw [← hOutermost]
    exact hShown
  cases inner with
  | nil =>
      cases hBody
      cases hRest
      have hLast := nestedEml_plain hOpens.content hPlain
      refine ⟨fun _ => ?_, fun h => absurd h (by simp [maxDecryptDepth])⟩
      rw [hLast, List.append_nil]
      exact .single hOpens hLast
  | cons next inner =>
      have hNested := nestedEml_nest laws hOpens.content hBody
      have hSome : (nestedEml env.toCmsExternals outermost).isSome := by
        rw [hNested]
        rfl
      have hAddr : (addrOf outermost.fromAddress outermost.fromComment).isSome := by
        rw [addrOf, Option.isSome_map]
        exact hFrom
      obtain ⟨hReports, hExceeded⟩ := innerLayers_reports laws hPlain hAddr outermost.date
        (maxDecryptDepth - 1) hRest hFits.tail hBody
      rw [hNested]
      refine ⟨fun h => .cons hOpens hSome (hReports (Nat.lt_of_succ_lt_succ h)), fun h => ?_⟩
      rw [closingLayer_cons_nested hSome]
      exact hExceeded (Nat.le_of_succ_le_succ h)

end Nesting

/-- The receiver gets the content and, in their order, one valid entry for each
signed layer. The encryption is that of the innermost layer if it is an encrypted one,
and else the outermost encryption. -/
structure Delivered {env : CreateExternals} (layers : List (Layer env)) (leaves : List Certificate)
    (content : Octets) (result : SmimeValidationResult) : Prop where
  failures : result.failures = []
  content : result.signedContent = some content
  signers : List.Forall₂ (SignedBy env) leaves result.signers
  cipher : result.encryptionInfo.map infoNames =
    (layers.getLast?.bind Layer.cipherNames? <|> layers.findSome? Layer.cipherNames?)

/-- What the layers of a nested message report, the loop reports. -/
theorem decryptAndVerify_eq_layers (env : CmsExternals) (ctx : LayerContext) (eml : Octets) :
    decryptAndVerifySmimeFromEmlDetailed env ctx eml = reportOf env (layersOf env ctx eml) := by
  rw [decryptAndVerifySmimeFromEmlDetailed, layerLoop_eq_reportOf]

section Built

variable {env : CreateExternals} {subject : String} {ctx : LayerContext} {layer : Layer env}
  {inner : List (Layer env)} {leaves : List Certificate} {content eml : Octets}
  (laws : NestingLaws env subject) (hPlain : IsPlain env content)
  (hReceived : Received ctx (layer :: inner) leaves)
  (hFits : AllFit ctx.target (layer :: inner) content)
  (hBuilt : Layer.nestedEml subject layer inner content = some eml)

include laws hPlain hReceived hFits hBuilt

theorem delivered_of_depth (hDepth : inner.length < maxDecryptDepth) :
    Delivered (layer :: inner) leaves content
      (decryptAndVerifySmimeFromEmlDetailed env.toCmsExternals ctx eml) := by
  obtain ⟨⟨closing, hClosing, hFailures, hContent, hLast⟩, hSigners, hCipher⟩ :=
    (layersOf_reports laws hPlain hReceived hFits hBuilt).1 hDepth
  rw [decryptAndVerify_eq_layers]
  generalize layersOf env.toCmsExternals ctx eml = results at hClosing hSigners hCipher
  have hResult : closingResult env.toCmsExternals results = closing := by
    rw [closingResult, hClosing]
    rfl
  refine ⟨?_, ?_, hSigners, ?_⟩
  · rw [reportOf, hResult]
    exact hFailures
  · rw [reportOf, hResult]
    exact hContent
  · rw [← hLast, ← hCipher, reportOf, hResult]
    dsimp only
    cases closing.encryptionInfo <;> rfl

theorem exceeded_of_depth (hDepth : maxDecryptDepth ≤ inner.length) :
    let result := decryptAndVerifySmimeFromEmlDetailed env.toCmsExternals ctx eml
    result.failures = [nestingFailure] ∧ result.signedContent = none := by
  have hExceeded := (layersOf_reports laws hPlain hReceived hFits hBuilt).2 hDepth
  rw [decryptAndVerify_eq_layers]
  have hResult : closingResult env.toCmsExternals (layersOf env.toCmsExternals ctx eml) =
      { failures := [nestingFailure] } := by
    rw [closingResult, hExceeded]
    rfl
  rw [reportOf, hResult]
  exact ⟨rfl, rfl⟩

end Built

section Samples

/-! `leafCert` signs `essContent`, and the entity of that once more. -/

def sampleSubject : String := "Signed Twice"

/-- Nothing that is read here depends on the parser. -/
def sampleHeader (smimeType : String) : Octets :=
  fixtureHeader (signedExternals essExternals.parseMessage) sampleSubject smimeType

/-- The beginnings of the messages that the parser knows, with what it takes from
them. No one of them begins like one in front of it. -/
def sampleBeginnings : List (Octets × String × Option Addr) :=
  [(pkcs7Header "signed-data", "signed-data", none),
    (pkcs7Header "enveloped-data", "enveloped-data", none),
    (sampleHeader "signed-data" ++ pkcs7Header "signed-data", "signed-data",
      some ⟨some "Anu Allkirjastaja", some "anu@naide.ee"⟩),
    (sampleHeader "enveloped-data" ++ pkcs7Header "enveloped-data", "enveloped-data",
      some ⟨some "Kalle Krüptija", some "kalle@naide.ee"⟩)]

def entityMessage (eml : Octets) (beginning : Octets × String × Option Addr) : Message where
  parts :=
    [⟨⟨some (pkcs7MimeTypeOf beginning.2.1),
      (Base64.decode (eml.drop beginning.1.length)).getD [], 0, eml.length⟩, .leaf⟩]
  fromAddr := beginning.2.2
  date := none

def nestedParse (eml : Octets) : Option Message :=
  ((sampleBeginnings.find? fun beginning => beginning.1 <+: eml).map (entityMessage eml)).or
    (essExternals.parseMessage eml)

theorem sampleBeginnings_apart :
    sampleBeginnings.Pairwise fun before beginning =>
      before.1.length ≤ beginning.1.length ∧ ¬ before.1 <+: beginning.1 := by
  decide +kernel

/-- A message is read by its beginning. -/
theorem nestedParse_append {beginning : Octets × String × Option Addr}
    (h : beginning ∈ sampleBeginnings) (body : Octets) :
    nestedParse (beginning.1 ++ body) = some (entityMessage (beginning.1 ++ body) beginning) := by
  obtain ⟨before, behind, hSplit⟩ := List.append_of_mem h
  have hApart := sampleBeginnings_apart
  rw [hSplit, List.pairwise_append] at hApart
  have hFound : (sampleBeginnings.find? fun other => other.1 <+: beginning.1 ++ body) =
      some beginning := by
    rw [hSplit, List.find?_append, List.find?_eq_none.mpr, Option.none_or, List.find?_cons_of_pos]
    · simp
    · intro other hOther hPrefix
      obtain ⟨hLength, hNot⟩ := hApart.2.2 other hOther beginning List.mem_cons_self
      rw [decide_eq_true_eq] at hPrefix
      exact hNot (List.prefix_of_prefix_length_le hPrefix (List.prefix_append _ _) hLength)
  rw [nestedParse, hFound]
  rfl

/-- Behind each of the beginnings the body is decoded. -/
theorem nestedParse_beginning {beginning : Octets × String × Option Addr}
    (h : beginning ∈ sampleBeginnings) (der : Octets) :
    ∃ message : Message, nestedParse (beginning.1 ++ wrapBase64 der) = some message ∧
      CarriesCms beginning.2.1 der message ∧ message.fromAddr = beginning.2.2 := by
  refine ⟨_, nestedParse_append h (wrapBase64 der), ⟨_, rfl, rfl, ?_⟩, rfl⟩
  rw [List.drop_left, decode_wrapBase64, Option.getD_some]

theorem setsAscending_setOf_single {value : X690.Value} (h : value.SetsAscending) :
    (Cms.setOf [value]).SetsAscending := by
  rw [Cms.setOf, X690.Value.setsAscending_cons]
  exact ⟨fun _ => List.pairwise_singleton _ _, by simpa using h⟩

theorem setsAscending_sample (sample : SignedSample) : sample.value.SetsAscending := by
  have hAlgorithm : ∀ oid : Octets, (algorithm oid).SetsAscending := by
    intro oid
    rw [algorithm, Cms.SetsSorted.setsAscending_sequence]
    simp [Cms.oid, primitive]
  have hSigner : (signerInfoValue sample.digest).SetsAscending := by
    simp [signerInfoValue, Cms.SetsSorted.setsAscending_sequence,
      Cms.SetsSorted.setsAscending_context0, setsAscending_setOf_single, hAlgorithm, rootNameValue,
      contentTypeValue, messageDigestValue, integer, Cms.octetString, primitive, Cms.oid]
  simp [SignedSample.value, signedDataFields, Cms.SetsSorted.setsAscending_sequence,
    Cms.SetsSorted.setsAscending_context0, setsAscending_setOf_single, hAlgorithm, hSigner,
    certValue, integer, Cms.octetString, primitive, Cms.oid]

theorem setsSorted_sample {sample : SignedSample}
    (h : X690.Value.Ascending [contentTypeValue, messageDigestValue sample.digest]) :
    Cms.SetsSorted sample.value sample.value := by
  have hFields : (signedDataFields sample.digest sample.content).map Cms.sortSignedDataField =
      signedDataFields sample.digest sample.content := by
    have hCerts : X690.Value.ascending [certValue 1, certValue 2] = [certValue 1, certValue 2] := by
      apply X690.Value.ascending_of_ascending
      unfold X690.Value.Ascending
      decide +kernel
    have hPlain : ∀ fields : List X690.Value,
        Cms.sortSignedDataField (Cms.sequence fields) = Cms.sequence fields ∧
          Cms.sortSignerInfoField (Cms.sequence fields) = Cms.sequence fields :=
      fun fields => ⟨rfl, rfl⟩
    have hAlgorithm : ∀ oid : Octets, Cms.sortSignerInfo (algorithm oid) = algorithm oid :=
      fun oid => rfl
    have hSigner : Cms.sortSignerInfo (signerInfoValue sample.digest) =
        signerInfoValue sample.digest := by
      rw [signerInfoValue, Cms.sortSignerInfo_sequence]
      simp only [List.map_cons, List.map_nil, Cms.sortSignerInfoField_context0,
        X690.Value.ascending_of_ascending h, hPlain, algorithm]
      rfl
    simp only [signedDataFields, List.map_cons, List.map_nil, Cms.sortSignedDataField_context0,
      Cms.sortSignedDataField_setOf, hPlain, hAlgorithm, hSigner, hCerts]
    rfl
  have hSorted := @Cms.SetsSorted.signedData (signedDataFields sample.digest sample.content) [] []
  rwa [hFields] at hSorted

/-- What `leafCert` signs is in DER, of nine levels. -/
theorem sample_written {signedData : SignedData} {der : Octets}
    (h : (signedExternals nestedParse).writeSignedData [sha256Algorithm] signedData = .ok der) :
    IsCmsDer der ∧ Fits .native64 der := by
  have hAttributes : contentTypeValue.encode ≤ (messageDigestValue innerSample.digest).encode ∧
      contentTypeValue.encode ≤ (messageDigestValue outerSample.digest).encode := by
    decide +kernel
  have hSize : innerSample.der.length < 2000 ∧ outerSample.der.length < 2000 := by decide +kernel
  have hSample : ∀ sample : SignedSample,
      contentTypeValue.encode ≤ (messageDigestValue sample.digest).encode →
        sample.der.length < 2000 → IsCmsDer sample.der ∧ Fits .native64 sample.der := by
    intro sample hAttrs hLength
    have hLimit : (2000 : Nat) ≤ 256 ^ 127 :=
      (by decide : 2000 ≤ 256 ^ 2).trans (Nat.pow_le_pow_right (by decide) (by decide))
    refine ⟨⟨sample.value, rfl, setsAscending_sample sample,
      setsSorted_sample (List.pairwise_pair.mpr hAttrs)⟩, hLength.trans (by decide), ?_⟩
    intro value hEncode
    obtain rfl := X690.Value.encode_inj (hLength.trans_le hLimit) hEncode
    show 9 ≤ maxBerDepth
    decide
  simp only [signedExternals, if_true] at h
  rcases answerFor_ok h with ⟨-, rfl⟩ | ⟨-, rfl⟩
  · exact hSample innerSample hAttributes.1 hSize.1
  · exact hSample outerSample hAttributes.2 hSize.2

theorem sampleNesting : NestingLaws (signedExternals nestedParse) sampleSubject where
  signing := sampleSigning
  encodings :=
    { empty := fun cert h => by
        have hOther : [] ≠ (certValue 1).encode ∧ [] ≠ (certValue 2).encode := by decide +kernel
        rw [signedExternals_parseCertificate, if_neg hOther.1, if_neg hOther.2] at h
        cases h
      tlv := fun _ _ h => by cases h
      wrapAlgorithm := fun _ h => by cases h
      recipientInfo := fun _ _ _ _ _ _ _ _ h => by cases h
      enveloped := fun _ _ _ _ _ _ h => by cases h
      authEnveloped := fun _ _ _ _ _ _ _ h => by cases h }
  agreement :=
    ⟨sampleAgreement.sec1, sampleAgreement.ecdh, sampleAgreement.x25519, sampleAgreement.x963Kdf,
      sampleAgreement.hkdf, sampleAgreement.noSalt⟩
  ciphers :=
    ⟨sampleCiphers.keyWrapInit, sampleCiphers.keyWrap, sampleCiphers.blockLength,
      sampleCiphers.block, sampleCiphers.gcm⟩
  signedDer _ _ _ _ _ _ h := (sample_written h).1
  encryptedDer _ _ _ _ _ h := by cases h
  entity layer der := by
    obtain ⟨beginning, hMem, hBeginning, hType⟩ : ∃ beginning ∈ sampleBeginnings,
        beginning.1 = pkcs7Header layer.smimeType ∧ beginning.2.1 = layer.smimeType := by
      cases layer with
      | sign => exact ⟨_, .head _, rfl, rfl⟩
      | encrypt => exact ⟨_, .tail _ (.head _), rfl, rfl⟩
    obtain ⟨message, hMessage, hCarries, -⟩ := nestedParse_beginning hMem der
    rw [hBeginning] at hMessage
    rw [hType] at hCarries
    exact ⟨message, hMessage, hCarries⟩
  outermost layer der := by
    obtain ⟨beginning, hMem, hBeginning, hType, hSender⟩ : ∃ beginning ∈ sampleBeginnings,
        beginning.1 = sampleHeader layer.smimeType ++ pkcs7Header layer.smimeType ∧
          beginning.2.1 = layer.smimeType ∧ (beginning.2.2.bind Addr.address).isSome := by
      cases layer with
      | sign => exact ⟨_, .tail _ (.tail _ (.head _)), rfl, rfl, rfl⟩
      | encrypt => exact ⟨_, .tail _ (.tail _ (.tail _ (.head _))), rfl, rfl, rfl⟩
    obtain ⟨message, hMessage, hCarries, hFrom⟩ := nestedParse_beginning hMem der
    rw [hBeginning, List.append_assoc] at hMessage
    rw [hType] at hCarries
    exact ⟨message, hMessage, hCarries, by rwa [hFrom]⟩

def signedTwice : List (Layer (signedExternals nestedParse)) :=
  [.sign sampleSigner, .sign sampleSigner]

def signedTwiceEml : Octets :=
  fixtureEml (signedExternals nestedParse) outerSample.der sampleSubject "signed-data"

def sampleReceiver : LayerContext := ⟨.native64, ⟨[.debug], none⟩, {}⟩

theorem nestedEml_sample :
    Layer.nestedEml sampleSubject (.sign sampleSigner)
        [(.sign sampleSigner : Layer (signedExternals nestedParse))] innerSample.content =
      some signedTwiceEml := by
  have hBuild : ∀ sample : SignedSample, sample = innerSample ∨ sample = outerSample →
      Layer.build (.sign sampleSigner : Layer (signedExternals nestedParse)) sample.content =
        some sample.der := fun sample hSample => buildStapledCms_sample hSample
  have hEntity : mimePkcs7Entity innerSample.der "signed-data" = outerSample.content := rfl
  simp only [Layer.nestedEml, Layer.nest, hBuild innerSample (.inl rfl), Layer.smimeType, hEntity,
    hBuild outerSample (.inr rfl), signedTwiceEml, Option.bind_eq_bind, Option.bind_some,
    Option.pure_def]

theorem inDer_certValue (serial : UInt8) : InDer (certValue serial).encode := by
  refine ⟨certValue serial, rfl, ?_⟩
  simp [certValue, Cms.SetsSorted.setsAscending_sequence, integer, primitive]

theorem sampleSigner_embedsDer : sampleSigner.EmbedsDer := by
  have hName : InDer rootNameValue.encode := by
    refine ⟨rootNameValue, rfl, ?_⟩
    simp [rootNameValue, Cms.SetsSorted.setsAscending_sequence, setsAscending_setOf_single,
      primitive, Cms.oid]
  rw [StapledSigner.EmbedsDer, sampleSigner]
  simp only [List.append_nil, List.forall_mem_cons]
  exact ⟨hName, inDer_certValue 2, inDer_certValue 1, fun der hMem => absurd hMem List.not_mem_nil⟩

theorem isPlain_sample : IsPlain (signedExternals nestedParse) innerSample.content := by
  refine ⟨essMessage, ?_, by decide +kernel⟩
  show nestedParse innerSample.content = some essMessage
  decide +kernel

theorem allFit_sample : AllFit sampleReceiver.target signedTwice innerSample.content := by
  intro layer inner body der hSuffix hNest hBuild
  have hMem : layer ∈ signedTwice := hSuffix.subset List.mem_cons_self
  have hLayer : layer = .sign sampleSigner := by simpa [signedTwice] using hMem
  rw [hLayer] at hBuild
  obtain ⟨sent, -, hWrite⟩ := buildStapledCms_some hBuild
  exact (sample_written hWrite).2

end Samples

end Smime.CreateCms
