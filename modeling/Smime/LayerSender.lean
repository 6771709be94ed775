import Smime.Layers
import Smime.SenderResolution
import Smime.Utils.Address
import Smime.VerifyFrame

/-! Whom one layer of a message is shown to be from: one that a signer of the
layer certifies, its own From header, or the sender of the outermost layer. -/
namespace Smime

open X690 (Octets)
open X509 Mail Utils

section ALabels

variable {env : Externals}

/-- Conversion to A-labels leaves A-labels as they are. -/
def ALabelsStay (env : Externals) : Prop :=
  ∀ domain asciiDomain : String, env.domainToAscii domain = some asciiDomain →
    env.domainToAscii asciiDomain = some asciiDomain

theorem emailDomainToALabel_idem (hStay : ALabelsStay env) (email : String) :
    emailDomainToALabel env (emailDomainToALabel env email) = emailDomainToALabel env email := by
  cases hSplit : splitOnce '@' email with
  | none =>
      have hSame : emailDomainToALabel env email = email := by rw [emailDomainToALabel, hSplit]
      rw [hSame, hSame]
  | some parts =>
      obtain ⟨localPart, domain⟩ := parts
      cases hAscii : env.domainToAscii domain with
      | none =>
          have hSame : emailDomainToALabel env email = email := by
            rw [emailDomainToALabel, hSplit]
            dsimp only
            rw [hAscii]
          rw [hSame, hSame]
      | some asciiDomain =>
          have hConverted : emailDomainToALabel env email = localPart ++ "@" ++ asciiDomain := by
            rw [emailDomainToALabel, hSplit]
            dsimp only
            rw [hAscii]
          have hAgain : splitOnce '@' (localPart ++ "@" ++ asciiDomain) =
              some (localPart, asciiDomain) := splitOnce_append (splitOnce_eq_some_iff.mp hSplit).2
          rw [hConverted, emailDomainToALabel, hAgain]
          dsimp only
          rw [hStay domain asciiDomain hAscii]

end ALabels

section OneLayer

variable (env : CmsExternals) (ctx : LayerContext)

/-- What `verifySignedData` is called with. -/
structure SignedLayer where
  signedData : SignedData
  target : SignedTarget
  sender : Option Addr
  date : Option Instant
  before : SmimeValidationResult

def SignedLayer.verify (layer : SignedLayer) : SmimeValidationResult :=
  verifySignedData env.toExternals layer.signedData layer.target ctx.trust.stores
    ctx.trust.caFilePem layer.sender layer.date layer.before

def opaqueLayer (message : Message) (outermostFrom : Option Addr)
    (outermostDate : Option Instant) : Option SignedLayer :=
  match pkcs7MimeContent env ctx.target message with
  | .ok (.signedData signedData) =>
      let headers := { layerHeaders env message with signingSystem := .mimePartSmime }
      (SignedTarget.ofEcontent signedData).toOption.map fun target =>
        { signedData
          target
          sender := addrOf headers.fromAddress headers.fromComment <|> outermostFrom
          date := headers.date <|> outermostDate
          before := headers }
  | _ => none

def clearSignedLayer (message : Message) (eml : Octets) : Option SignedLayer :=
  match clearSignedInput env.toExternals ctx.target message eml with
  | .ok (content, signedData) =>
      some
        { signedData
          target := .detached content
          sender := message.fromAddr
          date := outerDateOf env.toExternals message
          before := { signingSystem := .multipartSignedSmime } }
  | .error _ => none

/-- The SignedData of a layer that is verified, if there is one. -/
def signedLayer (eml : Octets) (outermostFrom : Option Addr) (outermostDate : Option Instant) :
    Option SignedLayer :=
  match env.parseMessage eml with
  | none => none
  | some message =>
      match message.contentType with
      | none => none
      | some ct =>
          match smimeContentKind ct with
          | .pkcs7Mime => opaqueLayer env ctx message outermostFrom outermostDate
          | .signedMultipart => if lacksBoundary ct then none else clearSignedLayer env ctx message eml
          | _ => none

/-- The layer is an application/pkcs7-mime message whose CMS is read. -/
def ReadsCms (eml : Octets) (message : Message) : Prop :=
  env.parseMessage eml = some message ∧
    (∃ ct : ContentType, message.contentType = some ct ∧ smimeContentKind ct = .pkcs7Mime) ∧
      ∃ content : Content, pkcs7MimeContent env ctx.target message = .ok content

variable {env ctx} {eml : Octets} {outermostFrom : Option Addr} {outermostDate : Option Instant}

theorem recordDecryption_headers {outcome : Except SmimeError (Option Octets × List SmimeError)}
    {result : SmimeValidationResult} :
    (recordDecryption outcome result).signers = result.signers ∧
      SameHeaders (recordDecryption outcome result) result := by
  unfold recordDecryption
  split <;> exact ⟨rfl, rfl, rfl, rfl⟩

/-- Only a SignedData that has its content is verified; otherwise the headers of
the layer are all there is. -/
theorem processContent_cases {message : Message} {content : Content}
    (hContent : pkcs7MimeContent env ctx.target message = .ok content) :
    let result :=
      processContent env ctx content outermostFrom outermostDate (layerHeaders env message)
    (∃ layer : SignedLayer, opaqueLayer env ctx message outermostFrom outermostDate = some layer ∧
        result = layer.verify env ctx) ∨
      (opaqueLayer env ctx message outermostFrom outermostDate = none ∧ result.signers = [] ∧
        SameHeaders result (layerHeaders env message)) := by
  unfold opaqueLayer
  rw [hContent]
  cases content with
  | data content => exact .inr ⟨rfl, rfl, ⟨rfl, rfl, rfl⟩⟩
  | other => exact .inr ⟨rfl, rfl, ⟨rfl, rfl, rfl⟩⟩
  | envelopedData envelopedData =>
      obtain ⟨hSigners, hHeaders⟩ := @recordDecryption_headers
        (decryptEnvelopedData env envelopedData ctx.keys) _
      exact .inr ⟨rfl, hSigners, hHeaders.trans ⟨rfl, rfl, rfl⟩⟩
  | authEnvelopedData authEnveloped =>
      obtain ⟨hSigners, hHeaders⟩ := @recordDecryption_headers
        (decryptAuthEnvelopedData env authEnveloped ctx.keys) _
      exact .inr ⟨rfl, hSigners, hHeaders.trans ⟨rfl, rfl, rfl⟩⟩
  | signedData signedData =>
      unfold processContent verifySignedDataLayer
      dsimp only
      cases SignedTarget.ofEcontent signedData with
      | ok target => exact .inl ⟨_, rfl, rfl⟩
      | error e => exact .inr ⟨rfl, rfl, ⟨rfl, rfl, rfl⟩⟩

/-- An opaque message is verified, or its own From is all there is. -/
theorem opaqueLayer_cases {message : Message} {ct : ContentType}
    (hMessage : env.parseMessage eml = some message) (hCt : message.contentType = some ct)
    (hKind : smimeContentKind ct = .pkcs7Mime) :
    let result := decryptAndVerifyOneLayer env ctx eml outermostFrom outermostDate
    signedLayer env ctx eml outermostFrom outermostDate =
        opaqueLayer env ctx message outermostFrom outermostDate ∧
      match pkcs7MimeContent env ctx.target message with
      | .error e => result = ({} : SmimeValidationResult).push e
      | .ok content =>
          result =
            processContent env ctx content outermostFrom outermostDate (layerHeaders env message) := by
  unfold decryptAndVerifyOneLayer signedLayer
  simp only [hMessage, hCt, hKind, ne_eq, not_true_eq_false, if_false, true_and]
  cases pkcs7MimeContent env ctx.target message <;> rfl

/-- Any other message is verified as `verifySmimeFromEmlDetailed` does. -/
theorem clearSignedLayer_cases {message : Message} {ct : ContentType}
    (hMessage : env.parseMessage eml = some message) (hCt : message.contentType = some ct)
    (hKind : smimeContentKind ct ≠ .pkcs7Mime) :
    let result := decryptAndVerifyOneLayer env ctx eml outermostFrom outermostDate
    (∃ layer : SignedLayer, signedLayer env ctx eml outermostFrom outermostDate = some layer ∧
        result = layer.verify env ctx) ∨
      (signedLayer env ctx eml outermostFrom outermostDate = none ∧ result.signers = [] ∧
        result.fromAddress = none) := by
  unfold decryptAndVerifyOneLayer signedLayer verifySmimeFromEmlDetailed
  simp only [hMessage, hCt, hKind, ne_eq, not_false_eq_true, if_true]
  by_cases hBoundary : lacksBoundary ct = true
  · rw [if_pos hBoundary, if_pos hBoundary]
    right
    refine ⟨?_, rfl, rfl⟩
    cases hKind' : smimeContentKind ct with
    | pkcs7Mime => exact absurd hKind' hKind
    | _ => rfl
  · rw [if_neg hBoundary, if_neg hBoundary]
    cases hKind' : smimeContentKind ct with
    | pkcs7Mime => exact absurd hKind' hKind
    | pkcs7Signature => exact .inr ⟨rfl, rfl, rfl⟩
    | other => exact .inr ⟨rfl, rfl, rfl⟩
    | signedMultipart =>
        unfold clearSignedLayer verifyClearSigned
        cases clearSignedInput env.toExternals ctx.target message eml with
        | error e => exact .inr ⟨rfl, rfl, rfl⟩
        | ok input => exact .inl ⟨_, rfl, rfl⟩

theorem readsCms_iff {message other : Message} {ct : ContentType}
    (hMessage : env.parseMessage eml = some message) (hCt : message.contentType = some ct) :
    ReadsCms env ctx eml other ↔
      other = message ∧ smimeContentKind ct = .pkcs7Mime ∧
        ∃ content : Content, pkcs7MimeContent env ctx.target message = .ok content := by
  unfold ReadsCms
  rw [hMessage, Option.some.injEq]
  constructor
  · rintro ⟨rfl, ⟨ct', hCt', hKind⟩, hContent⟩
    rw [hCt, Option.some.injEq] at hCt'
    subst hCt'
    exact ⟨rfl, hKind, hContent⟩
  · rintro ⟨rfl, hKind, hContent⟩
    exact ⟨rfl, ⟨ct, hCt, hKind⟩, hContent⟩

/-- A layer is verified, or it has no signers and at most its own From. -/
theorem decryptAndVerifyOneLayer_cases (env : CmsExternals) (ctx : LayerContext) (eml : Octets)
    (outermostFrom : Option Addr) (outermostDate : Option Instant) :
    let result := decryptAndVerifyOneLayer env ctx eml outermostFrom outermostDate
    (∃ layer : SignedLayer, signedLayer env ctx eml outermostFrom outermostDate = some layer ∧
        result = layer.verify env ctx) ∨
      (signedLayer env ctx eml outermostFrom outermostDate = none ∧ result.signers = [] ∧
        ((∃ message : Message, ReadsCms env ctx eml message ∧
            result.fromAddress = message.fromAddr.bind Addr.address) ∨
          ((∀ message : Message, ¬ ReadsCms env ctx eml message) ∧
            result.fromAddress = none))) := by
  dsimp only
  cases hMessage : env.parseMessage eml with
  | none =>
      right
      simp [decryptAndVerifyOneLayer, signedLayer, ReadsCms, hMessage]
  | some message =>
      cases hCt : message.contentType with
      | none =>
          right
          simp [decryptAndVerifyOneLayer, signedLayer, ReadsCms, hMessage, hCt]
      | some ct =>
          have hReads := fun other => @readsCms_iff env ctx eml message other ct hMessage hCt
          by_cases hKind : smimeContentKind ct = .pkcs7Mime
          · obtain ⟨hLayer, hResult⟩ := @opaqueLayer_cases env ctx eml outermostFrom outermostDate
              message ct hMessage hCt hKind
            rw [hLayer]
            cases hContent : pkcs7MimeContent env ctx.target message with
            | error e =>
                rw [hContent] at hResult
                dsimp only at hResult
                rw [hResult]
                refine .inr ⟨by rw [opaqueLayer, hContent], rfl, .inr ⟨fun other => ?_, rfl⟩⟩
                rw [hReads, hContent]
                simp
            | ok content =>
                rw [hContent] at hResult
                dsimp only at hResult
                rw [hResult]
                rcases @processContent_cases env ctx outermostFrom outermostDate message content
                  hContent with hVerified | ⟨hNone, hSigners, hHeaders⟩
                · exact .inl hVerified
                · refine .inr ⟨hNone, hSigners, .inl ⟨message, ?_, hHeaders.fromAddress⟩⟩
                  rw [hReads]
                  exact ⟨rfl, hKind, content, hContent⟩
          · rcases @clearSignedLayer_cases env ctx eml outermostFrom outermostDate message ct
              hMessage hCt hKind with hVerified | ⟨hNone, hSigners, hFrom⟩
            · exact .inl hVerified
            · refine .inr ⟨hNone, hSigners, .inr ⟨fun other => ?_, hFrom⟩⟩
              rw [hReads]
              simp [hKind]

end OneLayer

section LayerSender

variable (env : CmsExternals) (ctx : LayerContext)

/-- The layer is a multipart/signed message whose SignedData gets as far as the
trust anchors. -/
def ReadsClearSigned (eml : Octets) (message : Message) : Prop :=
  (∃ ct : ContentType, message.contentType = some ct ∧ smimeContentKind ct = .signedMultipart ∧
      lacksBoundary ct = false) ∧
    ∃ (content : Octets) (signedData : SignedData),
      clearSignedInput env.toExternals ctx.target message eml = .ok (content, signedData) ∧
        signedData.content ≠ .other ∧ ∃ caCerts : List Certificate,
          loadCaCerts env.toExternals ctx.trust.stores ctx.trust.caFilePem = .ok caCerts

/-- The layer has a From header of its own, and gets as far as to show it. -/
def ShowsOwnSender (eml : Octets) (address : String) : Prop :=
  ∃ message : Message, env.parseMessage eml = some message ∧
    message.fromAddr.bind Addr.address = some address ∧
      (ReadsCms env ctx eml message ∨ ReadsClearSigned env ctx eml message)

/-- A signer of the layer certifies the inner From `address`. -/
def LayerResolves (eml : Octets) (outermostFrom : Option Addr) (outermostDate : Option Instant)
    (address : String) : Prop :=
  ∃ layer : SignedLayer, signedLayer env ctx eml outermostFrom outermostDate = some layer ∧
    ResolvesTo env.toExternals layer.signedData layer.target ctx.trust.stores ctx.trust.caFilePem
      layer.date address

variable {env ctx} {eml : Octets} {outermostFrom : Option Addr} {outermostDate : Option Instant}

theorem signedLayer_cases {layer : SignedLayer}
    (h : signedLayer env ctx eml outermostFrom outermostDate = some layer) :
    layer.before.signers = [] ∧
      ∃ message : Message, env.parseMessage eml = some message ∧
        ((ReadsCms env ctx eml message ∧
            layer.before.fromAddress = message.fromAddr.bind Addr.address ∧
              layer.sender = (addrOf (message.fromAddr.bind Addr.address)
                (message.fromAddr.bind Addr.name) <|> outermostFrom)) ∨
          ((∃ ct : ContentType, message.contentType = some ct ∧
              smimeContentKind ct = .signedMultipart ∧ lacksBoundary ct = false) ∧
            (∃ content : Octets, clearSignedInput env.toExternals ctx.target message eml =
              .ok (content, layer.signedData)) ∧
              layer.before.fromAddress = none ∧ layer.sender = message.fromAddr)) := by
  unfold signedLayer at h
  cases hMessage : env.parseMessage eml with
  | none =>
      rw [hMessage] at h
      cases h
  | some message =>
      rw [hMessage] at h
      dsimp only at h
      cases hCt : message.contentType with
      | none =>
          rw [hCt] at h
          cases h
      | some ct =>
          rw [hCt] at h
          dsimp only at h
          cases hKind : smimeContentKind ct with
          | pkcs7Signature =>
              rw [hKind] at h
              cases h
          | other =>
              rw [hKind] at h
              cases h
          | pkcs7Mime =>
              rw [hKind] at h
              dsimp only at h
              have hReads := fun other => @readsCms_iff env ctx eml message other ct hMessage hCt
              unfold opaqueLayer at h
              split at h
              next signedData hContent =>
                rw [Option.map_eq_some_iff] at h
                obtain ⟨target, -, rfl⟩ := h
                refine ⟨rfl, message, rfl, .inl ⟨?_, rfl, rfl⟩⟩
                rw [hReads]
                exact ⟨rfl, hKind, _, hContent⟩
              next => cases h
          | signedMultipart =>
              rw [hKind] at h
              dsimp only at h
              split_ifs at h with hBoundary
              unfold clearSignedLayer at h
              split at h
              next content signedData hInput =>
                cases h
                refine ⟨rfl, message, rfl, .inr ⟨⟨ct, hCt, hKind, ?_⟩, ⟨content, hInput⟩, rfl, rfl⟩⟩
                simpa using hBoundary
              next => cases h

theorem preparedFrom_cases (env : Externals) (signedData : SignedData)
    (trustStores : List TrustStore) (caFilePem : Option Octets) (outerFrom : Option Addr)
    (before : Option String) :
    ((signedData.content ≠ .other ∧ ∃ caCerts : List Certificate,
        loadCaCerts env trustStores caFilePem = .ok caCerts) ∧
      preparedFrom env signedData trustStores caFilePem outerFrom before =
        match outerFrom with
        | some sender => sender.address.map (emailDomainToALabel env)
        | none => before) ∨
    (¬ (signedData.content ≠ .other ∧ ∃ caCerts : List Certificate,
        loadCaCerts env trustStores caFilePem = .ok caCerts) ∧
      preparedFrom env signedData trustStores caFilePem outerFrom before = before) := by
  unfold preparedFrom
  cases signedData.content with
  | other => exact .inr ⟨by simp, rfl⟩
  | data content =>
      cases loadCaCerts env trustStores caFilePem with
      | error e => exact .inr ⟨by simp, rfl⟩
      | ok caCerts =>
          left
          cases outerFrom <;> simp

/-- A layer that no signer resolves shows its own From header where it is read;
else the outermost sender, if anything. -/
structure UnresolvedSender (env : CmsExternals) (ctx : LayerContext) (eml : Octets)
    (outermostFrom : Option Addr) (sender : Option String) : Prop where
  own : ∀ own : String, ShowsOwnSender env ctx eml own →
    sender = some own ∨ sender = some (emailDomainToALabel env.toExternals own)
  outermost : (∀ own : String, ¬ ShowsOwnSender env ctx eml own) →
    sender = none ∨
      sender = (outermostFrom.bind Addr.address).map (emailDomainToALabel env.toExternals)

theorem showsOwnSender_iff {message : Message} (hMessage : env.parseMessage eml = some message)
    (own : String) :
    ShowsOwnSender env ctx eml own ↔
      message.fromAddr.bind Addr.address = some own ∧
        (ReadsCms env ctx eml message ∨ ReadsClearSigned env ctx eml message) := by
  unfold ShowsOwnSender
  rw [hMessage]
  simp

theorem UnresolvedSender.of_read {message : Message} {sender : Option String}
    (hMessage : env.parseMessage eml = some message)
    (hRead : ReadsCms env ctx eml message ∨ ReadsClearSigned env ctx eml message)
    (hOwn : ∀ own : String, message.fromAddr.bind Addr.address = some own →
      sender = some own ∨ sender = some (emailDomainToALabel env.toExternals own))
    (hNone : message.fromAddr.bind Addr.address = none →
      sender = none ∨
        sender = (outermostFrom.bind Addr.address).map (emailDomainToALabel env.toExternals)) :
    UnresolvedSender env ctx eml outermostFrom sender := by
  constructor
  · intro own hShows
    rw [showsOwnSender_iff hMessage] at hShows
    exact hOwn own hShows.1
  · intro hNot
    apply hNone
    rw [Option.eq_none_iff_forall_ne_some]
    intro own hHeader
    refine hNot own ?_
    rw [showsOwnSender_iff hMessage]
    exact ⟨hHeader, hRead⟩

theorem UnresolvedSender.of_not_read
    (hNot : ∀ message : Message, env.parseMessage eml = some message →
      ¬ ReadsCms env ctx eml message ∧ ¬ ReadsClearSigned env ctx eml message) :
    UnresolvedSender env ctx eml outermostFrom none := by
  constructor
  · rintro own ⟨message, hMessage, -, hRead | hRead⟩
    · exact absurd hRead (hNot message hMessage).1
    · exact absurd hRead (hNot message hMessage).2
  · exact fun _ => .inl rfl

/-- A layer that is verified, but whose signers do not certify the inner From. -/
theorem preparedFrom_unresolved {layer : SignedLayer}
    (hLayer : signedLayer env ctx eml outermostFrom outermostDate = some layer) :
    UnresolvedSender env ctx eml outermostFrom
      (preparedFrom env.toExternals layer.signedData ctx.trust.stores ctx.trust.caFilePem
        layer.sender layer.before.fromAddress) := by
  obtain ⟨-, message, hMessage, hKinds⟩ := signedLayer_cases hLayer
  have hPrepared := preparedFrom_cases env.toExternals layer.signedData ctx.trust.stores
    ctx.trust.caFilePem layer.sender layer.before.fromAddress
  rcases hKinds with ⟨hReads, hBefore, hSender⟩ | ⟨hMultipart, ⟨content, hInput⟩, hBefore, hSender⟩
  · -- An opaque layer has its own From from the start.
    apply UnresolvedSender.of_read hMessage (.inl hReads)
    · intro own hOwn
      rw [hBefore, hSender, hOwn] at hPrepared
      rw [hBefore, hSender, hOwn]
      rcases hPrepared with ⟨-, hFrom⟩ | ⟨-, hFrom⟩
      · exact .inr hFrom
      · exact .inl hFrom
    · intro hNone
      rw [hBefore, hSender, hNone] at hPrepared
      rw [hBefore, hSender, hNone]
      rcases hPrepared with ⟨-, hFrom⟩ | ⟨-, hFrom⟩
      · rw [hFrom]
        cases outermostFrom with
        | none => exact .inl rfl
        | some sender => exact .inr rfl
      · exact .inl hFrom
  · -- A multipart/signed layer gets it from the preparation.
    rcases hPrepared with ⟨⟨hContent, hCerts⟩, hFrom⟩ | ⟨hNot, hFrom⟩
    · apply UnresolvedSender.of_read hMessage
        (.inr ⟨hMultipart, content, layer.signedData, hInput, hContent, hCerts⟩)
      all_goals
        rw [hFrom, hBefore, hSender]
        cases message.fromAddr with
        | none => simp
        | some sender => cases hAddress : sender.address <;> simp [hAddress]
    · rw [hFrom, hBefore]
      apply UnresolvedSender.of_not_read
      intro other hOther
      rw [hMessage, Option.some.injEq] at hOther
      subst hOther
      obtain ⟨ct, hCt, hKind, -⟩ := hMultipart
      constructor
      · rw [readsCms_iff hMessage hCt, hKind]
        simp
      · rintro ⟨-, otherContent, signedData, hOtherInput, hRead⟩
        rw [hInput, Except.ok.injEq, Prod.mk.injEq] at hOtherInput
        obtain ⟨-, rfl⟩ := hOtherInput
        exact hNot hRead

/-- Without a SignedData to verify, the layer is no multipart/signed message that is read. -/
theorem not_readsClearSigned {message : Message}
    (hNone : signedLayer env ctx eml outermostFrom outermostDate = none)
    (hMessage : env.parseMessage eml = some message) : ¬ ReadsClearSigned env ctx eml message := by
  rintro ⟨⟨ct, hCt, hKind, hBoundary⟩, content, signedData, hInput, -⟩
  simp [signedLayer, hMessage, hCt, hKind, hBoundary, clearSignedLayer, hInput] at hNone

/-- The sender that a layer shows: the inner From that a signer certifies, and
otherwise as `UnresolvedSender` says. -/
theorem layer_fromAddress (env : CmsExternals) (ctx : LayerContext) (eml : Octets)
    (outermostFrom : Option Addr) (outermostDate : Option Instant) :
    let sender :=
      (decryptAndVerifyOneLayer env ctx eml outermostFrom outermostDate).fromAddress
    (∀ address : String, LayerResolves env ctx eml outermostFrom outermostDate address →
        sender = some address) ∧
      ((∀ address : String, ¬ LayerResolves env ctx eml outermostFrom outermostDate address) →
        UnresolvedSender env ctx eml outermostFrom sender) := by
  dsimp only
  rcases decryptAndVerifyOneLayer_cases env ctx eml outermostFrom outermostDate with
    ⟨layer, hLayer, hResult⟩ | ⟨hNone, -, hPlain⟩
  · obtain ⟨hResolved, hUnresolved⟩ := verifySignedData_fromAddress env.toExternals
      layer.signedData layer.target ctx.trust.stores ctx.trust.caFilePem layer.sender layer.date
      layer.before
    rw [hResult]
    constructor
    · rintro address ⟨other, hOther, hResolves⟩
      rw [hLayer, Option.some.injEq] at hOther
      subst hOther
      exact hResolved address hResolves
    · intro hNot
      have hFrom : (layer.verify env ctx).fromAddress = _ := hUnresolved fun address hResolves =>
        hNot address ⟨layer, hLayer, hResolves⟩
      rw [hFrom]
      exact preparedFrom_unresolved hLayer
  · constructor
    · rintro address ⟨layer, hLayer, -⟩
      rw [hNone] at hLayer
      cases hLayer
    · intro _
      rcases hPlain with ⟨message, hReads, hFrom⟩ | ⟨hNotRead, hFrom⟩
      · rw [hFrom]
        apply UnresolvedSender.of_read hReads.1 (.inl hReads)
        · exact fun own hOwn => .inl hOwn
        · exact fun hHeader => .inl hHeader
      · rw [hFrom]
        exact UnresolvedSender.of_not_read fun message hMessage =>
          ⟨hNotRead message, not_readsClearSigned hNone hMessage⟩

end LayerSender

end Smime
