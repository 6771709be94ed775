import Smime.DeliveredPlaintext
import Smime.SenderOutcome

/-! Which From and Date the outermost layer of a message leaves for the layers
inside: those of its header, or those of its content that a signer certifies. -/
namespace Smime

open X690 (Octets)
open X509 Mail Utils

section Verified

variable {env : CmsExternals} {ctx : LayerContext}

/-- The signers of the layer certify the inner From. -/
def SignedLayer.IsResolved (env : CmsExternals) (ctx : LayerContext) (layer : SignedLayer) : Prop :=
  Smime.IsResolved env.toExternals layer.signedData layer.target ctx.trust layer.date

/-- The verification of the layer gets to its signers. -/
def SignedLayer.Reaches (env : CmsExternals) (ctx : LayerContext) (layer : SignedLayer)
    (verify : VerifyContext env.toExternals) : Prop :=
  Smime.Reaches layer.signedData layer.target ctx.trust.stores ctx.trust.caFilePem layer.date verify

theorem SignedLayer.verify_kept {layer : SignedLayer}
    (hNot : ¬ AsksSender env.toExternals layer.signedData ctx.trust) :
    SameHeaders (layer.verify env ctx) layer.before := by
  have hSame : layer.verify env ctx = layer.before.withHeaders (layer.verify env ctx) :=
    verifySignedData_of_not_asks layer.signedData layer.target ctx.trust layer.sender layer.sender
      layer.date layer.date layer.before layer.before hNot
  rw [hSame]
  exact ⟨rfl, rfl, rfl⟩

theorem SignedLayer.verify_asked {layer : SignedLayer}
    (hAsks : AsksSender env.toExternals layer.signedData ctx.trust)
    (hNot : ¬ layer.IsResolved env ctx) :
    SameHeaders (layer.verify env ctx)
      (askedResult env.toExternals layer.sender layer.date layer.before) := by
  have hTwins := @verifySignedData_twins env.toExternals layer.signedData layer.target ctx.trust
    layer.sender layer.sender layer.date layer.date layer.before layer.before hAsks rfl
  exact (hTwins.unresolved hNot).1

end Verified

section Outermost

variable (env : CmsExternals) (ctx : LayerContext) (eml : Octets) (outer : Message)

/-- The From and Date that the outermost layer leaves for those inside: its own,
with the address as the verification shows it, until a signer certifies the From
of the content. -/
inductive LeftHeaders : SmimeValidationResult → Prop where
  | own (hNot : ∀ layer : SignedLayer, signedLayer env ctx eml none none = some layer →
      ¬ AsksSender env.toExternals layer.signedData ctx.trust) :
      LeftHeaders (layerHeaders env outer)
  | asked {layer : SignedLayer} (hLayer : signedLayer env ctx eml none none = some layer)
      (hAsks : AsksSender env.toExternals layer.signedData ctx.trust)
      (hNot : ¬ layer.IsResolved env ctx) :
      LeftHeaders
        { layerHeaders env outer with
          fromAddress :=
            (layerHeaders env outer).fromAddress.map (emailDomainToALabel env.toExternals) }
  | named {layer : SignedLayer} {verify : VerifyContext env.toExternals}
      (hLayer : signedLayer env ctx eml none none = some layer)
      (hReaches : layer.Reaches env ctx verify)
      (hCertifies : ∃ signer ∈ indexed verify.signers, CertifiesSender verify signer.1 signer.2)
      (hVouches : ∃ signer ∈ indexed verify.signers, VouchesSender verify signer.1 signer.2) :
      LeftHeaders (innerHeaders verify (innerName verify))
  | unnamed {layer : SignedLayer} {verify : VerifyContext env.toExternals}
      (hLayer : signedLayer env ctx eml none none = some layer)
      (hReaches : layer.Reaches env ctx verify)
      (hCertifies : ∃ signer ∈ indexed verify.signers, CertifiesSender verify signer.1 signer.2)
      (hNot : ¬ ∃ signer ∈ indexed verify.signers, VouchesSender verify signer.1 signer.2) :
      LeftHeaders (innerHeaders verify none)

variable {env ctx eml outer} {headers : SmimeValidationResult}

theorem exists_leftHeaders : ∃ headers : SmimeValidationResult,
    LeftHeaders env ctx eml outer headers := by
  by_cases hAsks : ∃ layer : SignedLayer, signedLayer env ctx eml none none = some layer ∧
      AsksSender env.toExternals layer.signedData ctx.trust
  · obtain ⟨layer, hLayer, hAsks⟩ := hAsks
    by_cases hResolved : layer.IsResolved env ctx
    · have hReaches := hResolved
      obtain ⟨address, verify, hVerify, -⟩ := hReaches
      have hCertifies := (isResolved_iff hVerify).mp hResolved
      by_cases hVouches : ∃ signer ∈ indexed verify.signers,
          VouchesSender verify signer.1 signer.2
      · exact ⟨_, .named hLayer hVerify hCertifies hVouches⟩
      · exact ⟨_, .unnamed hLayer hVerify hCertifies hVouches⟩
    · exact ⟨_, .asked hLayer hAsks hResolved⟩
  · exact ⟨_, .own fun layer hLayer hLayerAsks => hAsks ⟨layer, hLayer, hLayerAsks⟩⟩

theorem readsCms_of_layerContent {message : Message} {content : Content}
    (hMessage : env.parseMessage eml = some message)
    (h : layerContent env ctx eml = some content) :
    ∃ ct : ContentType, message.contentType = some ct ∧ smimeContentKind ct = .pkcs7Mime ∧
      pkcs7MimeContent env ctx.target message = .ok content := by
  cases hCt : message.contentType with
  | none => simp [layerContent, hMessage, hCt] at h
  | some ct =>
      rw [layerContent_of_message hMessage hCt] at h
      split_ifs at h with hKind
      cases hContent : pkcs7MimeContent env ctx.target message with
      | error e =>
          rw [hContent] at h
          cases h
      | ok read =>
          rw [hContent] at h
          cases h
          exact ⟨ct, rfl, hKind, rfl⟩

theorem opaqueLayer_some {layer : SignedLayer}
    (h : opaqueLayer env ctx outer none none = some layer) :
    let headers := layerHeaders env outer
    layer.sender = addrOf headers.fromAddress headers.fromComment ∧
      layer.date = headers.date ∧
        layer.before = { headers with signingSystem := .mimePartSmime } := by
  unfold opaqueLayer at h
  split at h
  next signedData hContent =>
    rw [Option.map_eq_some_iff] at h
    obtain ⟨target, -, rfl⟩ := h
    refine ⟨?_, ?_, rfl⟩
    · show (addrOf _ _ <|> none) = _
      cases addrOf (layerHeaders env outer).fromAddress (layerHeaders env outer).fromComment <;> rfl
    · show ((layerHeaders env outer).date <|> none) = _
      cases (layerHeaders env outer).date <;> rfl
  next => cases h

/-- They are what the loop carries inside. -/
theorem LeftHeaders.process_eq {content : Content} (h : LeftHeaders env ctx eml outer headers)
    (hOuter : env.parseMessage eml = some outer)
    (hFrom : (outer.fromAddr.bind Addr.address).isSome)
    (hContent : layerContent env ctx eml = some content) :
    SameHeaders (LayerState.process env ctx { currentEml := eml }) headers := by
  obtain ⟨ct, hCt, hKind, hRead⟩ := readsCms_of_layerContent hOuter hContent
  obtain ⟨hSigned, hResult⟩ := @opaqueLayer_cases env ctx eml none none outer ct hOuter hCt hKind
  rw [hRead] at hResult
  dsimp only at hResult
  have hProcess : LayerState.process env ctx { currentEml := eml } = _ := hResult
  have hCases := @processContent_cases env ctx none none outer content hRead
  rw [hProcess]
  cases h with
  | own hNot =>
      rcases hCases with ⟨layer, hLayer, hVerify⟩ | ⟨-, -, hHeaders⟩
      · obtain ⟨-, -, hBefore⟩ := opaqueLayer_some hLayer
        have hKept := SignedLayer.verify_kept (hNot layer (hSigned.trans hLayer))
        rw [hVerify]
        rw [hBefore] at hKept
        exact hKept.trans ⟨rfl, rfl, rfl⟩
      · exact hHeaders
  | @asked layer hLayer hAsks hNot =>
      rw [hSigned] at hLayer
      rcases hCases with ⟨other, hOther, hVerify⟩ | ⟨hNone, -⟩
      · obtain rfl : layer = other := Option.some.inj (hLayer.symm.trans hOther)
        obtain ⟨hSender, hDate, hBefore⟩ := opaqueLayer_some hLayer
        have hAsked := SignedLayer.verify_asked hAsks hNot
        obtain ⟨address, hAddress⟩ := Option.isSome_iff_exists.mp hFrom
        rw [hVerify]
        refine hAsked.trans ?_
        rw [hSender, hDate, hBefore]
        simp only [layerHeaders, hAddress, addrOf, Option.map_some]
        exact ⟨rfl, rfl, rfl⟩
      · rw [hNone] at hLayer
        cases hLayer
  | @named layer verify hLayer hReaches hCertifies hVouches =>
      rw [hSigned] at hLayer
      rcases hCases with ⟨other, hOther, hVerify⟩ | ⟨hNone, -⟩
      · obtain rfl : layer = other := Option.some.inj (hLayer.symm.trans hOther)
        rw [hVerify]
        exact (verifySignedData_innerHeaders hReaches hCertifies layer.sender layer.before).1 hVouches
      · rw [hNone] at hLayer
        cases hLayer
  | @unnamed layer verify hLayer hReaches hCertifies hNot =>
      rw [hSigned] at hLayer
      rcases hCases with ⟨other, hOther, hVerify⟩ | ⟨hNone, -⟩
      · obtain rfl : layer = other := Option.some.inj (hLayer.symm.trans hOther)
        rw [hVerify]
        exact (verifySignedData_innerHeaders hReaches hCertifies layer.sender layer.before).2 hNot
      · rw [hNone] at hLayer
        cases hLayer

/-- An encrypted outermost layer leaves those of its header. -/
theorem LeftHeaders.of_encrypted (h : LeftHeaders env ctx eml outer headers)
    (hOuter : env.parseMessage eml = some outer)
    (hEncrypted : (layerEncryption env ctx eml).isSome) : headers = layerHeaders env outer := by
  rw [layerEncryption, Option.isSome_bind, Option.any_eq_true] at hEncrypted
  obtain ⟨content, hContent, hInfo⟩ := hEncrypted
  obtain ⟨ct, hCt, hKind, hRead⟩ := readsCms_of_layerContent hOuter hContent
  obtain ⟨hSigned, -⟩ := @opaqueLayer_cases env ctx eml none none outer ct hOuter hCt hKind
  have hNone : signedLayer env ctx eml none none = none := by
    rw [hSigned, opaqueLayer, hRead]
    cases content with
    | signedData signedData => cases hInfo
    | _ => rfl
  cases h with
  | own => rfl
  | asked hLayer | named hLayer | unnamed hLayer =>
      rw [hNone] at hLayer
      cases hLayer

end Outermost

end Smime
