import Smime.OuterDate
import Smime.SenderFallback

/-! When decrypting and verifying gives what plain verifying does, for a message
whose outermost layer is not encrypted. -/
namespace Smime

open X690 (Octets)
open X509 Mail Utils

section Outermost

variable {env : CmsExternals} {ctx : LayerContext} {eml : Octets}

/-- A message of one layer, which is not encrypted, gives the result of that layer. -/
theorem decryptAndVerify_of_one_layer (hRoot : layerEncryption env ctx eml = none)
    (hLast : nestedEml env (LayerState.process env ctx { currentEml := eml }) = none) :
    decryptAndVerifySmimeFromEmlDetailed env ctx eml =
      LayerState.process env ctx { currentEml := eml } := by
  have hInfo : (LayerState.process env ctx { currentEml := eml }).encryptionInfo = none :=
    (process_encryptionInfo _).trans hRoot
  have hTwice : ∀ {α : Type} (own : Option α), (own <|> own) = own := by
    intro α own
    cases own <;> rfl
  rw [decryptAndVerifySmimeFromEmlDetailed, maxDecryptDepth, layerLoop_last hLast]
  simp only [LayerState.finish, LayerState.remember, if_true, hInfo, hTwice, List.nil_append]
  exact congrArg (fun info => { LayerState.process env ctx { currentEml := eml } with
    encryptionInfo := info }) hInfo.symm

end Outermost

section Header

variable (env : CmsExternals) (ctx : LayerContext)

/-- The message has neither From nor Date, as a layer reads them. -/
def BareHeader (message : Message) : Prop := layerHeaders env message = {}

/-- An opaque SignedData shows the same for both ways to read its header: there
is nothing to show, or the From has an address and the Date is the same one. -/
def HeaderAlike (message : Message) (signedData : SignedData) : Prop :=
  match SignedTarget.ofEcontent signedData with
  | .error _ => BareHeader env message
  | .ok target =>
      (AsksSender env.toExternals signedData ctx.trust →
        (message.fromAddr = none ∨ (message.fromAddr.bind Addr.address).isSome) ∧
          ((layerHeaders env message).date = outerDateOf env.toExternals message ∨
            HidesDate env.toExternals signedData target ctx.trust (layerHeaders env message).date
              (outerDateOf env.toExternals message))) ∧
        (¬ AsksSender env.toExternals signedData ctx.trust → BareHeader env message)

/-- An opaque outermost message is a SignedData, whose header is shown alike. -/
def OpaqueAlike (eml : Octets) : Prop :=
  ∀ (message : Message) (ct : ContentType), env.parseMessage eml = some message →
    message.contentType = some ct → smimeContentKind ct = .pkcs7Mime →
      ∃ signedData : SignedData,
        pkcs7MimeContent env ctx.target message = .ok (.signedData signedData) ∧
          HeaderAlike env ctx message signedData

def mimePart : SmimeValidationResult := { signingSystem := .mimePartSmime }

/-- How the plain verifier goes on with a SignedData. -/
def plainLayer (message : Message) (signedData : SignedData) : SmimeValidationResult :=
  match SignedTarget.ofEcontent signedData with
  | .ok target =>
      verifySignedData env.toExternals signedData target ctx.trust.stores ctx.trust.caFilePem
        message.fromAddr (outerDateOf env.toExternals message) mimePart
  | .error e => mimePart.push e

variable {env ctx} {message : Message} {signedData : SignedData}

theorem withHeaders_eq_iff {result : SmimeValidationResult}
    (hFrom : result.fromAddress = none) (hComment : result.fromComment = none)
    (hDate : result.date = none) :
    (layerHeaders env message).withHeaders result = result ↔ BareHeader env message := by
  obtain ⟨signingSystem, signers, failures, signedContent, fromAddress, fromComment, date, info⟩ :=
    result
  dsimp only at hFrom hComment hDate
  subst hFrom hComment hDate
  simp [SmimeValidationResult.withHeaders, BareHeader, layerHeaders]

/-- Without a look for the sender the header is left as it was read. -/
theorem verifySignedData_bare_iff {target : SignedTarget} {sender other : Option Addr}
    {date otherDate : Option Instant} (hNot : ¬ AsksSender env.toExternals signedData ctx.trust) :
    verifySignedData env.toExternals signedData target ctx.trust.stores ctx.trust.caFilePem sender
          date ((layerHeaders env message).withHeaders mimePart) =
        verifySignedData env.toExternals signedData target ctx.trust.stores ctx.trust.caFilePem
          other otherDate mimePart ↔
      BareHeader env message := by
  have hSame : verifySignedData env.toExternals signedData target ctx.trust.stores
      ctx.trust.caFilePem other otherDate mimePart = mimePart.withHeaders _ :=
    verifySignedData_of_not_asks signedData target ctx.trust other other otherDate otherDate
      mimePart mimePart hNot
  rw [verifySignedData_of_not_asks signedData target ctx.trust sender other date otherDate
    (layerHeaders env message) mimePart hNot]
  exact withHeaders_eq_iff (congrArg SmimeValidationResult.fromAddress hSame)
    (congrArg SmimeValidationResult.fromComment hSame) (congrArg SmimeValidationResult.date hSame)

/-- Where the sender is looked for, a From without an address is missed by one. -/
theorem verifySignedData_alike_iff {target : SignedTarget}
    (hAsks : AsksSender env.toExternals signedData ctx.trust) :
    let headers := layerHeaders env message
    verifySignedData env.toExternals signedData target ctx.trust.stores ctx.trust.caFilePem
          (addrOf headers.fromAddress headers.fromComment) headers.date
          (headers.withHeaders mimePart) =
        verifySignedData env.toExternals signedData target ctx.trust.stores ctx.trust.caFilePem
          message.fromAddr (outerDateOf env.toExternals message) mimePart ↔
      (message.fromAddr = none ∨ (message.fromAddr.bind Addr.address).isSome) ∧
        (headers.date = outerDateOf env.toExternals message ∨
          HidesDate env.toExternals signedData target ctx.trust headers.date
            (outerDateOf env.toExternals message)) := by
  intro headers
  by_cases hNamed : message.fromAddr = none ∨ (message.fromAddr.bind Addr.address).isSome
  · have hSender : addrOf headers.fromAddress headers.fromComment = message.fromAddr := by
      rcases hNamed with hNone | hSome
      · simp [headers, layerHeaders, addrOf, hNone]
      · obtain ⟨address, hAddress⟩ := Option.isSome_iff_exists.mp hSome
        rw [Option.bind_eq_some_iff] at hAddress
        obtain ⟨⟨name, own⟩, hFrom, hOwn⟩ := hAddress
        dsimp only at hOwn
        simp [headers, layerHeaders, addrOf, hFrom, hOwn]
    have hHeaders : message.fromAddr = none →
        headers.fromAddress = mimePart.fromAddress ∧ headers.fromComment = mimePart.fromComment := by
      intro hNone
      simp [headers, layerHeaders, mimePart, hNone]
    rw [hSender, verifySignedData_withHeaders signedData target ctx.trust message.fromAddr
      headers.date headers mimePart hAsks hHeaders, verifySignedData_date_iff _ _ _ _ hAsks]
    exact (and_iff_right hNamed).symm
  · -- Only the decrypting path takes such a From for a missing one.
    obtain ⟨hFrom, hAddress⟩ := not_or.mp hNamed
    have hNone : addrOf headers.fromAddress headers.fromComment = none := by
      simpa [headers, layerHeaders, addrOf] using hAddress
    rw [iff_false_right fun hBoth => hNamed hBoth.1, hNone]
    intro hSame
    have hMissing := (verifySignedData_missingFrom_iff env.toExternals signedData target ctx.trust
      none headers.date (headers.withHeaders mimePart)).mpr (.inr ⟨rfl, hAsks⟩)
    rw [hSame, verifySignedData_missingFrom_iff] at hMissing
    rcases hMissing with hBefore | ⟨hMissed, -⟩
    · cases hBefore
    · exact hFrom hMissed

theorem opaque_alike_iff :
    verifySignedDataLayer env ctx signedData none none (layerHeaders env message) =
        plainLayer env ctx message signedData ↔
      HeaderAlike env ctx message signedData := by
  have hNone : ∀ {α : Type} (own : Option α), (own <|> none) = own := by
    intro α own
    cases own <;> rfl
  unfold verifySignedDataLayer plainLayer HeaderAlike
  cases SignedTarget.ofEcontent signedData with
  | error e => exact @withHeaders_eq_iff env message (mimePart.push e) rfl rfl rfl
  | ok target =>
      dsimp only
      rw [hNone, hNone]
      by_cases hAsks : AsksSender env.toExternals signedData ctx.trust
      · simp only [hAsks, true_imp_iff, not_true_eq_false, false_imp_iff, and_true]
        exact verifySignedData_alike_iff hAsks
      · simp only [hAsks, false_imp_iff, not_false_eq_true, true_imp_iff, true_and]
        exact verifySignedData_bare_iff hAsks

end Header

section Root

variable {env : CmsExternals} {ctx : LayerContext} {eml : Octets} {message : Message}
  {ct : ContentType}

theorem eqIgnoreAsciiCase_unique {text first second : String}
    (hFirst : eqIgnoreAsciiCase text first = true) (hSecond : eqIgnoreAsciiCase text second = true) :
    eqIgnoreAsciiCase first second = true := by
  unfold eqIgnoreAsciiCase at *
  rw [beq_iff_eq] at *
  rw [← hFirst, hSecond]

theorem not_lacksBoundary (hKind : smimeContentKind ct = .pkcs7Mime) : lacksBoundary ct = false := by
  rw [Bool.eq_false_iff]
  intro hLacks
  have hMultipart : eqIgnoreAsciiCase ct.cType "multipart" = true := (Bool.and_eq_true_iff.mp hLacks).1
  have hApplication : eqIgnoreAsciiCase ct.cType "application" = true := by
    unfold smimeContentKind at hKind
    dsimp only at hKind
    split_ifs at hKind with hOpaque
    exact (Bool.and_eq_true_iff.mp hOpaque).1
  exact absurd (eqIgnoreAsciiCase_unique hMultipart hApplication) (by decide +kernel)

theorem verifySmimeFromEmlDetailed_pkcs7Mime (hMessage : env.parseMessage eml = some message)
    (hCt : message.contentType = some ct) (hKind : smimeContentKind ct = .pkcs7Mime) :
    verifySmimeFromEmlDetailed env.toExternals ctx.target eml ctx.trust =
      match pkcs7MimeContent env ctx.target message with
      | .error e => mimePart.push e
      | .ok (.signedData signedData) => plainLayer env ctx message signedData
      | .ok _ => mimePart.push .noPkcs7Content := by
  simp only [verifySmimeFromEmlDetailed, hMessage, hCt, not_lacksBoundary hKind, hKind,
    Bool.false_eq_true, if_false, verifyOpaque]
  unfold opaqueInput pkcs7MimeContent parseSignedData
  cases extractSmimeOpaqueP7mDer ctx.target message with
  | error e => rfl
  | ok der =>
      rw [Except.ok_bind', Except.ok_bind']
      cases env.parseContentInfo der with
      | error e => rfl
      | ok content => cases content <;> rfl

theorem opaqueAlike_iff (hMessage : env.parseMessage eml = some message)
    (hCt : message.contentType = some ct) (hKind : smimeContentKind ct = .pkcs7Mime) :
    OpaqueAlike env ctx eml ↔ ∃ signedData : SignedData,
      pkcs7MimeContent env ctx.target message = .ok (.signedData signedData) ∧
        HeaderAlike env ctx message signedData := by
  unfold OpaqueAlike
  rw [hMessage]
  constructor
  · intro h
    exact h message ct rfl hCt hKind
  · intro h other otherCt hOther hOtherCt hOtherKind
    cases hOther
    exact h

theorem opaqueAlike_of_not_opaque (hMessage : env.parseMessage eml = some message)
    (h : ∀ ct : ContentType, message.contentType = some ct → smimeContentKind ct ≠ .pkcs7Mime) :
    OpaqueAlike env ctx eml := by
  intro other ct hOther hCt hKind
  rw [hMessage, Option.some.injEq] at hOther
  subst hOther
  exact absurd hKind (h ct hCt)

/-- What the two make of an outermost message that is not encrypted: the same, a
failure under different signing systems, or the verification of its SignedData. -/
theorem root_cases (hRoot : layerEncryption env ctx eml = none) :
    let layer := LayerState.process env ctx { currentEml := eml }
    let plain := verifySmimeFromEmlDetailed env.toExternals ctx.target eml ctx.trust
    (layer = plain ∧ OpaqueAlike env ctx eml) ∨
      (layer.signingSystem ≠ plain.signingSystem ∧ layer.signedContent = plain.signedContent ∧
        ¬ OpaqueAlike env ctx eml) ∨
      ∃ (message : Message) (signedData : SignedData),
        layer = verifySignedDataLayer env ctx signedData none none (layerHeaders env message) ∧
          plain = plainLayer env ctx message signedData ∧
            (OpaqueAlike env ctx eml ↔ HeaderAlike env ctx message signedData) := by
  dsimp only
  cases hMessage : env.parseMessage eml with
  | none =>
      refine .inl ⟨?_, fun message ct hSome => ?_⟩
      · simp [LayerState.process, decryptAndVerifyOneLayer, verifySmimeFromEmlDetailed, hMessage]
      · rw [hMessage] at hSome
        cases hSome
  | some message =>
      cases hCt : message.contentType with
      | none =>
          refine .inl ⟨?_, opaqueAlike_of_not_opaque hMessage (by simp [hCt])⟩
          simp [LayerState.process, decryptAndVerifyOneLayer, verifySmimeFromEmlDetailed, hMessage,
            hCt]
      | some ct =>
          by_cases hKind : smimeContentKind ct = .pkcs7Mime
          · have hAlike := @opaqueAlike_iff env ctx eml message ct hMessage hCt hKind
            have hPlain := @verifySmimeFromEmlDetailed_pkcs7Mime env ctx eml message ct hMessage hCt
              hKind
            obtain ⟨-, hLayer⟩ := @opaqueLayer_cases env ctx eml (addrOf none none) none message ct
              hMessage hCt hKind
            rw [layerEncryption, layerContent_of_message hMessage hCt, if_pos hKind] at hRoot
            right
            rw [LayerState.process, hAlike, hPlain]
            cases hContent : pkcs7MimeContent env ctx.target message with
            | error e =>
                rw [hContent] at hLayer
                left
                rw [hLayer]
                refine ⟨?_, rfl, by simp⟩
                intro hSame
                cases hSame
            | ok content =>
                rw [hContent] at hLayer hRoot
                rw [hLayer]
                cases content with
                | signedData signedData => exact .inr ⟨message, signedData, rfl, rfl, by simp⟩
                | data content =>
                    refine .inl ⟨?_, rfl, by simp⟩
                    intro hSame
                    cases hSame
                | other =>
                    refine .inl ⟨?_, rfl, by simp⟩
                    intro hSame
                    cases hSame
                | envelopedData envelopedData => cases hRoot
                | authEnvelopedData authEnveloped => cases hRoot
          · refine .inl ⟨?_, opaqueAlike_of_not_opaque hMessage (by simpa [hCt] using hKind)⟩
            simp only [LayerState.process, decryptAndVerifyOneLayer, hMessage, hCt, ne_eq, hKind,
              not_false_eq_true, if_true]

theorem root_signedContent (hRoot : layerEncryption env ctx eml = none) :
    (LayerState.process env ctx { currentEml := eml }).signedContent =
      (verifySmimeFromEmlDetailed env.toExternals ctx.target eml ctx.trust).signedContent := by
  rcases root_cases hRoot with ⟨hSame, -⟩ | ⟨-, hContent, -⟩ | ⟨message, signedData, hLayer, hPlain, -⟩
  · rw [hSame]
  · exact hContent
  · rw [hLayer, hPlain, verifySignedDataLayer, plainLayer]
    cases hTarget : SignedTarget.ofEcontent signedData with
    | error e => rfl
    | ok target =>
        dsimp only
        rw [verifySignedData_econtent_content hTarget, verifySignedData_econtent_content hTarget]

theorem root_alike_iff (hRoot : layerEncryption env ctx eml = none) :
    LayerState.process env ctx { currentEml := eml } =
        verifySmimeFromEmlDetailed env.toExternals ctx.target eml ctx.trust ↔
      OpaqueAlike env ctx eml := by
  rcases root_cases hRoot with ⟨hSame, hAlike⟩ | ⟨hSystem, -, hNot⟩ |
    ⟨message, signedData, hLayer, hPlain, hAlike⟩
  · exact iff_of_true hSame hAlike
  · exact iff_of_false (fun hSame => hSystem (congrArg _ hSame)) hNot
  · rw [hLayer, hPlain, hAlike]
    exact opaque_alike_iff

end Root

section Agreement

variable (env : CmsExternals) (ctx : LayerContext) (eml : Octets)

/-- Decrypting and verifying gives what the plain verifier does, and no encryption. -/
structure AgreesWithPlain : Prop where
  same : decryptAndVerifySmimeFromEmlDetailed env ctx eml =
    verifySmimeFromEmlDetailed env.toExternals ctx.target eml ctx.trust
  notEncrypted : (decryptAndVerifySmimeFromEmlDetailed env ctx eml).encryptionInfo = none

/-- With nothing to decrypt and no S/MIME message inside, the two agree exactly
when an opaque message is a SignedData whose header is shown alike. -/
theorem agreesWithPlain_iff (hRoot : layerEncryption env ctx eml = none)
    (hContent : nestedEml env
      (verifySmimeFromEmlDetailed env.toExternals ctx.target eml ctx.trust) = none) :
    AgreesWithPlain env ctx eml ↔ OpaqueAlike env ctx eml := by
  have hLast : nestedEml env (LayerState.process env ctx { currentEml := eml }) = none := by
    rw [nestedEml, root_signedContent hRoot]
    exact hContent
  rw [← root_alike_iff hRoot, ← decryptAndVerify_of_one_layer hRoot hLast]
  constructor
  · intro h
    exact h.same
  · intro hSame
    refine ⟨hSame, ?_⟩
    rw [hSame]
    exact verifySmimeFromEmlDetailed_encryptionInfo _ _ _ _

end Agreement

section Samples

/-! A message of anu@naide.ee whose SignedData has no signers, and one whose CMS
is cut off. -/

theorem agreesWithPlain_text :
    AgreesWithPlain (wrapping textEml textMessage) debugTrust (fromAnu ++ opaqueEml textEml) := by
  have hMessage : (wrapping textEml textMessage).parseMessage (fromAnu ++ opaqueEml textEml) =
      some (singlePart pkcs7MimeType (some ⟨none, some "anu@naide.ee"⟩) (unsignedDer 1 textEml)
        (fromAnu ++ opaqueEml textEml)) := by
    decide +kernel
  have hContent : pkcs7MimeContent (wrapping textEml textMessage) debugTrust.target
      (singlePart pkcs7MimeType (some ⟨none, some "anu@naide.ee"⟩) (unsignedDer 1 textEml)
        (fromAnu ++ opaqueEml textEml)) = .ok (.signedData (unsignedData 1 textEml)) := by
    decide +kernel
  have hCerts : (loadCaCerts (wrapping textEml textMessage).toExternals debugTrust.trust.stores
      debugTrust.trust.caFilePem).toOption.isSome := by
    decide +kernel
  apply (agreesWithPlain_iff (wrapping textEml textMessage) debugTrust (fromAnu ++ opaqueEml textEml)
    (by decide +kernel) (by decide +kernel)).mpr
  rw [opaqueAlike_iff hMessage rfl (by decide +kernel)]
  refine ⟨_, hContent, fun hAsks => ⟨.inr rfl, .inl rfl⟩, fun hNot => absurd ⟨nofun, ?_⟩ hNot⟩
  cases hLoad : loadCaCerts (wrapping textEml textMessage).toExternals debugTrust.trust.stores
    debugTrust.trust.caFilePem with
  | ok caCerts => exact ⟨caCerts, rfl⟩
  | error e =>
      rw [hLoad] at hCerts
      cases hCerts

/-- A SEQUENCE whose content is missing. -/
def cutOffDer : Octets := [0x30, 0x03]

def cutOffEml : Octets := fromAnu ++ opaqueHeader ++ base64 cutOffDer ++ crlf

def cutOffMessage (eml : Octets) : Option Message :=
  if eml = cutOffEml then
    some (singlePart pkcs7MimeType (some ⟨none, some "anu@naide.ee"⟩) cutOffDer eml)
  else none

def cutOffExternals : CmsExternals := cmsExternals cutOffMessage fun _ => unanswered

/-- The plain verifier reports the failure for an S/MIME part, and the decrypting
one for no signing system. -/
theorem not_agreesWithPlain :
    ¬ ∀ (env : CmsExternals) (ctx : LayerContext) (eml : Octets),
      layerEncryption env ctx eml = none →
        nestedEml env (verifySmimeFromEmlDetailed env.toExternals ctx.target eml ctx.trust) = none →
          AgreesWithPlain env ctx eml := by
  intro h
  have hRun : (decryptAndVerifySmimeFromEmlDetailed cutOffExternals debugTrust
        cutOffEml).signingSystem = .other ∧
      (verifySmimeFromEmlDetailed cutOffExternals.toExternals debugTrust.target cutOffEml
        debugTrust.trust).signingSystem = .mimePartSmime := by
    decide +kernel
  have hSame := (h cutOffExternals debugTrust cutOffEml (by decide +kernel) (by decide +kernel)).same
  rw [hSame, hRun.2] at hRun
  cases hRun.1

end Samples

end Smime
