import Smime.Data.Lists
import Smime.NestedMessages
import Smime.PlainVerifier
import Smime.RunModify
import Smime.SignersIndependent
import Smime.Utils.CmsCanonical

/-! What `run_modify` does to a message: its signatures are worth what they were,
under a chain that is built with the certificates and the responses added. -/
namespace Smime

open X690 (Octets)
open X509 Mail Utils

/-- What is found out about a signer without its chain, and without the notes. -/
def SignerValidation.withoutTrust (entry : SignerValidation) : SignerValidation :=
  { entry with
    signatureValid := false
    chain := []
    validationDetails :=
      { entry.validationDetails with
        certificateTrustedValid := false
        revocationStatus := none
        otherNotes := [] } }

section Signers

variable {env : Externals} {ctx other : VerifyContext env} {signer : SignerInfo}

/-- Of the certificates only those that match the signer matter. -/
theorem prepareSigner_congr {certs others : List Certificate} (idx : Nat)
    (h : others.filter (sidMatchesCert env signer.issuerAndSerialNumber) =
      certs.filter (sidMatchesCert env signer.issuerAndSerialNumber)) :
    prepareSigner env signer others idx = prepareSigner env signer certs idx := by
  simp only [prepareSigner, h]

theorem findLeaf_congr (hTarget : other.target = ctx.target)
    (hInner : other.innerMessage = ctx.innerMessage) (hasSignedAttrs : Bool) (idx : Nat)
    (candidates : List Certificate) (result : SmimeValidationResult) :
    findLeaf other signer hasSignedAttrs idx candidates result =
      findLeaf ctx signer hasSignedAttrs idx candidates result := by
  induction candidates generalizing result with
  | nil => rfl
  | cons candidate rest ih =>
      rw [findLeaf, findLeaf, hTarget, hInner]
      cases publicKey env candidate with
      | error e => exact ih _
      | ok pk =>
          dsimp only
          split_ifs
          · rfl
          · exact ih _

/-- A signer found in two contexts with the same certificate, one that it names. -/
def SameFinding (ctx other : VerifyContext env) (signer : SignerInfo)
    (entry new : SignerValidation) : Prop :=
  new.withoutTrust = entry.withoutTrust ∧ ∃ leaf : Certificate,
    leaf ∈ ctx.certs ∧ sidMatchesCert env signer.issuerAndSerialNumber leaf = true ∧
      EntryOf env leaf entry ∧ (entry.signatureValid = true ↔ ChainTrusted ctx leaf) ∧
        (new.signatureValid = true ↔ ChainTrusted other leaf)

/-- Where the same certificates match a signer, the rest is up to its chain. -/
theorem verifySigner_sameFinding (hTarget : other.target = ctx.target)
    (hInner : other.innerMessage = ctx.innerMessage)
    (hLabel : other.trustStoreLabel = ctx.trustStoreLabel)
    (hCandidates : other.certs.filter (sidMatchesCert env signer.issuerAndSerialNumber) =
      ctx.certs.filter (sidMatchesCert env signer.issuerAndSerialNumber))
    (idx : Nat) (result : SmimeValidationResult) :
    Option.Rel (SameFinding ctx other signer) (verifySigner ctx idx signer result).2
      (verifySigner other idx signer result).2 := by
  have hPrepared := @prepareSigner_some_iff env signer ctx.certs idx
  simp only [verifySigner, prepareSigner_congr idx hCandidates, hTarget,
    findLeaf_congr hTarget hInner, hInner]
  rcases hPrepare : prepareSigner env signer ctx.certs idx with ⟨failures, prepared⟩
  rw [hPrepare] at hPrepared
  cases prepared with
  | none => exact .none
  | some prepared =>
      obtain ⟨signingTime, candidates⟩ := prepared
      obtain ⟨-, -, rfl⟩ := hPrepared.mp ⟨signingTime, rfl⟩
      cases hGuard : ctx.target.precheckSigner env signer.authenticatedAttributes.isSome with
      | some err => exact .none
      | none =>
          have hFirst := fun cert => @findLeaf_some_iff env ctx signer idx
            (ctx.certs.filter (sidMatchesCert env signer.issuerAndSerialNumber))
            (result.extend failures) cert hGuard
          rcases hFind : findLeaf ctx signer signer.authenticatedAttributes.isSome idx
            (ctx.certs.filter (sidMatchesCert env signer.issuerAndSerialNumber))
            (result.extend failures) with ⟨after, found⟩
          simp only [hFind] at hFirst ⊢
          cases found with
          | none => exact .none
          | some found =>
              obtain ⟨leaf, checks⟩ := found
              obtain ⟨⟨signature, digest, rfl⟩, hFlags⟩ := findLeaf_checks hFind
              have hLeaf : leaf ∈ ctx.certs.filter
                  (sidMatchesCert env signer.issuerAndSerialNumber) := by
                obtain ⟨before, behind, hSplit, -⟩ := (hFirst leaf).mp rfl
                rw [hSplit]
                exact List.mem_append_right _ List.mem_cons_self
              obtain ⟨hMem, hNamed⟩ := List.mem_filter.mp hLeaf
              refine .some ⟨?_, leaf, hMem, hNamed, ?_, ?_, ?_⟩
              · simp only [SignerValidation.withoutTrust, judge, buildSignerEntry, hLabel]
              · cases ctx.innerMessage.contentType <;>
                  exact ⟨List.nil_append _, List.nil_append _⟩
              · rw [← @validateChain_trusted_iff env ctx leaf idx]
                cases ctx.innerMessage.contentType <;>
                  simp only [judge, buildSignerEntry, hFlags, Bool.true_and]
              · rw [← @validateChain_trusted_iff env other leaf idx]
                cases ctx.innerMessage.contentType <;>
                  simp only [judge, buildSignerEntry, hFlags, Bool.true_and]

end Signers

section Together

variable {env : Externals} {before after : SignedData} {trust : TrustConfig}

/-- The anchors trust the certificate by what the SignedData holds. -/
def TrustsBy (env : Externals) (trust : TrustConfig) (signedData : SignedData) (leaf : Certificate) :
    Prop :=
  ∃ (caCerts : List Certificate) (builder : env.Builder) (verifier : env.Verifier)
      (chain : List Certificate),
    loadCaCerts env trust.stores trust.caFilePem = .ok caCerts ∧
      buildPolicyBuilder env caCerts = .ok builder ∧
        env.buildEmailVerifier builder = .ok verifier ∧
          env.verify verifier leaf (intermediariesOf leaf (extractCertificates signedData)) =
              .ok chain ∧
            NotRevoked env (extractStapledOcsp env signedData) chain

/-- Two entries for one signature, with a certificate that its signer names. Each is
valid when the SignedData it is from makes this certificate trusted. -/
structure SameSignature (env : Externals) (trust : TrustConfig) (before after : SignedData)
    (entry new : SignerValidation) : Prop where
  same : new.withoutTrust = entry.withoutTrust
  trusted : ∃ signer ∈ before.signerInfos, ∃ leaf ∈ extractCertificates before,
    sidMatchesCert env signer.issuerAndSerialNumber leaf = true ∧ EntryOf env leaf entry ∧
      (entry.signatureValid = true ↔ TrustsBy env trust before leaf) ∧
        (new.signatureValid = true ↔ TrustsBy env trust after leaf)

theorem chainTrusted_iff_trustsBy {target : SignedTarget} {outerDate : Option Instant}
    {ctx : VerifyContext env} (h : Reaches before target trust.stores trust.caFilePem outerDate ctx)
    (leaf : Certificate) : ChainTrusted ctx leaf ↔ TrustsBy env trust before leaf := by
  obtain ⟨-, caCerts, innerMessage, builder, verifier, hCerts, -, hBuilder, hVerifier, rfl⟩ := h
  constructor
  · rintro ⟨chain, hChain, hNotRevoked⟩
    exact ⟨caCerts, builder, verifier, chain, hCerts, hBuilder, hVerifier, hChain, hNotRevoked⟩
  · rintro ⟨found, other, built, chain, hFound, hOther, hBuilt, hChain, hNotRevoked⟩
    cases hCerts.symm.trans hFound
    cases hBuilder.symm.trans hOther
    cases hVerifier.symm.trans hBuilt
    exact ⟨chain, hChain, hNotRevoked⟩

/-- More certificates and responses leave the signatures, if they match no signer. -/
theorem verifySignedData_sameSignature (hContent : after.content = before.content)
    (hSigners : after.signerInfos = before.signerInfos)
    (hCandidates : ∀ signer ∈ before.signerInfos,
      (extractCertificates after).filter (sidMatchesCert env signer.issuerAndSerialNumber) =
        (extractCertificates before).filter (sidMatchesCert env signer.issuerAndSerialNumber))
    (target : SignedTarget) (outerFrom otherFrom : Option Addr) (outerDate otherDate : Option Instant)
    (result : SmimeValidationResult) (hNone : result.signers = []) :
    List.Forall₂ (SameSignature env trust before after)
      (verifySignedData env before target trust.stores trust.caFilePem outerFrom outerDate
        result).signers
      (verifySignedData env after target trust.stores trust.caFilePem otherFrom otherDate
        result).signers := by
  by_cases hReaches : ∃ ctx : VerifyContext env,
      Reaches before target trust.stores trust.caFilePem outerDate ctx
  · obtain ⟨ctx, hCtx⟩ := hReaches
    have hCerts : ctx.certs = extractCertificates before := by
      obtain ⟨-, _, _, _, _, -, -, -, -, rfl⟩ := hCtx
      rfl
    obtain ⟨other, hOther, hTarget, hInner, hLabel, hOtherCerts⟩ : ∃ other : VerifyContext env,
        Reaches after target trust.stores trust.caFilePem otherDate other ∧
          other.target = ctx.target ∧ other.innerMessage = ctx.innerMessage ∧
            other.trustStoreLabel = ctx.trustStoreLabel ∧
              other.certs = extractCertificates after := by
      obtain ⟨hData, caCerts, innerMessage, builder, verifier, hStore, hParse, hBuilder, hVerifier,
        rfl⟩ := hCtx
      rw [← hContent] at hData
      exact ⟨_, ⟨hData, caCerts, innerMessage, builder, verifier, hStore, hParse, hBuilder,
        hVerifier, rfl⟩, rfl, rfl, rfl, rfl⟩
    have hEntries : List.Forall₂ (SameSignature env trust before after)
        ((verifySignedData env before target trust.stores trust.caFilePem outerFrom outerDate
          result).signers.map SignerValidation.withoutNotes)
        ((verifySignedData env after target trust.stores trust.caFilePem otherFrom otherDate
          result).signers.map SignerValidation.withoutNotes) := by
      rw [verifySignedData_entries hCtx, verifySignedData_entries hOther, hNone, hSigners]
      apply List.Forall₂.flatMap_of_forall
      intro signer hMem
      have hSigner : signer.2 ∈ before.signerInfos := by
        obtain ⟨idx, hIdx, rfl⟩ := List.mem_mapIdx.mp hMem
        exact List.getElem_mem hIdx
      have hMatching := hCandidates signer.2 hSigner
      rw [← hCerts, ← hOtherCerts] at hMatching
      have hFound := verifySigner_sameFinding hTarget hInner hLabel hMatching signer.1 {}
      rw [List.forall₂_map_left_iff, List.forall₂_map_right_iff]
      refine (Option.forall₂_toList_of_rel hFound).imp fun entry new hEntry => ?_
      obtain ⟨hSame, leaf, hLeaf, hNamed, hOf, hValid, hNewValid⟩ := hEntry
      rw [chainTrusted_iff_trustsBy hCtx] at hValid
      rw [chainTrusted_iff_trustsBy hOther] at hNewValid
      exact ⟨hSame, signer.2, hSigner, leaf, hCerts ▸ hLeaf, hNamed, ⟨hOf.emails, hOf.names⟩,
        hValid, hNewValid⟩
    rw [List.forall₂_map_left_iff, List.forall₂_map_right_iff] at hEntries
    refine hEntries.imp fun entry new hEntry => ?_
    obtain ⟨signer, hSigner, leaf, hLeaf, hNamed, hOf, hValid, hNewValid⟩ := hEntry.trusted
    exact ⟨hEntry.same, signer, hSigner, leaf, hLeaf, hNamed, ⟨hOf.emails, hOf.names⟩, hValid,
      hNewValid⟩
  · have hStop : ∀ ctx : VerifyContext env,
        ¬ Reaches after target trust.stores trust.caFilePem otherDate ctx := by
      intro ctx hCtx
      obtain ⟨hData, caCerts, innerMessage, builder, verifier, hCerts, hInner, hBuilder, hVerifier,
        -⟩ := hCtx
      rw [hContent] at hData
      exact hReaches ⟨_, hData, caCerts, innerMessage, builder, verifier, hCerts, hInner, hBuilder,
        hVerifier, rfl⟩
    rw [verifySignedData_stopped fun ctx hCtx => hReaches ⟨ctx, hCtx⟩,
      verifySignedData_stopped hStop, hNone]
    exact .nil

end Together

namespace ModifyCms

open CreateCms (Reordered InDer IsCmsDer Fits berToDerCms_fits)

section Laws

variable (env : ModifyExternals)

/-- The message is an opaque one: its root part is the CMS. -/
def IsOpaque (message : Message) : Prop :=
  ∃ ct : ContentType, message.contentType = some ct ∧ smimeContentKind ct = .pkcs7Mime

/-- The header of a written message: fields of the root part, and a Date field if it
has none. -/
def KeptHeader (eml text : Octets) : Prop :=
  ∃ kept : Octets, keptHeaders eml (env.headersOf eml 0) = Call.ok kept ∧
    (text = kept ∨ (∀ header ∈ env.headersOf eml 0, header.name ≠ .date) ∧
      ∃ time : DateTime, text = kept ++ utf8 (dateHeader env time))

/-- The CRLs and the OCSP responses, as revocation information. -/
def revocationChoices (crls responses : List Octets) : List RevocationInfoChoice :=
  (crls.map fun _ => .crl) ++ responses.map (.other riOcspOid)

/-- Elements in DER, each of which was read. -/
def ReadDer (read : Octets → Except String Unit) (elements : List Octets) : Prop :=
  ∀ der ∈ elements, InDer der ∧ read der = .ok ()

/-- What is written with additions in DER, of a SignedData in DER, is DER and is read
again, a SET OF in the order of its encoding; and a header that says of its message that
it is CMS in Base64 says so of the message written with it. -/
structure ModifyLaws (inBase64 : Octets → Prop) : Prop where
  signedData : ∀ (former : Octets) (before : SignedData) (added : List Certificate)
    (crls responses : List Octets) (der : Octets),
      IsCmsDer former → env.parseContentInfo former = .ok (.signedData before) →
        (∀ cert ∈ added, ∃ der, InDer der ∧ env.parseCertificate der = .ok cert) →
          ReadDer env.parseSequence crls → ReadDer env.parseTlv responses →
            env.writeSignedData former
                (modifiedSignedData before added (revocationChoices crls responses)) crls =
                  .ok der →
              IsCmsDer der ∧ ∃ read : SignedData,
                Reordered (modifiedSignedData before added (revocationChoices crls responses))
                    read ∧ env.parseContentInfo der = .ok (.signedData read)
  message : ∀ (eml : Octets) (message : Message) (text der : Octets),
    env.parseMessage eml = some message → IsOpaque message → inBase64 eml →
      KeptHeader env eml text → ∃ (other : Message) (part : MessagePart) (rest : List MessagePart),
        env.parseMessage (text ++ lineBreak ++ wrapBase64 der) = some other ∧
          other.parts = part :: rest ∧ part.contentType = message.contentType ∧ part.contents = der

/-- More certificates and revocation information, and all else as it was. -/
structure Extended (before after : SignedData) (added : List Certificate)
    (choices : List RevocationInfoChoice) : Prop where
  content : after.content = before.content
  signers : after.signerInfos = before.signerInfos
  certificates : (extractCertificates after).Perm (extractCertificates before ++ added)
  crls : (after.crls.getD []).Perm (before.crls.getD [] ++ choices)

/-- The certificates, the CRL and the OCSP response that the arguments name or that are
fetched are in DER: the tool embeds them as they are. -/
structure AddsDer (fs : FileSystem) (args : ModifyArgs) : Prop where
  certificates : ∀ (intermediateCert : Certificate) (added : List Certificate),
    addedCertificates env fs args = .ok (intermediateCert, added) →
      ∀ cert ∈ added, ∃ der, InDer der ∧ env.parseCertificate der = .ok cert
  crl : ∀ (subject : Certificate) (octets : Octets),
    crlBytes env fs args subject = .ok octets → octets ≠ [] → InDer octets
  ocsp : ∀ (subject issuer : Certificate) (octets : Octets),
    ocspBytes env fs args subject issuer = .ok octets → octets ≠ [] → InDer octets

/-- The CMS of the message is a slice, and the normalisation takes the size and the
depth of what is written for it. -/
structure CmsFits (fs : FileSystem) (target : Target) (args : ModifyArgs) (eml : Octets)
    (message : Message) : Prop where
  former : ∀ (contents p7mDer : Octets) (before : SignedData),
    p7mContents env eml message = .ok contents →
      readSignedData env target contents = .ok (p7mDer, before) →
        contents.length < target.usizeSize ∧ p7mDer.length < target.usizeSize
  written : ∀ (contents p7mDer encoded : Octets) (before : SignedData),
    p7mContents env eml message = .ok contents →
      readSignedData env target contents = .ok (p7mDer, before) →
        modifiedCms env fs args p7mDer before = .ok encoded → Fits target encoded

/-- One certificate at most matches a signer, and none that is added. -/
def Unambiguous (before : SignedData) (added : List Certificate) : Prop :=
  ∀ signer ∈ before.signerInfos,
    (∀ cert ∈ extractCertificates before, ∀ other ∈ extractCertificates before,
      sidMatchesCert env.toExternals signer.issuerAndSerialNumber cert →
        sidMatchesCert env.toExternals signer.issuerAndSerialNumber other → cert = other) ∧
      ∀ cert ∈ added, sidMatchesCert env.toExternals signer.issuerAndSerialNumber cert = false

end Laws

section Written

variable {env : ModifyExternals} {fs : FileSystem} {target : Target} {args : ModifyArgs}
  {eml out p7mDer encoded text : Octets} {message : Message} {before after sent : SignedData}
  {added : List Certificate} {choices : List RevocationInfoChoice}

theorem isPkcs7Mime_eq (info : PartInfo) : isPkcs7Mime info = hasKind .pkcs7Mime info := by
  unfold isPkcs7Mime hasKind
  cases info.contentType with
  | none => rfl
  | some ct =>
      simp only [Option.any_some, smimeContentKind]
      cases ct.cSubtype with
      | none => simp
      | some subtype => simp only [Option.any_some]; grind

theorem signingTimeHeader_some {signedData : SignedData} {date : String}
    (h : signingTimeHeader env signedData = some date) :
    ∃ time : DateTime, date = dateHeader env time := by
  unfold signingTimeHeader at h
  generalize (signedData.signerInfos.head?.bind SignerInfo.authenticatedAttributes).getD [] =
    attrs at h
  have hFold : ∀ (attrs : List Attribute) (found : Option String),
      (∀ date, found = some date → ∃ time, date = dateHeader env time) →
        ∀ date, attrs.foldl (signingTimeStep env) found = some date →
          ∃ time, date = dateHeader env time := by
    intro attrs
    induction attrs with
    | nil => exact fun found hFound => hFound
    | cons attr rest ih =>
        intro found hFound
        apply ih
        intro date hDate
        unfold signingTimeStep at hDate
        split_ifs at hDate
        · split at hDate
          · split at hDate
            · next time _ => exact ⟨time, (Option.some.inj hDate).symm⟩
            · exact hFound date hDate
          · exact hFound date hDate
        · exact hFound date hDate
  exact hFold attrs none (fun date hNone => by cases hNone) date h

theorem headersBytes_ok {headers : Octets}
    (h : headersBytes env eml (env.headersOf eml 0) before = Call.ok headers) :
    ∃ text : Octets, KeptHeader env eml text ∧ headers = text ++ lineBreak := by
  rw [headersBytes, Call.bind_eq_ok_iff] at h
  obtain ⟨kept, hKept, h⟩ := h
  cases hDate : (if (env.headersOf eml 0).any fun header => header.name = .date then none
      else signingTimeHeader env before) with
  | none =>
      simp only [hDate, Option.getD_none] at h
      refine ⟨kept, ⟨kept, hKept, .inl rfl⟩, ?_⟩
      cases h
      have hEmpty : utf8 "" = [] := by
        rw [utf8, Utf8.toList_toUTF8]
        rfl
      rw [hEmpty, List.append_nil]
  | some date =>
      simp only [hDate, Option.getD_some] at h
      split_ifs at hDate with hNone
      obtain ⟨time, rfl⟩ := signingTimeHeader_some hDate
      have hNoDate : ∀ header ∈ env.headersOf eml 0, header.name ≠ .date := by
        simpa only [List.any_eq_true, decide_eq_true_eq, not_exists, not_and] using hNone
      refine ⟨kept ++ utf8 (dateHeader env time), ⟨kept, hKept, .inr ⟨hNoDate, time, rfl⟩⟩, ?_⟩
      cases h
      rfl

/-- The response that the arguments name is among the choices. -/
def Staples (fs : FileSystem) (args : ModifyArgs) (choices : List RevocationInfoChoice) : Prop :=
  ∀ (path : String) (response : Octets), args.ocsp = true → args.ocspPath = some path →
    fs.read path = .ok response → response ≠ [] → .other riOcspOid response ∈ choices

theorem capturedCrl_ok {octets : Octets} {crls : List Octets}
    (h : capturedCrl env octets = .ok crls) :
    crls = [] ∨ octets ≠ [] ∧ env.parseSequence octets = .ok () ∧ crls = [octets] := by
  unfold capturedCrl at h
  split_ifs at h with hEmpty
  · cases h
    exact .inl rfl
  · simp only [Except.bind_eq_ok_iff, Except.mapError_eq_ok_iff] at h
    obtain ⟨_, hParsed, hReturn⟩ := h
    cases hReturn
    exact .inr ⟨by simpa using hEmpty, hParsed, rfl⟩

theorem capturedOcsp_ok {octets : Octets} {ocsp : List RevocationInfoChoice}
    (h : capturedOcsp env octets = .ok ocsp) :
    octets = [] ∧ ocsp = [] ∨
      octets ≠ [] ∧ env.parseTlv octets = .ok () ∧ ocsp = [.other riOcspOid octets] := by
  unfold capturedOcsp at h
  split_ifs at h with hEmpty
  · cases h
    exact .inl ⟨List.isEmpty_iff.mp hEmpty, rfl⟩
  · simp only [Except.bind_eq_ok_iff, Except.mapError_eq_ok_iff] at h
    obtain ⟨_, hParsed, hReturn⟩ := h
    cases hReturn
    exact .inr ⟨by simpa using hEmpty, hParsed, rfl⟩

/-- The response that is captured is the one that the arguments name. -/
theorem staples_of_captured {crls responses : List Octets} {subject issuer : Certificate}
    {octets : Octets} (hOctets : ocspBytes env fs args subject issuer = .ok octets)
    (hCaptured : octets ≠ [] → responses = [octets]) :
    Staples fs args (revocationChoices crls responses) := by
  intro path response hAsked hPath hRead hSome
  rw [ocspBytes, hAsked, hPath] at hOctets
  simp only [Bool.not_true, Bool.false_eq_true, if_false, hRead, Except.mapError,
    Except.ok.injEq] at hOctets
  subst hOctets
  rw [revocationChoices, hCaptured hSome]
  exact List.mem_append_right _ List.mem_cons_self

/-- What has to be at hand for the tool to write, and what it writes: of the CRL and the
response what was read of them. -/
theorem modifiedCms_ok (h : modifiedCms env fs args p7mDer before = .ok encoded) :
    ∃ (intermediateCert : Certificate) (added : List Certificate) (subject : Certificate)
        (crls responses : List Octets),
      addedCertificates env fs args = .ok (intermediateCert, added) ∧
        subjectCertificate env (before.certificates.getD [] ++ added.map .certificate) =
            .ok subject ∧
          checkSubject env subject intermediateCert = .ok () ∧
            Staples fs args (revocationChoices crls responses) ∧
              (AddsDer env fs args → ReadDer env.parseSequence crls ∧
                ReadDer env.parseTlv responses) ∧
                env.writeSignedData p7mDer (modifiedSignedData before added
                  (revocationChoices crls responses)) crls = .ok encoded := by
  simp only [modifiedCms, Except.bind_eq_ok_iff, Prod.exists] at h
  obtain ⟨intermediateCert, added, hAdded, subject, hSubject, checked, hCheck, crlOctets,
    hCrlOctets, crls, hCrls, octets, hOctets, ocsp, hOcsp, hEncode⟩ := h
  simp only [encodeSignedData, Except.bind_eq_ok_iff, Except.mapError_eq_ok_iff] at hEncode
  obtain ⟨found, hFound, content, -, hReturn⟩ := hEncode
  cases content with
  | signedData =>
      cases hReturn
      obtain ⟨responses, rfl, hResponse, hRead⟩ : ∃ responses : List Octets,
          ocsp = responses.map (.other riOcspOid) ∧ (octets ≠ [] → responses = [octets]) ∧
            (AddsDer env fs args → ReadDer env.parseTlv responses) := by
        rcases capturedOcsp_ok hOcsp with ⟨rfl, rfl⟩ | ⟨hSome, hParsed, rfl⟩
        · exact ⟨[], rfl, fun h => absurd rfl h, fun _ _ hMem => absurd hMem List.not_mem_nil⟩
        · refine ⟨[octets], rfl, fun _ => rfl, fun hAdds response hMem => ?_⟩
          rw [List.mem_singleton.mp hMem]
          exact ⟨hAdds.ocsp _ _ _ hOctets hSome, hParsed⟩
      refine ⟨intermediateCert, added, subject, crls, responses, hAdded, hSubject, hCheck,
        staples_of_captured hOctets hResponse, fun hAdds => ⟨?_, hRead hAdds⟩, hFound⟩
      rcases capturedCrl_ok hCrls with rfl | ⟨hSome, hParsed, rfl⟩
      · exact fun _ hMem => absurd hMem List.not_mem_nil
      · intro crl hMem
        rw [List.mem_singleton.mp hMem]
        exact ⟨hAdds.crl _ _ hCrlOctets hSome, hParsed⟩
  | _ => cases hReturn

theorem outputBytes_ok (h : outputBytes env fs target args = Call.ok out) :
    ∃ (eml : Octets) (message : Message) (contents p7mDer : Octets) (signedData : SignedData)
        (headers encoded : Octets),
      fs.read args.eml = .ok eml ∧ env.parseMessage eml = some message ∧
        p7mContents env eml message = .ok contents ∧
          readSignedData env target contents = .ok (p7mDer, signedData) ∧
            headersBytes env eml (env.headersOf eml (rootId message)) signedData =
                Call.ok headers ∧
              modifiedCms env fs args p7mDer signedData = .ok encoded ∧
                out = headers ++ wrapBase64 encoded := by
  simp only [outputBytes, Call.bind_eq_ok_iff, Call.returned_eq_ok_iff, Except.mapError_eq_ok_iff,
    orError_eq_ok_iff, Prod.exists] at h
  obtain ⟨eml, hRead, message, hMessage, contents, hContents, p7mDer, signedData, hSigned, -, -,
    headers, hHeaders, encoded, hEncoded, hOut⟩ := h
  cases hOut
  exact ⟨eml, message, contents, p7mDer, signedData, headers, encoded, hRead, hMessage, hContents,
    hSigned, hHeaders, hEncoded, rfl⟩

theorem IsOpaque.exists_root (h : IsOpaque message) :
    ∃ (part : MessagePart) (rest : List MessagePart), message.parts = part :: rest ∧
      hasKind .pkcs7Mime part.toPartInfo = true := by
  obtain ⟨ct, hType, hKind⟩ := h
  rw [Message.contentType] at hType
  cases hParts : message.parts with
  | nil =>
      rw [hParts] at hType
      cases hType
  | cons part rest =>
      rw [hParts, List.head?_cons, Option.bind_some] at hType
      refine ⟨part, rest, rfl, ?_⟩
      rw [hasKind, hType, Option.any_some, hKind]
      rfl

theorem rootId_isOpaque (h : IsOpaque message) : rootId message = 0 := by
  obtain ⟨part, rest, hParts, hKind⟩ := h.exists_root
  rw [rootId, hParts, List.findIdx?_cons, isPkcs7Mime_eq, hKind]
  rfl

/-- The verification of an opaque message takes what its root part holds. -/
theorem opaqueInput_root {part : MessagePart} {rest : List MessagePart} {der : Octets}
    (hParts : message.parts = part :: rest) (hKind : hasKind .pkcs7Mime part.toPartInfo = true)
    (hDer : berToDerCms target part.contents = .ok der)
    (hContent : env.parseContentInfo der = .ok (.signedData after)) :
    opaqueInput env.toExternals target message = .ok after := by
  rw [opaqueInput, extractSmimeOpaqueP7mDer, hParts, List.find?_cons, hKind]
  simp only [orError, Except.ok_bind', hDer, Except.mapError, parseSignedData, hContent]

theorem verify_isOpaque (hMessage : env.parseMessage eml = some message)
    (hOpaque : IsOpaque message) (trust : TrustConfig) :
    verifySmimeFromEmlDetailed env.toExternals target eml trust =
      verifyOpaque env.toExternals target message trust {} := by
  obtain ⟨ct, hCt, hKind⟩ := hOpaque
  simp only [verifySmimeFromEmlDetailed, hMessage, hCt, not_lacksBoundary hKind, hKind,
    Bool.false_eq_true, if_false]

/-- The DER that was read of the message, and what is in it. -/
theorem readSignedData_ok {contents : Octets}
    (hRead : readSignedData env target contents = .ok (p7mDer, before))
    (hSlices : contents.length < target.usizeSize ∧ p7mDer.length < target.usizeSize) :
    IsCmsDer p7mDer ∧ env.parseContentInfo p7mDer = .ok (.signedData before) := by
  simp only [readSignedData, Except.bind_eq_ok_iff, Except.mapError_eq_ok_iff] at hRead
  obtain ⟨der, hDer, content, hContent, hReturn⟩ := hRead
  cases content with
  | signedData found =>
      cases hReturn
      obtain ⟨value, after, -, hSets, -, -, hSorted, hAfter⟩ :=
        @exists_setsSorted_of_berToDerCms target ⟨contents, hSlices.1⟩ ⟨p7mDer, hSlices.2⟩ hDer
      exact ⟨⟨after, hAfter, hSorted.setsAscending hSets, hSorted.idem⟩, hContent⟩
  | _ => cases hReturn

theorem readSignedData_isOpaque {contents : Octets} {signedData : SignedData}
    (hOpaque : IsOpaque message) (hContents : p7mContents env eml message = .ok contents)
    (hRead : readSignedData env target contents = .ok (p7mDer, signedData)) :
    opaqueInput env.toExternals target message = .ok signedData := by
  obtain ⟨part, rest, hParts, hKind⟩ := hOpaque.exists_root
  rw [p7mContents, hParts, List.find?_cons, isPkcs7Mime_eq, hKind] at hContents
  cases hContents
  simp only [readSignedData, Except.bind_eq_ok_iff, Except.mapError_eq_ok_iff] at hRead
  obtain ⟨der, hDer, content, hContent, hReturn⟩ := hRead
  cases content with
  | signedData found =>
      cases hReturn
      exact opaqueInput_root hParts hKind hDer hContent
  | _ => cases hReturn

end Written

section Contents

variable {env : ModifyExternals} {before after : SignedData} {added : List Certificate}
  {choices : List RevocationInfoChoice}

theorem crls_modified :
    (modifiedSignedData before added choices).crls.getD [] = before.crls.getD [] ++ choices := by
  rw [modifiedSignedData]
  dsimp only
  split_ifs with hEmpty
  · rw [List.isEmpty_iff] at hEmpty
    rw [hEmpty, (List.append_eq_nil_iff.mp hEmpty).1]
  · rfl

theorem extractCertificates_modified :
    extractCertificates (modifiedSignedData before added choices) =
      extractCertificates before ++ added := by
  rw [extractCertificates, modifiedSignedData, Option.getD_some, List.filterMap_append,
    List.filterMap_map]
  congr 1
  exact List.filterMap_some

theorem extended_of_reordered (h : Reordered (modifiedSignedData before added choices) after) :
    Extended before after added choices where
  content := by rw [h.rest]; rfl
  signers := by rw [h.rest]; rfl
  certificates := by
    rw [← @extractCertificates_modified before added choices]
    exact (Option.perm_getD_of_rel h.certificates).filterMap _
  crls := by
    rw [← @crls_modified before added choices]
    exact Option.perm_getD_of_rel h.crls

theorem version_correct_iff {signedData : SignedData} {signers : List SignerInfo} :
    validateSignedDataVersion signedData signers = none ↔
      signedData.version = expectedSignedDataVersion signedData signers := by
  by_cases hSame : signedData.version = expectedSignedDataVersion signedData signers
  · rw [validateSignedDataVersion, if_neg (not_not.mpr hSame)]
    exact iff_of_true rfl hSame
  · rw [validateSignedDataVersion, if_pos hSame]
    exact iff_of_false (Option.some_ne_none _) hSame

/-- The order of a SET OF does not count for the version. -/
theorem expectedVersion_reordered (h : Reordered before after) :
    expectedSignedDataVersion after after.signerInfos =
      expectedSignedDataVersion before before.signerInfos := by
  have hContent : after.content = before.content := by rw [h.rest]
  have hSigners : after.signerInfos = before.signerInfos := by rw [h.rest]
  simp only [expectedSignedDataVersion, hContent, hSigners,
    (Option.perm_getD_of_rel h.certificates).contains_eq,
    (Option.perm_getD_of_rel h.crls).any_eq]

theorem contains_added {choice : CertificateChoices} (h : ∀ cert, choice ≠ .certificate cert) :
    (added.map CertificateChoices.certificate).contains choice = false := by
  rw [List.contains_eq_mem, decide_eq_false_iff_not, List.mem_map]
  rintro ⟨cert, -, hEq⟩
  exact h cert hEq.symm

/-- From a version that is right the tool takes the one that has to follow. -/
theorem expectedVersion_modified :
    expectedSignedDataVersion (modifiedSignedData before added choices) before.signerInfos =
      modifiedVersion (expectedSignedDataVersion before before.signerInfos)
        (before.certificates.getD [] ++ added.map .certificate)
          (before.crls.getD [] ++ choices) := by
  have hContent : (modifiedSignedData before added choices).content = before.content := rfl
  rw [expectedSignedDataVersion, crls_modified, hContent]
  unfold expectedSignedDataVersion modifiedVersion
  simp only [modifiedSignedData, Option.getD_some, List.contains_append, List.any_append,
    @contains_added added .otherCertificate (by simp), @contains_added added .v2AttrCert (by simp),
    @contains_added added .v1AttrCert (by simp), Bool.or_false]
  -- What is left depends only on which kinds there are.
  generalize (before.certificates.getD []).contains .otherCertificate = otherCert
  generalize (before.certificates.getD []).contains .v2AttrCert = v2
  generalize (before.certificates.getD []).contains .v1AttrCert = v1
  generalize (before.crls.getD []).any _ = otherCrl
  generalize choices.any _ = otherChoice
  generalize before.signerInfos.any _ = ski
  generalize decide (before.content = .other) = otherContent
  revert otherCert v2 v1 otherCrl otherChoice ski otherContent
  decide

/-- A version that was right is right again. -/
theorem version_modified (h : Reordered (modifiedSignedData before added choices) after)
    (hBefore : validateSignedDataVersion before before.signerInfos = none) :
    validateSignedDataVersion after after.signerInfos = none := by
  rw [version_correct_iff] at hBefore ⊢
  have hModified : (modifiedSignedData before added choices).signerInfos = before.signerInfos := rfl
  rw [expectedVersion_reordered h, hModified, expectedVersion_modified, ← hBefore, h.rest]
  rfl

/-- The same certificates match a signer as before. -/
theorem candidates_extended (hExtended : Extended before after added choices)
    (hUnambiguous : Unambiguous env before added) {signer : SignerInfo}
    (hSigner : signer ∈ before.signerInfos) :
    (extractCertificates after).filter
        (sidMatchesCert env.toExternals signer.issuerAndSerialNumber) =
      (extractCertificates before).filter
        (sidMatchesCert env.toExternals signer.issuerAndSerialNumber) := by
  obtain ⟨hOne, hOthers⟩ := hUnambiguous signer hSigner
  have hPerm := hExtended.certificates.filter
    (sidMatchesCert env.toExternals signer.issuerAndSerialNumber)
  have hAdded : added.filter (sidMatchesCert env.toExternals signer.issuerAndSerialNumber) = [] := by
    rw [List.filter_eq_nil_iff]
    intro cert hMem
    rw [hOthers cert hMem]
    exact Bool.false_ne_true
  rw [List.filter_append, hAdded, List.append_nil] at hPerm
  apply List.eq_of_perm_of_forall_eq hPerm
  intro cert hCert other hOther
  rw [List.mem_filter] at hCert hOther
  exact hOne cert hCert.1 other hOther.1 hCert.2 hOther.2

end Contents

/-- What is made of a message: an issuer of its first certificate is added to it, with
what else the arguments name, and all else stays. A correct version stays correct. -/
structure Modified (env : ModifyExternals) (fs : FileSystem) (target : Target) (args : ModifyArgs)
    (message other : Message) (before after : SignedData) (added : List Certificate)
    (choices : List RevocationInfoChoice) : Prop where
  opened : opaqueInput env.toExternals target message = .ok before
  reopened : opaqueInput env.toExternals target other = .ok after
  issuer : ∃ intermediateCert subject : Certificate,
    addedCertificates env fs args = .ok (intermediateCert, added) ∧
      subjectCertificate env (before.certificates.getD [] ++ added.map .certificate) =
          .ok subject ∧
        checkSubject env subject intermediateCert = .ok ()
  staples : Staples fs args choices
  extended : Extended before after added choices
  version : validateSignedDataVersion before before.signerInfos = none →
    validateSignedDataVersion after after.signerInfos = none

/-- What `run_modify` makes of an opaque message in Base64, with additions in DER, is the
message with the certificates and the revocation information added. Its signatures are those of the
message, each valid when the anchors trust its certificate by what the message holds
now. -/
theorem runModify_keeps_signatures (env : ModifyExternals) {inBase64 : Octets → Prop}
    (laws : ModifyLaws env inBase64) (fs : FileSystem) (target : Target) (args : ModifyArgs)
    {eml out : Octets} {message : Message} (hRead : fs.read args.eml = .ok eml)
    (hMessage : env.parseMessage eml = some message) (hOpaque : IsOpaque message)
    (hBase64 : inBase64 eml) (hAdds : AddsDer env fs args)
    (hFits : CmsFits env fs target args eml message)
    (hWritten : outputBytes env fs target args = Call.ok out) :
    ∃ (other : Message) (before after : SignedData) (added : List Certificate)
        (choices : List RevocationInfoChoice),
      env.parseMessage out = some other ∧
        Modified env fs target args message other before after added choices ∧
      (Unambiguous env before added → ∀ trust : TrustConfig,
        List.Forall₂ (SameSignature env.toExternals trust before after)
          (verifySmimeFromEmlDetailed env.toExternals target eml trust).signers
          (verifySmimeFromEmlDetailed env.toExternals target out trust).signers) := by
  obtain ⟨found, same, contents, p7mDer, before, headers, encoded, hFound, hSame, hContents,
    hBefore, hHeaders, hEncoded, rfl⟩ := outputBytes_ok hWritten
  cases hRead.symm.trans hFound
  cases hMessage.symm.trans hSame
  obtain ⟨intermediateCert, added, subject, crls, responses, hAdded, hSubject, hCheck, hStaples,
    hDerAdditions, hWrite⟩ := modifiedCms_ok hEncoded
  obtain ⟨hCrls, hResponses⟩ := hDerAdditions hAdds
  obtain ⟨hFormer, hFormerContent⟩ := readSignedData_ok hBefore (hFits.former _ _ _ hContents hBefore)
  obtain ⟨hDer, after, hReordered, hContent⟩ := laws.signedData _ _ _ _ _ _ hFormer hFormerContent
    (hAdds.certificates _ _ hAdded) hCrls hResponses hWrite
  rw [rootId_isOpaque hOpaque] at hHeaders
  obtain ⟨text, hKept, rfl⟩ := headersBytes_ok hHeaders
  obtain ⟨other, part, rest, hOther, hParts, hType, rfl⟩ :=
    laws.message eml message text encoded hMessage hOpaque hBase64 hKept
  have hOtherOpaque : IsOpaque other := by
    obtain ⟨ct, hCt, hKind⟩ := hOpaque
    refine ⟨ct, ?_, hKind⟩
    rw [Message.contentType, hParts, List.head?_cons, Option.bind_some, hType, hCt]
  have hOpened := readSignedData_isOpaque hOpaque hContents hBefore
  have hAfter : opaqueInput env.toExternals target other = .ok after := by
    obtain ⟨root, others, hRoot, hKind⟩ := hOtherOpaque.exists_root
    obtain ⟨rfl, -⟩ := List.cons.inj (hParts.symm.trans hRoot)
    exact opaqueInput_root hParts hKind (berToDerCms_fits hDer
      (hFits.written _ _ _ _ hContents hBefore hEncoded)) hContent
  have hExtended := extended_of_reordered hReordered
  refine ⟨other, before, after, added, _, hOther, ⟨hOpened, hAfter,
    ⟨intermediateCert, subject, hAdded, hSubject, hCheck⟩, hStaples, hExtended,
    version_modified hReordered⟩, ?_⟩
  intro hUnambiguous trust
  rw [verify_isOpaque hMessage hOpaque, verify_isOpaque hOther hOtherOpaque]
  simp only [verifyOpaque, hOpened, hAfter, SignedTarget.ofEcontent, hExtended.content]
  cases before.content with
  | data content =>
      cases content with
      | none => exact .nil
      | some data =>
          exact verifySignedData_sameSignature hExtended.content hExtended.signers
            (fun signer hMem => candidates_extended hExtended hUnambiguous hMem) _ _ _ _ _ _ rfl
  | other => exact .nil

section Samples

open CreateCms

/-! The message that `leafCert` signed, without the certificate of its issuer. -/

def bareSample : SignedData :=
  { innerSample.sent with certificates := some [.certificate leafCert] }

def bareDer : Octets :=
  (Cms.sequence [Cms.oid idSignedData, Cms.context0 [Cms.sequence
    ((signedDataFields innerSample.digest innerSample.content).set 3
      (Cms.context0 [certValue 2]))]]).encode

def rootPem : Octets := ascii "-----BEGIN CERTIFICATE-----\nMAMCAQE=\n-----END CERTIFICATE-----\n"

def sampleHeaders : List Header :=
  [⟨.from_, 0, 59⟩, ⟨.to, 59, 109⟩, ⟨.subject, 109, 132⟩, ⟨.date, 132, 171⟩, ⟨.mimeVersion, 171, 190⟩,
    ⟨.contentType, 190, 272⟩, ⟨.contentDisposition, 272, 327⟩, ⟨.contentTransferEncoding, 327, 362⟩]

/-- The key of `rootCert` verifies `leafCert`. -/
def modifyExternals : ModifyExternals where
  toExternals :=
    { (signedExternals nestedParse).toExternals with
      parseContentInfo := fun der =>
        if der = bareDer then .ok (.signedData bareSample)
        else (signedExternals nestedParse).parseContentInfo der
      writeCertificate := fun cert =>
        if cert = rootCert then .ok (certValue 1).encode
        else if cert = leafCert then .ok (certValue 2).encode
        else unanswered
      verifySignatureWithSignatureAlgorithm := fun key alg signature signed =>
        if key.spkiDer = rootCert.spki.subjectPublicKey ∧ signature = leafCert.signature then .ok ()
        else essExternals.verifySignatureWithSignatureAlgorithm key alg signature signed }
  parsePem _ := none
  decodeBase64 _ := none
  parseBasicConstraints _ := unanswered
  parseKeyUsage _ := unanswered
  parseAccessDescriptions _ := unanswered
  parseDistributionPoints _ := unanswered
  parseCrl _ := unanswered
  writeTbsCertList _ := unanswered
  writeOctetString _ := unanswered
  writeOcspRequest _ := unanswered
  urlScheme _ := unanswered
  fillRandom := unanswered
  httpPost _ _ := unanswered
  httpGet _ _ := unanswered
  producedAt _ := ⟨2026, 5, 28, 20, 26, 40⟩
  rawResponseExtensions _ := none
  debugDateTime _ := ""
  headersOf _ _ := sampleHeaders
  bodyText _ := none
  formatDate _ := ""
  parsePemText text := if text = rootPem then .ok (certValue 1).encode else unanswered
  parseSequence _ := unanswered
  parseTlv _ := unanswered
  writeSignedData _ signedData crls :=
    if crls = [] ∧ signedData = innerSample.sent then .ok innerSample.der else unanswered
  buildClient := unanswered
  clientGet _ := none
  clientPost _ _ := none

def opaqueHeader : Octets := sampleHeader "signed-data" ++ pkcs7Header "signed-data"

def opaqueBeginning : Octets × String × Option Addr :=
  (opaqueHeader, "signed-data", some ⟨some "Anu Allkirjastaja", some "anu@naide.ee"⟩)

theorem opaqueBeginning_mem : opaqueBeginning ∈ sampleBeginnings := .tail _ (.tail _ (.head _))

def bareEml : Octets := opaqueHeader ++ wrapBase64 bareDer

def extendedEml : Octets := opaqueHeader ++ wrapBase64 innerSample.der

def modifyArgs : ModifyArgs := { eml := "message.eml", cert := "root.pem", output := "modified.eml" }

def modifyFiles : FileSystem where
  read path :=
    if path = "message.eml" then .ok bareEml else if path = "root.pem" then .ok rootPem
    else .error "No such file or directory"
  write _ _ := .ok ()
  debugPath path := path

/-- Fields that are kept, one behind the other. -/
def Consecutive : Nat → List Header → Nat → Prop
  | start, [], stop => start = stop
  | start, header :: rest, stop =>
      allowedHeaders header.name ∧ header.offsetField = start ∧ start ≤ header.offsetEnd ∧
        Consecutive header.offsetEnd rest stop

theorem Consecutive.start_le {start stop : Nat} {headers : List Header}
    (h : Consecutive start headers stop) : start ≤ stop := by
  induction headers generalizing start with
  | nil => exact h.le
  | cons header rest ih =>
      obtain ⟨-, -, hOrder, hRest⟩ := h
      exact hOrder.trans (ih hRest)

theorem keptHeaders_consecutive {eml : Octets} {start stop : Nat} {headers : List Header}
    (h : Consecutive start headers stop) (hStop : stop ≤ eml.length) :
    keptHeaders eml headers = Call.ok ((eml.drop start).take (stop - start)) := by
  induction headers generalizing start with
  | nil =>
      cases h
      rw [Nat.sub_self, List.take_zero]
      rfl
  | cons header rest ih =>
      obtain ⟨hAllowed, rfl, hOrder, hRest⟩ := h
      have hBehind := hRest.start_le
      have hSplit : stop - header.offsetField =
          (header.offsetEnd - header.offsetField) + (stop - header.offsetEnd) := by
        omega
      rw [keptHeaders, if_pos hAllowed, Call.slice_of_le hOrder (hBehind.trans hStop), Call.ok_bind,
        ih hRest, Call.ok_bind, Call.pure_eq_ok, hSplit, List.take_add, List.drop_drop,
        Nat.add_sub_cancel' hOrder]

theorem opaqueHeader_split : opaqueHeader.drop 362 = lineBreak := by decide +kernel

theorem take_opaqueHeader : opaqueHeader.take 362 ++ lineBreak = opaqueHeader := by
  rw [← opaqueHeader_split, List.take_append_drop]

theorem keptHeaders_sample (body : Octets) :
    keptHeaders (opaqueHeader ++ body) sampleHeaders = Call.ok (opaqueHeader.take 362) := by
  have hLength : 362 ≤ opaqueHeader.length := by
    have hDrop := congrArg List.length opaqueHeader_split
    rw [List.length_drop] at hDrop
    have hTwo : lineBreak.length = 2 := rfl
    omega
  have hConsecutive : Consecutive 0 sampleHeaders 362 := by
    simp [Consecutive, sampleHeaders, allowedHeaders]
  rw [keptHeaders_consecutive hConsecutive (by rw [List.length_append]; omega), List.drop_zero,
    Nat.sub_zero, List.take_append_of_le_length hLength]

theorem berToDerCms_bare : berToDerCms .native64 bareDer = .ok bareDer := by decide +kernel

theorem modifyExternals_parseContentInfo (der : Octets) :
    modifyExternals.parseContentInfo der =
      if der = bareDer then .ok (.signedData bareSample)
      else (signedExternals nestedParse).parseContentInfo der := rfl

theorem modifyExternals_parseCertificate :
    modifyExternals.parseCertificate = (signedExternals nestedParse).parseCertificate := rfl

theorem isOpaque_bare : IsOpaque (entityMessage bareEml opaqueBeginning) :=
  ⟨pkcs7MimeTypeOf "signed-data", rfl, by decide +kernel⟩

theorem parseMessage_bare :
    modifyExternals.parseMessage bareEml = some (entityMessage bareEml opaqueBeginning) :=
  nestedParse_append opaqueBeginning_mem (wrapBase64 bareDer)

theorem p7mContents_bare :
    p7mContents modifyExternals bareEml (entityMessage bareEml opaqueBeginning) = .ok bareDer := by
  have hBody : Base64.decode (bareEml.drop opaqueHeader.length) = some bareDer := by
    rw [bareEml, List.drop_left, decode_wrapBase64]
  have hPart : p7mContents modifyExternals bareEml (entityMessage bareEml opaqueBeginning) =
      .ok ((Base64.decode (bareEml.drop opaqueHeader.length)).getD []) := rfl
  rw [hPart, hBody, Option.getD_some]

theorem readSignedData_bare :
    readSignedData modifyExternals .native64 bareDer = .ok (bareDer, bareSample) := by
  have hContent : modifyExternals.parseContentInfo bareDer = .ok (.signedData bareSample) :=
    (modifyExternals_parseContentInfo bareDer).trans (if_pos rfl)
  simp only [readSignedData, berToDerCms_bare, Except.mapError, Except.ok_bind', hContent]
  rfl

theorem headersBytes_bare :
    headersBytes modifyExternals bareEml sampleHeaders bareSample = Call.ok opaqueHeader := by
  have hDate : (sampleHeaders.any fun header => header.name = .date) = true := by decide
  have hEmpty : utf8 "" = [] := by
    rw [utf8, Utf8.toList_toUTF8]
    rfl
  rw [headersBytes, bareEml, keptHeaders_sample]
  simp only [Call.ok_bind, hDate, if_true, Option.getD_none, hEmpty, List.append_nil,
    take_opaqueHeader, Call.pure_eq_ok]

theorem modifiedCms_bare :
    modifiedCms modifyExternals modifyFiles modifyArgs bareDer bareSample = .ok innerSample.der := by
  decide +kernel

theorem outputBytes_bare :
    outputBytes modifyExternals modifyFiles .native64 modifyArgs = Call.ok extendedEml := by
  have hRead : modifyFiles.read modifyArgs.eml = .ok bareEml := rfl
  obtain ⟨root, hRoot⟩ : ∃ root : MessagePart,
      (Call.index (entityMessage bareEml opaqueBeginning).parts 0 : Call String MessagePart) =
        Call.ok root := ⟨_, rfl⟩
  have hHeaders : modifyExternals.headersOf bareEml 0 = sampleHeaders := rfl
  simp only [outputBytes, Call.bind_eq_ok_iff, Call.returned_eq_ok_iff, Except.mapError_eq_ok_iff,
    orError_eq_ok_iff, Prod.exists]
  refine ⟨bareEml, hRead, _, parseMessage_bare, bareDer, p7mContents_bare, bareDer, bareSample,
    readSignedData_bare, ?_⟩
  rw [rootId_isOpaque isOpaque_bare, hHeaders]
  exact ⟨root, hRoot, opaqueHeader, headersBytes_bare, innerSample.der, modifiedCms_bare, rfl⟩

theorem written_sample {der : Octets} {signedData : SignedData} {former : Octets}
    {crls : List Octets} (h : modifyExternals.writeSignedData former signedData crls = .ok der) :
    signedData = innerSample.sent ∧ der = innerSample.der := by
  have hWrite : modifyExternals.writeSignedData former signedData crls =
      if crls = [] ∧ signedData = innerSample.sent then .ok innerSample.der else unanswered := rfl
  rw [hWrite] at h
  split_ifs at h with hSent
  · cases h
    exact ⟨hSent.2, rfl⟩
  · cases h

theorem innerSample_written :
    (signedExternals nestedParse).writeSignedData [sha256Algorithm] innerSample.sent =
      .ok innerSample.der := by
  simp only [signedExternals, if_true]
  exact if_pos rfl

theorem modifyLaws : ModifyLaws modifyExternals (opaqueHeader <+: ·) where
  signedData former before added crls responses der _ _ _ _ _ h := by
    obtain ⟨hSent, rfl⟩ := written_sample h
    have hOther : innerSample.der ≠ bareDer := by decide +kernel
    refine ⟨(sample_written innerSample_written).1, innerSample.read, ?_, ?_⟩
    · rw [hSent]
      exact reordered_sample innerSample
    · rw [modifyExternals_parseContentInfo, if_neg hOther, signedExternals_parseContentInfo,
        answerFor_key outerSample_ne.1 (.inl rfl)]
  message eml message text der hMessage hOpaque hHeader hKept := by
    obtain ⟨body, rfl⟩ := hHeader
    obtain ⟨kept, hFields, hText⟩ := hKept
    have hHeaders : modifyExternals.headersOf (opaqueHeader ++ body) 0 = sampleHeaders := rfl
    rw [hHeaders] at hFields hText
    rw [keptHeaders_sample body] at hFields
    cases hFields
    have hDate : ¬ ∀ header ∈ sampleHeaders, header.name ≠ .date := by decide
    obtain rfl : text = opaqueHeader.take 362 := hText.resolve_right fun h => hDate h.1
    have hFormer : modifyExternals.parseMessage (opaqueHeader ++ body) =
        some (entityMessage (opaqueHeader ++ body) opaqueBeginning) :=
      nestedParse_append opaqueBeginning_mem body
    rw [hFormer, Option.some.injEq] at hMessage
    obtain ⟨other, hOther, ⟨info, hParts, hType, hContents⟩, -⟩ :=
      nestedParse_beginning opaqueBeginning_mem der
    refine ⟨other, _, [], ?_, hParts, ?_, hContents⟩
    · rw [take_opaqueHeader]
      exact hOther
    · rw [hType, ← hMessage]
      rfl

/-- With the certificate of its issuer in it, the signature is what it was. -/
theorem runModify_keeps_signatures_sample :
    ∃ (after : SignedData) (choices : List RevocationInfoChoice),
      Extended bareSample after [rootCert] choices ∧
        ∀ trust : TrustConfig,
          List.Forall₂ (SameSignature modifyExternals.toExternals trust bareSample after)
            (verifySmimeFromEmlDetailed modifyExternals.toExternals .native64 bareEml trust).signers
            (verifySmimeFromEmlDetailed modifyExternals.toExternals .native64 extendedEml
              trust).signers := by
  have hOpened : opaqueInput modifyExternals.toExternals .native64
      (entityMessage bareEml opaqueBeginning) = .ok bareSample :=
    readSignedData_isOpaque isOpaque_bare p7mContents_bare readSignedData_bare
  have hCerts : addedCertificates modifyExternals modifyFiles modifyArgs =
      .ok (rootCert, [rootCert]) := by
    decide +kernel
  have hSlice : bareDer.length < Target.native64.usizeSize := by decide +kernel
  have hFits : CmsFits modifyExternals modifyFiles .native64 modifyArgs bareEml
      (entityMessage bareEml opaqueBeginning) := by
    refine ⟨fun contents p7mDer before hContents hBefore => ?_,
      fun contents p7mDer encoded before _ _ hEncoded => ?_⟩
    · cases p7mContents_bare.symm.trans hContents
      cases readSignedData_bare.symm.trans hBefore
      exact ⟨hSlice, hSlice⟩
    · obtain ⟨_, _, _, _, _, -, -, -, -, -, hWrite⟩ := modifiedCms_ok hEncoded
      obtain ⟨-, rfl⟩ := written_sample hWrite
      exact (sample_written innerSample_written).2
  -- Nothing is added but the certificate.
  have hAdds : AddsDer modifyExternals modifyFiles modifyArgs := by
    refine ⟨fun intermediateCert added hAdded cert hMem => ?_, fun subject octets hOctets hSome => ?_,
      fun subject issuer octets hOctets hSome => ?_⟩
    · cases hCerts.symm.trans hAdded
      rw [List.mem_singleton.mp hMem]
      refine ⟨(certValue 1).encode, inDer_certValue 1, ?_⟩
      rw [modifyExternals_parseCertificate]
      exact sampleSigner_root
    · have hClient : modifyExternals.buildClient = unanswered := rfl
      have hFetched : fetched modifyExternals (getCrlUrls modifyExternals subject)
          (.ok modifyExternals.clientGet) = .ok octets := hOctets
      rw [fetched, hClient] at hFetched
      split_ifs at hFetched
      · exact absurd (Except.ok.inj hFetched).symm hSome
      · cases hFetched
    · exact absurd (Except.ok.inj hOctets).symm hSome
  obtain ⟨other, before, after, added, choices, -, hModified, hSignatures⟩ :=
    runModify_keeps_signatures modifyExternals modifyLaws modifyFiles .native64 modifyArgs rfl
      parseMessage_bare isOpaque_bare (List.prefix_append _ _) hAdds hFits outputBytes_bare
  obtain ⟨intermediateCert, subject, hAdded, -, -⟩ := hModified.issuer
  cases hOpened.symm.trans hModified.opened
  cases hCerts.symm.trans hAdded
  refine ⟨after, choices, hModified.extended, hSignatures ?_⟩
  unfold Unambiguous
  decide +kernel

end Samples

end ModifyCms

end Smime
