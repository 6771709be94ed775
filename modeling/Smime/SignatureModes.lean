import Smime.SignerViolations

/-! A signature over signed attributes is none over encapsulated content: what it
covers is an encoding of attributes, and no signer without signed attributes may
bring that as its content. -/
namespace Smime

open X690 (Octets tlv)
open X509 Mail Utils

section Modes

variable {env : Externals}

/-- The DER of the attributes as a SET OF is read as these attributes again, in
whatever order. -/
def ReadsBack (env : Externals) (attrs : List Attribute) : Prop :=
  ∀ data : Octets, IsSetOf env attrs data →
    ∃ read : List Attribute, env.parseAttributes data = .ok read ∧ read.Perm attrs

/-- The same encodings and the same cryptography at another time, with another
verifier of chains. -/
def Externals.elsewhere (env : Externals) (clock : Clock) (chains : ChainVerifier) : Externals :=
  { env with toClock := clock, toChainVerifier := chains }

/-- Signed attributes that are accepted carry a message digest. -/
theorem messageDigest_of_accepts {ctx : VerifyContext env} {idx : Nat} {signer : SignerInfo}
    {cert : Certificate} {attrs : List Attribute}
    (hAttrs : signer.authenticatedAttributes = some attrs)
    (h : Accepts ctx idx signer cert) : ∃ attr ∈ attrs, attr.typeId = messageDigestOid := by
  obtain ⟨before, behind, -, -, pk, -, hVerifies⟩ := h.1.first
  obtain ⟨covered, -, present, digest, hPresent, ⟨attr, value, hFilter, -⟩, -⟩ :=
    hVerifies.digest (by rw [hAttrs]; rfl)
  rw [hAttrs, Option.some.injEq] at hPresent
  subst hPresent
  have hMem : attr ∈ attrs.filter (·.typeId == messageDigestOid) := by simp [hFilter]
  rw [List.mem_filter, beq_iff_eq] at hMem
  exact ⟨attr, hMem.1, hMem.2⟩

/-- Signed attributes of which nothing is recorded carry a content type. -/
theorem contentType_of_clean {signedData : SignedData} {idx : Nat} {signer : SignerInfo}
    {attrs : List Attribute} (hAttrs : signer.authenticatedAttributes = some attrs)
    (hAlgorithms : ∃ warnings : List SmimeError, checkAlgorithms env signer idx = .ok warnings)
    (hClean : (prepareSigner env signer (extractCertificates signedData) idx).1 = []) :
    ∃ attr ∈ attrs, attr.typeId = contentTypeOid := by
  have hConforms : Conforms env signer := by
    by_contra hNot
    obtain ⟨err, hErr, -⟩ := (@recordsViolation_iff env signer idx signedData).mpr
      ⟨hAlgorithms, hNot⟩
    rw [hClean] at hErr
    cases hErr
  obtain ⟨attr, value, hFilter, -⟩ := hConforms.contentType attrs hAttrs
  have hMem : attr ∈ attrs.filter (·.typeId == contentTypeOid) := by simp [hFilter]
  rw [List.mem_filter, beq_iff_eq] at hMem
  exact ⟨attr, hMem.1, hMem.2⟩

theorem carriesSignedAttrs_of_isSetOf {attrs : List Attribute} {data : Octets}
    (hReads : ReadsBack env attrs) (hData : IsSetOf env attrs data)
    (hContentType : ∃ attr ∈ attrs, attr.typeId = contentTypeOid)
    (hMessageDigest : ∃ attr ∈ attrs, attr.typeId = messageDigestOid) :
    CarriesSignedAttrs env data := by
  obtain ⟨read, hRead, hPerm⟩ := hReads data hData
  obtain ⟨contentType, hMem, hType⟩ := hContentType
  obtain ⟨messageDigest, hMem', hType'⟩ := hMessageDigest
  exact ⟨read, hRead, ⟨contentType, hPerm.mem_iff.mpr hMem, hType⟩,
    messageDigest, hPerm.mem_iff.mpr hMem', hType'⟩

@[simp] theorem carriesSignedAttrs_elsewhere {clock : Clock} {chains : ChainVerifier}
    {data : Octets} :
    CarriesSignedAttrs (env.elsewhere clock chains) data ↔ CarriesSignedAttrs env data := Iff.rfl

/-- The guard stops a signer without signed attributes, be the content external
or an encoding of signed attributes. -/
theorem not_accepts_of_carriesSignedAttrs {ctx : VerifyContext env} {idx : Nat}
    {signer : SignerInfo} {cert : Certificate} {data : Octets}
    (hNone : signer.authenticatedAttributes = none)
    (hTarget : ∀ content : Octets, ctx.target = .econtent content → content = data)
    (hData : CarriesSignedAttrs env data) : ¬ Accepts ctx idx signer cert := by
  rintro ⟨hFinds, -⟩
  obtain ⟨hDetached, hEcontent⟩ := precheckSigner_none_iff.mp hFinds.guard
  cases hCase : ctx.target with
  | detached content =>
      have hSome := hDetached content hCase
      rw [hNone] at hSome
      cases hSome
  | econtent content =>
      apply hEcontent content hCase (by rw [hNone]; rfl)
      rw [hTarget content hCase]
      exact hData

/-- When a signer with signed attributes has a valid entry and nothing was
recorded of it, its signature is worth nothing as one of a signer without them
over the octets that were signed. -/
theorem signedAttrs_not_reused (env : Externals) (attrs : List Attribute)
    (hReads : ReadsBack env attrs) (signer : SignerInfo)
    (hAttrs : signer.authenticatedAttributes = some attrs)
    (signedData : SignedData) (target : SignedTarget) (trustStores : List TrustStore)
    (caFilePem : Option Octets) (outerFrom : Option Addr) (outerDate : Option Instant)
    (result : SmimeValidationResult) (idx : Nat)
    (hSigner : signedData.signerInfos[idx]? = some signer)
    (hValid : ∃ entry ∈ (signerEntries env signedData target trustStores caFilePem outerFrom
      outerDate result).getD idx [], entry.signatureValid = true)
    (hClean : (prepareSigner env signer (extractCertificates signedData) idx).1 = [])
    (data : Octets) (hData : encodeSignedAttrs env attrs = .ok data)
    (clock : Clock) (chains : ChainVerifier) (reused : SignedData) (reusedTarget : SignedTarget)
    (hContent : reused.content = .data (some data))
    (hTarget : SignedTarget.ofEcontent reused = .ok reusedTarget ∨
      ∃ content : Octets, reusedTarget = .detached content)
    (reusedStores : List TrustStore) (reusedCaFile : Option Octets) (reusedFrom : Option Addr)
    (reusedDate : Option Instant) (reusedResult : SmimeValidationResult) (reusedIdx : Nat)
    (reusedSigner : SignerInfo) (hReused : reused.signerInfos[reusedIdx]? = some reusedSigner)
    (hNone : reusedSigner.authenticatedAttributes = none) :
    ∀ entry ∈ (signerEntries (env.elsewhere clock chains) reused reusedTarget reusedStores
      reusedCaFile reusedFrom reusedDate reusedResult).getD reusedIdx [],
        entry.signatureValid = false := by
  rw [signerEntries_valid_iff env signedData target trustStores caFilePem outerFrom outerDate result
    hSigner] at hValid
  obtain ⟨ctx, cert, -, hAccepts⟩ := hValid
  have hCarries : CarriesSignedAttrs env data :=
    carriesSignedAttrs_of_isSetOf hReads (encodeSignedAttrs_ok_iff.mp hData)
      (contentType_of_clean hAttrs hAccepts.1.algorithms hClean)
      (messageDigest_of_accepts hAttrs hAccepts)
  have hOnly : ∀ content : Octets, reusedTarget = .econtent content → content = data := by
    rintro content rfl
    rcases hTarget with hEcontent | ⟨external, hExternal⟩
    · rw [SignedTarget.ofEcontent, hContent] at hEcontent
      cases hEcontent
      rfl
    · cases hExternal
  have hEntries := signerEntries_valid_iff (env.elsewhere clock chains) reused reusedTarget
    reusedStores reusedCaFile reusedFrom reusedDate reusedResult hReused
  intro entry hEntry
  rw [Bool.eq_false_iff]
  intro hEntryValid
  obtain ⟨other, otherCert, hReaches, hOther⟩ := hEntries.mp ⟨entry, hEntry, hEntryValid⟩
  refine not_accepts_of_carriesSignedAttrs hNone ?_ (carriesSignedAttrs_elsewhere.mpr hCarries)
    hOther
  rw [reaches_target hReaches]
  exact hOnly

end Modes

section Samples

/-! A signed message, and its signature as one over the octets that were signed. -/

def plainAttributes : List Attribute :=
  [⟨contentTypeOid, [dataOidDer]⟩, ⟨messageDigestOid, [tlv [0x04] essDigest]⟩]

def plainAttributesDer : Octets :=
  let written (last : UInt8) (value : Octets) :=
    tlv [0x30] (tlv [0x06] [0x2A, 0x86, 0x48, 0x86, 0xF7, 0x0D, 0x01, 0x09, last] ++
      tlv [0x31] value)
  tlv [0x31] (written 0x03 dataOidDer ++ written 0x04 (tlv [0x04] essDigest))

def plainSignedData : SignedData :=
  { essSignedData with
    signerInfos := [{ essSigner with authenticatedAttributes := some plainAttributes }] }

def reusedSignedData : SignedData :=
  { essSignedData with
    content := .data (some plainAttributesDer)
    signerInfos := [{ essSigner with authenticatedAttributes := none }] }

def headerless (eml : Octets) : Message :=
  { parts := [⟨⟨none, eml, 0, eml.length⟩, .leaf⟩], fromAddr := none, date := none }

def modesExternals : Externals :=
  { essExternals with
    parseAttributes := fun der =>
      if der = plainAttributesDer then .ok plainAttributes else unanswered
    parseMessage := fun eml =>
      if eml = essContent then some essMessage
      else if eml = plainAttributesDer then some (headerless eml)
      else none }

theorem readsBack_plainAttributes : ReadsBack modesExternals plainAttributes := by
  intro data hData
  have hWritten : encodeSignedAttrs modesExternals plainAttributes = .ok plainAttributesDer := by
    decide +kernel
  rw [← encodeSignedAttrs_ok_iff, hWritten, Except.ok.injEq] at hData
  subst hData
  refine ⟨plainAttributes, ?_, .refl _⟩
  show (if plainAttributesDer = plainAttributesDer then _ else unanswered) = _
  exact if_pos rfl

theorem signedAttrs_not_reused_sample :
    (((signerEntries modesExternals plainSignedData (.econtent essContent) [.debug] none none
        none {}).getD 0 []).map SignerValidation.signatureValid = [true]) ∧
      ((signerEntries (modesExternals.elsewhere modesExternals.toClock
        modesExternals.toChainVerifier) reusedSignedData (.econtent plainAttributesDer) [.debug]
          none none none {}).getD 0 []).all (fun entry => !entry.signatureValid) = true := by
  have hValid : ((signerEntries modesExternals plainSignedData (.econtent essContent) [.debug] none
      none none {}).getD 0 []).map SignerValidation.signatureValid = [true] := by
    decide +kernel
  refine ⟨hValid, ?_⟩
  rw [List.all_eq_true]
  intro entry hEntry
  rw [Bool.not_eq_true']
  refine signedAttrs_not_reused modesExternals plainAttributes readsBack_plainAttributes
    _ rfl plainSignedData (.econtent essContent) [.debug] none none none {} 0 rfl ?_ (by decide +kernel)
    plainAttributesDer (by decide +kernel) modesExternals.toClock modesExternals.toChainVerifier
    reusedSignedData (.econtent plainAttributesDer) rfl (.inl rfl) [.debug] none none none {} 0 _
    rfl rfl entry hEntry
  have hMem : true ∈ ((signerEntries modesExternals plainSignedData (.econtent essContent) [.debug]
      none none none {}).getD 0 []).map SignerValidation.signatureValid := by
    rw [hValid]
    exact List.mem_singleton_self true
  rcases List.mem_map.mp hMem with ⟨found, hFound, hFoundValid⟩
  exact ⟨found, hFound, hFoundValid⟩

end Samples

end Smime
