import Smime.Layers
import Smime.SignerViolations

/-! Whether the content in the result is what the valid signers signed: the
workaround for external content puts another in its place. -/
namespace Smime

open X690 (Octets tlv)
open X509 Mail Utils

section Meaning

/-- The content is external and does not have the digest of the signer. -/
def MissesDigest (env : Externals) (target : SignedTarget) (signer : SignerInfo) : Prop :=
  ∃ content : Octets, target = .detached content ∧ ¬ DigestCovers env signer content

variable {env : Externals} (ctx : VerifyContext env)

/-- What the workaround takes for the content. -/
def normalizedContent : Octets := normalizeWildduckContent ctx.target.content ctx.innerMessage

/-- The signature of the signer verifies over the normalized content only. -/
def UsesWorkaround (idx : Nat) (signer : SignerInfo) : Prop :=
  (∃ cert : Certificate, Finds ctx idx signer cert) ∧ MissesDigest env ctx.target signer

end Meaning

section Step

variable {env : Externals}

open SignedTarget

theorem missesDigest_detached {content : Octets} {signer : SignerInfo} :
    MissesDigest env (.detached content) signer ↔
      passed (verifyMessageDigest env signer.digestAlgorithm signer.authenticatedAttributes
        content) = false := by
  rw [← Bool.not_eq_true, passed_iff, ← digestCovers_iff]
  constructor
  · rintro ⟨other, hOther, hMisses⟩
    cases hOther
    exact hMisses
  · exact fun hMisses => ⟨content, rfl, hMisses⟩

theorem not_missesDigest_econtent {content : Octets} {signer : SignerInfo} :
    ¬ MissesDigest env (.econtent content) signer := by
  rintro ⟨other, hOther, -⟩
  cases hOther

/-- The content is replaced when only its normalization has the digest. -/
theorem verifyCandidate_signedContent (target : SignedTarget) (pk : AnyPublicKey)
    (signer : SignerInfo) (hasSignedAttrs : Bool) (innerMessage : Message)
    (result : SmimeValidationResult) :
    let run := target.verifyCandidate env pk signer hasSignedAttrs innerMessage {} result
    (run.verifies = true ∧ MissesDigest env target signer →
        run.result.signedContent =
          some (normalizeWildduckContent target.content innerMessage)) ∧
      (¬ (run.verifies = true ∧ MissesDigest env target signer) →
        run.result.signedContent = result.signedContent) := by
  cases target with
  | econtent content =>
      exact ⟨fun h => absurd h.2 not_missesDigest_econtent, fun _ => rfl⟩
  | detached content =>
      rw [missesDigest_detached]
      unfold verifyCandidate verifyDetachedCandidate
      simp only [Bool.false_or]
      generalize passed (verifyMessageDigest _ _ _ content) = digest
      generalize passed (verifyDetachedSignature _ _ _ _ _ _) = signature
      generalize passed (verifyMessageDigest _ _ _ _) = again
      cases digest <;> cases signature <;> cases again <;>
        simp [SmimeValidationResult.push, SmimeValidationResult.extend,
          SignedTarget.content]

variable (ctx : VerifyContext env)

/-- `replaced` says whether the content is replaced by its normalization. -/
def ContentStep (replaced : Prop) (before after : SmimeValidationResult) : Prop :=
  (replaced → after.signedContent = some (normalizedContent ctx)) ∧
    (¬ replaced → after.signedContent = before.signedContent)

variable {ctx}

theorem ContentStep.congr {replaced other : Prop} {before after : SmimeValidationResult}
    (h : ContentStep ctx replaced before after) (hIff : replaced ↔ other) :
    ContentStep ctx other before after :=
  ⟨fun hOther => h.1 (hIff.mpr hOther), fun hNot => h.2 fun hReplaced => hNot (hIff.mp hReplaced)⟩

theorem ContentStep.after_same {replaced : Prop} {before middle after : SmimeValidationResult}
    (hSame : middle.signedContent = before.signedContent)
    (h : ContentStep ctx replaced middle after) : ContentStep ctx replaced before after :=
  ⟨h.1, fun hNot => (h.2 hNot).trans hSame⟩

variable (ctx)

theorem findLeaf_contentStep (signer : SignerInfo) (hasSignedAttrs : Bool) (idx : Nat)
    (candidates : List Certificate) (result : SmimeValidationResult) :
    let found := findLeaf ctx signer hasSignedAttrs idx candidates result
    ContentStep ctx (found.2.isSome ∧ MissesDigest env ctx.target signer) result found.1 := by
  induction candidates generalizing result with
  | nil => exact ⟨fun h => absurd h.1 Bool.false_ne_true, fun _ => rfl⟩
  | cons candidate rest ih =>
      unfold findLeaf
      cases publicKey env candidate with
      | error e => exact ContentStep.after_same rfl (ih _)
      | ok pk =>
          obtain ⟨hReplaced, hKept⟩ := verifyCandidate_signedContent ctx.target pk signer
            hasSignedAttrs ctx.innerMessage result
          dsimp only
          split
          next hVerifies =>
            refine ⟨fun h => hReplaced ⟨hVerifies, h.2⟩, fun h => hKept fun hBoth => ?_⟩
            exact h ⟨rfl, hBoth.2⟩
          next hVerifies =>
            exact ContentStep.after_same (hKept fun hBoth => hVerifies hBoth.1) (ih _)

theorem verifySigner_contentStep (idx : Nat) (signer : SignerInfo)
    (result : SmimeValidationResult) :
    ContentStep ctx (UsesWorkaround ctx idx signer) result
      (verifySigner ctx idx signer result).1 := by
  have hFound : (∃ cert : Certificate, Finds ctx idx signer cert) ↔
      (verifySigner ctx idx signer result).2.isSome = true := by
    rcases (verifySigner_cases ctx idx signer result).2 with
      ⟨hNone, hNot⟩ | ⟨cert, entry, hEntry, hFinds, -⟩
    · simp [hNone, hNot]
    · rw [hEntry]
      exact ⟨fun _ => rfl, fun _ => ⟨cert, hFinds⟩⟩
  suffices h : ContentStep ctx ((verifySigner ctx idx signer result).2.isSome = true ∧
      MissesDigest env ctx.target signer) result (verifySigner ctx idx signer result).1 from
    h.congr (and_congr_left' hFound).symm
  rcases hPrepare : prepareSigner env signer ctx.certs idx with ⟨failures, prepared⟩
  simp only [verifySigner, hPrepare]
  cases prepared with
  | none => exact ⟨fun h => absurd h.1 Bool.false_ne_true, fun _ => rfl⟩
  | some prepared =>
      obtain ⟨signingTime, candidates⟩ := prepared
      dsimp only
      cases ctx.target.precheckSigner env signer.authenticatedAttributes.isSome with
      | some err => exact ⟨fun h => absurd h.1 Bool.false_ne_true, fun _ => rfl⟩
      | none =>
          have hLeaf := findLeaf_contentStep ctx signer
            signer.authenticatedAttributes.isSome idx candidates (result.extend failures)
          rcases hFind : findLeaf ctx signer signer.authenticatedAttributes.isSome idx candidates
            (result.extend failures) with ⟨after, found⟩
          rw [hFind] at hLeaf
          cases found with
          | none => exact hLeaf
          | some found => exact hLeaf

/-- What one iteration does to the content. -/
theorem signerStep_contentStep (loop : SignerLoop) (signer : Nat × SignerInfo) :
    ContentStep ctx (UsesWorkaround ctx signer.1 signer.2) loop.result
      (signerStep ctx loop signer).result := by
  obtain ⟨notes, address, comment, date, hResult⟩ := signerStep_result ctx loop signer
  rw [hResult]
  exact verifySigner_contentStep ctx signer.1 signer.2 loop.result

/-- What a run does to the content: once it is replaced it stays so. -/
theorem foldl_signerStep_contentStep (signers : List (Nat × SignerInfo)) (loop : SignerLoop) :
    ContentStep ctx (∃ signer ∈ signers, UsesWorkaround ctx signer.1 signer.2) loop.result
      (signers.foldl (signerStep ctx) loop).result := by
  induction signers generalizing loop with
  | nil => exact ⟨fun h => by simp at h, fun _ => rfl⟩
  | cons signer rest ih =>
      rw [List.foldl_cons]
      have hFirst := signerStep_contentStep ctx loop signer
      have hRest := ih (signerStep ctx loop signer)
      by_cases hLater : ∃ other ∈ rest, UsesWorkaround ctx other.1 other.2
      · refine ⟨fun _ => hRest.1 hLater, fun h => absurd ?_ h⟩
        obtain ⟨other, hOther, hUses⟩ := hLater
        exact ⟨other, List.mem_cons_of_mem _ hOther, hUses⟩
      · have hKept := hRest.2 hLater
        refine ⟨fun h => hKept.trans (hFirst.1 ?_), fun h => hKept.trans (hFirst.2 ?_)⟩
        · obtain ⟨other, hOther, hUses⟩ := h
          rcases List.mem_cons.mp hOther with rfl | hOther
          · exact hUses
          · exact absurd ⟨other, hOther, hUses⟩ hLater
        · exact fun hUses => h ⟨signer, List.mem_cons_self, hUses⟩

end Step

section Run

variable (env : Externals) (signedData : SignedData) (target : SignedTarget)
  (trustStores : List TrustStore) (caFilePem : Option Octets) (outerFrom : Option Addr)
  (outerDate : Option Instant) (result : SmimeValidationResult)

/-- The content in the result after the first `count` signers. -/
def signedContentAfter (count : Nat) : Option Octets :=
  match startVerification env signedData target trustStores caFilePem outerFrom outerDate
      result with
  | (result, none) => result.signedContent
  | (result, some ctx) =>
      (((indexed ctx.signers).take count).foldl (signerStep ctx) { result }).result.signedContent

/-- The content in the result is what every valid signer signed, and no other
signer changes it. -/
structure ShowsSigned : Prop where
  covered : ∀ (idx : Nat) (signer : SignerInfo), signedData.signerInfos[idx]? = some signer →
    (∃ entry ∈ (signerEntries env signedData target trustStores caFilePem outerFrom outerDate
      result).getD idx [], entry.signatureValid = true) →
      signer.authenticatedAttributes.isSome →
        ∃ content : Octets,
          (verifySignedData env signedData target trustStores caFilePem outerFrom outerDate
            result).signedContent = some content ∧ DigestCovers env signer content
  kept : ∀ (idx : Nat) (signer : SignerInfo), signedData.signerInfos[idx]? = some signer →
    (∀ entry ∈ (signerEntries env signedData target trustStores caFilePem outerFrom outerDate
      result).getD idx [], entry.signatureValid = false) →
      signedContentAfter env signedData target trustStores caFilePem outerFrom outerDate result
          (idx + 1) =
        signedContentAfter env signedData target trustStores caFilePem outerFrom outerDate result idx

variable {env}

/-- The first signer that needs the workaround is accepted, and with it every
accepted signer has the digest of the normalized content. -/
structure WorkaroundAgrees (ctx : VerifyContext env) : Prop where
  trusted : ∀ (idx : Nat) (signer : SignerInfo), ctx.signers[idx]? = some signer →
    UsesWorkaround ctx idx signer →
      (∀ i < idx, ∀ other : SignerInfo, ctx.signers[i]? = some other →
        ¬ UsesWorkaround ctx i other) →
        ∃ cert : Certificate, Accepts ctx idx signer cert
  covers : ∀ (idx : Nat) (signer : SignerInfo), ctx.signers[idx]? = some signer →
    UsesWorkaround ctx idx signer →
      ∀ (i : Nat) (other : SignerInfo) (cert : Certificate), ctx.signers[i]? = some other →
        Accepts ctx i other cert → DigestCovers env other (normalizedContent ctx)

variable (env) in
/-- An id-data content is shown, however far the verification gets. -/
theorem startVerification_signedContent (hContent : signedData.content ≠ .other) :
    (startVerification env signedData target trustStores caFilePem outerFrom outerDate
      result).1.signedContent = some target.content := by
  have hOutcome := startVerification_outcome env signedData target trustStores caFilePem outerFrom
    outerDate result
  have hAsked : (askedResult env outerFrom outerDate
      (shownResult signedData target.content result)).signedContent = some target.content := by
    cases outerFrom <;> rfl
  generalize startVerification env signedData target trustStores caFilePem outerFrom outerDate
    result = start at hOutcome
  cases hOutcome with
  | unexpected hOther => exact absurd hOther hContent
  | noAnchors _ hCerts => rfl
  | noInner _ hCerts hInner => exact hAsked
  | noVerifier _ hCerts hInner hVerifier => exact hAsked
  | started _ hCerts hInner hVerifier => exact hAsked

/-- An encapsulated content is shown as it is, whoever signed it. -/
theorem verifySignedData_econtent_content {signedData : SignedData} {target : SignedTarget}
    {trust : TrustConfig}
    (hTarget : SignedTarget.ofEcontent signedData = .ok target) (sender : Option Addr)
    (date : Option Instant) (before : SmimeValidationResult) :
    (verifySignedData env signedData target trust.stores trust.caFilePem sender date
      before).signedContent = some target.content := by
  unfold SignedTarget.ofEcontent at hTarget
  split at hTarget
  next content hContent =>
    cases hTarget
    have hStart := startVerification_signedContent env signedData (.econtent content)
      trust.stores trust.caFilePem sender date before (by rw [hContent]; exact nofun)
    have hRun := verifySignedData_run env signedData (.econtent content)
      trust.stores trust.caFilePem sender date before
    generalize (startVerification env signedData (.econtent content) trust.stores
      trust.caFilePem sender date before).1 = start at hStart hRun
    generalize verifySignedData env signedData (.econtent content) trust.stores
      trust.caFilePem sender date before = after at hRun ⊢
    cases hRun with
    | stopped hNone => exact hStart
    | @looped verify hVerify =>
        have hEcontent := reaches_target hVerify
        refine ((foldl_signerStep_contentStep verify (indexed verify.signers)
          { result := start }).2 ?_).trans hStart
        rintro ⟨signer, -, -, hMisses⟩
        rw [hEcontent] at hMisses
        exact not_missesDigest_econtent hMisses
  next => cases hTarget

theorem mem_take_indexed {signers : List SignerInfo} {count idx : Nat} {signer : SignerInfo} :
    (idx, signer) ∈ (indexed signers).take count ↔ idx < count ∧ signers[idx]? = some signer := by
  rw [List.mem_iff_getElem?]
  simp only [indexed, List.getElem?_take, List.getElem?_mapIdx]
  constructor
  · rintro ⟨i, h⟩
    split at h
    next hLt =>
      rw [Option.map_eq_some_iff] at h
      obtain ⟨other, hOther, hPair⟩ := h
      obtain ⟨rfl, rfl⟩ := Prod.mk.inj hPair
      exact ⟨hLt, hOther⟩
    next => cases h
  · rintro ⟨hLt, hSigner⟩
    exact ⟨idx, by rw [if_pos hLt, hSigner]; rfl⟩

variable {ctx : VerifyContext env}

/-- One of the first `count` signers needs the workaround. -/
def UsedBefore (ctx : VerifyContext env) (count : Nat) : Prop :=
  ∃ i < count, ∃ signer : SignerInfo, ctx.signers[i]? = some signer ∧ UsesWorkaround ctx i signer

theorem usedBefore_succ {idx : Nat} {signer : SignerInfo} (h : ctx.signers[idx]? = some signer) :
    UsedBefore ctx (idx + 1) ↔ UsedBefore ctx idx ∨ UsesWorkaround ctx idx signer := by
  constructor
  · rintro ⟨i, hLt, other, hOther, hUses⟩
    rcases Nat.lt_succ_iff_lt_or_eq.mp hLt with hBefore | rfl
    · exact .inl ⟨i, hBefore, other, hOther, hUses⟩
    · rw [h, Option.some.injEq] at hOther
      exact .inr (hOther ▸ hUses)
  · rintro (⟨i, hLt, other, hOther, hUses⟩ | hUses)
    · exact ⟨i, hLt.trans (Nat.lt_succ_self idx), other, hOther, hUses⟩
    · exact ⟨idx, Nat.lt_succ_self idx, signer, h, hUses⟩

theorem foldl_take_contentStep (ctx : VerifyContext env) (count : Nat) (loop : SignerLoop) :
    ContentStep ctx (UsedBefore ctx count) loop.result
      (((indexed ctx.signers).take count).foldl (signerStep ctx) loop).result := by
  apply (foldl_signerStep_contentStep ctx ((indexed ctx.signers).take count) loop).congr
  constructor
  · rintro ⟨⟨i, signer⟩, hMem, hUses⟩
    rw [mem_take_indexed] at hMem
    exact ⟨i, hMem.1, signer, hMem.2, hUses⟩
  · rintro ⟨i, hLt, signer, hSigner, hUses⟩
    exact ⟨(i, signer), mem_take_indexed.mpr ⟨hLt, hSigner⟩, hUses⟩

/-- A signer that is found has a message digest of one of the two contents. -/
theorem finds_digest {idx : Nat} {signer : SignerInfo} {cert : Certificate}
    (h : Finds ctx idx signer cert) (hAttrs : signer.authenticatedAttributes.isSome) :
    ∃ covered : Octets, Covered ctx.innerMessage ctx.target covered ∧
      DigestCovers env signer covered := by
  obtain ⟨before, behind, -, -, pk, -, hVerifies⟩ := h.first
  exact hVerifies.digest hAttrs

theorem UsesWorkaround.normalized {idx : Nat} {signer : SignerInfo}
    (h : UsesWorkaround ctx idx signer) :
    DigestCovers env signer (normalizedContent ctx) ∧
      normalizedContent ctx ≠ ctx.target.content := by
  obtain ⟨⟨cert, hFinds⟩, content, hTarget, hMisses⟩ := h
  have hGuard := hFinds.guard
  rw [hTarget] at hGuard
  obtain ⟨covered, hCovered, hDigest⟩ := finds_digest hFinds (precheckSigner_detached hGuard)
  have hNormalized : DigestCovers env signer (normalizedContent ctx) := by
    unfold normalizedContent
    rw [hTarget] at hCovered ⊢
    cases hCovered with
    | content => exact absurd hDigest hMisses
    | normalized => exact hDigest
  refine ⟨hNormalized, fun hSame => hMisses ?_⟩
  rw [hSame, hTarget] at hNormalized
  exact hNormalized

theorem digestCovers_of_finds {idx : Nat} {signer : SignerInfo} {cert : Certificate}
    (h : Finds ctx idx signer cert) (hAttrs : signer.authenticatedAttributes.isSome)
    (hNot : ¬ UsesWorkaround ctx idx signer) : DigestCovers env signer ctx.target.content := by
  by_contra hMisses
  obtain ⟨covered, hCovered, hDigest⟩ := finds_digest h hAttrs
  cases hTarget : ctx.target with
  | econtent content =>
      rw [hTarget] at hCovered hMisses
      cases hCovered
      exact hMisses hDigest
  | detached content =>
      rw [hTarget] at hMisses
      exact hNot ⟨⟨cert, h⟩, content, hTarget, hMisses⟩

/-- The content after the first signers of a run. -/
def contentAfter (ctx : VerifyContext env) (start : SmimeValidationResult) (count : Nat) :
    Option Octets :=
  (((indexed ctx.signers).take count).foldl (signerStep ctx) { result := start }).result.signedContent

theorem contentAfter_cases {start : SmimeValidationResult}
    (hStart : start.signedContent = some ctx.target.content) (count : Nat) :
    (UsedBefore ctx count → contentAfter ctx start count = some (normalizedContent ctx)) ∧
      (¬ UsedBefore ctx count → contentAfter ctx start count = some ctx.target.content) := by
  obtain ⟨hReplaced, hKept⟩ := foldl_take_contentStep ctx count { result := start }
  exact ⟨hReplaced, fun hNot => (hKept hNot).trans hStart⟩

theorem contentAfter_length (start : SmimeValidationResult) :
    contentAfter ctx start ctx.signers.length =
      ((indexed ctx.signers).foldl (signerStep ctx) { result := start }).result.signedContent := by
  unfold contentAfter
  rw [List.take_of_length_le (by simp [indexed])]

/-- A signer that is not accepted changes the content only as the first that
needs the workaround. -/
theorem contentAfter_kept_iff {start : SmimeValidationResult}
    (hStart : start.signedContent = some ctx.target.content) {idx : Nat} {signer : SignerInfo}
    (hSigner : ctx.signers[idx]? = some signer) :
    contentAfter ctx start (idx + 1) = contentAfter ctx start idx ↔
      (UsesWorkaround ctx idx signer → UsedBefore ctx idx) := by
  obtain ⟨hReplacedNext, hKeptNext⟩ := contentAfter_cases hStart (idx + 1)
  obtain ⟨hReplaced, hKept⟩ := contentAfter_cases hStart idx
  rw [usedBefore_succ hSigner] at hReplacedNext hKeptNext
  by_cases hBefore : UsedBefore ctx idx
  · rw [hReplacedNext (.inl hBefore), hReplaced hBefore]
    simp [hBefore]
  · rw [hKept hBefore]
    by_cases hUses : UsesWorkaround ctx idx signer
    · rw [hReplacedNext (.inr hUses), Option.some.injEq]
      simp [hUses, hBefore, hUses.normalized.2]
    · rw [hKeptNext (not_or.mpr ⟨hBefore, hUses⟩)]
      simp [hUses]

/-- An accepted signer has the digest of the content at the end, unless another
one needs the workaround. -/
theorem covered_iff {start : SmimeValidationResult}
    (hStart : start.signedContent = some ctx.target.content) {i : Nat} {other : SignerInfo}
    {cert : Certificate} (hOther : ctx.signers[i]? = some other) (hAccepts : Accepts ctx i other cert)
    (hAttrs : other.authenticatedAttributes.isSome) :
    (∃ content : Octets, contentAfter ctx start ctx.signers.length = some content ∧
        DigestCovers env other content) ↔
      (UsedBefore ctx ctx.signers.length → DigestCovers env other (normalizedContent ctx)) := by
  obtain ⟨hReplaced, hKept⟩ := contentAfter_cases hStart ctx.signers.length
  by_cases hUsed : UsedBefore ctx ctx.signers.length
  · rw [hReplaced hUsed]
    simp [hUsed]
  · have hNot : ¬ UsesWorkaround ctx i other := fun hUses =>
      hUsed ⟨i, (List.getElem?_eq_some_iff.mp hOther).1, other, hOther, hUses⟩
    rw [hKept hUsed]
    simp [hUsed, digestCovers_of_finds hAccepts.1 hAttrs hNot]

theorem not_usedBefore_iff {idx : Nat} :
    ¬ UsedBefore ctx idx ↔
      ∀ i < idx, ∀ other : SignerInfo, ctx.signers[i]? = some other →
        ¬ UsesWorkaround ctx i other := by
  simp [UsedBefore]

/-- The accepted signers of a run cover what it shows, and the others leave it,
exactly when they agree on the workaround. -/
theorem workaroundAgrees_iff {start : SmimeValidationResult}
    (hStart : start.signedContent = some ctx.target.content) :
    ((∀ (idx : Nat) (signer : SignerInfo), ctx.signers[idx]? = some signer →
        (∃ cert : Certificate, Accepts ctx idx signer cert) →
          signer.authenticatedAttributes.isSome →
            ∃ content : Octets, contentAfter ctx start ctx.signers.length = some content ∧
              DigestCovers env signer content) ∧
      (∀ (idx : Nat) (signer : SignerInfo), ctx.signers[idx]? = some signer →
        (¬ ∃ cert : Certificate, Accepts ctx idx signer cert) →
          contentAfter ctx start (idx + 1) = contentAfter ctx start idx)) ↔
      WorkaroundAgrees ctx := by
  constructor
  · rintro ⟨hCovered, hKept⟩
    refine ⟨fun idx signer hSigner hUses hFirst => ?_,
      fun idx signer hSigner hUses i other cert hOther hAccepts => ?_⟩
    · by_contra hNone
      have hSame := hKept idx signer hSigner hNone
      rw [contentAfter_kept_iff hStart hSigner] at hSame
      exact not_usedBefore_iff.mpr hFirst (hSame hUses)
    · have hAttrs : other.authenticatedAttributes.isSome = true := by
        obtain ⟨-, content, hTarget, -⟩ := hUses
        have hGuard := hAccepts.1.guard
        rw [hTarget] at hGuard
        exact precheckSigner_detached hGuard
      have hShown := hCovered i other hOther ⟨cert, hAccepts⟩ hAttrs
      rw [covered_iff hStart hOther hAccepts hAttrs] at hShown
      exact hShown ⟨idx, (List.getElem?_eq_some_iff.mp hSigner).1, signer, hSigner, hUses⟩
  · intro h
    refine ⟨fun idx signer hSigner hAccepted hAttrs => ?_, fun idx signer hSigner hNone => ?_⟩
    · obtain ⟨cert, hAccepts⟩ := hAccepted
      rw [covered_iff hStart hSigner hAccepts hAttrs]
      rintro ⟨i, -, other, hOther, hUses⟩
      exact h.covers i other hOther hUses idx signer cert hSigner hAccepts
    · rw [contentAfter_kept_iff hStart hSigner]
      intro hUses
      by_contra hFirst
      exact hNone (h.trusted idx signer hSigner hUses (not_usedBefore_iff.mp hFirst))

/-- The signatures of a SignedData are over what is shown exactly when the
signers agree on the workaround. -/
theorem showsSigned_iff (env : Externals) (signedData : SignedData) (target : SignedTarget)
    (trustStores : List TrustStore) (caFilePem : Option Octets) (outerFrom : Option Addr)
    (outerDate : Option Instant) (result : SmimeValidationResult) :
    ShowsSigned env signedData target trustStores caFilePem outerFrom outerDate result ↔
      ∀ ctx : VerifyContext env,
        Reaches signedData target trustStores caFilePem outerDate ctx → WorkaroundAgrees ctx := by
  have hStart := (startVerification_cases env signedData target trustStores caFilePem outerFrom
    outerDate result).2
  have hValid : ∀ (idx : Nat) (signer : SignerInfo), signedData.signerInfos[idx]? = some signer →
      ((∃ entry ∈ (signerEntries env signedData target trustStores caFilePem outerFrom outerDate
        result).getD idx [], entry.signatureValid = true) ↔
        ∃ (ctx : VerifyContext env) (cert : Certificate),
          Reaches signedData target trustStores caFilePem outerDate ctx ∧
            Accepts ctx idx signer cert) := fun idx signer hSigner =>
    signerEntries_valid_iff env signedData target trustStores caFilePem outerFrom outerDate result
      hSigner
  rcases hRun : startVerification env signedData target trustStores caFilePem outerFrom outerDate
    result with ⟨start, reached⟩
  rw [hRun] at hStart
  cases reached with
  | none =>
      have hNone : ∀ ctx : VerifyContext env,
          ¬ Reaches signedData target trustStores caFilePem outerDate ctx := fun ctx hReaches => by
        cases (hStart ctx).mpr hReaches
      refine ⟨fun _ ctx hReaches => absurd hReaches (hNone ctx), fun _ => ⟨?_, ?_⟩⟩
      · intro idx signer hSigner hEntry
        obtain ⟨ctx, -, hReaches, -⟩ := (hValid idx signer hSigner).mp hEntry
        exact absurd hReaches (hNone ctx)
      · intro idx signer hSigner _
        simp only [signedContentAfter, hRun]
  | some ctx =>
      have hReaches := (hStart ctx).mp rfl
      have hContent : start.signedContent = some ctx.target.content := by
        have hShown := startVerification_signedContent env signedData target trustStores
          caFilePem outerFrom outerDate result hReaches.1
        rw [hRun] at hShown
        rw [reaches_target hReaches]
        exact hShown
      have hSame : ∀ other : VerifyContext env,
          Reaches signedData target trustStores caFilePem outerDate other → ctx = other :=
        fun other hOther => Option.some.inj ((hStart other).mpr hOther)
      have hAgrees : (∀ other : VerifyContext env,
          Reaches signedData target trustStores caFilePem outerDate other →
            WorkaroundAgrees other) ↔ WorkaroundAgrees ctx :=
        ⟨fun h => h ctx hReaches, fun h other hOther => hSame other hOther ▸ h⟩
      have hAccepted : ∀ (idx : Nat) (signer : SignerInfo),
          signedData.signerInfos[idx]? = some signer →
            ((∃ entry ∈ (signerEntries env signedData target trustStores caFilePem outerFrom
              outerDate result).getD idx [], entry.signatureValid = true) ↔
              ∃ cert : Certificate, Accepts ctx idx signer cert) := by
        intro idx signer hSigner
        rw [hValid idx signer hSigner]
        constructor
        · rintro ⟨other, cert, hOther, hAccepts⟩
          exact ⟨cert, hSame other hOther ▸ hAccepts⟩
        · exact fun ⟨cert, hAccepts⟩ => ⟨ctx, cert, hReaches, hAccepts⟩
      have hFinal : (verifySignedData env signedData target trustStores caFilePem outerFrom outerDate
          result).signedContent = contentAfter ctx start ctx.signers.length := by
        rw [contentAfter_length, verifySignedData, hRun]
      have hAfter : ∀ count : Nat, signedContentAfter env signedData target trustStores caFilePem
          outerFrom outerDate result count = contentAfter ctx start count := by
        intro count
        simp only [signedContentAfter, hRun]
        rfl
      rw [hAgrees, ← workaroundAgrees_iff hContent, ← hFinal, reaches_signers hReaches]
      constructor
      · intro h
        refine ⟨fun idx signer hSigner hAccepts => ?_, fun idx signer hSigner hNone => ?_⟩
        · exact h.covered idx signer hSigner ((hAccepted idx signer hSigner).mpr hAccepts)
        · rw [← hAfter, ← hAfter]
          apply h.kept idx signer hSigner
          intro entry hEntry
          rw [Bool.eq_false_iff]
          exact fun hTrue => hNone ((hAccepted idx signer hSigner).mp ⟨entry, hEntry, hTrue⟩)
      · rintro ⟨hCovered, hKept⟩
        refine ⟨fun idx signer hSigner hEntry => ?_, fun idx signer hSigner hInvalid => ?_⟩
        · exact hCovered idx signer hSigner ((hAccepted idx signer hSigner).mp hEntry)
        · rw [hAfter, hAfter]
          apply hKept idx signer hSigner
          rintro ⟨cert, hAccepts⟩
          obtain ⟨entry, hEntry, hTrue⟩ := (hAccepted idx signer hSigner).mpr ⟨cert, hAccepts⟩
          rw [hInvalid entry hEntry] at hTrue
          cases hTrue

end Run

section Samples

/-! A clear-signed content without a line break at its end. The first signer
signed it as it is, and the chain of its certificate verifies. The second one,
whom no anchor vouches for, signed it with the line break. -/

/-- The SHA-256 digest of `helloContent`. -/
def helloDigest : Octets :=
  [214, 35, 171, 11, 56, 255, 187, 77, 127, 67, 237, 182, 244, 188, 159, 177, 248, 193, 30, 60,
    118, 226, 58, 5, 250, 165, 179, 41, 74, 148, 142, 246]

/-- The SHA-256 digest of `helloContent` and a line break. -/
def helloLineDigest : Octets :=
  [22, 251, 190, 172, 88, 101, 64, 255, 22, 198, 194, 160, 26, 88, 163, 245, 80, 68, 53, 69, 195,
    50, 3, 115, 106, 72, 53, 198, 162, 99, 79, 110]

def strangerCert : Certificate := certOf "Nobody" "Mari Muu" 3

def digestAttributes (digest : Octets) : List Attribute :=
  [⟨contentTypeOid, [dataOidDer]⟩, ⟨messageDigestOid, [tlv [0x04] digest]⟩]

def helloSigner : SignerInfo :=
  { essSigner with authenticatedAttributes := some (digestAttributes helloDigest) }

def strangerSigner : SignerInfo :=
  { essSigner with
    issuerAndSerialNumber := .issuerAndSerialNumber ⟨strangerCert.issuer, strangerCert.serial⟩
    authenticatedAttributes := some (digestAttributes helloLineDigest)
    encryptedDigest := [0x5B] }

def twoSigners : SignedData where
  version := 1
  content := .data none
  certificates := some [.certificate leafCert, .certificate strangerCert]
  crls := none
  signerInfos := [helloSigner, strangerSigner]

def helloExternals : Externals :=
  { essExternals with
    parseMessage := fun eml =>
      if eml = helloContent then
        some (singlePart ⟨"text", some "plain", []⟩ none (ascii "Hello") eml)
      else none
    parseOctetString := fun der =>
      if der = tlv [0x04] helloDigest then .ok helloDigest
      else if der = tlv [0x04] helloLineDigest then .ok helloLineDigest
      else unanswered
    digest := fun hash data =>
      if hash = .sha256 ∧ data = helloContent then helloDigest
      else if hash = .sha256 ∧ data = helloContent ++ crlf then helloLineDigest
      else []
    verifySignatureWithSignatureAlgorithm := fun key _ signature _ =>
      if key.spkiDer = leafCert.spki.subjectPublicKey ∧ signature = [0x5A] then .ok ()
      else if key.spkiDer = strangerCert.spki.subjectPublicKey ∧ signature = [0x5B] then .ok ()
      else .error "Signature verification failed" }

/-- What is returned is what the stranger signed, and the first signer, who did
not, is valid. -/
theorem not_showsSigned :
    ¬ ∀ (env : Externals) (signedData : SignedData) (target : SignedTarget)
        (trustStores : List TrustStore) (caFilePem : Option Octets) (outerFrom : Option Addr)
        (outerDate : Option Instant) (result : SmimeValidationResult),
      ShowsSigned env signedData target trustStores caFilePem outerFrom outerDate result := by
  intro h
  have hValid : ((signerEntries helloExternals twoSigners (.detached helloContent) [.debug] none
      none none {}).getD 0 []).map SignerValidation.signatureValid = [true] := by
    decide +kernel
  have hContent : (verifySignedData helloExternals twoSigners (.detached helloContent) [.debug] none
      none none {}).signedContent = some (helloContent ++ crlf) := by
    decide +kernel
  have hMissed : SignedTarget.passed (verifyMessageDigest helloExternals helloSigner.digestAlgorithm
      helloSigner.authenticatedAttributes (helloContent ++ crlf)) = false := by
    decide +kernel
  have hMem : true ∈ ((signerEntries helloExternals twoSigners (.detached helloContent) [.debug]
      none none none {}).getD 0 []).map SignerValidation.signatureValid := by
    rw [hValid]
    exact List.mem_singleton_self true
  rcases List.mem_map.mp hMem with ⟨entry, hEntry, hTrue⟩
  obtain ⟨content, hShown, hDigest⟩ := (h helloExternals twoSigners (.detached helloContent)
    [.debug] none none none {}).covered 0 helloSigner rfl ⟨entry, hEntry, hTrue⟩ rfl
  rw [hContent, Option.some.injEq] at hShown
  rw [← hShown, digestCovers_iff, ← passed_iff, hMissed] at hDigest
  cases hDigest

end Samples

end Smime
