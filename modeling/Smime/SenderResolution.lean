import Smime.SignatureSoundness

/-! Which sender the loop over the signers leaves in the result: the inner From
when a valid signer certifies it, and otherwise the sender from before. -/
namespace Smime

open X690 (Octets)
open X509 Mail Utils

variable {env : Externals}

section Resolver

namespace SenderResolver

/-- An address is certified when one of the addresses of the certificate is the
same, up to ASCII case and the form of the domain. -/
def Certified (env : Externals) (address : String) (emails : List String) : Prop :=
  ∃ email ∈ emails, sanMatches env (emailDomainToALabel env address) email = true

/-- Without a match nothing is updated; with one a sender is matched, this one
unless another was matched completely. -/
theorem update_cases (resolver : SenderResolver) (innerAddr : String)
    (name : Option String) (emails names : List String) :
    let updated := resolver.update env (some innerAddr) name emails names
    (¬ Certified env innerAddr emails → updated.1 = resolver ∧ updated.2.1 = false) ∧
      (Certified env innerAddr emails →
        updated.1.senderMatched = true ∧
          ((updated.2.1 = true ∧ updated.1.fromAddress = some innerAddr) ∨
            (updated.2.1 = false ∧ resolver.senderMatched = true))) := by
  have hMatches : emails.any (sanMatches env (emailDomainToALabel env innerAddr)) = true ↔
      Certified env innerAddr emails := List.any_eq_true
  unfold update
  dsimp only
  by_cases hCertified : Certified env innerAddr emails
  · rw [hMatches.mpr hCertified]
    refine ⟨fun hNot => absurd hCertified hNot, fun _ => ?_⟩
    by_cases hMatched : resolver.senderMatched = true ∧ resolver.commentMatched = true
    · simp [hMatched]
    · have hFree : (resolver.senderMatched && resolver.commentMatched) = false := by
        simpa using hMatched
      simp [hFree]
  · have hNone : emails.any (sanMatches env (emailDomainToALabel env innerAddr)) = false := by
      rw [Bool.eq_false_iff]
      exact fun hAny => hCertified (hMatches.mp hAny)
    rw [hNone]
    exact ⟨fun _ => ⟨rfl, rfl⟩, fun hYes => absurd hYes hCertified⟩

end SenderResolver

end Resolver

section Loop

variable {ctx : VerifyContext env} {base : Option String}

/-- The address of the inner From. -/
def innerFrom (ctx : VerifyContext env) : Option String :=
  ctx.innerMessage.fromAddr.bind Addr.address

/-- The signer at `idx` is accepted with a certificate of the inner From. -/
def CertifiesSender (ctx : VerifyContext env) (idx : Nat) (signer : SignerInfo) : Prop :=
  ∃ (address : String) (cert : Certificate), innerFrom ctx = some address ∧
    Accepts ctx idx signer cert ∧
      SenderResolver.Certified env address (extractCertInfo env cert).emails

/-- Once a signer certified the sender, it is the inner From; before it is `base`. -/
structure SenderSettled (ctx : VerifyContext env) (base : Option String) (certified : Prop)
    (loop : SignerLoop) : Prop where
  resolved : certified →
    loop.senderResolver.senderMatched = true ∧ loop.result.fromAddress = innerFrom ctx
  unresolved : ¬ certified →
    loop.senderResolver.senderMatched = false ∧ loop.result.fromAddress = base

theorem SenderSettled.of_same {certified : Prop} {loop after : SignerLoop}
    (h : SenderSettled ctx base certified loop)
    (hResolver : after.senderResolver = loop.senderResolver)
    (hFrom : after.result.fromAddress = loop.result.fromAddress) :
    SenderSettled ctx base certified after := by
  constructor
  · intro hCertified
    rw [hResolver, hFrom]
    exact h.resolved hCertified
  · intro hNot
    rw [hResolver, hFrom]
    exact h.unresolved hNot

theorem SenderSettled.congr {certified other : Prop} {loop : SignerLoop}
    (h : SenderSettled ctx base certified loop) (hIff : certified ↔ other) :
    SenderSettled ctx base other loop := by
  constructor
  · exact fun hOther => h.resolved (hIff.mpr hOther)
  · exact fun hNot => h.unresolved fun hCertified => hNot (hIff.mp hCertified)

/-- The entry is valid, with a certificate of the inner From. -/
def EntryCertifies (ctx : VerifyContext env) (entry : SignerValidation) : Prop :=
  entry.signatureValid = true ∧ ∃ address : String, innerFrom ctx = some address ∧
    SenderResolver.Certified env address entry.validationDetails.checks.certificateEmails

theorem resolveSender_of_not_valid {entry : SignerValidation} {loop : SignerLoop}
    (h : entry.signatureValid = false) : resolveSender ctx entry loop = (entry, loop) := by
  rw [resolveSender, h]
  rfl

/-- A valid entry with a certificate of the inner From settles the sender, and
no other entry changes it. -/
theorem resolveSender_settled {certified : Prop} {entry : SignerValidation} {loop : SignerLoop}
    (h : SenderSettled ctx base certified loop) :
    SenderSettled ctx base (certified ∨ EntryCertifies ctx entry)
      (resolveSender ctx entry loop).2 := by
  cases hValid : entry.signatureValid with
  | false =>
      rw [resolveSender_of_not_valid hValid]
      exact h.congr (by simp [EntryCertifies, hValid])
  | true =>
      unfold resolveSender
      simp only [hValid, Bool.not_true, Bool.false_eq_true, if_false]
      cases hFrom : ctx.innerMessage.fromAddr with
      | none => exact h.congr (by simp [EntryCertifies, innerFrom, hFrom])
      | some inner =>
          obtain ⟨innerName, innerAddress⟩ := inner
          cases innerAddress with
          | none =>
              dsimp only
              exact (h.of_same rfl rfl).congr (by simp [EntryCertifies, innerFrom, hFrom])
          | some address =>
              have hInner : innerFrom ctx = some address := by rw [innerFrom, hFrom]; rfl
              have hEntry : EntryCertifies ctx entry ↔ SenderResolver.Certified env address
                  entry.validationDetails.checks.certificateEmails := by
                simp [EntryCertifies, hInner, hValid]
              obtain ⟨hNot, hYes⟩ := @SenderResolver.update_cases env loop.senderResolver address
                innerName entry.validationDetails.checks.certificateEmails
                entry.validationDetails.checks.certificateNames
              dsimp only
              rcases hUpdate : loop.senderResolver.update env (some address) innerName
                entry.validationDetails.checks.certificateEmails
                entry.validationDetails.checks.certificateNames with ⟨resolver, updated, warnings⟩
              rw [hUpdate] at hNot hYes
              dsimp only at hNot hYes ⊢
              rw [hEntry]
              by_cases hCertified : SenderResolver.Certified env address
                  entry.validationDetails.checks.certificateEmails
              · obtain ⟨hMatched, hCases⟩ := hYes hCertified
                refine ⟨fun _ => ⟨hMatched, ?_⟩, fun hNone => absurd (.inr hCertified) hNone⟩
                rcases hCases with ⟨rfl, hAddress⟩ | ⟨rfl, hBefore⟩
                · rw [hInner]
                  exact hAddress
                · have hSettled : certified := by
                    by_contra hNone
                    rw [(h.unresolved hNone).1] at hBefore
                    cases hBefore
                  exact (h.resolved hSettled).2
              · obtain ⟨rfl, rfl⟩ := hNot hCertified
                exact (h.of_same rfl rfl).congr (by simp [hCertified])

/-- One iteration settles the sender when its signer certifies it. -/
theorem signerStep_settled {certified : Prop} {loop : SignerLoop}
    (h : SenderSettled ctx base certified loop) (idx : Nat) (signer : SignerInfo) :
    SenderSettled ctx base (certified ∨ CertifiesSender ctx idx signer)
      (signerStep ctx loop (idx, signer)) := by
  obtain ⟨⟨failures, content, hRecords⟩, hCases⟩ :=
    verifySigner_cases ctx idx signer loop.result
  rcases hVerify : verifySigner ctx idx signer loop.result with ⟨after, found⟩
  rw [hVerify] at hRecords hCases
  have hFrom : after.fromAddress = loop.result.fromAddress := by
    rw [show after = _ from hRecords]
  have hLoop : SenderSettled ctx base certified { loop with result := after } :=
    h.of_same rfl hFrom
  unfold signerStep
  rw [hVerify]
  rcases hCases with ⟨rfl, hNone⟩ | ⟨cert, entry, rfl, hFinds, hEntry, hValid⟩
  · refine hLoop.congr ⟨.inl, fun hOr => ?_⟩
    rcases hOr with hCertified | ⟨address, cert, -, hAccepts, -⟩
    · exact hCertified
    · exact absurd hAccepts.1 (hNone cert)
  · have hResolved := @resolveSender_settled env ctx base certified entry _ hLoop
    have hSame : EntryCertifies ctx entry ↔ CertifiesSender ctx idx signer := by
      unfold EntryCertifies CertifiesSender
      rw [hEntry.emails, hValid]
      constructor
      · rintro ⟨hTrusted, address, hInner, hCertified⟩
        exact ⟨address, cert, hInner, ⟨hFinds, hTrusted⟩, hCertified⟩
      · rintro ⟨address, other, hInner, hAccepts, hCertified⟩
        have hOther := firstVerifying_unique hFinds.first hAccepts.1.first
        subst hOther
        exact ⟨hAccepts.2, address, hInner, hCertified⟩
    dsimp only
    rw [hSame] at hResolved
    exact hResolved.of_same rfl rfl

/-- Over the whole loop. -/
theorem foldl_signerStep_settled {certified : Prop} {loop : SignerLoop}
    (h : SenderSettled ctx base certified loop) (signers : List (Nat × SignerInfo)) :
    SenderSettled ctx base
      (certified ∨ ∃ signer ∈ signers, CertifiesSender ctx signer.1 signer.2)
      (signers.foldl (signerStep ctx) loop) := by
  induction signers generalizing certified loop with
  | nil => exact h.congr (by simp)
  | cons signer rest ih =>
      have hStep := signerStep_settled h signer.1 signer.2
      exact (ih hStep).congr (by simp [or_assoc])

end Loop

section Verification

/-- The sender that the preparation leaves: what it is given, in its A-label
form, once the trust anchors are read. -/
def preparedFrom (env : Externals) (signedData : SignedData) (trustStores : List TrustStore)
    (caFilePem : Option Octets) (outerFrom : Option Addr) (before : Option String) :
    Option String :=
  match signedData.content, loadCaCerts env trustStores caFilePem, outerFrom with
  | .data _, .ok _, some sender => sender.address.map (emailDomainToALabel env)
  | _, _, _ => before

theorem askedResult_fromAddress {signedData : SignedData} {trustStores : List TrustStore}
    {caFilePem : Option Octets} {caCerts : List Certificate} (sender : Option Addr)
    (date : Option Instant) (shown : SmimeValidationResult)
    (hContent : signedData.content ≠ .other)
    (hCerts : loadCaCerts env trustStores caFilePem = .ok caCerts) :
    (askedResult env sender date shown).fromAddress =
      preparedFrom env signedData trustStores caFilePem sender shown.fromAddress := by
  unfold preparedFrom
  rw [hCerts]
  cases hData : signedData.content with
  | other => exact absurd hData hContent
  | data content => cases sender <;> rfl

theorem startVerification_fromAddress (env : Externals) (signedData : SignedData)
    (target : SignedTarget) (trustStores : List TrustStore) (caFilePem : Option Octets)
    (outerFrom : Option Addr) (outerDate : Option Instant) (result : SmimeValidationResult) :
    (startVerification env signedData target trustStores caFilePem outerFrom outerDate
        result).1.fromAddress =
      preparedFrom env signedData trustStores caFilePem outerFrom result.fromAddress := by
  have hOutcome := startVerification_outcome env signedData target trustStores caFilePem outerFrom
    outerDate result
  generalize startVerification env signedData target trustStores caFilePem outerFrom outerDate
    result = start at hOutcome
  have hAsked := fun caCerts => @askedResult_fromAddress env signedData trustStores caFilePem caCerts
    outerFrom outerDate (shownResult signedData target.content result)
  cases hOutcome with
  | unexpected hContent => simp [preparedFrom, hContent]
  | noAnchors hContent hCerts => simp [preparedFrom, hCerts, shownResult]
  | noInner hContent hCerts hInner => exact hAsked _ hContent hCerts
  | noVerifier hContent hCerts hInner hVerifier => exact hAsked _ hContent hCerts
  | started hContent hCerts hInner hVerifier => exact hAsked _ hContent hCerts

/-- The verification gets to a signer that certifies the inner From `address`. -/
def ResolvesTo (env : Externals) (signedData : SignedData) (target : SignedTarget)
    (trustStores : List TrustStore) (caFilePem : Option Octets) (outerDate : Option Instant)
    (address : String) : Prop :=
  ∃ ctx : VerifyContext env, Reaches signedData target trustStores caFilePem outerDate ctx ∧
    innerFrom ctx = some address ∧
      ∃ (idx : Nat) (signer : SignerInfo), signedData.signerInfos[idx]? = some signer ∧
        CertifiesSender ctx idx signer

/-- The sender after a verification. -/
theorem verifySignedData_fromAddress (env : Externals) (signedData : SignedData)
    (target : SignedTarget) (trustStores : List TrustStore) (caFilePem : Option Octets)
    (outerFrom : Option Addr) (outerDate : Option Instant) (result : SmimeValidationResult) :
    let sender := (verifySignedData env signedData target trustStores caFilePem outerFrom outerDate
      result).fromAddress
    (∀ address : String,
        ResolvesTo env signedData target trustStores caFilePem outerDate address →
          sender = some address) ∧
      ((∀ address : String,
          ¬ ResolvesTo env signedData target trustStores caFilePem outerDate address) →
        sender = preparedFrom env signedData trustStores caFilePem outerFrom
          result.fromAddress) := by
  have hFrom := startVerification_fromAddress env signedData target trustStores caFilePem outerFrom
    outerDate result
  have hRun := verifySignedData_run env signedData target trustStores caFilePem outerFrom outerDate
    result
  generalize (startVerification env signedData target trustStores caFilePem outerFrom outerDate
    result).1 = start at hFrom hRun
  generalize verifySignedData env signedData target trustStores caFilePem outerFrom outerDate
    result = after at hRun ⊢
  cases hRun with
  | stopped hNone =>
      refine ⟨fun address hResolves => ?_, fun _ => hFrom⟩
      obtain ⟨ctx, hCtx, -⟩ := hResolves
      exact absurd hCtx (hNone ctx)
  | @looped ctx hCtx =>
      have hStart : SenderSettled ctx start.fromAddress False { result := start } :=
        ⟨False.elim, fun _ => ⟨rfl, rfl⟩⟩
      have hEnd := foldl_signerStep_settled hStart (indexed ctx.signers)
      have hSigners := reaches_signers hCtx
      constructor
      · rintro address ⟨other, hOther, hInner, idx, signer, hSigner, hCertifies⟩
        have hSame := reaches_unique hCtx hOther
        subst hSame
        rw [← hInner]
        refine (hEnd.resolved (.inr ⟨(idx, signer), ?_, hCertifies⟩)).2
        rw [mem_indexed, hSigners]
        exact hSigner
      · intro hNone
        rw [← hFrom]
        refine (hEnd.unresolved ?_).2
        rintro (hFalse | ⟨⟨idx, signer⟩, hMem, hCertifies⟩)
        · exact hFalse
        · have hCertified := hCertifies
          obtain ⟨address, cert, hInner, -⟩ := hCertifies
          rw [mem_indexed, hSigners] at hMem
          exact hNone address ⟨ctx, hCtx, hInner, idx, signer, hMem, hCertified⟩

end Verification

end Smime
