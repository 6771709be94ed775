import Smime.OcspAcceptance

/-! When a stapled revocation of a certificate of the chain is seen: of each
response only the first statement about the certificate is. -/
namespace Smime

open X690 (Octets)
open X509 Mail Utils

section Search

variable {env : Externals} {leaf issuer : Certificate} {now : Instant}

/-- A response that is accepted says somewhere that the certificate is revoked,
and says so freshly. -/
def AssertsRevocation (env : Externals) (leaf issuer : Certificate) (now : Instant)
    (stapled : BasicOcspResponse) : Prop :=
  ∃ window : Window, verifyOcspSignature env stapled issuer now = .ok window ∧
    ∃ single ∈ stapled.tbsResponseData.responses,
      certIdMatches env single.certId leaf issuer = true ∧
        singleResponseFresh env single now window = true ∧ single.certStatus = .revoked

/-- It says so where it first speaks of the certificate. -/
def ShowsRevocation (env : Externals) (leaf issuer : Certificate) (now : Instant)
    (stapled : BasicOcspResponse) : Prop :=
  ∃ window : Window, verifyOcspSignature env stapled issuer now = .ok window ∧
    ∃ single : SingleResponse,
      stapled.tbsResponseData.responses.find?
          (fun single => certIdMatches env single.certId leaf issuer) = some single ∧
        singleResponseFresh env single now window = true ∧ single.certStatus = .revoked

theorem stapleStatus_revoked_iff {stapled : BasicOcspResponse} :
    stapleStatus env leaf issuer now stapled = some .revoked ↔
      ShowsRevocation env leaf issuer now stapled := by
  rw [stapleStatus_some_iff]
  constructor
  · rintro ⟨single, window, hFind, hSignature, hFresh, hRevoked⟩
    exact ⟨window, hSignature, single, hFind, hFresh, hRevoked⟩
  · rintro ⟨window, hSignature, single, hFind, hFresh, hRevoked⟩
    exact ⟨single, window, hFind, hSignature, hFresh, hRevoked⟩

/-- Over the staples a revocation is never shadowed. -/
theorem searchStaples_revoked_iff {found : Option StapledStatus}
    {staples : List BasicOcspResponse} :
    searchStaples env leaf issuer now found staples = some .revoked ↔
      found = some .revoked ∨ ∃ stapled ∈ staples, ShowsRevocation env leaf issuer now stapled := by
  induction staples generalizing found with
  | nil => simp [searchStaples]
  | cons stapled rest ih =>
      rw [List.exists_mem_cons_iff, ← stapleStatus_revoked_iff]
      unfold searchStaples
      cases hStatus : stapleStatus env leaf issuer now stapled with
      | none => simpa using ih
      | some status =>
          cases status with
          | revoked => simp
          | good =>
              dsimp only
              rw [ih]
              cases found <;> simp
          | unknown =>
              dsimp only
              rw [ih]
              cases found <;> simp

theorem stapledStatusFor_revoked_iff {staples : List BasicOcspResponse} :
    stapledStatusFor env staples leaf issuer now = some .revoked ↔
      ∃ stapled ∈ staples, ShowsRevocation env leaf issuer now stapled := by
  rw [stapledStatusFor, searchStaples_revoked_iff]
  simp

/-- The response says no more than one thing about the certificate. -/
def SpeaksOnce (env : Externals) (leaf issuer : Certificate) (stapled : BasicOcspResponse) : Prop :=
  ∀ single ∈ stapled.tbsResponseData.responses, ∀ other ∈ stapled.tbsResponseData.responses,
    certIdMatches env single.certId leaf issuer = true →
      certIdMatches env other.certId leaf issuer = true → single = other

/-- With one statement about the certificate it is the first. -/
theorem showsRevocation_of_speaksOnce {stapled : BasicOcspResponse}
    (hOnce : SpeaksOnce env leaf issuer stapled)
    (h : AssertsRevocation env leaf issuer now stapled) :
    ShowsRevocation env leaf issuer now stapled := by
  obtain ⟨window, hSignature, single, hMem, hCertId, hFresh, hRevoked⟩ := h
  refine ⟨window, hSignature, single, ?_, hFresh, hRevoked⟩
  cases hFind : stapled.tbsResponseData.responses.find?
      (fun single => certIdMatches env single.certId leaf issuer) with
  | none => exact absurd hCertId (List.find?_eq_none.mp hFind single hMem)
  | some first =>
      have hFirst := List.find?_some hFind
      rw [hOnce first (List.mem_of_find?_eq_some hFind) single hMem hFirst hCertId]

end Search

section Dominance

variable {env : Externals} {ctx : VerifyContext env}

/-- A stapled revocation of a certificate of the chain that verified for the
signer revokes it, and so the chain is not trusted and the signer not valid. -/
def RevocationDominates (ctx : VerifyContext env) (idx : Nat) (signer : SignerInfo)
    (leaf : Certificate) (chain : List Certificate) (link : Certificate × Certificate) : Prop :=
  Finds ctx idx signer leaf →
    env.verify ctx.verifier leaf (intermediariesOf leaf ctx.certs) = .ok chain →
      link ∈ chain.zip chain.tail →
        (∃ stapled ∈ ctx.staples, AssertsRevocation env link.1 link.2 env.now stapled) →
          stapledStatusFor env ctx.staples link.1 link.2 env.now = some .revoked ∧
            (validateChain env leaf ctx.certs ctx.verifier ctx.staples idx).trusted = false ∧
              ∀ (result : SmimeValidationResult) (entry : SignerValidation),
                (verifySigner ctx idx signer result).2 = some entry →
                  entry.signatureValid = false

theorem not_chainTrusted_of_revoked {leaf : Certificate} {chain : List Certificate}
    {link : Certificate × Certificate}
    (hChain : env.verify ctx.verifier leaf (intermediariesOf leaf ctx.certs) = .ok chain)
    (hLink : link ∈ chain.zip chain.tail)
    (hRevoked : stapledStatusFor env ctx.staples link.1 link.2 env.now = some .revoked) :
    ¬ ChainTrusted ctx leaf := by
  rintro ⟨other, hOther, hNotRevoked⟩
  rw [hChain, Except.ok.injEq] at hOther
  subst hOther
  exact hNotRevoked link hLink hRevoked

/-- The entry of a signer for whom a certificate without a trusted chain is found. -/
theorem verifySigner_not_valid {idx : Nat} {signer : SignerInfo} {leaf : Certificate}
    {result : SmimeValidationResult} {entry : SignerValidation} (hFinds : Finds ctx idx signer leaf)
    (hTrusted : ¬ ChainTrusted ctx leaf) (hEntry : (verifySigner ctx idx signer result).2 = some entry) :
    entry.signatureValid = false := by
  rcases (verifySigner_cases ctx idx signer result).2 with
    ⟨hNone, -⟩ | ⟨cert, other, hOther, hOtherFinds, -, hValid⟩
  · rw [hNone] at hEntry
    cases hEntry
  · rw [hEntry, Option.some.injEq] at hOther
    subst hOther
    rw [Bool.eq_false_iff]
    intro hEntryValid
    apply hTrusted
    rw [firstVerifying_unique hFinds.first hOtherFinds.first]
    exact hValid.mp hEntryValid

/-- A revocation dominates exactly when, once a staple has one, some staple has
one where it first speaks of the certificate; so it does when no staple speaks of the
certificate twice. -/
theorem revocationDominates_iff (ctx : VerifyContext env) (idx : Nat) (signer : SignerInfo)
    (leaf : Certificate) (chain : List Certificate) (link : Certificate × Certificate) :
    (RevocationDominates ctx idx signer leaf chain link ↔
        (Finds ctx idx signer leaf →
          env.verify ctx.verifier leaf (intermediariesOf leaf ctx.certs) = .ok chain →
            link ∈ chain.zip chain.tail →
              (∃ stapled ∈ ctx.staples, AssertsRevocation env link.1 link.2 env.now stapled) →
                ∃ stapled ∈ ctx.staples, ShowsRevocation env link.1 link.2 env.now stapled)) ∧
      ((∀ stapled ∈ ctx.staples, SpeaksOnce env link.1 link.2 stapled) →
        RevocationDominates ctx idx signer leaf chain link) := by
  have hShown : (∃ stapled ∈ ctx.staples, ShowsRevocation env link.1 link.2 env.now stapled) →
      RevocationDominates ctx idx signer leaf chain link := by
    intro hShows hFinds hChain hLink _
    have hRevoked := stapledStatusFor_revoked_iff.mpr hShows
    have hTrusted := not_chainTrusted_of_revoked hChain hLink hRevoked
    refine ⟨hRevoked, ?_, fun result entry => verifySigner_not_valid hFinds hTrusted⟩
    rw [Bool.eq_false_iff]
    exact fun hTrue => hTrusted (validateChain_trusted_iff.mp hTrue)
  constructor
  · constructor
    · intro h hFinds hChain hLink hAsserts
      exact stapledStatusFor_revoked_iff.mp (h hFinds hChain hLink hAsserts).1
    · intro h hFinds hChain hLink hAsserts
      exact hShown (h hFinds hChain hLink hAsserts) hFinds hChain hLink hAsserts
  · intro hOnce hFinds hChain hLink hAsserts
    obtain ⟨stapled, hMem, hStapled⟩ := hAsserts
    have hShows := showsRevocation_of_speaksOnce (hOnce stapled hMem) hStapled
    exact hShown ⟨stapled, hMem, hShows⟩ hFinds hChain hLink ⟨stapled, hMem, hStapled⟩

/-- `leafCert` is reported good and then, in the same response, revoked. -/
def shadowedContext : VerifyContext ocspExternals where
  target := .econtent essContent
  certs := [leafCert]
  signers := [essSigner]
  innerMessage := essMessage
  verifier := [rootCert]
  staples := [leafStaple [.good, .revoked]]
  trustStoreLabel := "[Debug]"
  outerDate := none

theorem shadowedContext_finds : Finds shadowedContext 0 essSigner leafCert := by
  have hSome : (verifySigner shadowedContext 0 essSigner {}).2.isSome = true := by
    decide +kernel
  rcases (verifySigner_cases shadowedContext 0 essSigner {}).2 with
    ⟨hNone, -⟩ | ⟨cert, entry, -, hFinds, -⟩
  · rw [hNone] at hSome
    cases hSome
  · have hCandidates : shadowedContext.certs.filter
        (sidMatchesCert ocspExternals essSigner.issuerAndSerialNumber) = [leafCert] := by
      decide +kernel
    obtain ⟨before, behind, hSplit, -⟩ := hFinds.first
    have hMem : cert ∈ [leafCert] := by
      rw [← hCandidates, hSplit]
      simp
    rw [← List.mem_singleton.mp hMem]
    exact hFinds

/-- The revocation in the second statement of a response is not seen. -/
theorem not_revocationDominates :
    ¬ ∀ (env : Externals) (ctx : VerifyContext env) (idx : Nat) (signer : SignerInfo)
        (leaf : Certificate) (chain : List Certificate) (link : Certificate × Certificate),
      RevocationDominates ctx idx signer leaf chain link := by
  intro h
  have hAsserts : AssertsRevocation ocspExternals leafCert rootCert ocspExternals.now
      (leafStaple [.good, .revoked]) := by
    refine ⟨(1775054313, 2248094313), by decide +kernel, leafResponse .revoked, ?_, ?_, ?_, rfl⟩
    · exact List.mem_cons_of_mem _ List.mem_cons_self
    · decide +kernel
    · decide +kernel
  have hRevoked := (h ocspExternals shadowedContext 0 essSigner leafCert [leafCert, rootCert]
    (leafCert, rootCert) shadowedContext_finds (by decide +kernel) List.mem_cons_self
      ⟨_, List.mem_cons_self, hAsserts⟩).1
  have hGood : stapledStatusFor ocspExternals shadowedContext.staples leafCert rootCert
      ocspExternals.now = some .good := by
    decide +kernel
  rw [hGood] at hRevoked
  cases hRevoked

end Dominance

end Smime
