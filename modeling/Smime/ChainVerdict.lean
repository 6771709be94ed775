import Smime.SignerViolations

/-! What is said of a verified chain: the verdict on its stapled revocations, and
the fingerprints that are reported of it. -/
namespace Smime

open X690 (Octets)
open X509 Mail Utils

section Links

/-- The pairs of neighbours are the elements at `i` and `i + 1`. -/
theorem mem_zip_tail_iff {α : Type} {chain : List α} {subject issuer : α} :
    (subject, issuer) ∈ chain.zip chain.tail ↔
      ∃ i, chain[i]? = some subject ∧ chain[i + 1]? = some issuer := by
  rw [List.mem_iff_getElem?]
  simp only [List.getElem?_zip_eq_some, List.getElem?_tail]

/-- Of two conditions on a list, the weaker one is no weaker when it does not
hold more often. -/
theorem imp_of_countP_le {α : Type} {p q : α → Bool} {elements : List α}
    (hImp : ∀ element ∈ elements, p element = true → q element = true)
    (hCount : elements.countP q ≤ elements.countP p) :
    ∀ element ∈ elements, q element = true → p element = true := by
  induction elements with
  | nil => simp
  | cons first rest ih =>
      obtain ⟨hFirst, hRest⟩ := List.forall_mem_cons.mp hImp
      have hMono := List.countP_mono_left hRest
      rw [List.countP_cons, List.countP_cons] at hCount
      rw [List.forall_mem_cons]
      constructor
      · intro hq
        by_contra hp
        rw [if_pos hq, if_neg hp] at hCount
        omega
      · apply ih hRest
        by_cases hp : p first = true
        · rw [if_pos hp, if_pos (hFirst hp)] at hCount
          omega
        · rw [if_neg hp] at hCount
          omega

end Links

section Verdict

variable {env : Externals} {staples : List BasicOcspResponse}

/-- The status of a certificate of a chain, with its issuer next to it. -/
def linkStatus (env : Externals) (staples : List BasicOcspResponse)
    (link : Certificate × Certificate) : Option StapledStatus :=
  stapledStatusFor env staples link.1 link.2 env.now

def linkRevoked (env : Externals) (staples : List BasicOcspResponse)
    (link : Certificate × Certificate) : Bool :=
  linkStatus env staples link == some .revoked

/-- The status of the first certificate. It has none without an issuer. -/
def leafStatus (env : Externals) (staples : List BasicOcspResponse) (chain : List Certificate) :
    Option StapledStatus :=
  (chain.zip chain.tail).head?.bind (linkStatus env staples)

def revocationError (env : Externals) (link : Certificate × Certificate) : SmimeError :=
  .stapledOcspRevoked (env.dnToString link.1.subject)

/-- One link, by its status. -/
theorem step_eq (scan : OcspScan) (link : Nat × Certificate × Certificate) :
    scan.step env staples link =
      match linkStatus env staples link.2 with
      | none => scan
      | some status =>
          { leafStatus := if link.1 = 0 then some status else scan.leafStatus
            anyRevoked := scan.anyRevoked || status == .revoked
            errors := if status = .revoked then scan.errors ++ [revocationError env link.2]
              else scan.errors } := rfl

theorem step_anyRevoked (scan : OcspScan) (link : Nat × Certificate × Certificate) :
    (scan.step env staples link).anyRevoked =
      (scan.anyRevoked || linkRevoked env staples link.2) := by
  rw [step_eq, linkRevoked]
  cases linkStatus env staples link.2 with
  | none => simp
  | some status => simp

theorem step_errors (scan : OcspScan) (link : Nat × Certificate × Certificate) :
    (scan.step env staples link).errors =
      scan.errors ++
        ([link.2].filter (linkRevoked env staples)).map (revocationError env) := by
  rw [step_eq]
  cases hStatus : linkStatus env staples link.2 with
  | none => simp [linkRevoked, hStatus]
  | some status =>
      by_cases hRevoked : status = .revoked
      · simp [linkRevoked, hStatus, hRevoked]
      · simp [linkRevoked, hStatus, hRevoked]

theorem foldl_step_anyRevoked (links : List (Nat × Certificate × Certificate)) (scan : OcspScan) :
    (links.foldl (OcspScan.step env staples) scan).anyRevoked =
      (scan.anyRevoked || links.any fun link => linkRevoked env staples link.2) := by
  induction links generalizing scan with
  | nil => simp
  | cons link rest ih => rw [List.foldl_cons, ih, step_anyRevoked, List.any_cons, Bool.or_assoc]

theorem foldl_step_errors (links : List (Nat × Certificate × Certificate)) (scan : OcspScan) :
    (links.foldl (OcspScan.step env staples) scan).errors =
      scan.errors ++
        ((links.map Prod.snd).filter (linkRevoked env staples)).map (revocationError env) := by
  induction links generalizing scan with
  | nil => simp
  | cons link rest ih =>
      rw [List.foldl_cons, ih, step_errors, List.append_assoc, ← List.map_append,
        ← List.filter_append]
      rfl

/-- Behind the leaf its status is not touched. -/
theorem foldl_step_leafStatus {links : List (Nat × Certificate × Certificate)}
    (h : ∀ link ∈ links, link.1 ≠ 0) (scan : OcspScan) :
    (links.foldl (OcspScan.step env staples) scan).leafStatus = scan.leafStatus := by
  induction links generalizing scan with
  | nil => rfl
  | cons link rest ih =>
      obtain ⟨hLink, hRest⟩ := List.forall_mem_cons.mp h
      rw [List.foldl_cons, ih hRest, step_eq]
      cases linkStatus env staples link.2 with
      | none => rfl
      | some status => exact if_neg hLink

theorem scan_leafStatus (chain : List Certificate) :
    ((chainLinks chain).foldl (OcspScan.step env staples) {}).leafStatus =
      leafStatus env staples chain := by
  unfold chainLinks leafStatus
  cases chain.zip chain.tail with
  | nil => rfl
  | cons link rest =>
      have hBehind : ∀ other ∈ rest.mapIdx fun i link => (i + 1, link), other.1 ≠ 0 := by
        intro other hMem
        obtain ⟨i, hi, rfl⟩ := List.mem_mapIdx.mp hMem
        exact Nat.succ_ne_zero i
      rw [List.mapIdx_cons, List.foldl_cons, foldl_step_leafStatus hBehind, step_eq]
      dsimp only [List.head?_cons, Option.bind_some]
      cases linkStatus env staples link with
      | none => rfl
      | some status => rfl

theorem map_snd_chainLinks (chain : List Certificate) :
    (chainLinks chain).map Prod.snd = chain.zip chain.tail := by
  apply List.ext_getElem?
  intro i
  simp only [chainLinks, List.getElem?_map, List.getElem?_mapIdx, Option.map_map]
  exact Option.map_id'

/-- The verdict in terms of the statuses of the links alone. -/
theorem applyStapledOcsp_eq (chain : List Certificate) :
    applyStapledOcsp env chain staples =
      (if (chain.zip chain.tail).any (linkRevoked env staples) then some .revoked
        else leafStatus env staples chain,
        ((chain.zip chain.tail).filter (linkRevoked env staples)).map (revocationError env)) := by
  unfold applyStapledOcsp
  cases hStaples : staples with
  | nil =>
      have hNone : linkStatus env [] = fun _ => none := rfl
      have hNot : linkRevoked env [] = fun _ => false := rfl
      simp [leafStatus, hNone, hNot]
  | cons staple rest =>
      rw [← hStaples, if_neg (by simp [hStaples])]
      dsimp only
      rw [foldl_step_anyRevoked, foldl_step_errors, scan_leafStatus, map_snd_chainLinks,
        ← map_snd_chainLinks, List.any_map]
      rfl

theorem any_linkRevoked_iff {chain : List Certificate} :
    (chain.zip chain.tail).any (linkRevoked env staples) = true ↔
      ∃ (i : Nat) (subject issuer : Certificate), chain[i]? = some subject ∧
        chain[i + 1]? = some issuer ∧
          stapledStatusFor env staples subject issuer env.now = some .revoked := by
  simp only [List.any_eq_true, Prod.exists, mem_zip_tail_iff, linkRevoked, linkStatus, beq_iff_eq]
  constructor
  · rintro ⟨subject, issuer, ⟨i, hSubject, hIssuer⟩, hStatus⟩
    exact ⟨i, subject, issuer, hSubject, hIssuer, hStatus⟩
  · rintro ⟨i, subject, issuer, hSubject, hIssuer, hStatus⟩
    exact ⟨subject, issuer, ⟨i, hSubject, hIssuer⟩, hStatus⟩

theorem applyStapledOcsp_revoked_iff_index {chain : List Certificate} :
    (applyStapledOcsp env chain staples).1 = some .revoked ↔
      ∃ (i : Nat) (subject issuer : Certificate), chain[i]? = some subject ∧
        chain[i + 1]? = some issuer ∧
          stapledStatusFor env staples subject issuer env.now = some .revoked := by
  rw [← any_linkRevoked_iff, applyStapledOcsp_eq]
  cases hAny : (chain.zip chain.tail).any (linkRevoked env staples) with
  | true => simp
  | false =>
      simp only [Bool.false_eq_true, if_false, iff_false]
      intro hLeaf
      obtain ⟨link, hHead, hStatus⟩ := Option.bind_eq_some_iff.mp hLeaf
      have hNot := List.any_eq_false.mp hAny link (List.mem_of_mem_head? hHead)
      exact hNot (beq_iff_eq.mpr hStatus)

theorem applyStapledOcsp_not_revoked {chain : List Certificate}
    (h : (applyStapledOcsp env chain staples).1 ≠ some .revoked) :
    (applyStapledOcsp env chain staples).1 = leafStatus env staples chain := by
  rw [applyStapledOcsp_eq] at h ⊢
  cases hAny : (chain.zip chain.tail).any (linkRevoked env staples) with
  | true => simp [hAny] at h
  | false => rfl

/-- Without a revocation nothing is recorded. -/
theorem applyStapledOcsp_errors_eq_nil {chain : List Certificate}
    (h : (applyStapledOcsp env chain staples).1 ≠ some .revoked) :
    (applyStapledOcsp env chain staples).2 = [] := by
  rw [ne_eq, applyStapledOcsp_revoked_iff_index, ← any_linkRevoked_iff] at h
  rw [applyStapledOcsp_eq, List.map_eq_nil_iff, List.filter_eq_nil_iff]
  exact fun link hLink hRevoked => h (List.any_eq_true.mpr ⟨link, hLink, hRevoked⟩)

/-- The verdict depends on the statuses below the anchor only. -/
theorem applyStapledOcsp_congr {others : List BasicOcspResponse} {chain : List Certificate}
    (h : ∀ link ∈ chain.zip chain.tail, linkStatus env others link = linkStatus env staples link) :
    applyStapledOcsp env chain others = applyStapledOcsp env chain staples := by
  have hRevoked : ∀ link ∈ chain.zip chain.tail,
      linkRevoked env others link = linkRevoked env staples link := by
    intro link hLink
    rw [linkRevoked, linkRevoked, h link hLink]
  have hLeaf : leafStatus env others chain = leafStatus env staples chain := by
    unfold leafStatus
    cases hHead : (chain.zip chain.tail).head? with
    | none => rfl
    | some link => exact h link (List.mem_of_mem_head? hHead)
  have hAny : (chain.zip chain.tail).any (linkRevoked env others) =
      (chain.zip chain.tail).any (linkRevoked env staples) := by
    rw [Bool.eq_iff_iff, List.any_eq_true, List.any_eq_true]
    exact exists_congr fun link => and_congr_right fun hLink => by rw [hRevoked link hLink]
  rw [applyStapledOcsp_eq, applyStapledOcsp_eq, List.filter_congr hRevoked, hLeaf, hAny]

/-- The verdict on a verified chain: revoked when a certificate below the anchor
is, and otherwise the status of the leaf. Each revocation is recorded once, in the
order of the chain, and the status of the anchor does not count. -/
theorem chain_verdict_exact (env : Externals) (chain : List Certificate)
    (staples : List BasicOcspResponse) :
    let status := fun subject issuer => stapledStatusFor env staples subject issuer env.now
    let verdict := applyStapledOcsp env chain staples
    (verdict.1 = some .revoked ↔
        ∃ (i : Nat) (subject issuer : Certificate), chain[i]? = some subject ∧
          chain[i + 1]? = some issuer ∧ status subject issuer = some .revoked) ∧
      verdict.2 =
        ((chain.zip chain.tail).filter fun link => status link.1 link.2 == some .revoked).map
          (fun link => .stapledOcspRevoked (env.dnToString link.1.subject)) ∧
      (verdict.1 ≠ some .revoked →
        verdict.1 =
          match chain with
          | leaf :: issuer :: _ => status leaf issuer
          | _ => none) ∧
      (∀ others : List BasicOcspResponse,
        (∀ (i : Nat) (subject issuer : Certificate), chain[i]? = some subject →
          chain[i + 1]? = some issuer →
            stapledStatusFor env others subject issuer env.now = status subject issuer) →
          applyStapledOcsp env chain others = verdict) ∧
      ∀ (signerLeaf : Certificate) (certs : List Certificate) (verifier : env.Verifier) (idx : Nat),
        let validation := validateChain env signerLeaf certs verifier staples idx
        (validation.trusted = true ↔
            ∃ verified : List Certificate,
              env.verify verifier signerLeaf (intermediariesOf signerLeaf certs) = .ok verified ∧
                ∀ (i : Nat) (subject issuer : Certificate), verified[i]? = some subject →
                  verified[i + 1]? = some issuer → status subject issuer ≠ some .revoked) ∧
          (validation.trusted = true → validation.failures = []) := by
  dsimp only
  refine ⟨applyStapledOcsp_revoked_iff_index, ?_, ?_, ?_, ?_⟩
  · rw [applyStapledOcsp_eq]
    rfl
  · intro hNot
    rw [applyStapledOcsp_not_revoked hNot]
    match chain with
    | [] => rfl
    | [_] => rfl
    | leaf :: issuer :: rest => rfl
  · intro others hSame
    have hStatus : ∀ link ∈ chain.zip chain.tail,
        linkStatus env others link = linkStatus env staples link := by
      rintro ⟨subject, issuer⟩ hLink
      obtain ⟨i, hSubject, hIssuer⟩ := mem_zip_tail_iff.mp hLink
      exact hSame i subject issuer hSubject hIssuer
    exact applyStapledOcsp_congr hStatus
  · intro signerLeaf certs verifier idx
    unfold validateChain
    cases hVerify : env.verify verifier signerLeaf (intermediariesOf signerLeaf certs) with
    | error e => simp
    | ok verified =>
        have hRevoked := @applyStapledOcsp_revoked_iff_index env staples verified
        have hErrors := @applyStapledOcsp_errors_eq_nil env staples verified
        dsimp only
        rw [bne_iff_ne]
        refine ⟨?_, hErrors⟩
        simp only [ne_eq, hRevoked, not_exists, not_and, Except.ok.injEq, exists_eq_left']

end Verdict

section Fingerprints

variable {env : Externals}

/-- The first embedded certificate with the issuer and serial number of another. -/
def embeddedFor (certs : List Certificate) (cert : Certificate) : Option Certificate :=
  certs.find? fun p7 => p7.issuer == cert.issuer && p7.serial == cert.serial

/-- Certificates can be told by their fingerprints. -/
def DistinctFingerprints (env : Externals) (certs : List Certificate) : Prop :=
  ∀ cert ∈ certs, ∃ fingerprint : String, sha256FingerprintHex env cert = some fingerprint ∧
    ∀ other ∈ certs, sha256FingerprintHex env other = some fingerprint → other = cert

theorem DistinctFingerprints.mono {certs others : List Certificate}
    (h : DistinctFingerprints env certs) (hSub : ∀ cert ∈ others, cert ∈ certs) :
    DistinctFingerprints env others := by
  intro cert hCert
  obtain ⟨fingerprint, hFingerprint, hOnly⟩ := h cert (hSub cert hCert)
  exact ⟨fingerprint, hFingerprint, fun other hOther => hOnly other (hSub other hOther)⟩

/-- Only fingerprints of certificates of the chain are reported, in its order,
and the first is that of the leaf. -/
def ReportsChain (env : Externals) (leaf : Certificate) (verified : List Certificate)
    (reported : List String) : Prop :=
  reported.Sublist (verified.filterMap (sha256FingerprintHex env)) ∧
    ∃ fingerprint : String, reported.head? = some fingerprint ∧
      sha256FingerprintHex env leaf = some fingerprint

/-- No embedded certificate is taken for another one of the chain. -/
def NoLookalike (certs verified : List Certificate) : Prop :=
  ∀ cert ∈ verified, ∀ p7 : Certificate, embeddedFor certs cert = some p7 → p7 = cert

theorem embeddedFor_congr {certs : List Certificate} {cert other p7 : Certificate}
    (hCert : embeddedFor certs cert = some p7) (hOther : other = p7) :
    embeddedFor certs other = some p7 := by
  have hKey := List.find?_some hCert
  simp only [Bool.and_eq_true, beq_iff_eq] at hKey
  rw [← hCert, hOther, embeddedFor, embeddedFor, hKey.1, hKey.2]

theorem exists_embeddedFor {certs : List Certificate} {cert : Certificate} (h : cert ∈ certs) :
    ∃ p7 : Certificate, embeddedFor certs cert = some p7 := by
  rw [← Option.isSome_iff_exists, embeddedFor, List.find?_isSome]
  exact ⟨cert, h, by simp⟩

theorem verifiedChainFingerprints_eq (certs verified : List Certificate) :
    verifiedChainFingerprints env verified certs =
      verified.filterMap fun cert => (embeddedFor certs cert).bind (sha256FingerprintHex env) := rfl

/-- Without a lookalike each certificate is reported as itself or not at all. -/
theorem verifiedChainFingerprints_sublist {certs verified : List Certificate}
    (h : NoLookalike certs verified) :
    (verifiedChainFingerprints env verified certs).Sublist
      (verified.filterMap (sha256FingerprintHex env)) := by
  rw [verifiedChainFingerprints_eq]
  induction verified with
  | nil => exact .slnil
  | cons cert rest ih =>
      obtain ⟨hCert, hRest⟩ := List.forall_mem_cons.mp h
      have hTail := ih hRest
      cases hEmbedded : embeddedFor certs cert with
      | none =>
          rw [List.filterMap_cons, hEmbedded]
          exact hTail.trans ((List.sublist_cons_self cert rest).filterMap _)
      | some p7 =>
          rw [List.filterMap_cons, List.filterMap_cons, hEmbedded, hCert p7 hEmbedded]
          dsimp only [Option.bind_some]
          cases sha256FingerprintHex env cert with
          | none => exact hTail
          | some fingerprint => exact hTail.cons_cons fingerprint

/-- How often a fingerprint is reported is at most how often the chain has it, so
every certificate that is reported with it has it. -/
theorem noLookalike_of_sublist {certs verified : List Certificate}
    (hDistinct : DistinctFingerprints env (verified ++ certs))
    (h : (verifiedChainFingerprints env verified certs).Sublist
      (verified.filterMap (sha256FingerprintHex env))) :
    NoLookalike certs verified := by
  intro cert hCert p7 hEmbedded
  have hMem : p7 ∈ verified ++ certs :=
    List.mem_append_right verified (List.mem_of_find?_eq_some hEmbedded)
  obtain ⟨fingerprint, hFingerprint, hOnly⟩ := hDistinct p7 hMem
  have hImp : ∀ other ∈ verified, sha256FingerprintHex env other = some fingerprint →
      (embeddedFor certs other).bind (sha256FingerprintHex env) = some fingerprint := by
    intro other hOther hSame
    rw [embeddedFor_congr hEmbedded (hOnly other (List.mem_append_left certs hOther) hSame)]
    exact hFingerprint
  have hCount := h.count_le fingerprint
  rw [verifiedChainFingerprints_eq, List.count_filterMap, List.count_filterMap] at hCount
  have hBack := imp_of_countP_le (fun other hOther hSame => by
    rw [beq_iff_eq] at hSame ⊢
    exact hImp other hOther hSame) hCount
  have hReported : (embeddedFor certs cert).bind (sha256FingerprintHex env) = some fingerprint := by
    rw [hEmbedded]
    exact hFingerprint
  have hSame := beq_iff_eq.mp (hBack cert hCert (beq_iff_eq.mpr hReported))
  exact (hOnly cert (List.mem_append_left certs hCert) hSame).symm

/-- What an entry reports of the chain that was verified for its certificate is
that chain exactly when no embedded certificate is taken for one of it. -/
theorem reportsChain_iff (env : Externals) (leaf : Certificate) (certs verified : List Certificate)
    (verifier : env.Verifier) (staples : List BasicOcspResponse) (idx : Nat)
    (entry : SignerValidation) (hasSignedAttrs : Bool)
    (hVerified : env.verify verifier leaf (intermediariesOf leaf certs) = .ok verified)
    (hLeaf : verified.head? = some leaf) (hEmbedded : leaf ∈ certs)
    (hDistinct : DistinctFingerprints env (verified ++ certs)) :
    let reported := (judge entry (validateChain env leaf certs verifier staples idx)
      hasSignedAttrs).chain
    reported = verifiedChainFingerprints env verified certs ∧
      (ReportsChain env leaf verified reported ↔ NoLookalike certs verified) := by
  have hReported : (judge entry (validateChain env leaf certs verifier staples idx)
      hasSignedAttrs).chain = verifiedChainFingerprints env verified certs := by
    rw [judge, validateChain, hVerified]
  dsimp only
  rw [hReported]
  refine ⟨rfl, fun h => noLookalike_of_sublist hDistinct h.1, fun h => ?_⟩
  refine ⟨verifiedChainFingerprints_sublist h, ?_⟩
  obtain ⟨fingerprint, hFingerprint, -⟩ := hDistinct leaf (List.mem_append_right verified hEmbedded)
  refine ⟨fingerprint, ?_, hFingerprint⟩
  obtain ⟨rest, rfl⟩ := List.head?_eq_some_iff.mp hLeaf
  obtain ⟨p7, hFirst⟩ := exists_embeddedFor hEmbedded
  rw [verifiedChainFingerprints_eq, List.filterMap_cons, hFirst, h leaf List.mem_cons_self p7 hFirst]
  dsimp only [Option.bind_some]
  rw [hFingerprint]
  rfl

/-- Another certificate with the issuer and the serial number of `leafCert`. -/
def lookalikeCert : Certificate := { leafCert with subject := nameOf "Eve", signature := [9] }

/-- `essExternals` with certificates that are encoded as their signature, which is
its own digest. -/
def lookalikeExternals : Externals :=
  { essExternals with
    writeCertificate := fun cert => .ok cert.signature
    digest := fun _ data => data }

def lookalikeContext (certs : List Certificate) : VerifyContext lookalikeExternals where
  target := .econtent essContent
  certs
  signers := [essSigner]
  innerMessage := essMessage
  verifier := [rootCert]
  staples := []
  trustStoreLabel := "[Debug]"
  outerDate := none

def lookalikeEntry (certs : List Certificate) : SignerValidation :=
  buildSignerEntry (lookalikeContext certs) leafCert none {}

theorem distinctFingerprints_lookalike :
    DistinctFingerprints lookalikeExternals
      ([leafCert, rootCert] ++ [lookalikeCert, leafCert]) := by
  intro cert hCert
  refine ⟨hexEncode cert.signature, rfl, fun other hOther hSame => ?_⟩
  have hAll : ∀ cert ∈ [leafCert, rootCert] ++ [lookalikeCert, leafCert],
      ∀ other ∈ [leafCert, rootCert] ++ [lookalikeCert, leafCert],
        hexEncode other.signature = hexEncode cert.signature → other = cert := by
    decide +kernel
  exact hAll cert hCert other hOther (Option.some.inj hSame)

theorem reportsChain_leafCert :
    NoLookalike [leafCert] [leafCert, rootCert] ∧
      ReportsChain lookalikeExternals leafCert [leafCert, rootCert]
        (judge (lookalikeEntry [leafCert])
          (validateChain lookalikeExternals leafCert [leafCert] (lookalikeContext []).verifier [] 0)
          true).chain := by
  have hNone : NoLookalike [leafCert] [leafCert, rootCert] := by
    unfold NoLookalike
    decide +kernel
  have hDistinct : DistinctFingerprints lookalikeExternals ([leafCert, rootCert] ++ [leafCert]) := by
    apply distinctFingerprints_lookalike.mono
    simp
  exact ⟨hNone, (reportsChain_iff lookalikeExternals leafCert [leafCert] [leafCert, rootCert] _ [] 0
    (lookalikeEntry [leafCert]) true rfl rfl List.mem_cons_self hDistinct).2.mpr hNone⟩

/-- The fingerprint of the lookalike is reported, which was never verified. -/
theorem not_reportsChain :
    ¬ ∀ (env : Externals) (leaf : Certificate) (certs verified : List Certificate)
        (verifier : env.Verifier) (staples : List BasicOcspResponse) (idx : Nat)
        (entry : SignerValidation) (hasSignedAttrs : Bool),
      env.verify verifier leaf (intermediariesOf leaf certs) = .ok verified →
        verified.head? = some leaf → leaf ∈ certs →
          DistinctFingerprints env (verified ++ certs) →
            ReportsChain env leaf verified
              (judge entry (validateChain env leaf certs verifier staples idx)
                hasSignedAttrs).chain := by
  intro h
  obtain ⟨-, fingerprint, hHead, hLeaf⟩ := h lookalikeExternals leafCert [lookalikeCert, leafCert]
    [leafCert, rootCert] (lookalikeContext []).verifier [] 0 (lookalikeEntry []) true rfl rfl
    (List.mem_cons_of_mem _ List.mem_cons_self) distinctFingerprints_lookalike
  have hReported : (judge (lookalikeEntry []) (validateChain lookalikeExternals leafCert
      [lookalikeCert, leafCert] (lookalikeContext []).verifier [] 0) true).chain.head? =
        some (hexEncode [9]) := by
    decide +kernel
  have hExpected : sha256FingerprintHex lookalikeExternals leafCert = some (hexEncode [2]) := rfl
  rw [hReported] at hHead
  rw [← hHead, hExpected] at hLeaf
  exact absurd hLeaf (by decide +kernel)

end Fingerprints

end Smime
