import Smime.ClearSigned
import Smime.SignatureSoundness

/-! The checks of the signed attributes of a signer against what they are for,
and what they mean for the entry of the signer. -/
namespace Smime

open X690 (Octets tlv)
open X509 Mail Utils

variable (env : Externals)

section Meaning

/-- RFC 5652, section 11.1: one content type, with one value, and it is id-data. -/
def CarriesContentType (attrs : List Attribute) : Prop :=
  ∃ (attr : Attribute) (value : Octets),
    attrs.filter (·.typeId == contentTypeOid) = [attr] ∧ attr.values = [value] ∧
      env.parseObjectIdentifier value = .ok pkcs7DataOid

/-- What a readable CMSAlgorithmProtection says are the algorithms of the signer. -/
def ProtectsAlgorithms (signer : SignerInfo) (attr : Attribute) : Prop :=
  ∀ value : Octets, attr.values = [value] →
    ∀ prot : CmsAlgorithmProtection, env.parseCmsAlgorithmProtection value = .ok prot →
      prot.digestAlgorithm = signer.digestAlgorithm ∧
        ∀ sigAlg ∈ prot.signatureAlgorithm, sigAlg = signer.digestEncryptionAlgorithm

def IsSigningCertificate (attr : Attribute) : Prop :=
  attr.typeId = signingCertificateOid ∨ attr.typeId = signingCertificateV2Oid

/-- The signed attributes of a signer, if there are any, are as they have to be. -/
structure Conforms (signer : SignerInfo) : Prop where
  contentType : ∀ attrs : List Attribute, signer.authenticatedAttributes = some attrs →
    CarriesContentType env attrs
  algorithms : ∀ attr ∈ signer.authenticatedAttributes.getD [],
    attr.typeId = cmsAlgorithmProtectionOid → ProtectsAlgorithms env signer attr
  signingCertificate : ∀ attr ∈ signer.authenticatedAttributes.getD [], ¬ IsSigningCertificate attr

/-- Failures that say that the attributes of the signer at `idx` do not conform. -/
def IsViolation (idx : Nat) : SmimeError → Prop
  | .missingContentTypeAttr of | .malformedContentTypeAttr of | .contentTypeMismatch of => of = idx
  | .attributeCardinality attr of => attr = "content-type" ∧ of = idx
  | .algorithmProtectionMismatch _ of => of = idx
  | .raw text => .raw text = unsupportedSigningCertificate idx
  | _ => False

/-- A violation is among what `prepareSigner` records of the signer at `idx`. -/
def RecordsViolation (signedData : SignedData) (idx : Nat) (signer : SignerInfo) : Prop :=
  ∃ err ∈ (prepareSigner env signer (extractCertificates signedData) idx).1, IsViolation idx err

end Meaning

section Scan

variable {env}

/-- The failures that the loop over the attributes records of one of them. -/
def attributeFailures (env : Externals) (signer : SignerInfo) (idx : Nat) (attr : Attribute) :
    List SmimeError :=
  if attr.typeId = contentTypeOid then contentTypeFailures env idx attr.values
  else if attr.typeId = cmsAlgorithmProtectionOid then
    algorithmProtectionFailures env signer idx attr.values
  else if attr.typeId = signingCertificateOid ∨ attr.typeId = signingCertificateV2Oid then
    [unsupportedSigningCertificate idx]
  else []

theorem step_failures (signer : SignerInfo) (idx : Nat) (scan : AttributeScan) (attr : Attribute) :
    (scan.step env signer idx attr).failures =
      scan.failures ++ attributeFailures env signer idx attr := by
  unfold AttributeScan.step attributeFailures
  by_cases hContent : attr.typeId = contentTypeOid
  · simp only [if_pos hContent]
  · by_cases hTime : attr.typeId = signingTimeOid
    · simp [hTime, contentTypeOid, signingTimeOid, cmsAlgorithmProtectionOid,
        signingCertificateOid, signingCertificateV2Oid]
    · by_cases hProtection : attr.typeId = cmsAlgorithmProtectionOid
      · simp only [if_neg hContent, if_neg hTime, if_pos hProtection]
      · by_cases hCapabilities : attr.typeId = smimeCapabilitiesOid
        · simp [hCapabilities, contentTypeOid, signingTimeOid, cmsAlgorithmProtectionOid,
            smimeCapabilitiesOid, signingCertificateOid, signingCertificateV2Oid]
        · simp only [if_neg hContent, if_neg hTime, if_neg hProtection, if_neg hCapabilities]
          split <;> simp

theorem step_contentTypeCount (signer : SignerInfo) (idx : Nat) (scan : AttributeScan)
    (attr : Attribute) :
    (scan.step env signer idx attr).contentTypeCount =
      scan.contentTypeCount + if attr.typeId = contentTypeOid then 1 else 0 := by
  unfold AttributeScan.step
  by_cases hContent : attr.typeId = contentTypeOid
  · simp only [if_pos hContent]
  · simp only [if_neg hContent]
    split_ifs <;> rfl

theorem foldl_step_failures (signer : SignerInfo) (idx : Nat) (attrs : List Attribute)
    (scan : AttributeScan) :
    (attrs.foldl (AttributeScan.step env signer idx) scan).failures =
      scan.failures ++ attrs.flatMap (attributeFailures env signer idx) := by
  induction attrs generalizing scan with
  | nil => simp
  | cons attr rest ih =>
      rw [List.foldl_cons, ih, step_failures, List.flatMap_cons, List.append_assoc]

/-- A count that goes up by one at each attribute of a type. -/
theorem foldl_step_count {signer : SignerInfo} {idx : Nat} {count : AttributeScan → Nat}
    {oid : ObjectIdentifier}
    (hStep : ∀ (scan : AttributeScan) (attr : Attribute),
      count (scan.step env signer idx attr) = count scan + if attr.typeId = oid then 1 else 0)
    (attrs : List Attribute) (scan : AttributeScan) :
    count (attrs.foldl (AttributeScan.step env signer idx) scan) =
      count scan + (attrs.filter (·.typeId == oid)).length := by
  induction attrs generalizing scan with
  | nil => simp
  | cons attr rest ih =>
      rw [List.foldl_cons, ih, hStep, List.filter_cons]
      by_cases hType : attr.typeId = oid
      · simp only [hType, if_true, beq_self_eq_true, List.length_cons]
        omega
      · simp [hType]

theorem contentTypeFailures_eq_nil_iff {idx : Nat} {values : List Octets} :
    contentTypeFailures env idx values = [] ↔
      ∃ value : Octets, values = [value] ∧ env.parseObjectIdentifier value = .ok pkcs7DataOid := by
  unfold contentTypeFailures
  match values with
  | [] => simp
  | _ :: _ :: _ => simp
  | [value] =>
      cases hParse : env.parseObjectIdentifier value with
      | error e => simp [hParse]
      | ok oid => simp [hParse]

theorem algorithmProtectionFailures_eq_nil_iff {signer : SignerInfo} {idx : Nat}
    {attr : Attribute} :
    algorithmProtectionFailures env signer idx attr.values = [] ↔
      ProtectsAlgorithms env signer attr := by
  unfold algorithmProtectionFailures ProtectsAlgorithms
  match attr.values with
  | [] => simp
  | _ :: _ :: _ => simp
  | [value] =>
      cases hParse : env.parseCmsAlgorithmProtection value with
      | error e => simp [hParse]
      | ok prot =>
          cases hSigAlg : prot.signatureAlgorithm with
          | none => simp [hParse, hSigAlg]
          | some sigAlg => simp [hParse, hSigAlg]

theorem mem_algorithmProtectionFailures {signer : SignerInfo} {idx : Nat} {values : List Octets}
    {err : SmimeError} (h : err ∈ algorithmProtectionFailures env signer idx values) :
    ∃ field : String, err = .algorithmProtectionMismatch field idx := by
  unfold algorithmProtectionFailures at h
  split at h
  · split at h
    · rcases List.mem_append.mp h with hDigest | hSignature
      · split_ifs at hDigest
        · exact ⟨_, List.mem_singleton.mp hDigest⟩
        · cases hDigest
      · split at hSignature
        · split_ifs at hSignature
          · exact ⟨_, List.mem_singleton.mp hSignature⟩
          · cases hSignature
        · cases hSignature
    · cases h
  · cases h

/-- What is recorded of an attribute, by its type. -/
theorem attributeFailures_eq_nil_iff {signer : SignerInfo} {idx : Nat} {attr : Attribute} :
    attributeFailures env signer idx attr = [] ↔
      (attr.typeId = contentTypeOid → ∃ value : Octets, attr.values = [value] ∧
        env.parseObjectIdentifier value = .ok pkcs7DataOid) ∧
      (attr.typeId = cmsAlgorithmProtectionOid → ProtectsAlgorithms env signer attr) ∧
        ¬ IsSigningCertificate attr := by
  have hContentType := @contentTypeFailures_eq_nil_iff env idx attr.values
  have hProtected := @algorithmProtectionFailures_eq_nil_iff env signer idx attr
  rw [← hContentType, ← hProtected]
  unfold attributeFailures IsSigningCertificate
  split_ifs with hContent hProtection hSigning
  · simp [hContent, contentTypeOid, cmsAlgorithmProtectionOid, signingCertificateOid,
      signingCertificateV2Oid]
  · simp [hProtection, contentTypeOid, cmsAlgorithmProtectionOid, signingCertificateOid,
      signingCertificateV2Oid]
  · simp [hSigning]
  · simp [hContent, hProtection, hSigning]

theorem isViolation_of_mem_attributeFailures {signer : SignerInfo} {idx : Nat} {attr : Attribute}
    {err : SmimeError} (h : err ∈ attributeFailures env signer idx attr) : IsViolation idx err := by
  unfold attributeFailures at h
  split_ifs at h
  · unfold contentTypeFailures at h
    split at h
    · split at h
      · split_ifs at h
        · rw [List.mem_singleton.mp h]
          rfl
        · cases h
      · rw [List.mem_singleton.mp h]
        rfl
    · rw [List.mem_singleton.mp h]
      rfl
  · obtain ⟨field, rfl⟩ := mem_algorithmProtectionFailures h
    rfl
  · rw [List.mem_singleton.mp h]
    rfl
  · cases h

end Scan

section Records

variable {env} {signer : SignerInfo} {idx : Nat}

theorem digestMismatchWarnings_records {params : SignatureParameters} {hash : HashType} :
    ∀ err ∈ digestMismatchWarnings env params hash idx, ¬ IsViolation idx err := by
  intro err hErr
  cases params <;> simp only [digestMismatchWarnings, List.mem_ite_nil_right, List.mem_singleton,
    List.not_mem_nil] at hErr <;> rw [hErr.2] <;> exact not_false

theorem rsaPssWarnings_records {params : AlgorithmParameters} :
    ∀ err ∈ rsaPssWarnings env params idx, ¬ IsViolation idx err := by
  intro err hErr
  unfold rsaPssWarnings at hErr
  split at hErr
  · rcases List.mem_append.mp hErr with hMgf | hTrailer
    · rw [List.mem_ite_nil_right, List.mem_singleton] at hMgf
      rw [hMgf.2]
      exact not_false
    · split at hTrailer
      · rw [List.mem_ite_nil_right, List.mem_singleton] at hTrailer
        rw [hTrailer.2]
        exact not_false
      · cases hTrailer
  · cases hErr

theorem weakDigestWarnings_records {oid : ObjectIdentifier} {hash : HashType} :
    ∀ err ∈ weakDigestWarnings env oid hash idx, ¬ IsViolation idx err := by
  intro err hErr
  unfold weakDigestWarnings at hErr
  split at hErr
  · rw [List.mem_ite_nil_left, List.mem_singleton] at hErr
    rw [hErr.2]
    exact not_false
  · cases hErr

theorem checkAlgorithms_records {warnings : List SmimeError}
    (h : checkAlgorithms env signer idx = .ok warnings) :
    ∀ err ∈ warnings, ¬ IsViolation idx err := by
  unfold checkAlgorithms at h
  simp only [Except.bind_eq_ok_iff] at h
  obtain ⟨hash, -, h⟩ := h
  split_ifs at h
  · cases h
    simp
  · simp only [Except.bind_eq_ok_iff, Except.pure_eq_ok', Except.ok.injEq] at h
    obtain ⟨params, -, rfl⟩ := h
    intro err hErr
    rcases List.mem_append.mp hErr with hFirst | hWeak
    · rcases List.mem_append.mp hFirst with hDigest | hPss
      · exact digestMismatchWarnings_records err hDigest
      · exact rsaPssWarnings_records err hPss
    · exact weakDigestWarnings_records err hWeak

theorem checkAlgorithms_error {err : SmimeError} (h : checkAlgorithms env signer idx = .error err) :
    ¬ IsViolation idx err := by
  unfold checkAlgorithms at h
  cases hHash : hashOidToHashTypePermitted env signer.digestAlgorithm.oid with
  | error hashErr =>
      rw [hHash] at h
      cases h
      unfold hashOidToHashTypePermitted at hHash
      split at hHash
      · split_ifs at hHash
        cases hHash
        exact not_false
      · cases hHash
        exact not_false
  | ok hash =>
      rw [hHash] at h
      dsimp only [Except.mapError, Except.ok_bind'] at h
      split_ifs at h
      · cases h
        exact not_false
      · cases hParams : env.identifySignatureAlgorithmParameters
            signer.digestEncryptionAlgorithm with
        | error e =>
            rw [hParams] at h
            cases h
            exact not_false
        | ok params =>
            rw [hParams] at h
            cases h

/-- The numbers of attributes are violated when there is not one content type. -/
theorem cardinalityFailures_violation_iff {scan : AttributeScan} :
    (∃ err ∈ cardinalityFailures signer idx scan, IsViolation idx err) ↔
      (signer.authenticatedAttributes.isSome ∧ scan.contentTypeCount = 0) ∨
        scan.contentTypeCount > 1 := by
  simp only [cardinalityFailures, List.mem_append, or_and_right, exists_or, List.mem_ite_nil_right,
    List.mem_singleton, and_assoc, exists_and_left, exists_eq_left, IsViolation, and_true]
  simp

/-- The attributes conform exactly when nothing that is recorded of them is a violation. -/
theorem conforms_iff :
    Conforms env signer ↔
      (signer.authenticatedAttributes.getD []).flatMap (attributeFailures env signer idx) = [] ∧
        ¬ ∃ err ∈ cardinalityFailures signer idx (scanAttributes env signer idx),
          IsViolation idx err := by
  have hCount : (scanAttributes env signer idx).contentTypeCount =
      ((signer.authenticatedAttributes.getD []).filter (·.typeId == contentTypeOid)).length := by
    unfold scanAttributes
    rw [foldl_step_count (step_contentTypeCount signer idx)]
    exact Nat.zero_add _
  rw [cardinalityFailures_violation_iff, hCount, List.flatMap_eq_nil_iff]
  constructor
  · intro h
    constructor
    · intro attr hAttr
      rw [attributeFailures_eq_nil_iff]
      refine ⟨fun hType => ?_, h.algorithms attr hAttr, h.signingCertificate attr hAttr⟩
      cases hAttrs : signer.authenticatedAttributes with
      | none =>
          rw [hAttrs] at hAttr
          cases hAttr
      | some attrs =>
          rw [hAttrs] at hAttr
          obtain ⟨only, value, hFilter, hValues, hParse⟩ := h.contentType attrs hAttrs
          have hMem : attr ∈ attrs.filter (·.typeId == contentTypeOid) := by
            simpa [hType] using hAttr
          rw [hFilter, List.mem_singleton] at hMem
          exact ⟨value, hMem ▸ hValues, hParse⟩
    · cases hAttrs : signer.authenticatedAttributes with
      | none => simp
      | some attrs =>
          obtain ⟨only, value, hFilter, -⟩ := h.contentType attrs hAttrs
          simp [hFilter]
  · rintro ⟨hNone, hNumber⟩
    refine ⟨?_, ?_, ?_⟩
    · intro attrs hAttrs
      rw [hAttrs] at hNone hNumber
      have hOne : (attrs.filter (·.typeId == contentTypeOid)).length = 1 := by
        simp only [Option.isSome_some, Option.getD_some, true_and] at hNumber
        omega
      obtain ⟨attr, hFilter⟩ := List.length_eq_one_iff.mp hOne
      have hMem : attr ∈ attrs.filter (·.typeId == contentTypeOid) := by simp [hFilter]
      rw [List.mem_filter, beq_iff_eq] at hMem
      obtain ⟨value, hValues, hParse⟩ :=
        (attributeFailures_eq_nil_iff.mp (hNone attr hMem.1)).1 hMem.2
      exact ⟨attr, value, hFilter, hValues, hParse⟩
    · intro attr hAttr
      exact (attributeFailures_eq_nil_iff.mp (hNone attr hAttr)).2.1
    · intro attr hAttr
      exact (attributeFailures_eq_nil_iff.mp (hNone attr hAttr)).2.2

theorem signerVersionFailures_records :
    ∀ err ∈ signerVersionFailures signer idx, ¬ IsViolation idx err := by
  intro err hErr
  simp only [signerVersionFailures, List.mem_ite_nil_right, List.mem_singleton] at hErr
  rw [hErr.2]
  exact not_false

/-- Among what is recorded of a signer with acceptable algorithms is a violation
exactly when its attributes do not conform. -/
theorem recorded_iff {warnings : List SmimeError}
    (hWarnings : ∀ err ∈ warnings, ¬ IsViolation idx err) :
    (∃ err ∈ signerVersionFailures signer idx ++ warnings ++
        (scanAttributes env signer idx).failures ++
          cardinalityFailures signer idx (scanAttributes env signer idx), IsViolation idx err) ↔
      ¬ Conforms env signer := by
  have hScan : (scanAttributes env signer idx).failures =
      (signer.authenticatedAttributes.getD []).flatMap (attributeFailures env signer idx) := by
    unfold scanAttributes
    rw [foldl_step_failures]
    exact List.nil_append _
  rw [@conforms_iff env signer idx, ← hScan]
  constructor
  · rintro ⟨err, hErr, hViolation⟩ ⟨hNone, hNumber⟩
    rcases List.mem_append.mp hErr with hErr | hCardinality
    · rw [hNone, List.append_nil] at hErr
      rcases List.mem_append.mp hErr with hVersion | hWarning
      · exact signerVersionFailures_records err hVersion hViolation
      · exact hWarnings err hWarning hViolation
    · exact hNumber ⟨err, hCardinality, hViolation⟩
  · intro hNot
    by_contra hNothing
    apply hNot
    constructor
    · rw [List.eq_nil_iff_forall_not_mem]
      intro err hErr
      apply hNothing
      refine ⟨err, by simp [hErr], ?_⟩
      rw [hScan, List.mem_flatMap] at hErr
      obtain ⟨attr, -, hAttr⟩ := hErr
      exact isViolation_of_mem_attributeFailures hAttr
    · rintro ⟨err, hErr, hViolation⟩
      exact hNothing ⟨err, by simp [hErr], hViolation⟩

/-- A violation is recorded of a signer with acceptable algorithms exactly when
its attributes do not conform. -/
theorem recordsViolation_iff {signedData : SignedData} :
    RecordsViolation env signedData idx signer ↔
      (∃ warnings : List SmimeError, checkAlgorithms env signer idx = .ok warnings) ∧
        ¬ Conforms env signer := by
  unfold RecordsViolation prepareSigner
  dsimp only
  cases hAlgorithms : checkAlgorithms env signer idx with
  | error algorithmErr =>
      have hError := checkAlgorithms_error hAlgorithms
      simp only [List.mem_append, List.mem_singleton, reduceCtorEq, exists_false, false_and,
        iff_false, not_exists, not_and]
      rintro err (hErr | rfl)
      · exact signerVersionFailures_records err hErr
      · exact hError
  | ok warnings =>
      have hWarnings := checkAlgorithms_records hAlgorithms
      have hRecorded := @recorded_iff env signer idx warnings hWarnings
      simp only [Except.ok.injEq, exists_eq', true_and, ← hRecorded]
      split
      · constructor
        · rintro ⟨err, hErr, hViolation⟩
          rcases List.mem_append.mp hErr with hErr | hNotFound
          · exact ⟨err, hErr, hViolation⟩
          · rw [List.mem_singleton.mp hNotFound] at hViolation
            exact hViolation.elim
        · rintro ⟨err, hErr, hViolation⟩
          exact ⟨err, List.mem_append_left _ hErr, hViolation⟩
      · rfl

end Records

section Entries

variable {env}

/-- The entries that each iteration of the loop over the signers pushes. -/
def pushedEntries (ctx : VerifyContext env) :
    SignerLoop → List (Nat × SignerInfo) → List (List SignerValidation)
  | _, [] => []
  | loop, signer :: rest =>
      let after := signerStep ctx loop signer
      after.result.signers.drop loop.result.signers.length :: pushedEntries ctx after rest

/-- The entries of each signer that `verifySignedData` pushes. -/
def signerEntries (env : Externals) (signedData : SignedData) (target : SignedTarget)
    (trustStores : List TrustStore) (caFilePem : Option Octets) (outerFrom : Option Addr)
    (outerDate : Option Instant) (result : SmimeValidationResult) :
    List (List SignerValidation) :=
  match startVerification env signedData target trustStores caFilePem outerFrom outerDate
      result with
  | (_, none) => []
  | (result, some ctx) => pushedEntries ctx { result } (indexed ctx.signers)

theorem foldl_signerStep_pushedEntries (ctx : VerifyContext env)
    (signers : List (Nat × SignerInfo)) (loop : SignerLoop) :
    (signers.foldl (signerStep ctx) loop).result.signers =
      loop.result.signers ++ (pushedEntries ctx loop signers).flatten := by
  induction signers generalizing loop with
  | nil => simp [pushedEntries]
  | cons signer rest ih =>
      obtain ⟨pushed, hPushed, -⟩ := signerStep_signers ctx loop signer.1 signer.2
      have hDrop : (signerStep ctx loop signer).result.signers.drop loop.result.signers.length =
          pushed := by
        rw [hPushed, List.drop_left]
      rw [List.foldl_cons, ih, pushedEntries]
      rw [List.flatten_cons, hDrop, hPushed, List.append_assoc]

/-- The entries of the signers are all that is pushed. -/
theorem verifySignedData_signers (env : Externals) (signedData : SignedData)
    (target : SignedTarget) (trustStores : List TrustStore) (caFilePem : Option Octets)
    (outerFrom : Option Addr) (outerDate : Option Instant) (result : SmimeValidationResult) :
    (verifySignedData env signedData target trustStores caFilePem outerFrom outerDate
        result).signers =
      result.signers ++ (signerEntries env signedData target trustStores caFilePem outerFrom
        outerDate result).flatten := by
  have hStart := (startVerification_cases env signedData target trustStores caFilePem outerFrom
    outerDate result).1
  unfold verifySignedData signerEntries
  rcases hRun : startVerification env signedData target trustStores caFilePem outerFrom outerDate
    result with ⟨start, reached⟩
  rw [hRun] at hStart
  cases reached with
  | none => simpa using hStart
  | some ctx =>
      dsimp only at hStart ⊢
      rw [foldl_signerStep_pushedEntries, hStart]

/-- A signer has a valid entry exactly when a certificate is accepted. -/
theorem pushedEntries_valid_iff (ctx : VerifyContext env) (signers : List (Nat × SignerInfo))
    (loop : SignerLoop) {i idx : Nat} {signer : SignerInfo} (h : signers[i]? = some (idx, signer)) :
    (∃ entry ∈ (pushedEntries ctx loop signers).getD i [], entry.signatureValid = true) ↔
      ∃ cert : Certificate, Accepts ctx idx signer cert := by
  induction signers generalizing loop i with
  | nil => cases h
  | cons first rest ih =>
      cases i with
      | succ i =>
          rw [List.getElem?_cons_succ] at h
          rw [pushedEntries, List.getD_cons_succ]
          exact ih _ h
      | zero =>
          rw [List.getElem?_cons_zero, Option.some.injEq] at h
          subst h
          obtain ⟨pushed, hPushed, hValid, hAccepted⟩ := signerStep_signers ctx loop idx signer
          rw [pushedEntries, List.getD_cons_zero, hPushed, List.drop_left]
          constructor
          · rintro ⟨entry, hEntry, hEntryValid⟩
            obtain ⟨cert, hAccepts, -⟩ := hValid entry hEntry hEntryValid
            exact ⟨cert, hAccepts⟩
          · rintro ⟨cert, hAccepts⟩
            exact hAccepted cert hAccepts

theorem signerEntries_valid_iff (env : Externals) (signedData : SignedData)
    (target : SignedTarget) (trustStores : List TrustStore) (caFilePem : Option Octets)
    (outerFrom : Option Addr) (outerDate : Option Instant) (result : SmimeValidationResult)
    {idx : Nat} {signer : SignerInfo} (h : signedData.signerInfos[idx]? = some signer) :
    (∃ entry ∈ (signerEntries env signedData target trustStores caFilePem outerFrom outerDate
        result).getD idx [], entry.signatureValid = true) ↔
      ∃ (ctx : VerifyContext env) (cert : Certificate),
        Reaches signedData target trustStores caFilePem outerDate ctx ∧
          Accepts ctx idx signer cert := by
  have hStart := (startVerification_cases env signedData target trustStores caFilePem outerFrom
    outerDate result).2
  unfold signerEntries
  rcases hRun : startVerification env signedData target trustStores caFilePem outerFrom outerDate
    result with ⟨start, reached⟩
  rw [hRun] at hStart
  cases reached with
  | none => simp [← hStart]
  | some ctx =>
      have hReaches := (hStart ctx).mp rfl
      have hIndexed : (indexed ctx.signers)[idx]? = some (idx, signer) := by
        rw [reaches_signers hReaches, indexed, List.getElem?_mapIdx, h]
        rfl
      rw [pushedEntries_valid_iff ctx _ _ hIndexed]
      constructor
      · rintro ⟨cert, hAccepts⟩
        exact ⟨ctx, cert, hReaches, hAccepts⟩
      · rintro ⟨other, cert, hOther, hAccepts⟩
        have hSame : ctx = other := Option.some.inj ((hStart other).mpr hOther)
        exact ⟨cert, hSame ▸ hAccepts⟩

/-- The violations that are recorded of a signer invalidate it exactly when none
is, or when no certificate is accepted anyway. -/
theorem violations_invalidate_iff (env : Externals) (signedData : SignedData)
    (target : SignedTarget) (trustStores : List TrustStore) (caFilePem : Option Octets)
    (outerFrom : Option Addr) (outerDate : Option Instant) (result : SmimeValidationResult)
    (idx : Fin signedData.signerInfos.length) :
    (RecordsViolation env signedData idx signedData.signerInfos[idx] →
        ∀ entry ∈ (signerEntries env signedData target trustStores caFilePem outerFrom outerDate
          result).getD idx [], entry.signatureValid = false) ↔
      Conforms env signedData.signerInfos[idx] ∨
        ∀ ctx : VerifyContext env,
          Reaches signedData target trustStores caFilePem outerDate ctx →
            ∀ cert : Certificate, ¬ Accepts ctx idx signedData.signerInfos[idx] cert := by
  have hSigner : signedData.signerInfos[(idx : Nat)]? = some signedData.signerInfos[idx] :=
    List.getElem?_eq_getElem idx.isLt
  have hEntries := signerEntries_valid_iff env signedData target trustStores caFilePem outerFrom
    outerDate result hSigner
  have hInvalid : (∀ entry ∈ (signerEntries env signedData target trustStores caFilePem outerFrom
      outerDate result).getD idx [], entry.signatureValid = false) ↔
        ∀ ctx : VerifyContext env,
          Reaches signedData target trustStores caFilePem outerDate ctx →
            ∀ cert : Certificate, ¬ Accepts ctx idx signedData.signerInfos[idx] cert := by
    rw [← not_iff_not]
    simpa using hEntries
  rw [hInvalid, recordsViolation_iff]
  constructor
  · intro h
    by_cases hConforms : Conforms env signedData.signerInfos[idx]
    · exact .inl hConforms
    · refine .inr fun ctx hReaches cert hAccepts => ?_
      exact h ⟨hAccepts.1.algorithms, hConforms⟩ ctx hReaches cert hAccepts
  · rintro (hConforms | hNone) ⟨-, hNot⟩
    · exact absurd hConforms hNot
    · exact hNone

/-! A message whose one signer carries an ESS signingCertificateV2 attribute, and
the outside as it answers for this message. -/

def dataOidDer : Octets := [0x06, 0x09, 0x2A, 0x86, 0x48, 0x86, 0xF7, 0x0D, 0x01, 0x07, 0x01]

/-- The content octets of the object identifiers of the attributes. -/
def attributeOidDer (oid : ObjectIdentifier) : Except String Octets :=
  if oid = contentTypeOid then .ok [0x2A, 0x86, 0x48, 0x86, 0xF7, 0x0D, 0x01, 0x09, 0x03]
  else if oid = messageDigestOid then .ok [0x2A, 0x86, 0x48, 0x86, 0xF7, 0x0D, 0x01, 0x09, 0x04]
  else if oid = signingCertificateV2Oid then
    .ok [0x2A, 0x86, 0x48, 0x86, 0xF7, 0x0D, 0x01, 0x09, 0x10, 0x02, 0x2F]
  else .error "unknown attribute"

def essContent : Octets := ascii "Content-Type: text/plain\r\n\r\nESS signingCertificate\r\n"

/-- The SHA-256 digest of `essContent`. -/
def essDigest : Octets :=
  [33, 77, 193, 1, 16, 197, 166, 119, 200, 153, 206, 247, 161, 197, 186, 239, 37, 209, 240, 72, 81,
    222, 80, 149, 176, 125, 24, 224, 170, 72, 32, 32]

def sha256Alg : AlgorithmIdentifier := ⟨sha256Oid, .other sha256Oid none⟩

def sha256WithRsaAlg : AlgorithmIdentifier :=
  ⟨[1, 2, 840, 113549, 1, 1, 11], .rsaWithSha256 (some ())⟩

def nameOf (text : String) : Name := [[⟨commonNameOid, .printableString text⟩]]

def certOf (issuer subject : String) (serial : UInt8) : Certificate where
  serial := [serial]
  issuer := nameOf issuer
  notBefore := ⟨2026, 4, 1, 14, 38, 33⟩
  notAfter := ⟨2041, 3, 28, 14, 38, 33⟩
  subject := nameOf subject
  spki := ⟨⟨rsaOid, .rsa (some ())⟩, [serial]⟩
  extensions := some []
  signatureAlg := sha256WithRsaAlg
  signature := [serial]
  unread := []

def rootCert : Certificate := certOf "Root" "Root" 1

def leafCert : Certificate := certOf "Root" "Anu Allkirjastaja" 2

def essAttributes : List Attribute :=
  [⟨contentTypeOid, [dataOidDer]⟩, ⟨messageDigestOid, [tlv [0x04] essDigest]⟩,
    ⟨signingCertificateV2Oid, [tlv [0x30] (tlv [0x30] (tlv [0x30] (tlv [0x04]
      (List.replicate 32 7))))]⟩]

def essSigner : SignerInfo where
  version := 1
  issuerAndSerialNumber := .issuerAndSerialNumber ⟨leafCert.issuer, leafCert.serial⟩
  digestAlgorithm := sha256Alg
  authenticatedAttributes := some essAttributes
  digestEncryptionAlgorithm := sha256WithRsaAlg
  encryptedDigest := [0x5A]

def essSignedData : SignedData where
  version := 1
  content := .data (some essContent)
  certificates := some [.certificate leafCert]
  crls := none
  signerInfos := [essSigner]

def essMessage : Message :=
  { parts := [⟨⟨some ⟨"text", some "plain", []⟩, ascii "ESS signingCertificate\r\n", 0,
      essContent.length⟩, .leaf⟩]
    fromAddr := none
    date := none }

def unanswered {α : Type} : Except String α := .error "unanswered"

/-- A signature is accepted by the key of `leafCert` only. Chains of a leaf and
its issuer among the anchors verify. -/
def essExternals : Externals where
  parseContentInfo _ := unanswered
  parseAttributes _ := unanswered
  parseObjectIdentifier der := if der = dataOidDer then .ok pkcs7DataOid else unanswered
  parseObjectIdentifiers _ := unanswered
  parseOctetString der := if der = tlv [0x04] essDigest then .ok essDigest else unanswered
  parseTime _ := unanswered
  parseCmsAlgorithmProtection _ := unanswered
  parseAlgorithmIdentifier _ := unanswered
  parseCertificate der := if der = [1] then .ok rootCert else unanswered
  parseSubjectPublicKeyInfo _ := unanswered
  parseSubjectAlternativeName _ := unanswered
  parsePolicies _ := unanswered
  parseAuthorityKeyIdentifier _ := unanswered
  parseOcspResponse _ := unanswered
  writeAttribute attr := do
    let oid ← attributeOidDer attr.typeId
    return tlv [0x30] (tlv [0x06] oid ++ tlv [0x31] attr.values.flatten)
  writeName _ := unanswered
  writeSubjectPublicKeyInfo spki := .ok spki.subjectPublicKey
  writeCertificate cert := .ok cert.serial
  writeTbsCertificate cert := .ok cert.serial
  writeResponseData _ := unanswered
  debugOid _ := ""
  displayOid _ := ""
  debugSerial _ := ""
  debugTag _ := ""
  debugHashType _ := ""
  debugAlgorithmParameters _ := ""
  dnToString _ := ""
  utf8Error _ := ""
  localize _ := ""
  toRfc3339 _ := ""
  domainToAscii domain := some domain
  encodePem _ _ := ""
  parsePemMany _ := .ok [("CERTIFICATE", [1])]
  parseMessage eml := if eml = essContent then some essMessage else none
  mailTimestamp _ := 0
  timestampOpt secs := some secs
  withYmdAndHms _ := none
  now := 1780000000
  nowAsn1 := ⟨2026, 5, 28, 20, 26, 40⟩
  digest hash data := if hash = .sha256 ∧ data = essContent then essDigest else []
  sha1Of _ := []
  hashOidToHashType oid := if oid = sha256Oid then .ok .sha256 else unanswered
  permittedSignatureAlgorithms := [sha256WithRsaAlg]
  identifySignatureAlgorithmParameters alg :=
    if alg = sha256WithRsaAlg then .ok (.rsaPkcs1v15 .sha256) else unanswered
  verifySignatureWithSignatureAlgorithm key _ signature _ :=
    if key.spkiDer = leafCert.spki.subjectPublicKey ∧ signature = [0x5A] then .ok ()
    else .error "Signature verification failed"
  prehashKeyFromDer _ _ := unanswered
  prehashSignature _ _ := unanswered
  verifyPrehash _ _ _ _ _ := unanswered
  ed25519KeyFromDer _ := unanswered
  ed25519Signature _ := unanswered
  verifyEd25519 _ _ _ := unanswered
  verifyMlDsa _ _ _ _ := unanswered
  Store := List Certificate
  Builder := List Certificate
  Verifier := List Certificate
  caBundle _ := []
  newStore anchors := .ok anchors
  newBuilder := []
  withStore _ anchors := .ok anchors
  withMaxChainDepth anchors _ := .ok anchors
  withTime anchors _ := .ok anchors
  buildEmailVerifier anchors := .ok anchors
  verify anchors leaf _ :=
    match anchors.find? fun anchor => anchor.subject == leaf.issuer with
    | some anchor => .ok [leaf, anchor]
    | none => .error "no path to an anchor"

/-- The unsupported attribute is recorded, and the entry is valid. -/
theorem not_violations_invalidate :
    ¬ ∀ (env : Externals) (signedData : SignedData) (target : SignedTarget)
        (trustStores : List TrustStore) (caFilePem : Option Octets) (outerFrom : Option Addr)
        (outerDate : Option Instant) (result : SmimeValidationResult)
        (idx : Fin signedData.signerInfos.length),
      RecordsViolation env signedData idx signedData.signerInfos[idx] →
        ∀ entry ∈ (signerEntries env signedData target trustStores caFilePem outerFrom outerDate
          result).getD idx [], entry.signatureValid = false := by
  intro h
  have hRecorded : unsupportedSigningCertificate 0 ∈
      (prepareSigner essExternals essSigner (extractCertificates essSignedData) 0).1 := by
    decide +kernel
  have hValid : (((signerEntries essExternals essSignedData (.econtent essContent) [.debug] none
      none none {}).getD 0 []).map SignerValidation.signatureValid) = [true] := by
    decide +kernel
  have hInvalid := h essExternals essSignedData (.econtent essContent) [.debug] none none none {}
    ⟨0, Nat.one_pos⟩ ⟨_, hRecorded, rfl⟩
  have hMem : true ∈ (((signerEntries essExternals essSignedData (.econtent essContent) [.debug]
      none none none {}).getD 0 []).map SignerValidation.signatureValid) := by
    rw [hValid]
    exact List.mem_singleton_self true
  rcases List.mem_map.mp hMem with ⟨entry, hEntry, hEntryValid⟩
  rw [hInvalid entry hEntry] at hEntryValid
  cases hEntryValid

end Entries

end Smime
