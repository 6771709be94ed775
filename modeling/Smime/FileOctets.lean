import Smime.Command
import Smime.EncryptionLayers
import Smime.SignedAttributes
import Smime.SignedContent
import Smime.VerifySuccess

/-! Whether a signature that `verify` reports as valid is over octets of the file:
it is over those of the text that the file is converted to. -/
namespace Smime

open X690 (Octets tlv)
open X509 Mail Utils
open Utf8 (WellFormed fromUtf8Lossy)

section Normalization

theorem run_crlf (owed : List Utf8.Continuation) (rest : Octets) :
    Utf8.run owed (crlf ++ rest) = if owed = [] then Utf8.run [] rest else none := by
  rw [crlf, List.cons_append, Utf8.run_ascii (by decide), List.cons_append,
    Utf8.run_ascii (by decide), if_pos rfl]
  rfl

/-- The CRLFs that the normalization inserts stand between characters. -/
theorem run_insertCrlfs (mark : Option Octets) (before octets : Octets)
    (owed : List Utf8.Continuation) :
    Utf8.run owed (insertCrlfs (mark.map fun b => crlf ++ b) before octets) =
      Utf8.run owed octets := by
  induction octets generalizing before owed with
  | nil => rfl
  | cons octet rest ih =>
      rw [insertCrlfs]
      split
      next hInsert =>
        have hCr : octet = 13 := by
          cases mark with
          | none => exact absurd hInsert.1 Bool.false_ne_true
          | some b =>
              have hPrefix := hInsert.1
              simp only [Option.map_some, Option.any_some, crlf, List.cons_append,
                List.isPrefixOf_cons_cons, Bool.and_eq_true, beq_iff_eq] at hPrefix
              exact hPrefix.1.symm
        have hAscii : octet.toNat < 0x80 := by
          rw [hCr]
          decide
        rw [run_crlf, Utf8.run_ascii hAscii, if_pos rfl, ih, Utf8.run_ascii hAscii]
      next =>
        rw [List.nil_append, Utf8.run_cons, Utf8.run_cons]
        congr 1
        funext owed
        exact ih (octet :: before) owed

theorem normalizeWildduckContent_eq (content : Octets) (innerMessage : Message) :
    ∃ mark : Option Octets, normalizeWildduckContent content innerMessage =
      insertCrlfs (mark.map fun b => crlf ++ b) [] content ++
        if crlf.isSuffixOf content then [] else crlf := by
  refine ⟨(innerMessage.contentType.bind (·.attribute "boundary")).map fun b =>
    utf8 "--" ++ utf8 b, ?_⟩
  rw [normalizeWildduckContent, Option.map_map]
  rfl

theorem wellFormed_normalizeWildduckContent {content : Octets} {innerMessage : Message} :
    WellFormed (normalizeWildduckContent content innerMessage) ↔ WellFormed content := by
  obtain ⟨mark, hNormalize⟩ := normalizeWildduckContent_eq content innerMessage
  rw [hNormalize, WellFormed, Utf8.run_append, run_insertCrlfs, WellFormed]
  split
  · cases Utf8.run [] content <;> simp [Utf8.run]
  · cases Utf8.run [] content with
    | none => simp
    | some owed =>
        have hEnd := run_crlf owed []
        rw [List.append_nil] at hEnd
        rw [Option.bind_some, hEnd]
        cases owed with
        | nil => simp [Utf8.run]
        | cons => simp

theorem mem_insertCrlfs {boundary : Option Octets} {before octets : Octets} {octet : UInt8}
    (h : octet ∈ insertCrlfs boundary before octets) : octet ∈ octets ∨ octet ∈ crlf := by
  induction octets generalizing before with
  | nil => exact .inl h
  | cons first rest ih =>
      rw [insertCrlfs, List.mem_append, List.mem_cons] at h
      rcases h with hInserted | rfl | hRest
      · split at hInserted
        · exact .inr hInserted
        · cases hInserted
      · exact .inl List.mem_cons_self
      · exact (ih hRest).imp_left (List.mem_cons_of_mem first)

theorem mem_normalizeWildduckContent {content : Octets} {innerMessage : Message} {octet : UInt8}
    (h : octet ∈ normalizeWildduckContent content innerMessage) :
    octet ∈ content ∨ octet ∈ crlf := by
  rw [normalizeWildduckContent, List.mem_append] at h
  rcases h with hInserted | hEnd
  · exact mem_insertCrlfs hInserted
  · split at hEnd
    · cases hEnd
    · exact .inr hEnd

end Normalization

section Meaning

variable (env : Externals)

/-- What a signature over `slice` may cover: the slice or its normalization. -/
inductive CoveredBy (slice : Octets) : Octets → Prop
  | slice : CoveredBy slice slice
  | normalized (innerMessage : Message) (parsed : env.parseMessage slice = some innerMessage) :
      CoveredBy slice (normalizeWildduckContent slice innerMessage)

/-- The octets are a slice of the file, or the normalization of one. -/
def StandsIn (file octets : Octets) : Prop :=
  ∃ slice : Octets, slice <:+: file ∧ CoveredBy env slice octets

/-- Two contents with one digest, as the signer takes it. -/
def Collides (signer : SignerInfo) (content other : Octets) : Prop :=
  content ≠ other ∧ ∃ digest : Octets, IsDigest env signer.digestAlgorithm content digest ∧
    IsDigest env signer.digestAlgorithm other digest

/-- The signer has the digest of one of these contents. -/
def MatchesOneOf (signer : SignerInfo) (contents : Octets → Prop) : Prop :=
  ∃ content : Octets, contents content ∧ DigestCovers env signer content

def CollidesWithOneOf (signer : SignerInfo) (contents : Octets → Prop) (other : Octets) : Prop :=
  ∃ content : Octets, contents content ∧ Collides env signer content other

/-- Two slices that one signer covers: the same up to the normalization, or a
collision. -/
def AgreesOrCollides (signer : SignerInfo) (part other : Octets) : Prop :=
  ∃ covered otherCovered : Octets, CoveredBy env part covered ∧ CoveredBy env other otherCovered ∧
    (covered = otherCovered ∨ Collides env signer covered otherCovered)

/-- The content that the digest is taken of: the normalization when the content
has another digest. -/
def hashedContent (signer : SignerInfo) (content : Octets) : Octets :=
  if SignedTarget.passed (verifyMessageDigest env signer.digestAlgorithm
      signer.authenticatedAttributes content) then content
  else
    match env.parseMessage content with
    | some innerMessage => normalizeWildduckContent content innerMessage
    | none => content

/-- A signer of a clear-signed message that `verify` reports as valid. -/
structure ReportedSigner where
  fs : FileSystem
  target : Target
  args : VerifyArgs
  result : SmimeValidationResult
  ran : runVerify env fs target args = .ok result
  trust : TrustConfig
  trusted : resolveTrust fs args.trust = .ok trust
  file : Octets
  read : fs.read args.file = .ok file
  message : Message
  signedData : SignedData
  content : Octets
  carries : CarriesSignedData env target (fromUtf8Lossy file) message signedData (.detached content)
  idx : Nat
  signer : SignerInfo
  isSigner : signedData.signerInfos[idx]? = some signer
  valid : ∃ entry ∈ (signerEntries env signedData (.detached content) trust.stores trust.caFilePem
    message.fromAddr (outerDateOf env message)
    { signingSystem := .multipartSignedSmime }).getD idx [], entry.signatureValid = true

namespace ReportedSigner

variable {env}

def hashed (run : ReportedSigner env) : Octets := hashedContent env run.signer run.content

/-- `part` is what stands in the file where the text has the signed part. -/
def HasPart (run : ReportedSigner env) (part : Octets) : Prop :=
  part <:+: run.file ∧ fromUtf8Lossy part = run.content

/-- The signed part of the file is well-formed UTF-8. -/
def KeepsPart (run : ReportedSigner env) : Prop :=
  ∃ part : Octets, run.HasPart part ∧ WellFormed part

end ReportedSigner

end Meaning

section Digests

variable {env : Externals}

theorem CoveredBy.wellFormed_iff {slice octets : Octets} (h : CoveredBy env slice octets) :
    WellFormed octets ↔ WellFormed slice := by
  cases h with
  | slice => exact Iff.rfl
  | normalized => exact wellFormed_normalizeWildduckContent

theorem CoveredBy.mem {slice octets : Octets} {octet : UInt8} (h : CoveredBy env slice octets)
    (hMem : octet ∈ octets) : octet ∈ slice ∨ octet ∈ crlf := by
  cases h with
  | slice => exact .inl hMem
  | normalized => exact mem_normalizeWildduckContent hMem

theorem carriesDigest_unique {attrs : List Attribute} {digest other : Octets}
    (h : CarriesDigest env attrs digest) (hOther : CarriesDigest env attrs other) :
    digest = other := by
  obtain ⟨attr, value, hFilter, hValues, hParsed⟩ := h
  obtain ⟨attr', value', hFilter', hValues', hParsed'⟩ := hOther
  obtain rfl : attr = attr' := (List.cons.inj (hFilter.symm.trans hFilter')).1
  obtain rfl : value = value' := (List.cons.inj (hValues.symm.trans hValues')).1
  exact Except.ok.inj (hParsed.symm.trans hParsed')

theorem isDigest_unique {alg : AlgorithmIdentifier} {content digest other : Octets}
    (h : IsDigest env alg content digest) (hOther : IsDigest env alg content other) :
    digest = other := by
  obtain ⟨hash, hHash, -, hDigest⟩ := h
  obtain ⟨hash', hHash', -, hDigest'⟩ := hOther
  obtain rfl : hash = hash' := Except.ok.inj (hHash.symm.trans hHash')
  exact hDigest.symm.trans hDigest'

/-- A signer has the digests of two contents only if they collide. -/
theorem digestCovers_iff_of_covers {signer : SignerInfo} {content other : Octets}
    (h : DigestCovers env signer other) :
    DigestCovers env signer content ↔ content = other ∨ Collides env signer content other := by
  obtain ⟨attrs, digest, hAttrs, hCarries, hDigest⟩ := h
  constructor
  · rintro ⟨attrs', digest', hAttrs', hCarries', hDigest'⟩
    obtain rfl : attrs = attrs' := Option.some.inj (hAttrs.symm.trans hAttrs')
    obtain rfl := carriesDigest_unique hCarries hCarries'
    by_cases hSame : content = other
    · exact .inl hSame
    · exact .inr ⟨hSame, digest, hDigest', hDigest⟩
  · rintro (rfl | ⟨-, digest', hContent, hOther⟩)
    · exact ⟨attrs, digest, hAttrs, hCarries, hDigest⟩
    · rw [isDigest_unique hOther hDigest] at hContent
      exact ⟨attrs, digest, hAttrs, hCarries, hContent⟩

theorem matchesOneOf_iff {signer : SignerInfo} {hashed : Octets}
    (h : DigestCovers env signer hashed) (contents : Octets → Prop) :
    MatchesOneOf env signer contents ↔
      contents hashed ∨ CollidesWithOneOf env signer contents hashed := by
  unfold MatchesOneOf CollidesWithOneOf
  simp only [digestCovers_iff_of_covers h]
  constructor
  · rintro ⟨content, hContent, rfl | hCollides⟩
    · exact .inl hContent
    · exact .inr ⟨content, hContent, hCollides⟩
  · rintro (hContent | ⟨content, hContent, hCollides⟩)
    · exact ⟨hashed, hContent, .inl rfl⟩
    · exact ⟨content, hContent, .inr hCollides⟩

end Digests

section Runs

variable {env : Externals}

/-- A slice stays one when the range is taken of a text that it stands in. -/
theorem getRange_isInfix {octets range : Octets} {start stop : Nat}
    (h : getRange octets start stop = some range) : range <:+: octets := by
  unfold getRange at h
  split at h
  · rw [← Option.some.inj h]
    exact (List.drop_suffix start _).isInfix.trans (List.take_prefix stop octets).isInfix
  · cases h

theorem carriesSignedData_content {target : Target} {eml content : Octets} {message : Message}
    {signedData : SignedData}
    (h : CarriesSignedData env target eml message signedData (.detached content)) :
    content <:+: eml := by
  obtain ⟨-, ct, -, -, ⟨-, other, hInput, hOther⟩ | ⟨-, -, hOpaque⟩⟩ := h
  · obtain rfl : content = other := SignedTarget.detached.inj hOther
    rw [clearSignedInput, Except.bind_eq_ok_iff] at hInput
    obtain ⟨⟨detachedContent, p7sDer⟩, hExtract, hParse⟩ := hInput
    rw [Except.bind_eq_ok_iff] at hParse
    obtain ⟨parsed, -, hPair⟩ := hParse
    obtain rfl : detachedContent = content := (Prod.mk.inj (Except.ok.inj hPair)).1
    obtain ⟨sigId, positions, contentId, contentPart, -, -, -, -, -, hRange⟩ :=
      extractSmimeClearSignedContent_ok hExtract
    exact getRange_isInfix hRange
  · unfold SignedTarget.ofEcontent at hOpaque
    split at hOpaque <;> cases hOpaque

/-- A clear-signed message is verified by its content and its signature. -/
theorem verifySmimeFromEmlDetailed_detached {target : Target} {eml content : Octets}
    {message : Message} {signedData : SignedData} {trust : TrustConfig}
    (h : CarriesSignedData env target eml message signedData (.detached content)) :
    verifySmimeFromEmlDetailed env target eml trust =
      verifySignedData env signedData (.detached content) trust.stores trust.caFilePem
        message.fromAddr (outerDateOf env message) { signingSystem := .multipartSignedSmime } := by
  obtain ⟨hMessage, ct, hCt, hBoundary, ⟨hKind, other, hInput, hOther⟩ | ⟨-, -, hOpaque⟩⟩ := h
  · obtain rfl : content = other := SignedTarget.detached.inj hOther
    simp [verifySmimeFromEmlDetailed, hMessage, hCt, hBoundary, hKind, verifyClearSigned, hInput]
  · unfold SignedTarget.ofEcontent at hOpaque
    split at hOpaque <;> cases hOpaque

theorem length_pushedEntries (ctx : VerifyContext env) (signers : List (Nat × SignerInfo))
    (loop : SignerLoop) : (pushedEntries ctx loop signers).length = signers.length := by
  induction signers generalizing loop with
  | nil => rfl
  | cons signer rest ih => rw [pushedEntries, List.length_cons, ih, List.length_cons]

/-- An entry is of one of the signers. -/
theorem exists_signer_of_mem {signedData : SignedData} {target : SignedTarget}
    {trustStores : List TrustStore} {caFilePem : Option Octets} {outerFrom : Option Addr}
    {outerDate : Option Instant} {result : SmimeValidationResult} {entry : SignerValidation}
    (h : entry ∈ (signerEntries env signedData target trustStores caFilePem outerFrom outerDate
      result).flatten) :
    ∃ (idx : Nat) (signer : SignerInfo), signedData.signerInfos[idx]? = some signer ∧
      entry ∈ (signerEntries env signedData target trustStores caFilePem outerFrom outerDate
        result).getD idx [] := by
  obtain ⟨entries, hEntries, hMem⟩ := List.mem_flatten.mp h
  obtain ⟨idx, hLt, hIdx⟩ := List.mem_iff_getElem.mp hEntries
  have hSome : idx < signedData.signerInfos.length := by
    have hStart := (startVerification_cases env signedData target trustStores caFilePem outerFrom
      outerDate result).2
    unfold signerEntries at hLt
    rcases hRun : startVerification env signedData target trustStores caFilePem outerFrom outerDate
      result with ⟨start, reached⟩
    rw [hRun] at hLt hStart
    cases reached with
    | none => exact absurd hLt (Nat.not_lt_zero idx)
    | some ctx =>
        dsimp only at hLt
        rw [length_pushedEntries, reaches_signers ((hStart ctx).mp rfl), indexed,
          List.length_mapIdx] at hLt
        exact hLt
  refine ⟨idx, signedData.signerInfos[idx], List.getElem?_eq_getElem hSome, ?_⟩
  rw [List.getD_eq_getElem?_getD, List.getElem?_eq_getElem hLt, hIdx]
  exact hMem

/-- What the command reports of a clear-signed message. -/
theorem result_signers {fs : FileSystem} {target : Target} {args : VerifyArgs}
    {result : SmimeValidationResult} {trust : TrustConfig} {file content : Octets}
    {message : Message} {signedData : SignedData}
    (hRan : runVerify env fs target args = .ok result)
    (hTrust : resolveTrust fs args.trust = .ok trust) (hRead : fs.read args.file = .ok file)
    (hCarries : CarriesSignedData env target (fromUtf8Lossy file) message signedData
      (.detached content)) :
    result.signers = (signerEntries env signedData (.detached content) trust.stores trust.caFilePem
      message.fromAddr (outerDateOf env message)
      { signingSystem := .multipartSignedSmime }).flatten := by
  obtain ⟨trust', file', hTrust', hRead', rfl⟩ := runVerify_ok hRan
  obtain rfl : trust = trust' := Except.ok.inj (hTrust.symm.trans hTrust')
  obtain rfl : file = file' := Except.ok.inj (hRead.symm.trans hRead')
  rw [verifySmimeFromEmlDetailed_detached hCarries, verifySignedData_signers]
  rfl

namespace ReportedSigner

/-- Every valid entry that the command reports of a clear-signed message is that of
a signer. -/
theorem exists_of_mem {fs : FileSystem} {target : Target} {args : VerifyArgs}
    {result : SmimeValidationResult} {file content : Octets} {message : Message}
    {signedData : SignedData} {entry : SignerValidation}
    (hRan : runVerify env fs target args = .ok result) (hRead : fs.read args.file = .ok file)
    (hCarries : CarriesSignedData env target (fromUtf8Lossy file) message signedData
      (.detached content))
    (hEntry : entry ∈ result.signers) (hValid : entry.signatureValid = true) :
    ∃ run : ReportedSigner env, run.result = result ∧ run.file = file ∧ run.content = content ∧
      run.signer ∈ signedData.signerInfos := by
  obtain ⟨trust, -, hTrust, -, -⟩ := runVerify_ok hRan
  rw [result_signers hRan hTrust hRead hCarries] at hEntry
  obtain ⟨idx, signer, hSigner, hMem⟩ := exists_signer_of_mem hEntry
  exact ⟨⟨fs, target, args, result, hRan, trust, hTrust, file, hRead, message, signedData, content,
    hCarries, idx, signer, hSigner, entry, hMem, hValid⟩, rfl, rfl, rfl,
    List.mem_of_getElem? hSigner⟩

theorem hashed_covers (run : ReportedSigner env) :
    CoveredBy env run.content run.hashed ∧ DigestCovers env run.signer run.hashed := by
  obtain ⟨ctx, cert, hReaches, hFinds, -⟩ := (signerEntries_valid_iff env run.signedData _ _ _ _ _ _
    run.isSigner).mp run.valid
  have hTarget := reaches_target hReaches
  obtain ⟨-, _, innerMessage, _, _, -, hInner, -, -, hCtx⟩ := hReaches
  have hGuard := hFinds.guard
  rw [hTarget] at hGuard
  obtain ⟨covered, hCovered, hDigest⟩ := finds_digest hFinds (precheckSigner_detached hGuard)
  rw [hTarget, hCtx] at hCovered
  unfold hashed hashedContent
  split
  next hPassed =>
    exact ⟨.slice, digestCovers_iff.mpr (passed_iff.mp hPassed)⟩
  next hMissed =>
    cases hCovered with
    | content =>
        rw [digestCovers_iff, ← passed_iff] at hDigest
        exact absurd hDigest hMissed
    | normalized =>
        rw [show env.parseMessage run.content = some innerMessage from hInner]
        exact ⟨.normalized innerMessage hInner, hDigest⟩

/-- A signed part between line breaks has its part in the file. -/
theorem hasPart_of_lines {run : ReportedSigner env} {before part behind : Octets} {octet : UInt8}
    (hFile : run.file = before ++ 10 :: (part ++ octet :: behind)) (hAscii : octet.toNat < 0x80)
    (hRange : getRange (fromUtf8Lossy run.file) ((fromUtf8Lossy before).length + 1)
      ((fromUtf8Lossy before).length + 1 + (fromUtf8Lossy part).length) = some run.content) :
    run.HasPart part := by
  have hText : fromUtf8Lossy run.file = (fromUtf8Lossy before ++ [10]) ++ fromUtf8Lossy part ++
      octet :: fromUtf8Lossy behind := by
    rw [hFile, Utf8.fromUtf8Lossy_append_ascii (by decide), Utf8.fromUtf8Lossy_append_ascii hAscii]
    simp
  have hStart : (fromUtf8Lossy before).length + 1 = (fromUtf8Lossy before ++ [10]).length := by
    simp
  constructor
  · rw [hFile, List.append_cons, ← List.append_assoc]
    exact List.infix_append _ _ _
  · unfold getRange at hRange
    split at hRange
    · rw [hText, hStart, ← List.length_append, List.take_left, List.drop_left] at hRange
      exact Option.some.inj hRange
    · cases hRange

/-- The part of the file has the digest where nothing in it is replaced, or by a
collision. -/
theorem coveredBy_hashed_iff {run : ReportedSigner env} {part : Octets} (h : run.HasPart part) :
    CoveredBy env part run.hashed ↔ WellFormed part := by
  obtain ⟨hCovered, -⟩ := run.hashed_covers
  have hContent : WellFormed run.content := by
    rw [← h.2]
    exact Utf8.wellFormed_lossyFrom part Utf8.begun_nil
  constructor
  · intro hPart
    rw [← hPart.wellFormed_iff, hCovered.wellFormed_iff]
    exact hContent
  · intro hPart
    rw [← h.2, Utf8.fromUtf8Lossy_eq_self_iff.mpr hPart] at hCovered
    exact hCovered

/-- What was hashed stands in the file when nothing in the signed part is replaced, or
somewhere else. -/
theorem standsIn_hashed_iff {run : ReportedSigner env} :
    StandsIn env run.file run.hashed ↔
      run.KeepsPart ∨ (¬ run.KeepsPart ∧ StandsIn env run.file run.hashed) := by
  constructor
  · intro hStands
    by_cases hKeeps : run.KeepsPart
    · exact .inl hKeeps
    · exact .inr ⟨hKeeps, hStands⟩
  · rintro (⟨part, hPart, hWell⟩ | ⟨-, hStands⟩)
    · exact ⟨part, hPart.1, (coveredBy_hashed_iff hPart).mpr hWell⟩
    · exact hStands

/-- In well-formed UTF-8 nothing is replaced. -/
theorem standsIn_hashed {run : ReportedSigner env} (h : WellFormed run.file) :
    StandsIn env run.file run.hashed := by
  have hContent := carriesSignedData_content run.carries
  rw [Utf8.fromUtf8Lossy_eq_self_iff.mpr h] at hContent
  exact ⟨run.content, hContent, run.hashed_covers.1⟩

end ReportedSigner

/-- Every valid entry of a clear-signed message is that of a reported signer. Its
digest is of octets of the file exactly when the signed part of the file is
well-formed UTF-8, or what was hashed stands elsewhere in the file or collides with
something that does; it is of the signed part exactly when that is well-formed UTF-8
or collides. Two such parts under one signer are the same up to the normalization,
or collide. -/
theorem matchesFile_iff (env : Externals) :
    (∀ (fs : FileSystem) (target : Target) (args : VerifyArgs) (result : SmimeValidationResult)
        (file content : Octets) (message : Message) (signedData : SignedData)
        (entry : SignerValidation),
        runVerify env fs target args = .ok result → fs.read args.file = .ok file →
          CarriesSignedData env target (fromUtf8Lossy file) message signedData
            (.detached content) →
          entry ∈ result.signers → entry.signatureValid = true →
            ∃ run : ReportedSigner env, run.result = result ∧ run.file = file ∧
              run.content = content ∧ run.signer ∈ signedData.signerInfos) ∧
      ∀ run : ReportedSigner env,
        (MatchesOneOf env run.signer (StandsIn env run.file) ↔
            run.KeepsPart ∨ (¬ run.KeepsPart ∧ StandsIn env run.file run.hashed) ∨
              CollidesWithOneOf env run.signer (StandsIn env run.file) run.hashed) ∧
          (∀ part : Octets, run.HasPart part →
            (MatchesOneOf env run.signer (CoveredBy env part) ↔
              WellFormed part ∨
                CollidesWithOneOf env run.signer (CoveredBy env part) run.hashed)) ∧
          (∀ (before part behind : Octets) (octet : UInt8),
            run.file = before ++ 10 :: (part ++ octet :: behind) → octet.toNat < 0x80 →
              getRange (fromUtf8Lossy run.file) ((fromUtf8Lossy before).length + 1)
                  ((fromUtf8Lossy before).length + 1 + (fromUtf8Lossy part).length) =
                some run.content →
              run.HasPart part) ∧
          (WellFormed run.file → MatchesOneOf env run.signer (StandsIn env run.file)) ∧
            ∀ (other : ReportedSigner env) (part otherPart : Octets), other.signer = run.signer →
              run.HasPart part → other.HasPart otherPart → WellFormed part →
                WellFormed otherPart → AgreesOrCollides env run.signer part otherPart := by
  constructor
  · intro fs target args result file content message signedData entry hRan hRead hCarries
    exact ReportedSigner.exists_of_mem hRan hRead hCarries
  · intro run
    obtain ⟨-, hDigest⟩ := run.hashed_covers
    refine ⟨?_, fun part hPart => ?_, fun _ _ _ _ => ReportedSigner.hasPart_of_lines,
      fun hFile => ?_, ?_⟩
    · rw [matchesOneOf_iff hDigest, ← or_assoc]
      exact or_congr_left ReportedSigner.standsIn_hashed_iff
    · rw [matchesOneOf_iff hDigest, ReportedSigner.coveredBy_hashed_iff hPart]
    · exact ⟨run.hashed, ReportedSigner.standsIn_hashed hFile, hDigest⟩
    · intro other part otherPart hSigner hPart hOther hWell hOtherWell
      obtain ⟨-, hOtherDigest⟩ := other.hashed_covers
      rw [hSigner] at hOtherDigest
      exact ⟨run.hashed, other.hashed, (ReportedSigner.coveredBy_hashed_iff hPart).mpr hWell,
        (ReportedSigner.coveredBy_hashed_iff hOther).mpr hOtherWell,
        (digestCovers_iff_of_covers hOtherDigest).mp hDigest⟩

end Runs

section Samples

/-! Two files in ISO 8859-1 that differ in one octet of the signed part, and the text
that both are converted to. -/

def isoType : ContentType := ⟨"text", some "plain", [("charset", "iso-8859-1")]⟩

def isoBody (letter : Octets) : Octets := ascii "P" ++ letter ++ ascii "rnu\r\n"

def isoPart (letter : Octets) : Octets :=
  ascii "Content-Type: text/plain; charset=iso-8859-1\r\n\r\n" ++ isoBody letter

def isoAt (letter : Octets) (offset : Nat) : Entity :=
  .leaf (entityAt offset isoType (isoBody letter) (isoPart letter)) (isoPart letter)

/-- The SHA-256 digests of `isoPart`, for U+FFFD and for the two letters. -/
def replacedDigest : Octets :=
  [128, 135, 54, 101, 139, 69, 234, 20, 228, 79, 230, 158, 135, 70, 221, 205, 172, 243, 155, 123,
    236, 255, 53, 108, 48, 150, 173, 154, 210, 169, 245, 172]

def diaeresisDigest : Octets :=
  [55, 169, 158, 23, 190, 102, 21, 14, 172, 35, 223, 175, 184, 102, 226, 69, 20, 103, 243, 108, 146,
    165, 17, 49, 67, 129, 84, 7, 74, 74, 18, 195]

def ringDigest : Octets :=
  [50, 221, 4, 81, 250, 112, 251, 42, 194, 203, 210, 38, 0, 213, 101, 49, 130, 78, 193, 221, 74, 107,
    242, 135, 74, 82, 0, 157, 159, 195, 60, 62]

def isoDigest (hash : HashType) (data : Octets) : Octets :=
  if hash = .sha256 ∧ data = isoPart Utf8.replacement then replacedDigest
  else if hash = .sha256 ∧ data = isoPart [0xE4] then diaeresisDigest
  else if hash = .sha256 ∧ data = isoPart [0xE5] then ringDigest
  else []

/-- The certificate stands for `leafCert`, by its serial number. -/
def isoCms : Cms.SignedData :=
  { messageSending [contentTypeAttr, Cms.sequence [
      Cms.oid [0x2A, 0x86, 0x48, 0x86, 0xF7, 0x0D, 0x01, 0x09, 0x04],
      Cms.setOf [Cms.octetString replacedDigest]]] with
    certificates := some [Cms.sequence [integer 2]] }

def isoDer : Octets := isoCms.contentInfo.encode

def base64SignatureAt (der : Octets) (offset : Nat) : Entity :=
  let source := ascii "Content-Type: application/pkcs7-signature\r\n" ++
    ascii "Content-Transfer-Encoding: base64\r\n\r\n" ++ base64 der
  .leaf (entityAt offset ⟨"application", some "pkcs7-signature", []⟩ der source) source

def isoSigned (letter : Octets) : Entity :=
  signedAt "SEP" (isoAt letter) (base64SignatureAt isoDer) 0

def isoSigner : SignerInfo :=
  { essSigner with authenticatedAttributes := some (digestAttributes replacedDigest) }

def isoSignedData : SignedData where
  version := 1
  content := .data none
  certificates := some [.certificate leafCert]
  crls := none
  signerInfos := [isoSigner]

def isoMessages (eml : Octets) : Option Message :=
  if eml = (isoSigned Utf8.replacement).source then some (messageOf (isoSigned Utf8.replacement))
  else if eml = isoPart Utf8.replacement then
    some (singlePart isoType none (isoBody Utf8.replacement) eml)
  else none

def isoExternals : Externals :=
  { essExternals with
    parseContentInfo := fun der =>
      if der = isoDer then .ok (.signedData isoSignedData) else unanswered
    parseMessage := isoMessages
    parseOctetString := fun der =>
      if der = tlv [0x04] replacedDigest then .ok replacedDigest else unanswered
    digest := isoDigest }

def isoFiles (letter : Octets) : FileSystem where
  read _ := .ok (isoSigned letter).source
  write _ _ := unanswered
  debugPath path := path

def isoArgs : VerifyArgs := { file := "message.eml", trust := { debugAnchor := true } }

def isoTrust : TrustConfig := ⟨[.builtin, .debug], none⟩

theorem iso_carries : CarriesSignedData isoExternals .native64
    (isoSigned Utf8.replacement).source (messageOf (isoSigned Utf8.replacement)) isoSignedData
    (.detached (isoPart Utf8.replacement)) := by
  have hMessage : isoExternals.parseMessage (isoSigned Utf8.replacement).source =
      some (messageOf (isoSigned Utf8.replacement)) := by
    rw [show isoExternals.parseMessage = isoMessages from rfl, isoMessages, if_pos rfl]
  have hInput : clearSignedInput isoExternals .native64
      (messageOf (isoSigned Utf8.replacement)) (isoSigned Utf8.replacement).source =
        .ok (isoPart Utf8.replacement, isoSignedData) := by
    decide +kernel
  refine ⟨hMessage, _, rfl, by decide +kernel, .inl ⟨by decide +kernel, _, hInput, rfl⟩⟩

theorem iso_valid : ∃ entry ∈ (signerEntries isoExternals isoSignedData
    (.detached (isoPart Utf8.replacement)) isoTrust.stores isoTrust.caFilePem none none
    { signingSystem := .multipartSignedSmime }).getD 0 [], entry.signatureValid = true := by
  have hValid : ((signerEntries isoExternals isoSignedData
      (.detached (isoPart Utf8.replacement)) isoTrust.stores isoTrust.caFilePem none none
      { signingSystem := .multipartSignedSmime }).getD 0 []).map SignerValidation.signatureValid =
        [true] := by
    decide +kernel
  have hMem := List.mem_singleton_self true
  rw [← hValid] at hMem
  obtain ⟨entry, hEntry, hTrue⟩ := List.mem_map.mp hMem
  exact ⟨entry, hEntry, hTrue⟩

/-- The run on a file whose letter is converted to U+FFFD. -/
def isoRun (letter : Octets)
    (converted : fromUtf8Lossy (isoSigned letter).source = (isoSigned Utf8.replacement).source) :
    ReportedSigner isoExternals where
  fs := isoFiles letter
  target := .native64
  args := isoArgs
  result := verifySmimeFromEmlDetailed isoExternals .native64
    (fromUtf8Lossy (isoSigned letter).source) isoTrust
  ran := runVerify_of_read rfl rfl rfl
  trust := isoTrust
  trusted := rfl
  file := (isoSigned letter).source
  read := rfl
  message := messageOf (isoSigned Utf8.replacement)
  signedData := isoSignedData
  content := isoPart Utf8.replacement
  carries := by
    rw [converted]
    exact iso_carries
  idx := 0
  signer := isoSigner
  isSigner := rfl
  valid := iso_valid

theorem replacement_converted : fromUtf8Lossy (isoSigned Utf8.replacement).source =
    (isoSigned Utf8.replacement).source := by decide +kernel

theorem diaeresis_converted : fromUtf8Lossy (isoSigned [0xE4]).source =
    (isoSigned Utf8.replacement).source := by decide +kernel

theorem ring_converted : fromUtf8Lossy (isoSigned [0xE5]).source =
    (isoSigned Utf8.replacement).source := by decide +kernel

theorem isoPart_isInfix (letter : Octets) : isoPart letter <:+: (isoSigned letter).source := by
  rw [isoSigned, signedAt, Entity.source]
  iterate 4 refine List.IsInfix.trans ?_ (List.prefix_append _ _).isInfix
  exact List.infix_append _ _ _

theorem iso_hasPart {letter : Octets} {converted}
    (h : fromUtf8Lossy (isoPart letter) = isoPart Utf8.replacement) :
    (isoRun letter converted).HasPart (isoPart letter) :=
  ⟨isoPart_isInfix letter, h⟩

theorem isDigest_iso {content digest : Octets}
    (h : IsDigest isoExternals isoSigner.digestAlgorithm content digest) :
    isoDigest .sha256 content = digest := by
  obtain ⟨hash, hHash, -, hDigest⟩ := h
  have hSha256 : isoExternals.hashOidToHashType isoSigner.digestAlgorithm.oid =
      .ok .sha256 := by
    decide
  obtain rfl : HashType.sha256 = hash := Except.ok.inj (hSha256.symm.trans hHash)
  exact hDigest

theorem isoPart_of_digest {data : Octets} (h : isoDigest .sha256 data = replacedDigest) :
    data = isoPart Utf8.replacement := by
  unfold isoDigest at h
  split at h
  next hReplaced => exact hReplaced.2
  next =>
    split at h
    · exact absurd h (by decide)
    · split at h
      · exact absurd h (by decide)
      · exact absurd h (by decide)

theorem not_matches_diaeresis :
    ¬ MatchesOneOf isoExternals isoSigner (StandsIn isoExternals (isoSigned [0xE4]).source) := by
  have hHashed : hashedContent isoExternals isoSigner (isoPart Utf8.replacement) =
      isoPart Utf8.replacement := by
    decide +kernel
  have hDigest := (isoRun _ diaeresis_converted).hashed_covers.2
  rw [ReportedSigner.hashed, show (isoRun _ diaeresis_converted).signer = isoSigner from rfl,
    show (isoRun _ diaeresis_converted).content = isoPart Utf8.replacement from rfl,
    hHashed] at hDigest
  rw [matchesOneOf_iff hDigest]
  rintro (⟨slice, hSlice, hCovered⟩ | ⟨content, -, hOther, digest, hContent, hReplaced⟩)
  · -- The file has no octet 0xEF, and the normalization inserts none.
    have hMarked : (0xEF : UInt8) ∈ isoPart Utf8.replacement := by decide
    rcases hCovered.mem hMarked with hMem | hMem
    · exact absurd (hSlice.subset hMem) (by decide +kernel)
    · exact absurd hMem (by decide)
  · have hSame : isoDigest .sha256 content = replacedDigest := by
      rw [isDigest_iso hContent, ← isDigest_iso hReplaced]
      exact if_pos ⟨rfl, rfl⟩
    exact hOther (isoPart_of_digest hSame)

theorem coveredBy_isoPart {letter covered : Octets} (h : isoMessages (isoPart letter) = none)
    (hCovered : CoveredBy isoExternals (isoPart letter) covered) : covered = isoPart letter := by
  cases hCovered with
  | slice => rfl
  | normalized innerMessage parsed =>
      rw [show isoExternals.parseMessage = isoMessages from rfl, h] at parsed
      cases parsed

/-- A signature is reported as valid that no octets of the file have the digest of,
and another file with another letter passes with the same SignerInfo. -/
theorem not_matchesFile :
    (¬ ∀ (env : Externals) (run : ReportedSigner env),
        MatchesOneOf env run.signer (StandsIn env run.file)) ∧
      ¬ ∀ (env : Externals) (run other : ReportedSigner env) (part otherPart : Octets),
        other.signer = run.signer → run.HasPart part → other.HasPart otherPart →
          AgreesOrCollides env run.signer part otherPart := by
  constructor
  · exact fun h => not_matches_diaeresis (h isoExternals (isoRun _ diaeresis_converted))
  · intro h
    obtain ⟨covered, otherCovered, hCovered, hOther, hSame | ⟨-, digest, hDigest, hOtherDigest⟩⟩ :=
      h isoExternals (isoRun _ diaeresis_converted) (isoRun _ ring_converted)
        (isoPart [0xE4]) (isoPart [0xE5]) rfl (iso_hasPart (by decide +kernel))
        (iso_hasPart (by decide +kernel))
    · rw [coveredBy_isoPart (by decide +kernel) hCovered,
        coveredBy_isoPart (by decide +kernel) hOther] at hSame
      exact absurd hSame (by decide)
    · have hDigests := (isDigest_iso hDigest).trans (isDigest_iso hOtherDigest).symm
      rw [coveredBy_isoPart (by decide +kernel) hCovered,
        coveredBy_isoPart (by decide +kernel) hOther] at hDigests
      exact absurd hDigests (by decide +kernel)

/-- The text itself is a file in UTF-8. -/
theorem matchesFile_iff_utf8 :
    MatchesOneOf isoExternals isoSigner
        (StandsIn isoExternals (isoSigned Utf8.replacement).source) ∧
      MatchesOneOf isoExternals isoSigner
        (CoveredBy isoExternals (isoPart Utf8.replacement)) := by
  obtain ⟨-, hPart, -, hFile, -⟩ :=
    (matchesFile_iff isoExternals).2 (isoRun _ replacement_converted)
  exact ⟨hFile (by decide +kernel),
    (hPart _ (iso_hasPart (by decide +kernel))).mpr (.inl (by decide +kernel))⟩

end Samples

end Smime
