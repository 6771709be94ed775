import Smime.SenderResolution
import Smime.VerifyFrame

/-! What of a verification depends on the sender and date that it is given: those
of the result until a signer certifies the sender, and notes about dates that
lie apart. -/
namespace Smime

open X690 (Octets)
open X509 Mail Utils

variable {env : Externals}

section Frame

/-- The result with the signers, sender and date of another one. -/
def SmimeValidationResult.reheaded (result other : SmimeValidationResult) :
    SmimeValidationResult :=
  { other.withHeaders result with signers := other.signers }

/-- A result is the same with other headers and signers when these are the same. -/
theorem eq_iff_of_reheaded {result other : SmimeValidationResult}
    (h : other = result.reheaded other) :
    other = result ↔ other.signers = result.signers ∧ SameHeaders other result := by
  constructor
  · rintro rfl
    exact ⟨rfl, .refl _⟩
  · rintro ⟨hSigners, hFrom, hComment, hDate⟩
    rw [h, SmimeValidationResult.reheaded, SmimeValidationResult.withHeaders, hSigners, hFrom,
      hComment, hDate]

/-- The context with another outer date. -/
def VerifyContext.withDate (ctx : VerifyContext env) (outerDate : Option Instant) :
    VerifyContext env :=
  { ctx with outerDate }

variable (ctx : VerifyContext env) (other : SmimeValidationResult)

theorem verifyCandidate_reheaded (target : SignedTarget) (pk : AnyPublicKey) (signer : SignerInfo)
    (hasSignedAttrs : Bool) (innerMessage : Message) (checks : SignatureChecks)
    (result : SmimeValidationResult) :
    let run := target.verifyCandidate env pk signer hasSignedAttrs innerMessage checks result
    target.verifyCandidate env pk signer hasSignedAttrs innerMessage checks
        (result.reheaded other) =
      { run with result := run.result.reheaded other } := by
  cases target with
  | econtent content => rfl
  | detached content =>
      unfold SignedTarget.verifyCandidate SignedTarget.verifyDetachedCandidate
      dsimp only
      split
      · rfl
      · split <;> rfl

/-- Neither what is found for a signer nor what is recorded on the way depends
on the sender or the outer date. -/
theorem findLeaf_reheaded (outerDate : Option Instant) (signer : SignerInfo)
    (hasSignedAttrs : Bool) (idx : Nat) (candidates : List Certificate)
    (result : SmimeValidationResult) :
    let found := findLeaf ctx signer hasSignedAttrs idx candidates result
    findLeaf (ctx.withDate outerDate) signer hasSignedAttrs idx candidates
        (result.reheaded other) =
      (found.1.reheaded other, found.2) := by
  have hTarget : (ctx.withDate outerDate).target = ctx.target := rfl
  have hInner : (ctx.withDate outerDate).innerMessage = ctx.innerMessage := rfl
  induction candidates generalizing result with
  | nil => rfl
  | cons candidate rest ih =>
      unfold findLeaf
      cases publicKey env candidate with
      | error e => exact ih (result.push (.chainValidation (fingerprintOrError env candidate) idx e))
      | ok pk =>
          have hRun := @verifyCandidate_reheaded env other ctx.target pk signer hasSignedAttrs
            ctx.innerMessage {} result
          dsimp only at hRun ⊢
          rw [hTarget, hInner, hRun]
          dsimp only
          split
          · rfl
          · exact ih _

end Frame

section Notes

/-- The note about a signing time that is apart from the outer date. -/
def signingTimeNote (env : Externals) (signingTime outerDate : Option Instant) :
    Option SmimeError :=
  checkDateMismatch env signingTime outerDate
    "The time difference between the signing time and outer date header is larger than one hour"

/-- The note about an inner date that is apart from the outer one. -/
def innerDateNote (env : Externals) (outerDate innerDate : Option Instant) : Option SmimeError :=
  checkDateMismatch env outerDate innerDate
    "The time difference between the outer date and the inner date is larger than one hour"

def innerDate (ctx : VerifyContext env) : Option Instant :=
  ctx.innerMessage.date.bind (mailParserDateToChrono env)

def SignerValidation.withNotes (notes : List SmimeError) (entry : SignerValidation) :
    SignerValidation :=
  { entry with validationDetails := { entry.validationDetails with otherNotes := notes } }

def signingTimeNotes (env : Externals) (outerDate : Option Instant) (idx : Nat)
    (signer : SignerInfo) : List SmimeError :=
  (signingTimeNote env (scanAttributes env signer idx).signingTime outerDate).toList

theorem prepareSigner_signingTime {signer : SignerInfo} {certs candidates : List Certificate}
    {idx : Nat} {signingTime : Option Instant}
    (h : (prepareSigner env signer certs idx).2 = some (signingTime, candidates)) :
    signingTime = (scanAttributes env signer idx).signingTime := by
  unfold prepareSigner at h
  cases hAlgorithms : checkAlgorithms env signer idx with
  | error err =>
      rw [hAlgorithms] at h
      cases h
  | ok warnings =>
      rw [hAlgorithms] at h
      dsimp only at h
      split at h
      · cases h
      · cases h
        rfl

/-- The entry of a signer depends on the outer date in its notes only. -/
theorem verifySigner_reheaded (ctx : VerifyContext env) (other : SmimeValidationResult)
    (outerDate : Option Instant) (idx : Nat) (signer : SignerInfo)
    (result : SmimeValidationResult) :
    let step := verifySigner ctx idx signer result
    verifySigner (ctx.withDate outerDate) idx signer (result.reheaded other) =
      (step.1.reheaded other,
        step.2.map (SignerValidation.withNotes (signingTimeNotes env outerDate idx signer))) := by
  have hCerts : (ctx.withDate outerDate).certs = ctx.certs := rfl
  have hTarget : (ctx.withDate outerDate).target = ctx.target := rfl
  unfold verifySigner
  rw [hCerts, hTarget]
  rcases hPrepare : prepareSigner env signer ctx.certs idx with ⟨failures, prepared⟩
  cases prepared with
  | none => rfl
  | some prepared =>
      obtain ⟨signingTime, candidates⟩ := prepared
      obtain rfl := prepareSigner_signingTime (congrArg Prod.snd hPrepare)
      dsimp only
      cases ctx.target.precheckSigner env signer.authenticatedAttributes.isSome with
      | some err => rfl
      | none =>
          have hFound := findLeaf_reheaded ctx other outerDate signer
            signer.authenticatedAttributes.isSome idx candidates (result.extend failures)
          dsimp only at hFound ⊢
          rw [show (result.reheaded other).extend failures =
            (result.extend failures).reheaded other from rfl, hFound]
          rcases findLeaf ctx signer signer.authenticatedAttributes.isSome idx candidates
            (result.extend failures) with ⟨after, found⟩
          cases found with
          | none => rfl
          | some found => rfl

end Notes

section Resolution

variable (ctx : VerifyContext env)

/-- What the inner From does to the resolver with a valid entry. -/
def senderUpdate (entry : SignerValidation) (resolver : SenderResolver) :
    SenderResolver × Bool × List SmimeError :=
  match ctx.innerMessage.fromAddr with
  | none => (resolver, false, [])
  | some innerFrom =>
      let checks := entry.validationDetails.checks
      resolver.update env innerFrom.address innerFrom.name checks.certificateEmails
        checks.certificateNames

/-- What a valid entry does to the result. -/
def updatedResult (update : SenderResolver × Bool × List SmimeError)
    (result : SmimeValidationResult) : SmimeValidationResult :=
  if update.2.1 then
    { result with
      fromAddress := update.1.fromAddress
      fromComment := update.1.fromComment
      date := innerDate ctx }
  else result

theorem resolveSender_valid {entry : SignerValidation} {loop : SignerLoop}
    (h : entry.signatureValid = true) :
    let update := senderUpdate ctx entry loop.senderResolver
    resolveSender ctx entry loop =
      (entry.withNotes (entry.validationDetails.otherNotes ++ update.2.2 ++
          (innerDateNote env ctx.outerDate (innerDate ctx)).toList),
        { senderResolver := update.1, result := updatedResult ctx update loop.result }) := by
  unfold resolveSender senderUpdate updatedResult
  simp only [h, Bool.not_true, Bool.false_eq_true, if_false]
  cases ctx.innerMessage.fromAddr with
  | none => simp [pushNotes, SignerValidation.withNotes, innerDateNote, innerDate]
  | some innerFrom => rfl

theorem mem_localPartWarnings (innerAddr : String) (emails : List String) :
    ∀ err ∈ SenderResolver.localPartWarnings env innerAddr emails,
      ∃ addr san : String, err = .localPartCaseMismatch addr san := by
  unfold SenderResolver.localPartWarnings
  dsimp only
  split
  · split
    · split
      · simp
      · simp
    · simp
  · simp

/-- An update is one of a matched sender; without one the resolver stays. -/
theorem senderUpdate_cases (entry : SignerValidation) (resolver : SenderResolver) :
    let update := senderUpdate ctx entry resolver
    (update.2.1 = true → update.1.senderMatched = true) ∧
      (update.2.1 = false → update.1 = resolver) ∧
        ∀ err ∈ update.2.2, ∃ addr san : String, err = .localPartCaseMismatch addr san := by
  unfold senderUpdate
  cases ctx.innerMessage.fromAddr with
  | none => simp
  | some innerFrom =>
      dsimp only
      unfold SenderResolver.update
      cases innerFrom.address with
      | none => simp
      | some innerAddr =>
          dsimp only
          split
          · simp
          · exact ⟨fun _ => rfl, by simp, mem_localPartWarnings innerAddr _⟩

end Resolution

section Twins

theorem checkDateMismatch_cases (dateA dateB : Option Instant) (msg : String) :
    checkDateMismatch env dateA dateB msg = none ∨
      ∃ a b : String, checkDateMismatch env dateA dateB msg = some (.dateMismatch msg a b) := by
  unfold checkDateMismatch
  split
  · split_ifs
    · exact .inr ⟨_, _, rfl⟩
    · exact .inl rfl
  · exact .inl rfl

/-- No note about a signing time is one about the local part or an inner date. -/
theorem signingTimeNote_notMem {signingTime outerDate otherDate inner : Option Instant}
    {warnings : List SmimeError}
    (hWarnings : ∀ err ∈ warnings, ∃ addr san : String, err = .localPartCaseMismatch addr san) :
    ∀ note ∈ signingTimeNote env signingTime outerDate,
      note ∉ warnings ++ (innerDateNote env otherDate inner).toList := by
  intro note hNote hMem
  rcases @checkDateMismatch_cases env signingTime outerDate _ with hNone | ⟨a, b, hSome⟩
  · rw [signingTimeNote, hNone] at hNote
    cases hNote
  · rw [signingTimeNote, hSome] at hNote
    cases hNote
    rcases List.mem_append.mp hMem with hMem | hMem
    · obtain ⟨addr, san, hErr⟩ := hWarnings _ hMem
      cases hErr
    · rcases @checkDateMismatch_cases env otherDate inner
        "The time difference between the outer date and the inner date is larger than one hour" with
        hNone | ⟨c, d, hOther⟩
      · rw [innerDateNote, hNone] at hMem
        cases hMem
      · rw [innerDateNote, hOther] at hMem
        simp at hMem

/-- The notes of a valid entry tell both kinds apart. -/
theorem notes_eq_iff {signingTime first second inner : Option Instant} {warnings : List SmimeError}
    (hWarnings : ∀ err ∈ warnings, ∃ addr san : String, err = .localPartCaseMismatch addr san) :
    (signingTimeNote env signingTime first).toList ++ warnings ++
          (innerDateNote env first inner).toList =
        (signingTimeNote env signingTime second).toList ++ warnings ++
          (innerDateNote env second inner).toList ↔
      signingTimeNote env signingTime first = signingTimeNote env signingTime second ∧
        innerDateNote env first inner = innerDateNote env second inner := by
  have hFirst := @signingTimeNote_notMem env signingTime first second inner warnings hWarnings
  have hSecond := @signingTimeNote_notMem env signingTime second first inner warnings hWarnings
  constructor
  · intro h
    rw [List.append_assoc, List.append_assoc] at h
    have hInner : ∀ notes others : Option SmimeError,
        warnings ++ notes.toList = warnings ++ others.toList → notes = others := by
      intro notes others hSame
      have hHead := congrArg List.head? (List.append_cancel_left hSame)
      rwa [Option.head?_toList, Option.head?_toList] at hHead
    cases hNote : signingTimeNote env signingTime first with
    | none =>
        rw [hNote] at h
        cases hOther : signingTimeNote env signingTime second with
        | none =>
            rw [hOther] at h
            exact ⟨rfl, hInner _ _ h⟩
        | some other =>
            rw [hOther] at h
            refine absurd ?_ (hSecond other hOther)
            rw [show warnings ++ (innerDateNote env first inner).toList = _ from h]
            exact List.mem_cons_self
    | some note =>
        rw [hNote] at h
        cases hOther : signingTimeNote env signingTime second with
        | none =>
            rw [hOther] at h
            refine absurd ?_ (hFirst note hNote)
            rw [← show _ = warnings ++ (innerDateNote env second inner).toList from h]
            exact List.mem_cons_self
        | some other =>
            rw [hOther] at h
            obtain ⟨rfl, hRest⟩ := List.cons.inj h
            exact ⟨rfl, hInner _ _ hRest⟩
  · rintro ⟨hTime, hInner⟩
    rw [hTime, hInner]

/-- The signer has the same notes with another outer date. -/
structure NotesAgree (ctx : VerifyContext env) (other : Option Instant) (idx : Nat)
    (signer : SignerInfo) : Prop where
  signingTime : ∀ cert : Certificate, Finds ctx idx signer cert →
    signingTimeNote env (scanAttributes env signer idx).signingTime ctx.outerDate =
      signingTimeNote env (scanAttributes env signer idx).signingTime other
  inner : ∀ cert : Certificate, Accepts ctx idx signer cert →
    innerDateNote env ctx.outerDate (innerDate ctx) = innerDateNote env other (innerDate ctx)

/-- Two runs of the loop, from the senders and dates of `first` and `second`.
These are apart until a sender is matched, and the signers are the same if `same`. -/
structure Twins (first second : SmimeValidationResult) (same : Prop) (loop twin : SignerLoop) :
    Prop where
  resolver : twin.senderResolver = loop.senderResolver
  result : twin.result = loop.result.reheaded twin.result
  matched : loop.senderResolver.senderMatched = true → SameHeaders twin.result loop.result
  unmatched : loop.senderResolver.senderMatched = false →
    SameHeaders loop.result first ∧ SameHeaders twin.result second
  signers : twin.result.signers = loop.result.signers ↔ same

variable {ctx : VerifyContext env} {second : Option Instant} {same : Prop} {loop twin : SignerLoop}
  {before after : SmimeValidationResult}

theorem verifySigner_notes {idx : Nat} {signer : SignerInfo} {result : SmimeValidationResult}
    {entry : SignerValidation} (h : (verifySigner ctx idx signer result).2 = some entry) :
    entry.validationDetails.otherNotes = signingTimeNotes env ctx.outerDate idx signer := by
  have hSelf := congrArg Prod.snd
    (verifySigner_reheaded ctx result ctx.outerDate idx signer result)
  have hEntry : some entry =
      some (entry.withNotes (signingTimeNotes env ctx.outerDate idx signer)) := by
    rw [← h]
    refine hSelf.trans ?_
    rw [h]
    rfl
  rw [Option.some.inj hEntry]
  rfl

namespace Twins

/-- What is recorded of a signer goes to both. -/
theorem record (h : Twins before after same loop twin) {result : SmimeValidationResult}
    (hRecords : OnlyRecords loop.result result) :
    Twins before after same { loop with result }
      { twin with result := result.reheaded twin.result } := by
  obtain ⟨failures, content, rfl⟩ := hRecords
  refine ⟨h.resolver, rfl, fun hMatched => ?_, fun hFree => ?_, h.signers⟩
  · obtain ⟨hFrom, hComment, hDate⟩ := h.matched hMatched
    exact ⟨hFrom, hComment, hDate⟩
  · obtain ⟨⟨hFrom, hComment, hDate⟩, hOther⟩ := h.unmatched hFree
    exact ⟨⟨hFrom, hComment, hDate⟩, ⟨hOther.fromAddress, hOther.fromComment, hOther.date⟩⟩

/-- A valid entry does the same to both. -/
theorem resolve (h : Twins before after same loop twin) (ctx : VerifyContext env)
    (second : Option Instant) (entry : SignerValidation) (notes : List SmimeError) :
    Twins before after same (resolveSender ctx entry loop).2
      (resolveSender (ctx.withDate second) (entry.withNotes notes) twin).2 := by
  cases hValid : entry.signatureValid with
  | false =>
      rw [resolveSender_of_not_valid hValid, resolveSender_of_not_valid (by exact hValid)]
      exact h
  | true =>
      have hNotes : (entry.withNotes notes).signatureValid = true := hValid
      obtain ⟨hMatched, hKept, -⟩ := senderUpdate_cases ctx entry loop.senderResolver
      have hUpdate : senderUpdate (ctx.withDate second) (entry.withNotes notes)
          twin.senderResolver = senderUpdate ctx entry loop.senderResolver := by
        rw [h.resolver]
        rfl
      rw [resolveSender_valid ctx hValid, resolveSender_valid (ctx.withDate second) hNotes]
      dsimp only
      rw [hUpdate]
      cases hUpdated : (senderUpdate ctx entry loop.senderResolver).2.1 with
      | false =>
          simp only [hKept hUpdated, updatedResult, hUpdated, Bool.false_eq_true, if_false]
          exact ⟨rfl, h.result, h.matched, h.unmatched, h.signers⟩
      | true =>
          simp only [updatedResult, hUpdated, if_true]
          refine ⟨rfl, ?_, fun _ => ⟨rfl, rfl, rfl⟩, fun hFree => ?_, h.signers⟩
          · exact congrArg (fun result : SmimeValidationResult =>
              { result with
                fromAddress := (senderUpdate ctx entry loop.senderResolver).1.fromAddress
                fromComment := (senderUpdate ctx entry loop.senderResolver).1.fromComment
                date := innerDate ctx }) h.result
          · rw [hMatched hUpdated] at hFree
            cases hFree

/-- Both push an entry, the same one or not. -/
theorem push (h : Twins before after same loop twin) {entry other : SignerValidation}
    {alike : Prop} (hAlike : other = entry ↔ alike) :
    Twins before after (same ∧ alike)
      { loop with result := { loop.result with signers := loop.result.signers ++ [entry] } }
      { twin with result := { twin.result with signers := twin.result.signers ++ [other] } } := by
  refine ⟨h.resolver, ?_, fun hMatched => ?_, fun hFree => ?_, ?_⟩
  · exact congrArg (fun result : SmimeValidationResult =>
      { result with signers := twin.result.signers ++ [other] }) h.result
  · obtain ⟨hFrom, hComment, hDate⟩ := h.matched hMatched
    exact ⟨hFrom, hComment, hDate⟩
  · obtain ⟨hLoop, hTwin⟩ := h.unmatched hFree
    exact ⟨⟨hLoop.fromAddress, hLoop.fromComment, hLoop.date⟩,
      ⟨hTwin.fromAddress, hTwin.fromComment, hTwin.date⟩⟩
  · rw [← h.signers, ← hAlike]
    constructor
    · intro hSigners
      obtain ⟨hBefore, hLast⟩ := List.append_inj' hSigners rfl
      exact ⟨hBefore, (List.cons.inj hLast).1⟩
    · rintro ⟨hBefore, hLast⟩
      rw [hBefore, hLast]

theorem congr {other : Prop} (h : Twins before after same loop twin)
    (hIff : same ↔ other) : Twins before after other loop twin :=
  ⟨h.resolver, h.result, h.matched, h.unmatched, h.signers.trans hIff⟩

end Twins

theorem withNotes_inj {entry : SignerValidation} {notes others : List SmimeError} :
    entry.withNotes notes = entry.withNotes others ↔ notes = others := by
  constructor
  · intro h
    exact congrArg (fun entry => entry.validationDetails.otherNotes) h
  · intro h
    rw [h]

theorem signingTimeNotes_inj {first : Option Instant} {idx : Nat} {signer : SignerInfo} :
    signingTimeNotes env second idx signer = signingTimeNotes env first idx signer ↔
      signingTimeNote env (scanAttributes env signer idx).signingTime first =
        signingTimeNote env (scanAttributes env signer idx).signingTime second := by
  unfold signingTimeNotes
  constructor
  · intro h
    have hHead := congrArg List.head? h
    rw [Option.head?_toList, Option.head?_toList] at hHead
    exact hHead.symm
  · intro h
    rw [h]

theorem notesAgree_of_finds {idx : Nat} {signer : SignerInfo} {cert : Certificate}
    (hFinds : Finds ctx idx signer cert) :
    NotesAgree ctx second idx signer ↔
      signingTimeNote env (scanAttributes env signer idx).signingTime ctx.outerDate =
          signingTimeNote env (scanAttributes env signer idx).signingTime second ∧
        (ChainTrusted ctx cert →
          innerDateNote env ctx.outerDate (innerDate ctx) =
            innerDateNote env second (innerDate ctx)) := by
  constructor
  · intro h
    exact ⟨h.signingTime cert hFinds, fun hTrusted => h.inner cert ⟨hFinds, hTrusted⟩⟩
  · rintro ⟨hTime, hInner⟩
    refine ⟨fun _ _ => hTime, fun other hAccepts => ?_⟩
    have hSame := firstVerifying_unique hFinds.first hAccepts.1.first
    exact hInner (hSame ▸ hAccepts.2)

/-- The entries of the two runs are the same when their notes are. -/
theorem resolveSender_alike {idx : Nat} {signer : SignerInfo} {cert : Certificate}
    {entry : SignerValidation} (hResolver : twin.senderResolver = loop.senderResolver)
    (hFinds : Finds ctx idx signer cert)
    (hValid : entry.signatureValid = true ↔ ChainTrusted ctx cert)
    (hNotes : entry.validationDetails.otherNotes = signingTimeNotes env ctx.outerDate idx signer) :
    (resolveSender (ctx.withDate second)
        (entry.withNotes (signingTimeNotes env second idx signer)) twin).1 =
        (resolveSender ctx entry loop).1 ↔
      NotesAgree ctx second idx signer := by
  rw [notesAgree_of_finds hFinds, ← hValid]
  have hOwn : entry = entry.withNotes (signingTimeNotes env ctx.outerDate idx signer) := by
    rw [← hNotes]
    rfl
  cases hJudged : entry.signatureValid with
  | false =>
      rw [resolveSender_of_not_valid hJudged, resolveSender_of_not_valid (by exact hJudged)]
      dsimp only
      nth_rewrite 2 [hOwn]
      rw [withNotes_inj, signingTimeNotes_inj]
      simp
  | true =>
      have hOther : (entry.withNotes (signingTimeNotes env second idx signer)).signatureValid =
          true := hJudged
      obtain ⟨-, -, hWarnings⟩ := senderUpdate_cases ctx entry loop.senderResolver
      rw [resolveSender_valid ctx hJudged, resolveSender_valid (ctx.withDate second) hOther,
        hResolver, hNotes]
      show entry.withNotes _ = entry.withNotes _ ↔ _
      rw [withNotes_inj, eq_comm]
      rw [forall_prop_of_true rfl]
      exact notes_eq_iff hWarnings

/-- One iteration keeps two runs twins. -/
theorem signerStep_twins (h : Twins before after same loop twin) (ctx : VerifyContext env)
    (second : Option Instant) (idx : Nat) (signer : SignerInfo) :
    Twins before after (same ∧ NotesAgree ctx second idx signer)
      (signerStep ctx loop (idx, signer)) (signerStep (ctx.withDate second) twin (idx, signer)) := by
  obtain ⟨hRecords, hCases⟩ := verifySigner_cases ctx idx signer loop.result
  have hTwin := verifySigner_reheaded ctx twin.result second idx signer loop.result
  have hNotes := @verifySigner_notes env ctx idx signer loop.result
  rw [← h.result] at hTwin
  rcases hVerify : verifySigner ctx idx signer loop.result with ⟨after, found⟩
  rw [hVerify] at hRecords hCases hTwin hNotes
  have hAfter := h.record hRecords
  unfold signerStep
  rw [hVerify, hTwin]
  rcases hCases with ⟨rfl, hNone⟩ | ⟨cert, entry, rfl, hFinds, -, hValid⟩
  · apply hAfter.congr
    exact (and_iff_left ⟨fun cert hFinds => absurd hFinds (hNone cert),
      fun cert hAccepts => absurd hAccepts.1 (hNone cert)⟩).symm
  · have hResolved := hAfter.resolve ctx second entry (signingTimeNotes env second idx signer)
    exact hResolved.push (resolveSender_alike h.resolver hFinds hValid (hNotes rfl))

theorem foldl_signerStep_twins (h : Twins before after same loop twin) (ctx : VerifyContext env)
    (second : Option Instant) (signers : List (Nat × SignerInfo)) :
    Twins before after
      (same ∧ ∀ signer ∈ signers, NotesAgree ctx second signer.1 signer.2)
      (signers.foldl (signerStep ctx) loop) (signers.foldl (signerStep (ctx.withDate second)) twin) := by
  induction signers generalizing same loop twin with
  | nil => exact h.congr (by simp)
  | cons signer rest ih =>
      have hStep := signerStep_twins h ctx second signer.1 signer.2
      exact (ih hStep).congr (by simp [and_assoc])

end Twins

section Verification

variable {signedData : SignedData} {target : SignedTarget} {trust : TrustConfig}

/-- With either date the verification shows the same: a signer certifies the
sender, and none has other notes. -/
def HidesDate (env : Externals) (signedData : SignedData) (target : SignedTarget)
    (trust : TrustConfig) (first second : Option Instant) : Prop :=
  ∃ ctx : VerifyContext env, Reaches signedData target trust.stores trust.caFilePem first ctx ∧
    (∃ (idx : Nat) (signer : SignerInfo), signedData.signerInfos[idx]? = some signer ∧
      CertifiesSender ctx idx signer) ∧
    ∀ (idx : Nat) (signer : SignerInfo), signedData.signerInfos[idx]? = some signer →
      NotesAgree ctx second idx signer

theorem reaches_outerDate {outerDate : Option Instant} {ctx : VerifyContext env}
    (h : Reaches signedData target trust.stores trust.caFilePem outerDate ctx) :
    ctx.outerDate = outerDate := by
  obtain ⟨-, caCerts, innerMessage, builder, verifier, -, -, -, -, rfl⟩ := h
  rfl

/-- No signer has other notes with the outer date `second`. -/
def NotesKept (env : Externals) (signedData : SignedData) (target : SignedTarget)
    (trust : TrustConfig) (first second : Option Instant) : Prop :=
  ∀ ctx : VerifyContext env, Reaches signedData target trust.stores trust.caFilePem first ctx →
    ∀ (idx : Nat) (signer : SignerInfo), signedData.signerInfos[idx]? = some signer →
      NotesAgree ctx second idx signer

/-- A signer of the verification certifies the inner From. -/
def IsResolved (env : Externals) (signedData : SignedData) (target : SignedTarget)
    (trust : TrustConfig) (outerDate : Option Instant) : Prop :=
  ∃ address : String,
    ResolvesTo env signedData target trust.stores trust.caFilePem outerDate address

theorem isResolved_iff {outerDate : Option Instant} {ctx : VerifyContext env}
    (hCtx : Reaches signedData target trust.stores trust.caFilePem outerDate ctx) :
    IsResolved env signedData target trust outerDate ↔
      ∃ signer ∈ indexed ctx.signers, CertifiesSender ctx signer.1 signer.2 := by
  constructor
  · rintro ⟨address, other, hOther, -, idx, signer, hSigner, hCertifies⟩
    obtain rfl := reaches_unique hCtx hOther
    refine ⟨(idx, signer), ?_, hCertifies⟩
    rw [mem_indexed, reaches_signers hCtx]
    exact hSigner
  · rintro ⟨⟨idx, signer⟩, hMem, hCertifies⟩
    rw [mem_indexed, reaches_signers hCtx] at hMem
    have hInner := hCertifies
    obtain ⟨address, cert, hAddress, -⟩ := hInner
    exact ⟨address, ctx, hCtx, hAddress, idx, signer, hMem, hCertifies⟩

theorem hidesDate_iff {first second : Option Instant} :
    HidesDate env signedData target trust first second ↔
      IsResolved env signedData target trust first ∧
        NotesKept env signedData target trust first second := by
  constructor
  · rintro ⟨ctx, hCtx, ⟨idx, signer, hSigner, hCertifies⟩, hNotes⟩
    refine ⟨(isResolved_iff hCtx).mpr ⟨(idx, signer), ?_, hCertifies⟩, fun other hOther => ?_⟩
    · rw [mem_indexed, reaches_signers hCtx]
      exact hSigner
    · obtain rfl := reaches_unique hCtx hOther
      exact hNotes
  · rintro ⟨⟨address, ctx, hCtx, -, hSigner⟩, hNotes⟩
    exact ⟨ctx, hCtx, hSigner, hNotes ctx hCtx⟩

/-- A verification that looks for the sender shows what it is given. -/
theorem startVerification_headers (sender : Option Addr) (date : Option Instant)
    (before : SmimeValidationResult) (hAsks : AsksSender env signedData trust) :
    SameHeaders
      (startVerification env signedData target trust.stores trust.caFilePem sender date before).1
      (askedResult env sender date before) := by
  obtain ⟨hData, caCerts, hAnchors⟩ := hAsks
  have hAsked : SameHeaders
      (askedResult env sender date (shownResult signedData target.content before))
      (askedResult env sender date before) := by
    cases sender <;> exact ⟨rfl, rfl, rfl⟩
  have hOutcome := startVerification_outcome env signedData target trust.stores trust.caFilePem
    sender date before
  generalize startVerification env signedData target trust.stores trust.caFilePem sender date
    before = start at hOutcome ⊢
  cases hOutcome with
  | unexpected hContent => exact absurd hContent hData
  | noAnchors hContent hCerts =>
      rw [hAnchors] at hCerts
      cases hCerts
  | noInner hContent hCerts hInner => exact ⟨hAsked.fromAddress, hAsked.fromComment, hAsked.date⟩
  | noVerifier hContent hCerts hInner hVerifier =>
      exact ⟨hAsked.fromAddress, hAsked.fromComment, hAsked.date⟩
  | started hContent hCerts hInner hVerifier => exact hAsked

/-- The preparation passes the sender and outer date on. -/
theorem startVerification_reheaded {sender other : Option Addr} (first second : Option Instant)
    (before headers : SmimeValidationResult) (hAsks : AsksSender env signedData trust)
    (hSenders : sender.isSome = other.isSome) :
    let start := startVerification env signedData target trust.stores trust.caFilePem sender first
      before
    let twin := startVerification env signedData target trust.stores trust.caFilePem other second
      (before.reheaded headers)
    twin = (start.1.reheaded twin.1, start.2.map fun ctx => ctx.withDate second) ∧
      start.1.signers = before.signers ∧ twin.1.signers = headers.signers := by
  obtain ⟨hContent, caCerts, hCerts⟩ := hAsks
  unfold startVerification prepareSignedDataVerification
  cases hData : signedData.content with
  | other => exact absurd hData hContent
  | data content =>
      -- The sender is given to both or to neither.
      have hBoth : (sender = none ∧ other = none) ∨
          ∃ first second : Addr, sender = some first ∧ other = some second := by
        cases sender <;> cases other <;> simp_all
      dsimp only
      rw [hCerts]
      dsimp only
      cases env.parseMessage target.content with
      | none => rcases hBoth with ⟨rfl, rfl⟩ | ⟨_, _, rfl, rfl⟩ <;> exact ⟨rfl, rfl, rfl⟩
      | some innerMessage =>
          dsimp only
          unfold verifyContext
          dsimp only
          cases buildPolicyBuilder env caCerts with
          | error e => rcases hBoth with ⟨rfl, rfl⟩ | ⟨_, _, rfl, rfl⟩ <;> exact ⟨rfl, rfl, rfl⟩
          | ok builder =>
              simp only [Except.ok_bind']
              cases (env.buildEmailVerifier builder).mapError SmimeError.buildVerifier with
              | error e =>
                  rcases hBoth with ⟨rfl, rfl⟩ | ⟨_, _, rfl, rfl⟩ <;> exact ⟨rfl, rfl, rfl⟩
              | ok verifier =>
                  rcases hBoth with ⟨rfl, rfl⟩ | ⟨_, _, rfl, rfl⟩ <;> exact ⟨rfl, rfl, rfl⟩

/-- What a verification shows, and with another sender and outer date: the same
apart from the notes once a signer certifies the inner From, and before that
what either is given. -/
structure VerifiedTwins (env : Externals) (signedData : SignedData) (target : SignedTarget)
    (trust : TrustConfig) (first second : Option Instant)
    (given twinGiven result twin : SmimeValidationResult) : Prop where
  reheaded : twin = result.reheaded twin
  signers : given.signers = twinGiven.signers →
    (twin.signers = result.signers ↔ NotesKept env signedData target trust first second)
  resolved : IsResolved env signedData target trust first → SameHeaders twin result
  unresolved : ¬ IsResolved env signedData target trust first →
    SameHeaders result given ∧ SameHeaders twin twinGiven

theorem verifySignedData_twins {sender other : Option Addr} (first second : Option Instant)
    (before headers : SmimeValidationResult) (hAsks : AsksSender env signedData trust)
    (hSenders : sender.isSome = other.isSome) :
    VerifiedTwins env signedData target trust first second (askedResult env sender first before)
      (askedResult env other second (before.reheaded headers))
      (verifySignedData env signedData target trust.stores trust.caFilePem sender first before)
      (verifySignedData env signedData target trust.stores trust.caFilePem other second
        (before.reheaded headers)) := by
  obtain ⟨hTwin, hStartSigners, hTwinSigners⟩ := @startVerification_reheaded env signedData target
    trust sender other first second before headers hAsks hSenders
  have hGiven := @startVerification_headers env signedData target trust sender first before hAsks
  have hTwinGiven := @startVerification_headers env signedData target trust other second
    (before.reheaded headers) hAsks
  have hAsked : ∀ (sender : Option Addr) (date : Option Instant) (before : SmimeValidationResult),
      (askedResult env sender date before).signers = before.signers := by
    intro sender date before
    cases sender <;> rfl
  have hReaches := (startVerification_cases env signedData target trust.stores trust.caFilePem
    sender first before).2
  unfold verifySignedData
  rcases hRun : startVerification env signedData target trust.stores trust.caFilePem sender first
    before with ⟨start, reached⟩
  rcases hTwinRun : startVerification env signedData target trust.stores trust.caFilePem other
    second (before.reheaded headers) with ⟨twinStart, twinReached⟩
  rw [hRun] at hTwin hStartSigners hGiven hReaches
  rw [hTwinRun] at hTwin hTwinSigners hTwinGiven
  dsimp only at hTwin hStartSigners hTwinSigners hGiven hTwinGiven hReaches ⊢
  obtain ⟨hStart, rfl⟩ := Prod.mk.inj hTwin
  have hSame : (askedResult env sender first before).signers =
      (askedResult env other second (before.reheaded headers)).signers →
        twinStart.signers = start.signers := by
    rw [hAsked, hAsked, hStartSigners, hTwinSigners]
    exact Eq.symm
  cases reached with
  | none =>
      have hNone : ∀ ctx : VerifyContext env,
          ¬ Reaches signedData target trust.stores trust.caFilePem first ctx := by
        intro ctx hCtx
        cases (hReaches ctx).mpr hCtx
      refine ⟨hStart, fun hSigners => ?_, ?_, fun _ => ⟨hGiven, hTwinGiven⟩⟩
      · exact iff_of_true (hSame hSigners) fun ctx hCtx => absurd hCtx (hNone ctx)
      · rintro ⟨address, ctx, hCtx, -⟩
        exact absurd hCtx (hNone ctx)
  | some ctx =>
      have hCtx := (hReaches ctx).mp rfl
      have hSigners := reaches_signers hCtx
      have hBegin : Twins start twinStart (twinStart.signers = start.signers) { result := start }
          { result := twinStart } :=
        ⟨rfl, hStart, nofun, fun _ => ⟨.refl _, .refl _⟩, Iff.rfl⟩
      have hEnd := foldl_signerStep_twins hBegin ctx second (indexed ctx.signers)
      have hSettled : SenderSettled ctx start.fromAddress False { result := start } :=
        ⟨False.elim, fun _ => ⟨rfl, rfl⟩⟩
      have hSender := foldl_signerStep_settled hSettled (indexed ctx.signers)
      rw [false_or, ← isResolved_iff hCtx] at hSender
      refine ⟨hEnd.result, fun hGivenSigners => ?_, fun hResolved => ?_, fun hNone => ?_⟩
      · refine hEnd.signers.trans ?_
        rw [and_iff_right (hSame hGivenSigners)]
        constructor
        · intro hNotes other hOther idx signer hSigner
          obtain rfl := reaches_unique hCtx hOther
          exact hNotes (idx, signer) (by rwa [mem_indexed, hSigners])
        · rintro hNotes ⟨idx, signer⟩ hMem
          rw [mem_indexed, hSigners] at hMem
          exact hNotes ctx hCtx idx signer hMem
      · exact hEnd.matched (hSender.resolved hResolved).1
      · obtain ⟨hResult, hOther⟩ := hEnd.unmatched (hSender.unresolved hNone).1
        exact ⟨hResult.trans hGiven, hOther.trans hTwinGiven⟩

/-- Whether a verification gives the same result with another date. -/
theorem verifySignedData_date_iff (sender : Option Addr) (first second : Option Instant)
    (before : SmimeValidationResult) (hAsks : AsksSender env signedData trust) :
    verifySignedData env signedData target trust.stores trust.caFilePem sender first before =
        verifySignedData env signedData target trust.stores trust.caFilePem sender second before ↔
      first = second ∨ HidesDate env signedData target trust first second := by
  obtain ⟨hReheaded, hSigners, hResolved, hUnresolved⟩ := @verifySignedData_twins env signedData
    target trust sender sender first second before before hAsks rfl
  have hGiven : ∀ date : Option Instant, (askedResult env sender date before).date = date := by
    intro date
    cases sender <;> rfl
  have hSame : first = second → SameHeaders (askedResult env sender second before)
      (askedResult env sender first before) := by
    rintro rfl
    exact .refl _
  rw [hidesDate_iff, eq_comm]
  refine (eq_iff_of_reheaded hReheaded).trans ?_
  rw [show before.reheaded before = before from rfl] at *
  rw [hSigners (by cases sender <;> rfl)]
  by_cases hCertified : IsResolved env signedData target trust first
  · constructor
    · rintro ⟨hNotes, -⟩
      exact .inr ⟨hCertified, hNotes⟩
    · rintro (rfl | ⟨-, hNotes⟩)
      · refine ⟨fun ctx hCtx idx signer _ => ?_, hResolved hCertified⟩
        rw [← reaches_outerDate hCtx]
        exact ⟨fun _ _ => rfl, fun _ _ => rfl⟩
      · exact ⟨hNotes, hResolved hCertified⟩
  · obtain ⟨hResult, hTwin⟩ := hUnresolved hCertified
    rw [or_iff_left fun hHides => hCertified hHides.1]
    constructor
    · rintro ⟨-, hHeaders⟩
      rw [← hGiven first, ← hGiven second, ← hResult.date, ← hTwin.date, hHeaders.date]
    · rintro rfl
      refine ⟨fun ctx hCtx idx signer _ => ?_, (hTwin.trans (hSame rfl)).trans hResult.symm⟩
      rw [← reaches_outerDate hCtx]
      exact ⟨fun _ _ => rfl, fun _ _ => rfl⟩

end Verification

end Smime
