import Smime.OuterDate
import Smime.SenderMatching

/-! The sender that all signers together leave in the result, as a function of
which of them certify the address and which also the name. -/
namespace Smime

open X509 Mail Utils

variable {env : Externals}

section Statement

/-- The display name of the inner From. -/
def innerName (ctx : VerifyContext env) : Option String :=
  ctx.innerMessage.fromAddr.bind Addr.name

/-- The certificate of the entry has the inner From's display name, too. -/
def EntryVouches (ctx : VerifyContext env) (entry : SignerValidation) : Prop :=
  EntryCertifies ctx entry ∧ ∃ name : String, innerName ctx = some name ∧
    ∃ certName ∈ entry.validationDetails.checks.certificateNames,
      eqIgnoreAsciiCase certName name = true

/-- `resolve_sender` for one entry after the other, from a fresh resolver. -/
def resolveAll (ctx : VerifyContext env) (entries : List SignerValidation)
    (result : SmimeValidationResult) : SignerLoop :=
  entries.foldl (fun loop entry => (resolveSender ctx entry loop).2) { result }

/-- What the result says of the sender afterwards. -/
structure SenderOutcome (ctx : VerifyContext env) (entries : List SignerValidation)
    (before after : SmimeValidationResult) : Prop where
  outer : (¬ ∃ entry ∈ entries, EntryCertifies ctx entry) →
    after.fromAddress = before.fromAddress ∧ after.fromComment = before.fromComment ∧
      after.date = before.date
  inner : (∃ entry ∈ entries, EntryCertifies ctx entry) →
    after.fromAddress = innerFrom ctx ∧ after.date = innerDate ctx
  named : (∃ entry ∈ entries, EntryVouches ctx entry) → after.fromComment = innerName ctx
  unnamed : (∃ entry ∈ entries, EntryCertifies ctx entry) →
    (¬ ∃ entry ∈ entries, EntryVouches ctx entry) → after.fromComment = none

end Statement

section Step

/-- `EntryCertifies`, computed. -/
def certifies (ctx : VerifyContext env) (entry : SignerValidation) : Bool :=
  entry.signatureValid && (innerFrom ctx).any fun address =>
    entry.validationDetails.checks.certificateEmails.any
      (SenderResolver.sanMatches env (emailDomainToALabel env address))

/-- `EntryVouches`, computed. -/
def vouches (ctx : VerifyContext env) (entry : SignerValidation) : Bool :=
  certifies ctx entry && (innerName ctx).any fun name =>
    entry.validationDetails.checks.certificateNames.any (eqIgnoreAsciiCase · name)

theorem certifies_iff {ctx : VerifyContext env} {entry : SignerValidation} :
    certifies ctx entry = true ↔ EntryCertifies ctx entry := by
  simp [certifies, EntryCertifies, SenderResolver.Certified, Option.any_eq_true]

theorem vouches_iff {ctx : VerifyContext env} {entry : SignerValidation} :
    vouches ctx entry = true ↔ EntryVouches ctx entry := by
  rw [vouches, Bool.and_eq_true_iff, certifies_iff]
  simp [EntryVouches, Option.any_eq_true]

/-- The loop after a signer that certifies the address, and one that vouches for
the name. -/
def settled (ctx : VerifyContext env) (certified named : Bool) (result : SmimeValidationResult) :
    SignerLoop :=
  if certified then
    { senderResolver :=
        { fromAddress := innerFrom ctx
          fromComment := if named then innerName ctx else none
          senderMatched := true
          commentMatched := named }
      result :=
        { result with
          fromAddress := innerFrom ctx
          fromComment := if named then innerName ctx else none
          date := innerDate ctx } }
  else { result }

theorem certifies_of_no_address {ctx : VerifyContext env} (h : innerFrom ctx = none)
    (entry : SignerValidation) : certifies ctx entry = false := by
  rw [certifies, h, Option.any_none, Bool.and_false]

/-- What the resolver does with an address and a name, whatever it settled. -/
theorem update_settled {ctx : VerifyContext env} {certified named : Bool}
    (hNamed : named = true → certified = true) {name : Option String} {address : String}
    (hFrom : ctx.innerMessage.fromAddr = some ⟨name, some address⟩) {entry : SignerValidation}
    (hValid : entry.signatureValid = true) (result : SmimeValidationResult) :
    let updated := (settled ctx certified named result).senderResolver.update env (some address) name
      entry.validationDetails.checks.certificateEmails
      entry.validationDetails.checks.certificateNames
    updated.1 = (settled ctx (certified || certifies ctx entry) (named || vouches ctx entry)
        result).senderResolver ∧
      updated.2.1 = (certifies ctx entry && !named) := by
  have hInner : innerFrom ctx = some address := by rw [innerFrom, hFrom]; rfl
  have hName : innerName ctx = name := by rw [innerName, hFrom]; rfl
  have hCertifies : certifies ctx entry = entry.validationDetails.checks.certificateEmails.any
      (SenderResolver.sanMatches env (emailDomainToALabel env address)) := by
    rw [certifies, hValid, hInner, Option.any_some, Bool.true_and]
  have hVouches : vouches ctx entry = (certifies ctx entry && name.any fun name =>
      entry.validationDetails.checks.certificateNames.any (eqIgnoreAsciiCase · name)) := by
    rw [vouches, hName]
  unfold SenderResolver.update
  dsimp only
  rw [← hCertifies, hVouches]
  unfold settled
  rw [hInner, hName]
  cases hMatches : certifies ctx entry with
  | false => cases certified <;> simp
  | true =>
      cases named with
      | true => simp [hNamed rfl]
      | false => cases certified <;> simp

/-- One entry settles what it certifies, and nothing is taken back. -/
theorem resolveSender_settled_eq {ctx : VerifyContext env} {certified named : Bool}
    (hNamed : named = true → certified = true) (entry : SignerValidation)
    (result : SmimeValidationResult) :
    (resolveSender ctx entry (settled ctx certified named result)).2 =
      settled ctx (certified || certifies ctx entry) (named || vouches ctx entry) result := by
  have hUncertified : certifies ctx entry = false →
      settled ctx (certified || certifies ctx entry) (named || vouches ctx entry) result =
        settled ctx certified named result := by
    intro hNone
    rw [vouches, hNone, Bool.false_and, Bool.or_false, Bool.or_false]
  cases hValid : entry.signatureValid with
  | false =>
      rw [resolveSender_of_not_valid hValid]
      exact (hUncertified (by rw [certifies, hValid, Bool.false_and])).symm
  | true =>
      unfold resolveSender
      simp only [hValid, Bool.not_true, Bool.false_eq_true, if_false]
      cases hFrom : ctx.innerMessage.fromAddr with
      | none =>
          have hInner : innerFrom ctx = none := by rw [innerFrom, hFrom]; rfl
          exact (hUncertified (certifies_of_no_address hInner entry)).symm
      | some inner =>
          obtain ⟨name, innerAddress⟩ := inner
          cases innerAddress with
          | none =>
              have hInner : innerFrom ctx = none := by rw [innerFrom, hFrom]; rfl
              rw [hUncertified (certifies_of_no_address hInner entry)]
              rfl
          | some address =>
              have hInner : innerFrom ctx = some address := by rw [innerFrom, hFrom]; rfl
              obtain ⟨hResolver, hUpdated⟩ := update_settled hNamed hFrom hValid result
              dsimp only at hResolver hUpdated ⊢
              rcases hUpdate : (settled ctx certified named result).senderResolver.update env
                (some address) name entry.validationDetails.checks.certificateEmails
                entry.validationDetails.checks.certificateNames with ⟨resolver, updated, warnings⟩
              rw [hUpdate] at hResolver hUpdated
              dsimp only at hResolver hUpdated ⊢
              rw [hResolver, hUpdated]
              cases hMatches : certifies ctx entry with
              | false =>
                  have hSame := hUncertified hMatches
                  rw [hMatches] at hSame
                  rw [hSame]
                  rfl
              | true =>
                  cases named with
                  | true => simp [settled, hNamed rfl]
                  | false => cases certified <;> simp [settled, innerDate]

end Step

section Outcome

/-- All entries settle what one of them certifies. -/
theorem resolveAll_eq (ctx : VerifyContext env) (entries : List SignerValidation)
    (result : SmimeValidationResult) :
    resolveAll ctx entries result =
      settled ctx (entries.any (certifies ctx)) (entries.any (vouches ctx)) result := by
  have hRun : ∀ certified named : Bool, (named = true → certified = true) →
      entries.foldl (fun loop entry => (resolveSender ctx entry loop).2)
          (settled ctx certified named result) =
        settled ctx (certified || entries.any (certifies ctx)) (named || entries.any (vouches ctx))
          result := by
    induction entries with
    | nil => intro certified named _; simp
    | cons entry rest ih =>
        intro certified named hNamed
        have hNext : (named || vouches ctx entry) = true →
            (certified || certifies ctx entry) = true := by
          rw [Bool.or_eq_true, Bool.or_eq_true, vouches, Bool.and_eq_true]
          exact Or.imp hNamed And.left
        rw [List.foldl_cons, resolveSender_settled_eq hNamed, ih _ _ hNext, List.any_cons,
          List.any_cons, Bool.or_assoc, Bool.or_assoc]
  exact hRun false false id

theorem any_vouches_certifies {ctx : VerifyContext env} {entries : List SignerValidation}
    (h : entries.any (vouches ctx) = true) : entries.any (certifies ctx) = true := by
  rw [List.any_eq_true] at *
  obtain ⟨entry, hEntry, hVouches⟩ := h
  exact ⟨entry, hEntry, (Bool.and_eq_true_iff.mp hVouches).1⟩

/-- The sender is a function of the set of the valid signers. -/
theorem resolveAll_outcome (ctx : VerifyContext env) (entries : List SignerValidation)
    (result : SmimeValidationResult) :
    SenderOutcome ctx entries result (resolveAll ctx entries result).result ∧
      (∀ shuffled : List SignerValidation, shuffled.Perm entries →
        resolveAll ctx shuffled result = resolveAll ctx entries result) ∧
      resolveAll ctx (entries.filter (·.signatureValid)) result = resolveAll ctx entries result ∧
      ∀ later : List SignerValidation, (∃ entry ∈ entries, EntryVouches ctx entry) →
        resolveAll ctx (entries ++ later) result = resolveAll ctx entries result := by
  have hCertified : (∃ entry ∈ entries, EntryCertifies ctx entry) ↔
      entries.any (certifies ctx) = true := by
    simp [List.any_eq_true, certifies_iff]
  have hNamed : (∃ entry ∈ entries, EntryVouches ctx entry) ↔
      entries.any (vouches ctx) = true := by
    simp [List.any_eq_true, vouches_iff]
  have hNamedCertified := @any_vouches_certifies env ctx entries
  refine ⟨⟨?_, ?_, ?_, ?_⟩, ?_, ?_, ?_⟩
  · intro hNone
    rw [hCertified, Bool.not_eq_true] at hNone
    rw [resolveAll_eq, hNone]
    exact ⟨rfl, rfl, rfl⟩
  · intro hSome
    rw [resolveAll_eq, hCertified.mp hSome]
    exact ⟨rfl, rfl⟩
  · intro hSome
    rw [resolveAll_eq, hNamedCertified (hNamed.mp hSome), hNamed.mp hSome]
    rfl
  · intro hSome hNone
    rw [hNamed, Bool.not_eq_true] at hNone
    rw [resolveAll_eq, hCertified.mp hSome, hNone]
    rfl
  · intro shuffled hPerm
    rw [resolveAll_eq, resolveAll_eq, hPerm.any_eq, hPerm.any_eq]
  · have hValid : ∀ entry : SignerValidation,
        (entry.signatureValid && certifies ctx entry) = certifies ctx entry := by
      intro entry
      rw [certifies, ← Bool.and_assoc, Bool.and_self]
    have hValidVouches : ∀ entry : SignerValidation,
        (entry.signatureValid && vouches ctx entry) = vouches ctx entry := by
      intro entry
      rw [vouches, ← Bool.and_assoc, hValid]
    rw [resolveAll_eq, resolveAll_eq, List.any_filter, List.any_filter]
    simp only [hValid, hValidVouches]
  · intro later hSome
    have hVouched := hNamed.mp hSome
    rw [resolveAll_eq, resolveAll_eq, List.any_append, List.any_append, hVouched,
      hNamedCertified hVouched, Bool.true_or, Bool.true_or]

end Outcome

section Verification

/-- The signer at `idx` is accepted with a certificate of the inner From that has
the display name of it, too. -/
def VouchesSender (ctx : VerifyContext env) (idx : Nat) (signer : SignerInfo) : Prop :=
  ∃ cert : Certificate, Accepts ctx idx signer cert ∧
    (∃ address : String, innerFrom ctx = some address ∧
      SenderResolver.Certified env address (extractCertInfo env cert).emails) ∧
      ∃ name : String, innerName ctx = some name ∧
        ∃ certName ∈ (extractCertInfo env cert).names, eqIgnoreAsciiCase certName name = true

/-- The loop left the sender that its signers settle: one of them certifies the
address if `certified`, and one vouches for the name if `named`. -/
def ShowsSettled (ctx : VerifyContext env) (start : SmimeValidationResult)
    (certified named : Prop) (loop : SignerLoop) : Prop :=
  ∃ (address name : Bool) (result : SmimeValidationResult),
    loop = settled ctx address name result ∧ (address = true ↔ certified) ∧
      (name = true ↔ named) ∧ (name = true → address = true) ∧ SameHeaders result start

variable {ctx : VerifyContext env} {start : SmimeValidationResult} {certified named : Prop}

theorem ShowsSettled.congr {loop : SignerLoop} {other otherNamed : Prop}
    (h : ShowsSettled ctx start certified named loop) (hCertified : certified ↔ other)
    (hNamed : named ↔ otherNamed) : ShowsSettled ctx start other otherNamed loop := by
  obtain ⟨address, name, result, hLoop, hAddress, hName, hBoth, hSame⟩ := h
  exact ⟨address, name, result, hLoop, hAddress.trans hCertified, hName.trans hNamed, hBoth, hSame⟩

/-- What a verification records is not the sender. -/
theorem onlyRecords_settled {address name : Bool} {result after : SmimeValidationResult}
    (h : OnlyRecords (settled ctx address name result).result after) :
    ∃ recorded : SmimeValidationResult,
      (⟨(settled ctx address name result).senderResolver, after⟩ : SignerLoop) =
          settled ctx address name recorded ∧
        SameHeaders recorded result := by
  obtain ⟨failures, content, rfl⟩ := h
  refine ⟨{ result with failures := result.failures ++ failures, signedContent := content }, ?_,
    ⟨rfl, rfl, rfl⟩⟩
  cases address <;> rfl

theorem settled_push (address name : Bool) (result : SmimeValidationResult)
    (pushed : List SignerValidation) :
    ({ settled ctx address name result with
        result :=
          { (settled ctx address name result).result with
            signers := (settled ctx address name result).result.signers ++ pushed } } :
      SignerLoop) = settled ctx address name { result with signers := result.signers ++ pushed } := by
  cases address <;> rfl

/-- The entry certifies or vouches as the certificate does that it is of. -/
theorem entry_iff {idx : Nat} {signer : SignerInfo} {cert : Certificate}
    {entry : SignerValidation} (hFinds : Finds ctx idx signer cert)
    (hEntry : EntryOf env cert entry)
    (hValid : entry.signatureValid = true ↔ ChainTrusted ctx cert) :
    (EntryCertifies ctx entry ↔ CertifiesSender ctx idx signer) ∧
      (EntryVouches ctx entry ↔ VouchesSender ctx idx signer) := by
  have hSame : ∀ other : Certificate, Accepts ctx idx signer other → cert = other :=
    fun other hOther => firstVerifying_unique hFinds.first hOther.1.first
  unfold EntryVouches EntryCertifies CertifiesSender VouchesSender
  rw [hEntry.emails, hEntry.names, hValid]
  constructor
  · constructor
    · rintro ⟨hTrusted, address, hInner, hCertified⟩
      exact ⟨address, cert, hInner, ⟨hFinds, hTrusted⟩, hCertified⟩
    · rintro ⟨address, other, hInner, hAccepts, hCertified⟩
      obtain rfl := hSame other hAccepts
      exact ⟨hAccepts.2, address, hInner, hCertified⟩
  · constructor
    · rintro ⟨⟨hTrusted, hCertified⟩, hNamed⟩
      exact ⟨cert, ⟨hFinds, hTrusted⟩, hCertified, hNamed⟩
    · rintro ⟨other, hAccepts, hCertified, hNamed⟩
      obtain rfl := hSame other hAccepts
      exact ⟨⟨hAccepts.2, hCertified⟩, hNamed⟩

theorem signerStep_showsSettled {loop : SignerLoop}
    (h : ShowsSettled ctx start certified named loop) (idx : Nat) (signer : SignerInfo) :
    ShowsSettled ctx start (certified ∨ CertifiesSender ctx idx signer)
      (named ∨ VouchesSender ctx idx signer) (signerStep ctx loop (idx, signer)) := by
  obtain ⟨address, name, result, rfl, hAddress, hName, hBoth, hHeaders⟩ := h
  obtain ⟨hRecords, hCases⟩ :=
    verifySigner_cases ctx idx signer (settled ctx address name result).result
  unfold signerStep
  rcases hVerify : verifySigner ctx idx signer (settled ctx address name result).result
    with ⟨after, found⟩
  rw [hVerify] at hRecords hCases
  obtain ⟨recorded, hLoop, hRecorded⟩ := onlyRecords_settled hRecords
  rcases hCases with ⟨rfl, hNone⟩ | ⟨cert, entry, rfl, hFinds, hEntry, hValid⟩
  · refine ⟨address, name, recorded, hLoop, ?_, ?_, hBoth, hRecorded.trans hHeaders⟩
    · rw [hAddress]
      refine (or_iff_left ?_).symm
      rintro ⟨-, cert, -, hAccepts, -⟩
      exact hNone cert hAccepts.1
    · rw [hName]
      refine (or_iff_left ?_).symm
      rintro ⟨cert, hAccepts, -⟩
      exact hNone cert hAccepts.1
  · obtain ⟨hCertifies, hVouches⟩ := entry_iff hFinds hEntry hValid
    dsimp only
    rw [hLoop, resolveSender_settled_eq hBoth, settled_push]
    refine ⟨_, _, _, rfl, ?_, ?_, ?_, ⟨?_, ?_, ?_⟩⟩
    · rw [Bool.or_eq_true, hAddress, certifies_iff, hCertifies]
    · rw [Bool.or_eq_true, hName, vouches_iff, hVouches]
    · rw [Bool.or_eq_true, Bool.or_eq_true, vouches, Bool.and_eq_true]
      exact Or.imp hBoth And.left
    · exact (hRecorded.trans hHeaders).fromAddress
    · exact (hRecorded.trans hHeaders).fromComment
    · exact (hRecorded.trans hHeaders).date

/-- The sender of a result is settled by its signers. -/
theorem foldl_signerStep_showsSettled {loop : SignerLoop}
    (h : ShowsSettled ctx start certified named loop) (signers : List (Nat × SignerInfo)) :
    ShowsSettled ctx start
      (certified ∨ ∃ signer ∈ signers, CertifiesSender ctx signer.1 signer.2)
      (named ∨ ∃ signer ∈ signers, VouchesSender ctx signer.1 signer.2)
      (signers.foldl (signerStep ctx) loop) := by
  induction signers generalizing certified named loop with
  | nil => exact h.congr (by simp) (by simp)
  | cons signer rest ih =>
      have hStep := signerStep_showsSettled h signer.1 signer.2
      exact (ih hStep).congr (by simp [or_assoc]) (by simp [or_assoc])

/-- The inner From, with the display name `name`, and the inner date. -/
def innerHeaders (ctx : VerifyContext env) (name : Option String) : SmimeValidationResult where
  fromAddress := innerFrom ctx
  fromComment := name
  date := innerDate ctx

/-- The sender and date that a verification shows when a signer certifies the
inner From. -/
theorem verifySignedData_innerHeaders {signedData : SignedData} {target : SignedTarget}
    {trust : TrustConfig} {outerDate : Option Instant}
    (hCtx : Reaches signedData target trust.stores trust.caFilePem outerDate ctx)
    (hCertifies : ∃ signer ∈ indexed ctx.signers, CertifiesSender ctx signer.1 signer.2)
    (sender : Option Addr) (before : SmimeValidationResult) :
    let result := verifySignedData env signedData target trust.stores trust.caFilePem sender
      outerDate before
    ((∃ signer ∈ indexed ctx.signers, VouchesSender ctx signer.1 signer.2) →
        SameHeaders result (innerHeaders ctx (innerName ctx))) ∧
      ((¬ ∃ signer ∈ indexed ctx.signers, VouchesSender ctx signer.1 signer.2) →
        SameHeaders result (innerHeaders ctx none)) := by
  have hRun := verifySignedData_run env signedData target trust.stores trust.caFilePem sender
    outerDate before
  generalize (startVerification env signedData target trust.stores trust.caFilePem sender
    outerDate before).1 = start at hRun
  generalize verifySignedData env signedData target trust.stores trust.caFilePem sender outerDate
    before = after at hRun ⊢
  cases hRun with
  | stopped hNone => exact absurd hCtx (hNone ctx)
  | @looped other hOther =>
      obtain rfl := reaches_unique hCtx hOther
      have hBegin : ShowsSettled ctx start False False { result := start } :=
        ⟨false, false, start, rfl, by simp, by simp, id, .refl _⟩
      obtain ⟨address, name, result, hLoop, hAddress, hName, -, -⟩ :=
        foldl_signerStep_showsSettled hBegin (indexed ctx.signers)
      rw [false_or] at hAddress hName
      rw [hLoop, hAddress.mpr hCertifies]
      constructor
      · intro hVouches
        rw [hName.mpr hVouches]
        exact ⟨rfl, rfl, rfl⟩
      · intro hNot
        rw [← hName, Bool.not_eq_true] at hNot
        rw [hNot]
        exact ⟨rfl, rfl, rfl⟩

end Verification

end Smime
