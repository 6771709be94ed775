import Smime.EncryptDecrypt

/-! The search of `recover_cek` in `src/decrypt.rs`, over any list of
RecipientInfos: what opens them decides, not where they stand or what is beside
them. -/
namespace Smime

open X690 (Octets)
open X509 Utils

variable (env : CmsExternals)

section Opening

/-- The key encryption key of a KeyAgreeRecipientInfo with its length, and warnings. -/
def kariKek (privateKeyDer : Octets) (kari : KeyAgreeRecipientInfo) :
    Except SmimeError (Octets × Nat × List SmimeError) :=
  match kari.originator with
  | .originatorKey originatorKey => do
      let kea := kari.keyEncryptionAlgorithm
      let kdf ← identifyKdf env kea.oid
      let warnings :=
        if kdf = .x963 .sha1 then [.weakKeyEncryptionAlg "X9.63-KDF with SHA-1"] else []
      let wrapAlgOid ← extractWrapAlgorithmOid env kea
      let kekLen ← aesWrapKeyLen env wrapAlgOid
      let z ← sharedSecret env privateKeyDer kea.oid originatorKey
      let sharedInfo ← buildEccCmsSharedInfo env wrapAlgOid kari.ukm kekLen
      let kek ← deriveKek env kdf z kari.ukm sharedInfo kekLen
      return (kek, kekLen, warnings)
  | _ => .error (.unsupportedKeyEncryptionAlg "KARI originator must be originatorKey for ECDH")

/-- The RecipientInfo can be opened with the keys, and this is what is in it. For a
KeyAgreeRecipientInfo one of the keys for the certificate is enough. -/
inductive Opens (keys : DecryptionKeys) (cert : Option Certificate) : RecipientInfo → Octets → Prop
  | keyTrans {own : Certificate} {ktri : KeyTransRecipientInfo} {cek : Octets}
      {warnings : List SmimeError} (present : cert = some own)
      (named : ktriMatchesCert env ktri own = true)
      (decrypted : decryptKtriCek env keys.privateKeyDer ktri = .ok (cek, warnings)) :
      Opens keys cert (.keyTrans ktri) cek
  | keyAgree {own : Certificate} {kari : KeyAgreeRecipientInfo} {rek : RecipientEncryptedKey}
      {kek cek : Octets} {kekLen : Nat} {warnings : List SmimeError} (present : cert = some own)
      (derived : kariKek env keys.privateKeyDer kari = .ok (kek, kekLen, warnings))
      (listed : rek ∈ kari.recipientEncryptedKeys) (named : rekMatchesCert env rek.rid own = true)
      (unwrapped : aesKeyUnwrap env kek kekLen rek.encryptedKey = .ok cek) :
      Opens keys cert (.keyAgree kari) cek
  | password {pwri : PasswordRecipientInfo} {cek : Octets} {warnings : List SmimeError}
      (enabled : env.features.decryptPwri = true)
      (decrypted : decryptPwriCek env keys.password pwri = .ok (cek, warnings)) :
      Opens keys cert (.password pwri) cek
  | kek {kekri : KekRecipientInfo} {cek : Octets} {warnings : List SmimeError}
      (enabled : env.features.decryptKek = true)
      (decrypted : decryptKekriCek env keys.kek kekri = .ok (cek, warnings)) :
      Opens keys cert (.kek kekri) cek

variable {env} {keys : DecryptionKeys} {cert : Option Certificate}

theorem decryptKariCek_eq (privateKeyDer : Octets) (kari : KeyAgreeRecipientInfo)
    (own : Certificate) :
    decryptKariCek env privateKeyDer kari own =
      kariKek env privateKeyDer kari >>= fun (kek, kekLen, warnings) =>
        unwrapFirst env kek kekLen own none kari.recipientEncryptedKeys >>= fun cek =>
          .ok (cek, warnings) := by
  unfold decryptKariCek kariKek
  cases kari.originator <;> simp only [bind_assoc, Except.error_bind', Except.pure_eq_ok',
    Except.ok_bind']

theorem unwrapFirst_ok {kek cek : Octets} {kekLen : Nat} {own : Certificate}
    {lastErr : Option SmimeError} {reks : List RecipientEncryptedKey}
    (h : unwrapFirst env kek kekLen own lastErr reks = .ok cek) :
    ∃ rek ∈ reks, rekMatchesCert env rek.rid own = true ∧
      aesKeyUnwrap env kek kekLen rek.encryptedKey = .ok cek := by
  induction reks generalizing lastErr with
  | nil => cases h
  | cons rek rest ih =>
      have hRest : ∀ err, unwrapFirst env kek kekLen own err rest = .ok cek →
          ∃ next ∈ rek :: rest, rekMatchesCert env next.rid own = true ∧
            aesKeyUnwrap env kek kekLen next.encryptedKey = .ok cek := by
        intro err hRest
        obtain ⟨next, hMem, hNext⟩ := ih hRest
        exact ⟨next, List.mem_cons_of_mem _ hMem, hNext⟩
      rw [unwrapFirst] at h
      split at h
      · exact hRest _ h
      next hNamed =>
        split at h
        next other hUnwrap =>
          cases h
          exact ⟨rek, List.mem_cons_self, by simpa using hNamed, hUnwrap⟩
        next => exact hRest _ h

/-- A key for the certificate that unwraps ends the search among the keys. -/
theorem exists_unwrapFirst {kek cek : Octets} {kekLen : Nat} {own : Certificate}
    {rek : RecipientEncryptedKey} (lastErr : Option SmimeError) {reks : List RecipientEncryptedKey}
    (hListed : rek ∈ reks) (hNamed : rekMatchesCert env rek.rid own = true)
    (hUnwrap : aesKeyUnwrap env kek kekLen rek.encryptedKey = .ok cek) :
    ∃ found, unwrapFirst env kek kekLen own lastErr reks = .ok found := by
  induction reks generalizing lastErr with
  | nil => cases hListed
  | cons next rest ih =>
      rw [unwrapFirst]
      rcases List.mem_cons.mp hListed with rfl | hRest
      · rw [hNamed, hUnwrap]
        exact ⟨cek, rfl⟩
      · split
        · exact ih _ hRest
        · split
          next found _ => exact ⟨found, rfl⟩
          next => exact ih _ hRest

/-- What a RecipientInfo that is tried yields, it can be opened to. -/
theorem opens_of_tryRecipient {ri : RecipientInfo} {cek : Octets} {warnings : List SmimeError}
    (h : tryRecipient env keys cert ri = some (.ok (cek, warnings))) : Opens env keys cert ri cek := by
  cases ri with
  | keyTrans ktri =>
      cases cert with
      | none => cases h
      | some own =>
          simp only [tryRecipient] at h
          split at h
          next hNamed => exact .keyTrans rfl hNamed (Option.some.inj h)
          next => cases h
  | keyAgree kari =>
      cases cert with
      | none => cases h
      | some own =>
          have hKari := Option.some.inj h
          rw [decryptKariCek_eq] at hKari
          obtain ⟨⟨kek, kekLen, warned⟩, hDerived, hKari⟩ := Except.bind_eq_ok_iff.mp hKari
          obtain ⟨found, hFound, hKari⟩ := Except.bind_eq_ok_iff.mp hKari
          cases hKari
          obtain ⟨rek, hListed, hNamed, hUnwrap⟩ := unwrapFirst_ok hFound
          exact .keyAgree rfl hDerived hListed hNamed hUnwrap
  | password pwri =>
      simp only [tryRecipient] at h
      split at h
      next hEnabled => exact .password hEnabled (Option.some.inj h)
      next => cases h
  | kek kekri =>
      simp only [tryRecipient] at h
      split at h
      next hEnabled => exact .kek hEnabled (Option.some.inj h)
      next => cases h
  | other => cases h

/-- What can be opened is opened when its turn comes. -/
theorem Opens.exists_tryRecipient {ri : RecipientInfo} {cek : Octets}
    (h : Opens env keys cert ri cek) :
    ∃ found, tryRecipient env keys cert ri = some (.ok found) := by
  cases h with
  | @keyTrans own ktri cek warnings present named decrypted =>
      subst present
      refine ⟨(cek, warnings), ?_⟩
      simp only [tryRecipient, if_pos named, decrypted]
  | @keyAgree own kari rek kek cek kekLen warnings present derived listed named unwrapped =>
      subst present
      obtain ⟨found, hFound⟩ := exists_unwrapFirst none listed named unwrapped
      refine ⟨(found, warnings), ?_⟩
      rw [tryRecipient, Option.map_some, decryptKariCek_eq, derived, Except.ok_bind']
      dsimp only
      rw [hFound, Except.ok_bind']
  | @password pwri cek warnings enabled decrypted =>
      exact ⟨(cek, warnings), by rw [tryRecipient, if_pos enabled, decrypted]⟩
  | @kek kekri cek warnings enabled decrypted =>
      exact ⟨(cek, warnings), by rw [tryRecipient, if_pos enabled, decrypted]⟩

end Opening

section Search

variable {env} {keys : DecryptionKeys} {cert : Option Certificate}

/-- The search gets the one key of all RecipientInfos that can be opened. -/
theorem searchRecipients_only {ris : List RecipientInfo} {cek : Octets}
    (hOnly : ∀ ri ∈ ris, ∀ other, Opens env keys cert ri other → other = cek)
    (hOpens : ∃ ri ∈ ris, Opens env keys cert ri cek) (lastErr : Option SmimeError) :
    ∃ warnings, searchRecipients env keys cert lastErr ris = .ok (cek, warnings) := by
  obtain ⟨opener, hMem, hOpener⟩ := hOpens
  obtain ⟨found, hTry⟩ := hOpener.exists_tryRecipient
  obtain ⟨⟨opened, warnings⟩, hSearch⟩ := exists_searchRecipients ⟨opener, hMem, hTry⟩ lastErr
  obtain ⟨first, hFirst, hOpens⟩ := searchRecipients_ok hSearch
  have hOpened := hOnly first hFirst opened (opens_of_tryRecipient hOpens)
  subst hOpened
  exact ⟨warnings, hSearch⟩

theorem searchRecipients_none {ris : List RecipientInfo}
    (hNone : ∀ ri ∈ ris, ∀ cek, ¬ Opens env keys cert ri cek) (lastErr : Option SmimeError) :
    ∃ e, searchRecipients env keys cert lastErr ris = .error e := by
  cases hSearch : searchRecipients env keys cert lastErr ris with
  | error e => exact ⟨e, rfl⟩
  | ok found =>
      obtain ⟨ri, hMem, hTry⟩ := searchRecipients_ok hSearch
      exact absurd (opens_of_tryRecipient hTry) (hNone ri hMem found.1)

end Search

section Calls

/-- A key that is decrypted or unwrapped. -/
inductive Attempt where
  | keyTrans (ktri : KeyTransRecipientInfo)
  | encryptedKey (rek : RecipientEncryptedKey)
  | password (pwri : PasswordRecipientInfo)
  | kek (kekri : KekRecipientInfo)

/-- It is for the given certificate, where it is for a certificate. -/
def Attempt.Named (cert : Option Certificate) : Attempt → Prop
  | keyTrans ktri => ∃ own, cert = some own ∧ ktriMatchesCert env ktri own = true
  | encryptedKey rek => ∃ own, cert = some own ∧ rekMatchesCert env rek.rid own = true
  | password _ | kek _ => True

/-- `unwrapFirst` with what it tries. -/
def Calls.unwrapFirst (kek : Octets) (kekLen : Nat) (cert : Certificate) :
    Option SmimeError → List RecipientEncryptedKey → Except SmimeError Octets × List Attempt
  | lastErr, [] =>
      (.error (lastErr.getD (.decryptionFailed "KARI has no matching RecipientEncryptedKey")), [])
  | lastErr, rek :: rest =>
      if !rekMatchesCert env rek.rid cert then Calls.unwrapFirst kek kekLen cert lastErr rest
      else
        match aesKeyUnwrap env kek kekLen rek.encryptedKey with
        | .ok cek => (.ok cek, [.encryptedKey rek])
        | .error e =>
            let (result, tried) := Calls.unwrapFirst kek kekLen cert (some e) rest
            (result, .encryptedKey rek :: tried)

def Calls.decryptKariCek (privateKeyDer : Octets) (kari : KeyAgreeRecipientInfo)
    (cert : Certificate) : Except SmimeError (Octets × List SmimeError) × List Attempt :=
  match kariKek env privateKeyDer kari with
  | .error e => (.error e, [])
  | .ok (kek, kekLen, warnings) =>
      let tried := Calls.unwrapFirst env kek kekLen cert none kari.recipientEncryptedKeys
      (tried.1 >>= fun cek => .ok (cek, warnings), tried.2)

def needsCert (ri : RecipientInfo) : Bool :=
  match ri with
  | .keyTrans _ | .keyAgree _ => true
  | _ => false

/-- One turn of the loop with what it tries; `none` is a panic, as of `c.unwrap()`. -/
def Calls.tryRecipient (keys : DecryptionKeys) (cert : Option Certificate) (ri : RecipientInfo) :
    Option (Option (Except SmimeError (Octets × List SmimeError)) × List Attempt) :=
  if needsCert ri && cert.isNone then some (none, [])
  else
    let c := if needsCert ri then cert else none
    match ri with
    | .keyTrans ktri => do
        let own ← c
        if !ktriMatchesCert env ktri own then return (none, [])
        else return (some (decryptKtriCek env keys.privateKeyDer ktri), [.keyTrans ktri])
    | .keyAgree kari => do
        let own ← c
        let tried := Calls.decryptKariCek env keys.privateKeyDer kari own
        return (some tried.1, tried.2)
    | .password pwri =>
        if env.features.decryptPwri then
          some (some (decryptPwriCek env keys.password pwri), [.password pwri])
        else some (none, [])
    | .kek kekri =>
        if env.features.decryptKek then
          some (some (decryptKekriCek env keys.kek kekri), [.kek kekri])
        else some (none, [])
    | .other => some (none, [])

def Calls.searchRecipients (keys : DecryptionKeys) (cert : Option Certificate) :
    Option SmimeError → List RecipientInfo →
      Option (Except SmimeError (Octets × List SmimeError) × List Attempt)
  | lastErr, [] => some (.error (lastErr.getD .noMatchingRecipient), [])
  | lastErr, ri :: rest => do
      let (result, tried) ← Calls.tryRecipient env keys cert ri
      match result with
      | none => do
          let (found, later) ← Calls.searchRecipients keys cert lastErr rest
          return (found, tried ++ later)
      | some (.ok found) => return (.ok found, tried)
      | some (.error e) => do
          let (found, later) ← Calls.searchRecipients keys cert (some e) rest
          return (found, tried ++ later)

def Calls.recoverCek (keys : DecryptionKeys) (recipientInfos : List RecipientInfo)
    (expectedKeyLen : Nat) : Option (Except SmimeError (Octets × List SmimeError) × List Attempt) :=
  match parseRecipientCert env keys.recipientCertDer with
  | .error e => some (.error e, [])
  | .ok cert => do
      let (found, tried) ← Calls.searchRecipients env keys cert none recipientInfos
      return (found >>= fun (cek, warnings) =>
        if cek.length ≠ expectedKeyLen then
          .error (.decryptionFailed ("CEK length " ++ toString cek.length ++
            " does not match algorithm (expected " ++ toString expectedKeyLen ++ ")"))
        else .ok (cek, recipientVersionWarnings recipientInfos ++ warnings), tried)

variable {env} {keys : DecryptionKeys} {cert : Option Certificate}

theorem calls_unwrapFirst (kek : Octets) (kekLen : Nat) (own : Certificate)
    (lastErr : Option SmimeError) (reks : List RecipientEncryptedKey) :
    (Calls.unwrapFirst env kek kekLen own lastErr reks).1 =
        unwrapFirst env kek kekLen own lastErr reks ∧
      ∀ attempt ∈ (Calls.unwrapFirst env kek kekLen own lastErr reks).2,
        attempt.Named env (some own) := by
  induction reks generalizing lastErr with
  | nil => exact ⟨rfl, by simp [Calls.unwrapFirst]⟩
  | cons rek rest ih =>
      rw [Calls.unwrapFirst, unwrapFirst]
      by_cases hNamed : rekMatchesCert env rek.rid own = true
      · have hAttempt : (Attempt.encryptedKey rek).Named env (some own) := ⟨own, rfl, hNamed⟩
        rw [hNamed, Bool.not_true, if_neg Bool.false_ne_true, if_neg Bool.false_ne_true]
        cases aesKeyUnwrap env kek kekLen rek.encryptedKey with
        | ok cek =>
            refine ⟨rfl, fun attempt hMem => ?_⟩
            rw [List.mem_singleton.mp hMem]
            exact hAttempt
        | error e =>
            obtain ⟨hResult, hTried⟩ := ih (some e)
            refine ⟨hResult, fun attempt hMem => ?_⟩
            rcases List.mem_cons.mp hMem with rfl | hMem
            · exact hAttempt
            · exact hTried attempt hMem
      · rw [Bool.not_eq_true] at hNamed
        rw [hNamed, Bool.not_false, if_pos rfl, if_pos rfl]
        exact ih lastErr

theorem calls_decryptKariCek (privateKeyDer : Octets) (kari : KeyAgreeRecipientInfo)
    (own : Certificate) :
    (Calls.decryptKariCek env privateKeyDer kari own).1 = decryptKariCek env privateKeyDer kari own ∧
      ∀ attempt ∈ (Calls.decryptKariCek env privateKeyDer kari own).2,
        attempt.Named env (some own) := by
  rw [decryptKariCek_eq, Calls.decryptKariCek]
  cases kariKek env privateKeyDer kari with
  | error e => exact ⟨rfl, by simp⟩
  | ok derived =>
      obtain ⟨kek, kekLen, warnings⟩ := derived
      obtain ⟨hResult, hTried⟩ := calls_unwrapFirst kek kekLen own none kari.recipientEncryptedKeys
      refine ⟨?_, hTried⟩
      rw [Except.ok_bind']
      dsimp only
      rw [hResult]

/-- A turn of the loop does not panic, and tries what is for the certificate. -/
theorem calls_tryRecipient (ri : RecipientInfo) :
    ∃ tried, Calls.tryRecipient env keys cert ri = some (tryRecipient env keys cert ri, tried) ∧
      ∀ attempt ∈ tried, attempt.Named env cert := by
  cases ri with
  | keyTrans ktri =>
      cases cert with
      | none => exact ⟨[], rfl, by simp⟩
      | some own =>
          by_cases hNamed : ktriMatchesCert env ktri own = true
          · refine ⟨[.keyTrans ktri], by simp [Calls.tryRecipient, tryRecipient, needsCert, hNamed],
              fun attempt hMem => ?_⟩
            rw [List.mem_singleton.mp hMem]
            exact ⟨own, rfl, hNamed⟩
          · exact ⟨[], by simp [Calls.tryRecipient, tryRecipient, needsCert, hNamed], by simp⟩
  | keyAgree kari =>
      cases cert with
      | none => exact ⟨[], rfl, by simp⟩
      | some own =>
          obtain ⟨hResult, hTried⟩ := calls_decryptKariCek keys.privateKeyDer kari own
          refine ⟨_, ?_, hTried⟩
          rw [tryRecipient, Option.map_some, ← hResult]
          rfl
  | password pwri =>
      by_cases hEnabled : env.features.decryptPwri = true
      · exact ⟨[.password pwri], by simp [Calls.tryRecipient, tryRecipient, needsCert, hEnabled],
          by simp [Attempt.Named]⟩
      · exact ⟨[], by simp [Calls.tryRecipient, tryRecipient, needsCert, hEnabled], by simp⟩
  | kek kekri =>
      by_cases hEnabled : env.features.decryptKek = true
      · exact ⟨[.kek kekri], by simp [Calls.tryRecipient, tryRecipient, needsCert, hEnabled],
          by simp [Attempt.Named]⟩
      · exact ⟨[], by simp [Calls.tryRecipient, tryRecipient, needsCert, hEnabled], by simp⟩
  | other => exact ⟨[], rfl, by simp⟩

theorem calls_searchRecipients (lastErr : Option SmimeError) (ris : List RecipientInfo) :
    ∃ tried, Calls.searchRecipients env keys cert lastErr ris =
        some (searchRecipients env keys cert lastErr ris, tried) ∧
      ∀ attempt ∈ tried, attempt.Named env cert := by
  induction ris generalizing lastErr with
  | nil => exact ⟨[], rfl, by simp⟩
  | cons ri rest ih =>
      obtain ⟨tried, hTry, hTried⟩ := @calls_tryRecipient env keys cert ri
      have hAll : ∀ later, (∀ attempt ∈ later, attempt.Named env cert) →
          ∀ attempt ∈ tried ++ later, attempt.Named env cert := by
        intro later hLater attempt hMem
        rcases List.mem_append.mp hMem with hMem | hMem
        · exact hTried attempt hMem
        · exact hLater attempt hMem
      rw [Calls.searchRecipients, searchRecipients, hTry]
      cases tryRecipient env keys cert ri with
      | none =>
          obtain ⟨later, hLater, hNamed⟩ := ih lastErr
          exact ⟨tried ++ later, by simp [hLater], hAll later hNamed⟩
      | some outcome =>
          cases outcome with
          | ok found => exact ⟨tried, rfl, hTried⟩
          | error e =>
              obtain ⟨later, hLater, hNamed⟩ := ih (some e)
              exact ⟨tried ++ later, by simp [hLater], hAll later hNamed⟩

end Calls

section Robustness

variable {env} {keys : DecryptionKeys} {cert : Option Certificate}

variable (env) in
/-- The certificate can be read if there is one, and with the keys the RecipientInfo can
be opened. -/
def OpensWith (keys : DecryptionKeys) (ri : RecipientInfo) (cek : Octets) : Prop :=
  ∃ cert, parseRecipientCert env keys.recipientCertDer = .ok cert ∧ Opens env keys cert ri cek

variable (env) in
/-- What is tried is for the certificate that was given, where it is for one. -/
def TriedFor (keys : DecryptionKeys) (attempt : Attempt) : Prop :=
  ∃ cert, parseRecipientCert env keys.recipientCertDer = .ok cert ∧ attempt.Named env cert

theorem calls_recoverCek (keys : DecryptionKeys) (ris : List RecipientInfo)
    (expectedKeyLen : Nat) :
    ∃ tried, Calls.recoverCek env keys ris expectedKeyLen =
        some (recoverCek env keys ris expectedKeyLen, tried) ∧
      ∀ attempt ∈ tried, TriedFor env keys attempt := by
  cases hCert : parseRecipientCert env keys.recipientCertDer with
  | error e => exact ⟨[], by rw [Calls.recoverCek, recoverCek, hCert, Except.error_bind'], by simp⟩
  | ok cert =>
      obtain ⟨tried, hSearch, hTried⟩ := @calls_searchRecipients env keys cert none ris
      refine ⟨tried, ?_, fun attempt hMem => ⟨cert, hCert, hTried attempt hMem⟩⟩
      rw [Calls.recoverCek, recoverCek, hCert, Except.ok_bind']
      simp only [hSearch]
      rfl

theorem recoverCek_none {ris : List RecipientInfo} (expectedKeyLen : Nat)
    (hNone : ∀ ri ∈ ris, ∀ cek, ¬ OpensWith env keys ri cek) :
    ∃ e, recoverCek env keys ris expectedKeyLen = .error e := by
  rw [recoverCek]
  cases hCert : parseRecipientCert env keys.recipientCertDer with
  | error e => exact ⟨e, rfl⟩
  | ok cert =>
      obtain ⟨e, hSearch⟩ := searchRecipients_none
        (fun ri hMem cek hOpens => hNone ri hMem cek ⟨cert, hCert, hOpens⟩) none
      exact ⟨e, by rw [Except.ok_bind', hSearch, Except.error_bind']⟩

theorem recoverCek_only {ris : List RecipientInfo} {cek : Octets}
    (hOnly : ∀ ri ∈ ris, ∀ other, OpensWith env keys ri other → other = cek)
    (hOpens : ∃ ri ∈ ris, ∃ other, OpensWith env keys ri other) :
    ∃ warnings, recoverCek env keys ris cek.length = .ok (cek, warnings) := by
  obtain ⟨opener, hOpener, other, cert, hCert, hOther⟩ := hOpens
  obtain rfl := hOnly opener hOpener other ⟨cert, hCert, hOther⟩
  obtain ⟨warnings, hSearch⟩ := searchRecipients_only
    (fun ri hMem next hNext => hOnly ri hMem next ⟨cert, hCert, hNext⟩) ⟨opener, hOpener, hOther⟩ none
  refine ⟨recipientVersionWarnings ris ++ warnings, ?_⟩
  rw [recoverCek, hCert, Except.ok_bind', hSearch, Except.ok_bind']
  exact if_neg (not_not.mpr rfl)

/-- Among any RecipientInfos, in any order, the search returns the key of those that can be
opened; without any it fails. Nothing but what is for the certificate is tried. -/
theorem recoverCek_robust (env : CmsExternals) (keys : DecryptionKeys) (expectedKeyLen : Nat) :
    (∀ (ris foreign searched : List RecipientInfo) (cek : Octets), cek.length = expectedKeyLen →
        (∀ ri ∈ ris, ∀ other, OpensWith env keys ri other → other = cek) →
        (∃ ri ∈ ris, ∃ other, OpensWith env keys ri other) →
        (∀ ri ∈ foreign, ∀ other, ¬ OpensWith env keys ri other) →
        searched.Perm (ris ++ foreign) →
          ∃ warnings, recoverCek env keys searched expectedKeyLen = .ok (cek, warnings)) ∧
      (∀ ris : List RecipientInfo, (∀ ri ∈ ris, ∀ cek, ¬ OpensWith env keys ri cek) →
        ∃ e, recoverCek env keys ris expectedKeyLen = .error e) ∧
      ∀ ris : List RecipientInfo, ∃ tried,
        Calls.recoverCek env keys ris expectedKeyLen =
            some (recoverCek env keys ris expectedKeyLen, tried) ∧
          ∀ attempt ∈ tried, TriedFor env keys attempt := by
  refine ⟨?_, fun ris hNone => recoverCek_none expectedKeyLen hNone,
    fun ris => calls_recoverCek keys ris expectedKeyLen⟩
  rintro ris foreign searched cek rfl hOnly ⟨opener, hOpener, hOpens⟩ hForeign hPerm
  have hMem : ∀ ri, ri ∈ searched ↔ ri ∈ ris ∨ ri ∈ foreign := fun ri =>
    hPerm.mem_iff.trans List.mem_append
  refine recoverCek_only (fun ri hRi other hOther => ?_)
    ⟨opener, (hMem opener).mpr (.inl hOpener), hOpens⟩
  rcases (hMem ri).mp hRi with hRis | hRis
  · exact hOnly ri hRis other hOther
  · exact absurd hOther (hForeign ri hRis other)

theorem opensWith_keyAgree {kari : KeyAgreeRecipientInfo} {own : Certificate} {cek : Octets}
    (hCert : parseRecipientCert env keys.recipientCertDer = .ok (some own))
    (h : OpensWith env keys (.keyAgree kari) cek) :
    ∃ rek ∈ kari.recipientEncryptedKeys, rekMatchesCert env rek.rid own = true ∧
      ∃ kek kekLen warnings, kariKek env keys.privateKeyDer kari = .ok (kek, kekLen, warnings) ∧
        aesKeyUnwrap env kek kekLen rek.encryptedKey = .ok cek := by
  obtain ⟨cert, hOther, hOpens⟩ := h
  obtain rfl : some own = cert := Except.ok.inj (hCert.symm.trans hOther)
  cases hOpens with
  | keyAgree present derived listed named unwrapped =>
      cases present
      exact ⟨_, listed, named, _, _, _, derived, unwrapped⟩

/-- The RecipientInfo of another certificate stands in front. -/
theorem recoverCek_robust_sample :
    ∃ warnings, recoverCek roundTripExternals sampleKeys [xRecipient, ecRecipient] 32 =
      .ok (sampleCek.val, warnings) := by
  have hCert : parseRecipientCert roundTripExternals sampleKeys.recipientCertDer =
      .ok (some ecCert) := by decide +kernel
  have hOwn : tryRecipient roundTripExternals sampleKeys (some ecCert) ecRecipient =
      some (.ok (sampleCek.val, [])) := by decide +kernel
  refine (recoverCek_robust roundTripExternals sampleKeys 32).1 [ecRecipient] [xRecipient]
    [xRecipient, ecRecipient] sampleCek.val sampleCek.property ?_ ?_ ?_ (List.Perm.swap ..)
  · intro ri hMem other hOther
    rw [List.mem_singleton.mp hMem, ecRecipient] at hOther
    obtain ⟨rek, hListed, -, kek, kekLen, warnings, hDerived, hUnwrap⟩ :=
      opensWith_keyAgree hCert hOther
    rw [List.mem_singleton.mp hListed] at hUnwrap
    have hKek : kariKek roundTripExternals sampleKeys.privateKeyDer (kariOf ecCert
        (ecOriginatorKey ecSecp256r1 ecEphemeralPoint) dhStdSha256Oid wrapAlg ecWrapped) =
        .ok (ecKek, 32, []) := by decide +kernel
    rw [hKek] at hDerived
    cases hDerived
    have hCek : aesKeyUnwrap roundTripExternals ecKek 32 ecWrapped = .ok sampleCek.val := by
      decide +kernel
    exact Except.ok.inj (hUnwrap.symm.trans hCek)
  · exact ⟨ecRecipient, List.mem_singleton_self _, sampleCek.val, some ecCert, hCert,
      opens_of_tryRecipient hOwn⟩
  · intro ri hMem other hOther
    rw [List.mem_singleton.mp hMem, xRecipient] at hOther
    obtain ⟨rek, hListed, hNamed, -⟩ := opensWith_keyAgree hCert hOther
    rw [List.mem_singleton.mp hListed] at hNamed
    have hForeign : rekMatchesCert roundTripExternals
        (.issuerAndSerialNumber (issuerAndSerialNumberOf xCert)) ecCert = false := by decide +kernel
    exact Bool.false_ne_true (hForeign.symm.trans hNamed)

end Robustness

end Smime
