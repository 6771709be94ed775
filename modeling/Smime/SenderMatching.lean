import Smime.SenderResolution
import Smime.SignerViolations
import Smime.Utils.Address

/-! Which addresses of a certificate the resolver takes for the inner From, and
when it warns that the local parts differ in case. -/
namespace Smime

open Mail Utils

variable {env : Externals}

section Warning

/-- The local part of an address, where it has an at sign. -/
def localPart (address : String) : Option String :=
  (splitOnce '@' address).map Prod.fst

/-- The resolver is updated with the address. -/
def AcceptsSender (env : Externals) (resolver : SenderResolver) (address : String)
    (name : Option String) (emails names : List String) : Prop :=
  (resolver.update env (some address) name emails names).2.1 = true

/-- It warns of the case of the local part. -/
def WarnsOfCase (env : Externals) (resolver : SenderResolver) (address : String)
    (name : Option String) (emails names : List String) : Prop :=
  ∃ sender cert : String, SmimeError.localPartCaseMismatch sender cert ∈
    (resolver.update env (some address) name emails names).2.2

/-- The first address that matches. -/
def firstMatch (env : Externals) (address : String) (emails : List String) : Option String :=
  emails.find? (SenderResolver.sanMatches env (emailDomainToALabel env address))

theorem sanMatches_iff {address email : String} :
    SenderResolver.sanMatches env (emailDomainToALabel env address) email = true ↔
      SameMailbox env email address :=
  Iff.rfl

/-- A warning is about the first match only. -/
theorem localPartWarnings_iff {address : String} {emails : List String} :
    (∃ sender cert : String, SmimeError.localPartCaseMismatch sender cert ∈
        SenderResolver.localPartWarnings env address emails) ↔
      ∃ email : String, firstMatch env address emails = some email ∧
        localPart email ≠ localPart address := by
  unfold SenderResolver.localPartWarnings firstMatch
  dsimp only
  cases hFirst : emails.find? (SenderResolver.sanMatches env (emailDomainToALabel env address)) with
  | none => cases splitOnce '@' address <;> simp
  | some email =>
      have hSame : SameMailbox env email address := sanMatches_iff.mp (List.find?_some hFirst)
      have hAt := hSame.at_mem_iff
      cases hAddress : splitOnce '@' address with
      | none =>
          rw [hAddress, Option.isSome_none, Option.isSome_eq_false_iff, Option.isNone_iff_eq_none] at hAt
          simp [localPart, hAddress, hAt]
      | some parts =>
          obtain ⟨fromLocal, fromDomain⟩ := parts
          rw [hAddress, Option.isSome_some, Option.isSome_iff_exists] at hAt
          obtain ⟨⟨certLocal, certDomain⟩, hEmail⟩ := hAt
          have hCase : eqIgnoreAsciiCase fromLocal certLocal = true := by
            rw [eqIgnoreAsciiCase_comm]
            exact ((sameMailbox_iff hEmail hAddress).mp hSame).1
          have hLocal : splitOnce '@' (emailDomainToALabel env email) =
              some (certLocal, domainKey env certDomain) := by
            rw [splitOnce_emailDomainToALabel, hEmail, Option.map_some]
          have hCertLocal : localPart email = some certLocal := by rw [localPart, hEmail]; rfl
          have hFromLocal : localPart address = some fromLocal := by rw [localPart, hAddress]; rfl
          dsimp only
          rw [hLocal]
          by_cases hSpelled : fromLocal = certLocal
          · simp [hSpelled, hCertLocal, hFromLocal]
          · simp [hSpelled, hCase, hCertLocal, hFromLocal, Ne.symm hSpelled]

/-- What an update says, by the matches among the addresses. -/
theorem acceptsSender_iff {resolver : SenderResolver} {address : String} {name : Option String}
    {emails names : List String} :
    AcceptsSender env resolver address name emails names ↔
      SenderResolver.Certified env address emails ∧
        ¬ (resolver.senderMatched = true ∧ resolver.commentMatched = true) := by
  have hMatches : emails.any
      (SenderResolver.sanMatches env (emailDomainToALabel env address)) = true ↔
        SenderResolver.Certified env address emails := List.any_eq_true
  unfold AcceptsSender SenderResolver.update
  rw [← hMatches, ← Bool.and_eq_true_iff]
  dsimp only
  cases emails.any (SenderResolver.sanMatches env (emailDomainToALabel env address)) <;>
    cases resolver.senderMatched && resolver.commentMatched <;> simp

theorem warnsOfCase_iff {resolver : SenderResolver} {address : String} {name : Option String}
    {emails names : List String} :
    WarnsOfCase env resolver address name emails names ↔
      AcceptsSender env resolver address name emails names ∧
        ∃ email : String, firstMatch env address emails = some email ∧
          localPart email ≠ localPart address := by
  unfold WarnsOfCase AcceptsSender SenderResolver.update
  dsimp only
  split
  · simp
  · dsimp only
    rw [localPartWarnings_iff, eq_self_iff_true, true_and]

end Warning

section Order

/-- Some address of the certificate is the same as `address`, and none is with
the very same local part. -/
def OnlyOtherSpellings (env : Externals) (address : String) (emails : List String) : Prop :=
  SenderResolver.Certified env address emails ∧
    ∀ email ∈ emails, SameMailbox env email address → localPart email ≠ localPart address

/-- A fresh resolver goes by the set of the addresses. -/
structure WarnsBySet (env : Externals) (address : String) (name : Option String)
    (emails names : List String) : Prop where
  exact : WarnsOfCase env {} address name emails names ↔ OnlyOtherSpellings env address emails
  anyOrder : ∀ shuffled : List String, shuffled.Perm emails →
    let updated := ({} : SenderResolver).update env (some address) name emails names
    let other := ({} : SenderResolver).update env (some address) name shuffled names
    other.1 = updated.1 ∧ other.2.1 = updated.2.1 ∧
      (WarnsOfCase env {} address name shuffled names ↔
        WarnsOfCase env {} address name emails names)

/-- State and acceptance do not depend on the order of the addresses. -/
theorem update_perm {resolver : SenderResolver} {address : String} {name : Option String}
    {emails shuffled names : List String} (h : shuffled.Perm emails) :
    let updated := resolver.update env (some address) name emails names
    let other := resolver.update env (some address) name shuffled names
    other.1 = updated.1 ∧ other.2.1 = updated.2.1 := by
  unfold SenderResolver.update
  dsimp only
  rw [h.any_eq]
  split_ifs <;> exact ⟨rfl, rfl⟩

/-- With a match in front, the warning is about it. -/
theorem warnsOfCase_cons {address email : String} {name : Option String} {emails names : List String}
    (hSame : SameMailbox env email address) :
    WarnsOfCase env {} address name (email :: emails) names ↔
      localPart email ≠ localPart address := by
  have hFirst : firstMatch env address (email :: emails) = some email :=
    List.find?_cons_of_pos (sanMatches_iff.mpr hSame)
  have hAccepts : AcceptsSender env {} address name (email :: emails) names :=
    acceptsSender_iff.mpr ⟨⟨email, List.mem_cons_self, hSame⟩, by simp⟩
  rw [warnsOfCase_iff, hFirst]
  simp [hAccepts]

/-- When the matching addresses are all spelled alike, the first says it. -/
theorem warnsOfCase_of_alike {address : String} {name : Option String} {emails names : List String}
    (h : (∀ email ∈ emails, SameMailbox env email address → localPart email = localPart address) ∨
      ∀ email ∈ emails, SameMailbox env email address → localPart email ≠ localPart address) :
    WarnsOfCase env {} address name emails names ↔ OnlyOtherSpellings env address emails := by
  rw [warnsOfCase_iff, acceptsSender_iff]
  constructor
  · rintro ⟨⟨hCertified, -⟩, email, hFirst, hSpelled⟩
    have hSame := sanMatches_iff.mp (List.find?_some hFirst)
    have hMem := List.mem_of_find?_eq_some hFirst
    rcases h with hExact | hOther
    · exact absurd (hExact email hMem hSame) hSpelled
    · exact ⟨hCertified, hOther⟩
  · rintro ⟨hCertified, hOther⟩
    refine ⟨⟨hCertified, by simp⟩, ?_⟩
    obtain ⟨email, hFirst⟩ := Option.isSome_iff_exists.mp (List.find?_isSome.mpr hCertified)
    exact ⟨email, hFirst, hOther email (List.mem_of_find?_eq_some hFirst)
      (sanMatches_iff.mp (List.find?_some hFirst))⟩

/-- The warning goes by the set of the addresses exactly when all the matching
ones have the local part of the address, or none has. -/
theorem warnsBySet_iff (env : Externals) (address : String) (name : Option String)
    (emails names : List String) :
    WarnsBySet env address name emails names ↔
      (∀ email ∈ emails, SameMailbox env email address → localPart email = localPart address) ∨
        ∀ email ∈ emails, SameMailbox env email address → localPart email ≠ localPart address := by
  constructor
  · intro h
    by_contra hMixed
    push Not at hMixed
    obtain ⟨⟨other, hOther, hOtherSame, hOtherSpelled⟩, exact, hExact, hExactSame, hExactSpelled⟩ :=
      hMixed
    have hWarns := (h.anyOrder _ (List.perm_cons_erase hOther).symm).2.2
    have hSilent := (h.anyOrder _ (List.perm_cons_erase hExact).symm).2.2
    rw [warnsOfCase_cons hOtherSame] at hWarns
    rw [warnsOfCase_cons hExactSame] at hSilent
    exact hSilent.mpr (hWarns.mp hOtherSpelled) hExactSpelled
  · intro h
    refine ⟨warnsOfCase_of_alike h, fun shuffled hPerm => ?_⟩
    obtain ⟨hState, hAccepted⟩ := @update_perm env {} address name emails shuffled names hPerm
    refine ⟨hState, hAccepted, ?_⟩
    have hShuffled := @warnsOfCase_of_alike env address name shuffled names
      (by simpa only [hPerm.mem_iff] using h)
    rw [hShuffled, warnsOfCase_of_alike h]
    unfold OnlyOtherSpellings SenderResolver.Certified
    simp only [hPerm.mem_iff]

/-- Subject and subjectAltName spell one address in two ways, and the resolver
warns although the From is one of them. -/
theorem not_warnsBySet :
    ¬ WarnsBySet essExternals "anu@naide.ee" none ["Anu@naide.ee", "anu@naide.ee"] [] := by
  intro h
  have hOther : eqIgnoreAsciiCase (emailDomainToALabel essExternals "Anu@naide.ee")
      (emailDomainToALabel essExternals "anu@naide.ee") = true := by
    decide +kernel
  have hSpelled : localPart "Anu@naide.ee" ≠ localPart "anu@naide.ee" := by decide +kernel
  have hWarns := h.exact.mp ((warnsOfCase_cons hOther).mpr hSpelled)
  exact hWarns.2 "anu@naide.ee" (by simp) (eqIgnoreAsciiCase_refl _) rfl

end Order

end Smime
