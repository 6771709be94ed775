import Mathlib.Data.List.Forall2
import Smime.SenderMatching

/-! Addresses whose domain is written in U-labels or in A-labels, before the
resolver: what is converted is what stands behind the first at sign. -/
namespace Smime

open Mail Utils

/-- An address of RFC 5322 and RFC 6531. A quoted local part may contain an at
sign. -/
structure AddrSpec where
  localPart : String
  domain : String

namespace AddrSpec

def text (address : AddrSpec) : String :=
  address.localPart ++ "@" ++ address.domain

def withDomain (address : AddrSpec) (domain : String) : AddrSpec :=
  { address with domain := domain }

/-- What is compared as the local part. -/
def front (address : AddrSpec) : String :=
  match splitOnce '@' address.localPart with
  | none => address.localPart
  | some (before, _) => before

/-- What is converted as the domain: with an at sign in the local part, also
what of the local part is behind it. -/
def rear (address : AddrSpec) : String :=
  match splitOnce '@' address.localPart with
  | none => address.domain
  | some (_, behind) => behind ++ "@" ++ address.domain

theorem splitOnce_text (address : AddrSpec) :
    splitOnce '@' address.text = some (address.front, address.rear) := by
  unfold text front rear
  cases hCut : splitOnce '@' address.localPart with
  | none => exact splitOnce_append (splitOnce_eq_none_iff.mp hCut)
  | some parts =>
      obtain ⟨before, behind⟩ := parts
      have hWhole : address.localPart ++ "@" ++ address.domain =
          before ++ String.singleton '@' ++ (behind ++ "@" ++ address.domain) := by
        rw [eq_append_of_splitOnce hCut, String.append_assoc, String.append_assoc,
          String.append_assoc, String.append_assoc, String.append_assoc]
        rfl
      rw [hWhole]
      exact splitOnce_append (splitOnce_eq_some_iff.mp hCut).2

theorem front_withDomain (address : AddrSpec) (domain : String) :
    (address.withDomain domain).front = address.front := rfl

theorem rear_of_no_at {address : AddrSpec} (h : '@' ∉ address.localPart.toList) :
    address.rear = address.domain := by
  rw [rear, splitOnce_eq_none_iff.mpr h]

end AddrSpec

section Statement

variable (env : Externals)

/-- The U-label form and the A-label form of one domain are mapped to one text. -/
def FormsOfOneDomain (first second : String) : Prop :=
  ∃ ascii : String, env.domainToAscii first = some ascii ∧ env.domainToAscii second = some ascii

/-- Domains are compared converted, up to ASCII case. -/
def SameDomain (first second : String) : Prop :=
  eqIgnoreAsciiCase (domainKey env first) (domainKey env second) = true

/-- `after` is `before`, or `second` in the place of `first`. -/
def Swapped (first second before after : String) : Prop :=
  after = before ∨ before = first ∧ after = second

/-- With `second` for `first` anywhere, the resolver accepts and warns the same. -/
def Interchangeable (first second : String) : Prop :=
  ∀ (resolver : SenderResolver) (name : Option String) (names : List String)
    (address address' : String) (emails emails' : List String),
    Swapped first second address address' → List.Forall₂ (Swapped first second) emails emails' →
      (AcceptsSender env resolver address' name emails' names ↔
          AcceptsSender env resolver address name emails names) ∧
        (WarnsOfCase env resolver address' name emails' names ↔
          WarnsOfCase env resolver address name emails names)

/-- The form of its domain does not matter for an address, and it is not taken
for `other`, which has a different domain. -/
structure MatchesByDomain (address : AddrSpec) (form : String) (other : AddrSpec) : Prop where
  forms : FormsOfOneDomain env address.domain form →
    Interchangeable env address.text (address.withDomain form).text
  apart : ¬ SameDomain env address.domain other.domain →
    ¬ SameMailbox env address.text other.text

/-- What is behind the first at sign says as much as the domain. -/
structure ConvertsDomain (address : AddrSpec) (form : String) (other : AddrSpec) : Prop where
  forms : FormsOfOneDomain env address.domain form →
    SameDomain env address.rear (address.withDomain form).rear
  apart : ¬ SameDomain env address.domain other.domain →
    eqIgnoreAsciiCase address.front other.front = true →
      ¬ SameDomain env address.rear other.rear

end Statement

section Swapping

variable {env : Externals} {first second : String}

/-- A swap for an address that matches leaves the matches and the spelling. -/
theorem Swapped.sameMailbox_iff {before after before' after' : String}
    (hSame : SameMailbox env first second) (h : Swapped first second before after)
    (h' : Swapped first second before' after') :
    SameMailbox env after after' ↔ SameMailbox env before before' := by
  have hKept : ∀ {before after : String}, Swapped first second before after →
      SameMailbox env before after := by
    rintro before after (rfl | ⟨rfl, rfl⟩)
    · exact eqIgnoreAsciiCase_refl _
    · exact hSame
  constructor
  · exact fun hAfter => ((hKept h).trans hAfter).trans (hKept h').symm
  · exact fun hBefore => ((hKept h).symm.trans hBefore).trans (hKept h')

theorem Swapped.localPart_eq {before after : String} (hLocal : localPart second = localPart first)
    (h : Swapped first second before after) : localPart after = localPart before := by
  rcases h with rfl | ⟨rfl, rfl⟩
  · rfl
  · exact hLocal

theorem certified_swapped {address address' : String} {emails emails' : List String}
    (hSame : SameMailbox env first second) (hAddress : Swapped first second address address')
    (hEmails : List.Forall₂ (Swapped first second) emails emails') :
    SenderResolver.Certified env address' emails' ↔ SenderResolver.Certified env address emails := by
  unfold SenderResolver.Certified
  simp only [sanMatches_iff]
  induction hEmails with
  | nil => simp
  | cons hEmail _ ih => simp only [List.exists_mem_cons_iff, hEmail.sameMailbox_iff hSame hAddress, ih]

/-- The first matches are in the same place. -/
theorem firstMatch_swapped {address address' : String} {emails emails' : List String}
    (hSame : SameMailbox env first second) (hLocal : localPart second = localPart first)
    (hAddress : Swapped first second address address')
    (hEmails : List.Forall₂ (Swapped first second) emails emails') :
    (∃ email : String, firstMatch env address' emails' = some email ∧
        localPart email ≠ localPart address') ↔
      ∃ email : String, firstMatch env address emails = some email ∧
        localPart email ≠ localPart address := by
  unfold firstMatch
  induction hEmails with
  | nil => simp
  | @cons email email' _ _ hEmail _ ih =>
      have hIff : SenderResolver.sanMatches env (emailDomainToALabel env address') email' =
          SenderResolver.sanMatches env (emailDomainToALabel env address) email := by
        rw [Bool.eq_iff_iff, sanMatches_iff, sanMatches_iff]
        exact hEmail.sameMailbox_iff hSame hAddress
      rw [List.find?_cons, List.find?_cons, hIff]
      cases SenderResolver.sanMatches env (emailDomainToALabel env address) email with
      | true =>
          simp only [Option.some.injEq, exists_eq_left', hEmail.localPart_eq hLocal,
            hAddress.localPart_eq hLocal]
      | false => exact ih

theorem interchangeable_of_same (hSame : SameMailbox env first second)
    (hLocal : localPart second = localPart first) : Interchangeable env first second := by
  intro resolver name names address address' emails emails' hAddress hEmails
  have hAccepts : AcceptsSender env resolver address' name emails' names ↔
      AcceptsSender env resolver address name emails names := by
    rw [acceptsSender_iff, acceptsSender_iff, certified_swapped hSame hAddress hEmails]
  refine ⟨hAccepts, ?_⟩
  rw [warnsOfCase_iff, warnsOfCase_iff, hAccepts, firstMatch_swapped hSame hLocal hAddress hEmails]

/-- A certificate of `first` is also one of what can be put for it. -/
theorem Interchangeable.same (h : Interchangeable env first second) :
    SameMailbox env second first := by
  have hAccepts : AcceptsSender env {} first none [first] [] :=
    acceptsSender_iff.mpr ⟨⟨first, List.mem_singleton_self _, eqIgnoreAsciiCase_refl _⟩, by simp⟩
  have hSwapped := (h {} none [] first first [first] [second] (.inl rfl)
    (.cons (.inr ⟨rfl, rfl⟩) .nil)).1.mpr hAccepts
  obtain ⟨email, hEmail, hSame⟩ := (acceptsSender_iff.mp hSwapped).1
  rw [List.mem_singleton] at hEmail
  subst hEmail
  exact hSame

end Swapping

section Forms

variable {env : Externals}

theorem AddrSpec.sameMailbox_iff {address other : AddrSpec} :
    SameMailbox env address.text other.text ↔
      eqIgnoreAsciiCase address.front other.front = true ∧
        SameDomain env address.rear other.rear :=
  Utils.sameMailbox_iff address.splitOnce_text other.splitOnce_text

theorem interchangeable_iff {address : AddrSpec} {form : String} :
    Interchangeable env address.text (address.withDomain form).text ↔
      SameDomain env address.rear (address.withDomain form).rear := by
  have hLocal : localPart (address.withDomain form).text = localPart address.text := by
    rw [localPart, localPart, AddrSpec.splitOnce_text, AddrSpec.splitOnce_text,
      address.front_withDomain form]
    rfl
  constructor
  · exact fun h => (AddrSpec.sameMailbox_iff.mp h.same.symm).2
  · intro hRear
    refine interchangeable_of_same (AddrSpec.sameMailbox_iff.mpr ⟨?_, hRear⟩) hLocal
    rw [address.front_withDomain form]
    exact eqIgnoreAsciiCase_refl _

theorem convertsDomain_of_no_at {address other : AddrSpec} {form : String}
    (hAddress : '@' ∉ address.localPart.toList) (hOther : '@' ∉ other.localPart.toList) :
    ConvertsDomain env address form other := by
  have hForm : '@' ∉ (address.withDomain form).localPart.toList := hAddress
  constructor
  · rintro ⟨ascii, hDomain, hSwapped⟩
    rw [AddrSpec.rear_of_no_at hAddress, AddrSpec.rear_of_no_at hForm]
    unfold SameDomain domainKey
    rw [hDomain, AddrSpec.withDomain, hSwapped]
    exact eqIgnoreAsciiCase_refl _
  · intro hDifferent _
    rwa [AddrSpec.rear_of_no_at hAddress, AddrSpec.rear_of_no_at hOther]

/-- The form of the domain does not matter, and different domains do not match,
exactly when the texts behind the first at sign tell the domains as well; they do
where the local parts have no at sign. -/
theorem matchesByDomain_iff (env : Externals) (address : AddrSpec) (form : String)
    (other : AddrSpec) :
    (MatchesByDomain env address form other ↔ ConvertsDomain env address form other) ∧
      ('@' ∉ address.localPart.toList → '@' ∉ other.localPart.toList →
        MatchesByDomain env address form other) := by
  have hIff : MatchesByDomain env address form other ↔ ConvertsDomain env address form other := by
    constructor
    · intro h
      refine ⟨fun hForms => interchangeable_iff.mp (h.forms hForms), fun hDomain hFront hRear => ?_⟩
      exact h.apart hDomain (AddrSpec.sameMailbox_iff.mpr ⟨hFront, hRear⟩)
    · intro h
      refine ⟨fun hForms => interchangeable_iff.mpr (h.forms hForms), fun hDomain hSame => ?_⟩
      obtain ⟨hFront, hRear⟩ := AddrSpec.sameMailbox_iff.mp hSame
      exact h.apart hDomain hFront hRear
  exact ⟨hIff, fun hAddress hOther => hIff.mpr (convertsDomain_of_no_at hAddress hOther)⟩

/-- The conversion of `ä.ee`, alone and behind a quoted at sign. -/
def estonianExternals : Externals :=
  { essExternals with
    domainToAscii := fun domain =>
      if domain = "ä.ee" then some "xn--4ca.ee"
      else if domain = "b\"@ä.ee" then some "xn--b\"@-sla.ee"
      else some domain }

/-- The two forms of the domain of a quoted address are told apart, and the
address is taken for one of a different domain. -/
theorem not_matchesByDomain :
    ¬ MatchesByDomain estonianExternals ⟨"\"a@b\"", "ä.ee"⟩ "xn--4ca.ee" ⟨"\"a@b\"", "ä.ee"⟩ ∧
      ¬ MatchesByDomain estonianExternals ⟨"\"a@b\"", "ä.ee"⟩ "ä.ee"
        ⟨"\"a@xn--b\"", "-sla.ee"⟩ := by
  constructor
  · intro h
    have hForms : FormsOfOneDomain estonianExternals "ä.ee" "xn--4ca.ee" :=
      ⟨"xn--4ca.ee", by decide +kernel, by decide +kernel⟩
    have hRear := interchangeable_iff.mp (h.forms hForms)
    exact absurd hRear (by unfold SameDomain; decide +kernel)
  · intro h
    have hDifferent : ¬ SameDomain estonianExternals "ä.ee" "-sla.ee" := by
      unfold SameDomain
      decide +kernel
    exact absurd (AddrSpec.sameMailbox_iff.mpr ⟨by decide +kernel, by unfold SameDomain; decide +kernel⟩)
      (h.apart hDifferent)

end Forms

end Smime
