import Mathlib.Data.List.TakeDrop
import Mathlib.Data.List.TakeWhile
import Smime.Mail.Message
import Smime.Utils.Text

/-! Addresses as `email_domain_to_a_label` takes them: cut at the first at sign,
and compared up to ASCII case. -/
namespace Smime.Utils

open Mail (eqIgnoreAsciiCase)

section Cut

/-- A list with a mark can be cut at its first one only. -/
theorem append_cons_inj {α : Type} {mark : α} {before before' behind behind' : List α}
    (h : mark ∉ before) (h' : mark ∉ before') :
    before ++ mark :: behind = before' ++ mark :: behind' ↔ before = before' ∧ behind = behind' := by
  constructor
  · intro hEq
    induction before generalizing before' with
    | nil =>
        cases before' with
        | nil => exact ⟨rfl, (List.cons.inj hEq).2⟩
        | cons first rest =>
            rw [List.nil_append, List.cons_append, List.cons.injEq] at hEq
            exact absurd (hEq.1 ▸ List.mem_cons_self) h'
    | cons first rest ih =>
        cases before' with
        | nil =>
            rw [List.nil_append, List.cons_append, List.cons.injEq] at hEq
            exact absurd (hEq.1 ▸ List.mem_cons_self) h
        | cons first' rest' =>
            rw [List.cons_append, List.cons_append, List.cons.injEq] at hEq
            obtain ⟨rfl, hBehind⟩ := ih (fun hMem => h (List.mem_cons_of_mem _ hMem))
              (fun hMem => h' (List.mem_cons_of_mem _ hMem)) hEq.2
            exact ⟨by rw [hEq.1], hBehind⟩
  · rintro ⟨rfl, rfl⟩
    rfl

theorem splitOnce_eq_some_iff {separator : Char} {text before behind : String} :
    splitOnce separator text = some (before, behind) ↔
      text.toList = before.toList ++ separator :: behind.toList ∧ separator ∉ before.toList := by
  unfold splitOnce
  rw [List.span_eq_takeWhile_dropWhile]
  have hWhole := @List.takeWhile_append_dropWhile _ (· != separator) text.toList
  have hBefore : separator ∉ text.toList.takeWhile (· != separator) := by
    intro hMem
    simpa using List.mem_takeWhile_imp hMem
  cases hDrop : text.toList.dropWhile (· != separator) with
  | nil =>
      rw [hDrop, List.append_nil] at hWhole
      simp only [reduceCtorEq, false_iff, not_and]
      intro hText
      rw [hWhole, hText] at hBefore
      exact absurd (List.mem_append_right _ List.mem_cons_self) hBefore
  | cons mark rest =>
      have hMark : mark = separator := by
        have hHead := List.head_dropWhile_not (· != separator) (by rw [hDrop]; exact List.cons_ne_nil _ _)
        simpa [hDrop] using hHead
      rw [hDrop, hMark] at hWhole
      simp only [Option.some.injEq, Prod.mk.injEq]
      rw [← String.toList_inj, ← String.toList_inj, String.toList_ofList, String.toList_ofList]
      constructor
      · rintro ⟨hFirst, hSecond⟩
        rw [← hFirst, ← hSecond]
        exact ⟨hWhole.symm, hBefore⟩
      · rintro ⟨hText, hNot⟩
        exact (append_cons_inj hBefore hNot).mp (hWhole.trans hText)

theorem splitOnce_eq_none_iff {separator : Char} {text : String} :
    splitOnce separator text = none ↔ separator ∉ text.toList := by
  constructor
  · intro hNone hMem
    obtain ⟨before, behind, hText, hNot⟩ := List.eq_append_cons_of_mem hMem
    have hSome : splitOnce separator text = some (String.ofList before, String.ofList behind) := by
      rw [splitOnce_eq_some_iff, String.toList_ofList, String.toList_ofList]
      exact ⟨hText, hNot⟩
    rw [hNone] at hSome
    cases hSome
  · intro hNot
    rw [Option.eq_none_iff_forall_ne_some]
    rintro ⟨before, behind⟩ hSome
    rw [(splitOnce_eq_some_iff.mp hSome).1] at hNot
    exact hNot (List.mem_append_right _ List.mem_cons_self)

/-- A text with one mark put in is cut at this mark. -/
theorem splitOnce_append {mark : Char} {before behind : String} (h : mark ∉ before.toList) :
    splitOnce mark (before ++ String.singleton mark ++ behind) = some (before, behind) := by
  rw [splitOnce_eq_some_iff, String.toList_append, String.toList_append, String.toList_singleton,
    List.append_assoc]
  exact ⟨rfl, h⟩

end Cut

section AsciiCase

theorem eqIgnoreAsciiCase_iff {first second : String} :
    eqIgnoreAsciiCase first second = true ↔
      first.toList.map Char.toLower = second.toList.map Char.toLower := by
  rw [eqIgnoreAsciiCase, beq_iff_eq]

theorem eqIgnoreAsciiCase_refl (text : String) : eqIgnoreAsciiCase text text = true :=
  eqIgnoreAsciiCase_iff.mpr rfl

theorem eqIgnoreAsciiCase_comm (first second : String) :
    eqIgnoreAsciiCase first second = eqIgnoreAsciiCase second first := by
  rw [Bool.eq_iff_iff, eqIgnoreAsciiCase_iff, eqIgnoreAsciiCase_iff]
  exact eq_comm

theorem eqIgnoreAsciiCase_trans {first second third : String}
    (h : eqIgnoreAsciiCase first second = true) (h' : eqIgnoreAsciiCase second third = true) :
    eqIgnoreAsciiCase first third = true := by
  rw [eqIgnoreAsciiCase_iff] at *
  exact h.trans h'

theorem toLower_eq_at_iff (c : Char) : c.toLower = '@' ↔ c = '@' := by
  constructor
  · intro hLower
    unfold Char.toLower at hLower
    split at hLower
    next hUpper =>
      have hVal := congrArg Char.val hLower
      have hFrom : (65 : UInt32) ≤ c.val := hUpper.1
      have hTo : c.val ≤ (90 : UInt32) := hUpper.2
      have hSum : c.val + 32 = (64 : UInt32) := hVal
      rw [UInt32.le_iff_toNat_le] at hFrom hTo
      rw [← UInt32.toNat_inj, UInt32.toNat_add] at hSum
      simp only [UInt32.reduceToNat] at hFrom hTo hSum
      omega
    next => exact hLower
  · rintro rfl
    rfl

theorem at_mem_map_toLower {text : List Char} : '@' ∈ text.map Char.toLower ↔ '@' ∈ text := by
  rw [List.mem_map]
  constructor
  · rintro ⟨c, hMem, hLower⟩
    rwa [(toLower_eq_at_iff c).mp hLower] at hMem
  · exact fun hMem => ⟨'@', hMem, rfl⟩

/-- Two texts with an at sign are the same up to case when their parts are. -/
theorem eqIgnoreAsciiCase_append_at {before behind before' behind' : String}
    (h : '@' ∉ before.toList) (h' : '@' ∉ before'.toList) :
    eqIgnoreAsciiCase (before ++ "@" ++ behind) (before' ++ "@" ++ behind') = true ↔
      eqIgnoreAsciiCase before before' = true ∧ eqIgnoreAsciiCase behind behind' = true := by
  have hLower : ∀ first second : String, (first ++ "@" ++ second).toList.map Char.toLower =
      first.toList.map Char.toLower ++ '@' :: second.toList.map Char.toLower := by
    intro first second
    rw [String.toList_append, String.toList_append, List.append_assoc, List.map_append]
    rfl
  rw [eqIgnoreAsciiCase_iff, eqIgnoreAsciiCase_iff, eqIgnoreAsciiCase_iff, hLower, hLower]
  exact append_cons_inj (mt at_mem_map_toLower.mp h) (mt at_mem_map_toLower.mp h')

end AsciiCase

section Label

variable {env : Externals}

/-- What of a domain is compared: its A-label form, where it has one. -/
def domainKey (env : Externals) (domain : String) : String :=
  (env.domainToAscii domain).getD domain

theorem eq_append_of_splitOnce {address localPart domain : String}
    (h : splitOnce '@' address = some (localPart, domain)) :
    address = localPart ++ "@" ++ domain := by
  rw [← String.toList_inj, (splitOnce_eq_some_iff.mp h).1, String.toList_append,
    String.toList_append, List.append_assoc]
  rfl

theorem emailDomainToALabel_eq {address localPart domain : String}
    (h : splitOnce '@' address = some (localPart, domain)) :
    emailDomainToALabel env address = localPart ++ "@" ++ domainKey env domain := by
  unfold emailDomainToALabel domainKey
  rw [h]
  dsimp only
  cases env.domainToAscii domain with
  | none => exact eq_append_of_splitOnce h
  | some ascii => rfl

theorem emailDomainToALabel_of_no_at {address : String} (h : splitOnce '@' address = none) :
    emailDomainToALabel env address = address := by
  unfold emailDomainToALabel
  rw [h]

/-- The conversion keeps the local part. -/
theorem splitOnce_emailDomainToALabel (env : Externals) (address : String) :
    splitOnce '@' (emailDomainToALabel env address) =
      (splitOnce '@' address).map fun parts => (parts.1, domainKey env parts.2) := by
  cases hSplit : splitOnce '@' address with
  | none => rw [emailDomainToALabel_of_no_at hSplit, hSplit, Option.map_none]
  | some parts =>
      rw [emailDomainToALabel_eq hSplit]
      exact splitOnce_append (splitOnce_eq_some_iff.mp hSplit).2

/-- Two addresses are the same up to ASCII case and the form of the domain. -/
def SameMailbox (env : Externals) (first second : String) : Prop :=
  eqIgnoreAsciiCase (emailDomainToALabel env first) (emailDomainToALabel env second) = true

theorem SameMailbox.symm {first second : String} (h : SameMailbox env first second) :
    SameMailbox env second first :=
  (eqIgnoreAsciiCase_comm _ _).trans h

theorem SameMailbox.trans {first second third : String} (h : SameMailbox env first second)
    (h' : SameMailbox env second third) : SameMailbox env first third :=
  eqIgnoreAsciiCase_trans h h'

/-- They are compared part by part. -/
theorem sameMailbox_iff {first second localPart domain localPart' domain' : String}
    (h : splitOnce '@' first = some (localPart, domain))
    (h' : splitOnce '@' second = some (localPart', domain')) :
    SameMailbox env first second ↔
      eqIgnoreAsciiCase localPart localPart' = true ∧
        eqIgnoreAsciiCase (domainKey env domain) (domainKey env domain') = true := by
  unfold SameMailbox
  rw [emailDomainToALabel_eq h, emailDomainToALabel_eq h']
  exact eqIgnoreAsciiCase_append_at (splitOnce_eq_some_iff.mp h).2 (splitOnce_eq_some_iff.mp h').2

/-- An address with an at sign is the same only as one with it. -/
theorem SameMailbox.at_mem_iff {first second : String} (h : SameMailbox env first second) :
    (splitOnce '@' first).isSome = (splitOnce '@' second).isSome := by
  have hCut : ∀ address : String,
      (splitOnce '@' address).isSome = true ↔
        '@' ∈ (emailDomainToALabel env address).toList.map Char.toLower := by
    intro address
    rw [at_mem_map_toLower, ← not_iff_not, ← splitOnce_eq_none_iff, splitOnce_emailDomainToALabel,
      Option.map_eq_none_iff, Bool.not_eq_true, Option.isSome_eq_false_iff,
      Option.isNone_iff_eq_none]
  rw [Bool.eq_iff_iff, hCut, hCut, eqIgnoreAsciiCase_iff.mp h]

end Label

end Smime.Utils
