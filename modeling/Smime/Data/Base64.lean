import Mathlib.Data.List.Basic

/-! The Base64 encoding of octets, and its decoding from text that is broken into
lines. -/
namespace Smime

def base64Digit (n : Nat) : UInt8 :=
  UInt8.ofNat
    (if n < 26 then n + 65 else if n < 52 then n + 71 else if n < 62 then n - 4
    else if n = 62 then 43 else 47)

/-- RFC 4648, section 4. -/
def base64 : List UInt8 → List UInt8
  | a :: b :: c :: rest =>
      let group := a.toNat * 65536 + b.toNat * 256 + c.toNat
      base64Digit (group / 262144) :: base64Digit (group / 4096 % 64) ::
        base64Digit (group / 64 % 64) :: base64Digit (group % 64) :: base64 rest
  | [a, b] =>
      let group := a.toNat * 1024 + b.toNat * 4
      [base64Digit (group / 4096), base64Digit (group / 64 % 64), base64Digit (group % 64), 61]
  | [a] => [base64Digit (a.toNat / 4), base64Digit (a.toNat % 4 * 16), 61, 61]
  | [] => []

namespace Base64

def isLineBreak (c : UInt8) : Bool := c == 0x0D || c == 0x0A

def isDigit (c : UInt8) : Bool :=
  (65 ≤ c && c ≤ 90) || (97 ≤ c && c ≤ 122) || (48 ≤ c && c ≤ 57) || c == 43 || c == 47

def value (c : UInt8) : Option Nat :=
  if 65 ≤ c ∧ c ≤ 90 then some (c.toNat - 65)
  else if 97 ≤ c ∧ c ≤ 122 then some (c.toNat - 71)
  else if 48 ≤ c ∧ c ≤ 57 then some (c.toNat + 4)
  else if c = 43 then some 62
  else if c = 47 then some 63
  else none

/-- Four characters for three octets; padding ends the text. -/
def decodeGroups : List UInt8 → Option (List UInt8)
  | [] => some []
  | w :: x :: y :: z :: rest => do
      let w ← value w
      let x ← value x
      if y = 61 ∧ z = 61 ∧ rest = [] then return [UInt8.ofNat ((w * 64 + x) / 16)]
      else do
        let y ← value y
        if z = 61 ∧ rest = [] then
          let group := w * 4096 + x * 64 + y
          return [UInt8.ofNat (group / 1024), UInt8.ofNat (group / 4 % 256)]
        else do
          let z ← value z
          let group := w * 262144 + x * 4096 + y * 64 + z
          let octets ← decodeGroups rest
          return UInt8.ofNat (group / 65536) :: UInt8.ofNat (group / 256 % 256) ::
            UInt8.ofNat (group % 256) :: octets
  | _ => none

/-- Line breaks are skipped wherever they stand. -/
def decode (text : List UInt8) : Option (List UInt8) :=
  decodeGroups (text.filter fun c => !isLineBreak c)

theorem forall_digit (P : Nat → Prop)
    (h : ∀ n : Fin 64, P n.val) {n : Nat} (hn : n < 64) : P n := h ⟨n, hn⟩

@[simp] theorem value_digit {n : Nat} (hn : n < 64) : value (base64Digit n) = some n :=
  forall_digit (fun n => value (base64Digit n) = some n) (by decide +kernel) hn

theorem isDigit_digit {n : Nat} (hn : n < 64) : isDigit (base64Digit n) = true :=
  forall_digit (fun n => isDigit (base64Digit n) = true) (by decide) hn

theorem not_isLineBreak_of_isDigit {c : UInt8} (h : isDigit c = true) : isLineBreak c = false := by
  cases hBreak : isLineBreak c with
  | false => rfl
  | true =>
      simp only [isLineBreak, Bool.or_eq_true, beq_iff_eq] at hBreak
      rcases hBreak with rfl | rfl
      · cases h
      · cases h

theorem digit_ne_pad {n : Nat} (hn : n < 64) : base64Digit n ≠ 61 :=
  forall_digit (fun n => base64Digit n ≠ 61) (by decide) hn

theorem decodeGroups_base64 (octets : List UInt8) : decodeGroups (base64 octets) = some octets := by
  fun_induction base64 octets with
  | case1 a b c rest group ih =>
      have ha := a.toNat_lt
      have hb := b.toNat_lt
      have hc := c.toNat_lt
      have hGroup : group = a.toNat * 65536 + b.toNat * 256 + c.toNat := rfl
      clear_value group
      have hW : group / 262144 < 64 := by omega
      have hX : group / 4096 % 64 < 64 := by omega
      have hY : group / 64 % 64 < 64 := by omega
      have hZ : group % 64 < 64 := by omega
      have hSum : group / 262144 * 262144 + group / 4096 % 64 * 4096 + group / 64 % 64 * 64 +
          group % 64 = group := by omega
      have hFirst : group / 65536 = a.toNat := by omega
      have hSecond : group / 256 % 256 = b.toNat := by omega
      have hThird : group % 256 = c.toNat := by omega
      simp [decodeGroups, value_digit hW, value_digit hX, value_digit hY, value_digit hZ,
        digit_ne_pad hY, digit_ne_pad hZ, hSum, hFirst, hSecond, hThird, ih]
  | case2 a b group =>
      have ha := a.toNat_lt
      have hb := b.toNat_lt
      have hGroup : group = a.toNat * 1024 + b.toNat * 4 := rfl
      clear_value group
      have hW : group / 4096 < 64 := by omega
      have hX : group / 64 % 64 < 64 := by omega
      have hY : group % 64 < 64 := by omega
      have hSum : group / 4096 * 4096 + group / 64 % 64 * 64 + group % 64 = group := by omega
      have hFirst : group / 1024 = a.toNat := by omega
      have hSecond : group / 4 % 256 = b.toNat := by omega
      simp [decodeGroups, value_digit hW, value_digit hX, value_digit hY, digit_ne_pad hY, hSum,
        hFirst, hSecond]
  | case3 a =>
      have ha := a.toNat_lt
      have hW : a.toNat / 4 < 64 := by omega
      have hX : a.toNat % 4 * 16 < 64 := by omega
      have hFirst : (a.toNat / 4 * 64 + a.toNat % 4 * 16) / 16 = a.toNat := by omega
      simp [decodeGroups, value_digit hW, value_digit hX, hFirst]
  | case4 => rfl

/-- The digits, then at most two characters of padding, and more digits than octets. -/
theorem exists_base64_eq (octets : List UInt8) :
    ∃ digits padding : List UInt8, base64 octets = digits ++ padding ∧
      (∀ c ∈ digits, isDigit c = true) ∧ (∀ c ∈ padding, c = 61) ∧
        (octets ≠ [] → octets.length < digits.length) := by
  fun_induction base64 octets with
  | case1 a b c rest group ih =>
      have ha := a.toNat_lt
      have hb := b.toNat_lt
      have hc := c.toNat_lt
      have hGroup : group = a.toNat * 65536 + b.toNat * 256 + c.toNat := rfl
      obtain ⟨digits, padding, hEq, hDigits, hPadding, hLength⟩ := ih
      refine ⟨_ :: _ :: _ :: _ :: digits, padding, by rw [hEq]; rfl, ?_, hPadding, ?_⟩
      · simp only [List.forall_mem_cons]
        exact ⟨isDigit_digit (by omega), isDigit_digit (by omega), isDigit_digit (by omega),
          isDigit_digit (by omega), hDigits⟩
      · intro _
        simp only [List.length_cons]
        by_cases hRest : rest = []
        · rw [hRest]
          simp
        · have hMore := hLength hRest
          omega
  | case2 a b group =>
      have ha := a.toNat_lt
      have hb := b.toNat_lt
      have hGroup : group = a.toNat * 1024 + b.toNat * 4 := rfl
      refine ⟨[_, _, _], [61], rfl, ?_, by simp, by simp⟩
      simp only [List.forall_mem_cons]
      exact ⟨isDigit_digit (by omega), isDigit_digit (by omega), isDigit_digit (by omega), by simp⟩
  | case3 a =>
      have ha := a.toNat_lt
      refine ⟨[_, _], [61, 61], rfl, ?_, by simp, by simp⟩
      simp only [List.forall_mem_cons]
      exact ⟨isDigit_digit (by omega), isDigit_digit (by omega), by simp⟩
  | case4 => exact ⟨[], [], rfl, by simp, by simp, by simp⟩

end Base64

end Smime
