import Mathlib.Data.List.Sort
import Mathlib.Tactic.Ring

/-! Length octets of X.690 8.1.3 and 10.1. A definite length is read as an
unsigned big-endian number, in the short form or in a long form with any
number of leading zero octets; the DER form is the shortest of these. -/
namespace X690

abbrev Octets := List UInt8

/-- A decidable fact about all octets is checked on the 256 of them. -/
theorem forall_octet {p : UInt8 → Prop} (h : ∀ i : Fin 256, p (UInt8.ofNat i.val)) (octet : UInt8) :
    p octet := by
  have hOctet := h ⟨octet.toNat, octet.toNat_lt⟩
  rwa [UInt8.ofNat_toNat] at hOctet

/-- The unsigned number a string of octets denotes, most significant first. -/
def beValue (octets : Octets) : Nat :=
  octets.foldl (fun value octet => value * 256 + octet.toNat) 0

theorem foldl_beValue (octets : Octets) (value : Nat) :
    octets.foldl (fun value octet => value * 256 + octet.toNat) value =
      value * 256 ^ octets.length + beValue octets := by
  induction octets generalizing value with
  | nil => simp [beValue]
  | cons octet rest ih =>
      simp only [beValue, List.foldl_cons, List.length_cons, ih (value * 256 + octet.toNat),
        ih (0 * 256 + octet.toNat)]
      ring

theorem beValue_cons (octet : UInt8) (rest : Octets) :
    beValue (octet :: rest) = octet.toNat * 256 ^ rest.length + beValue rest := by
  rw [beValue, List.foldl_cons, foldl_beValue]
  simp

theorem beValue_lt (octets : Octets) : beValue octets < 256 ^ octets.length := by
  induction octets with
  | nil => simp [beValue]
  | cons octet rest ih =>
      have hOctet : octet.toNat ≤ 255 := Nat.le_of_lt_succ octet.toNat_lt
      calc
        beValue (octet :: rest) = octet.toNat * 256 ^ rest.length + beValue rest := beValue_cons ..
        _ < octet.toNat * 256 ^ rest.length + 256 ^ rest.length := Nat.add_lt_add_left ih _
        _ ≤ 255 * 256 ^ rest.length + 256 ^ rest.length :=
          Nat.add_le_add_right (Nat.mul_le_mul_right _ hOctet) _
        _ = 256 ^ (octet :: rest).length := by rw [List.length_cons, pow_succ]; ring

/-- The `count` least significant base-256 digits, most significant first. -/
def beOctets : Nat → Nat → Octets
  | 0, _ => []
  | count + 1, n => UInt8.ofNat (n / 256 ^ count) :: beOctets count n

@[simp] theorem beOctets_length (count n : Nat) : (beOctets count n).length = count := by
  induction count with
  | zero => rfl
  | succ count ih => simp [beOctets, ih]

theorem beValue_beOctets (count n : Nat) : beValue (beOctets count n) = n % 256 ^ count := by
  induction count with
  | zero => simp [beOctets, beValue, Nat.mod_one]
  | succ count ih =>
      have hDigit : (UInt8.ofNat (n / 256 ^ count)).toNat = n / 256 ^ count % 256 := UInt8.toNat_ofNat'
      rw [beOctets, beValue_cons, ih, beOctets_length, hDigit, pow_succ, Nat.mod_mul]
      ring

theorem beOctets_add_mul (count n high : Nat) :
    beOctets count (n + high * 256 ^ count) = beOctets count n := by
  induction count generalizing n high with
  | zero => rfl
  | succ count ih =>
      have hShift : n + high * 256 ^ (count + 1) = n + high * 256 * 256 ^ count := by ring
      have hDigit : UInt8.ofNat (n / 256 ^ count + high * 256) = UInt8.ofNat (n / 256 ^ count) := by
        apply UInt8.toNat_inj.mp
        rw [UInt8.toNat_ofNat', UInt8.toNat_ofNat', Nat.add_mul_mod_self_right]
      rw [hShift, beOctets, beOctets, ih, Nat.add_mul_div_right _ _ (Nat.pow_pos (by decide)), hDigit]

/-- Fixed-width digits recover the octets, leading zeros included. -/
theorem beOctets_beValue (octets : Octets) :
    beOctets octets.length (beValue octets) = octets := by
  induction octets with
  | nil => rfl
  | cons octet rest ih =>
      have hDigit : (octet.toNat * 256 ^ rest.length + beValue rest) / 256 ^ rest.length =
          octet.toNat := by
        rw [Nat.add_comm, Nat.add_mul_div_right _ _ (Nat.pow_pos (by decide)),
          Nat.div_eq_of_lt (beValue_lt rest), Nat.zero_add]
      rw [List.length_cons, beOctets, beValue_cons, hDigit, UInt8.ofNat_toNat, Nat.add_comm,
        beOctets_add_mul, ih]

/-- How many octets the shortest big-endian form of a positive number has. -/
def octetCount (n : Nat) : Nat := n.log2 / 8 + 1

theorem lt_pow_octetCount (n : Nat) : n < 256 ^ octetCount n := by
  calc
    n < 2 ^ (n.log2 + 1) := Nat.lt_log2_self
    _ ≤ 2 ^ (8 * octetCount n) := Nat.pow_le_pow_right (by decide) (by unfold octetCount; omega)
    _ = 256 ^ octetCount n := pow_mul 2 8 _

theorem pow_octetCount_le {n : Nat} (h : n ≠ 0) : 256 ^ (octetCount n - 1) ≤ n := by
  calc
    256 ^ (octetCount n - 1) = 2 ^ (8 * (octetCount n - 1)) := (pow_mul 2 8 _).symm
    _ ≤ 2 ^ n.log2 := Nat.pow_le_pow_right (by decide) (by unfold octetCount; omega)
    _ ≤ n := Nat.log2_self_le h

/-- A number below `256 ^ count` needs at most `count` octets. -/
theorem octetCount_le {n count : Nat} (hPos : 0 < count) (h : n < 256 ^ count) :
    octetCount n ≤ count := by
  rcases Nat.eq_zero_or_pos n with rfl | hn
  · exact hPos
  · by_contra hLt
    have hLow := pow_octetCount_le (Nat.ne_of_gt hn)
    have hMono : 256 ^ count ≤ 256 ^ (octetCount n - 1) :=
      Nat.pow_le_pow_right (by decide) (by omega)
    omega

/-- Definite length octets: the short form, or a long form whose first octet
counts the ones that follow. -/
inductive DefiniteLength where
  | short (octet : UInt8) (small : octet < 0x80)
  | long (octets : Octets) (nonempty : octets ≠ []) (bounded : octets.length ≤ 127)

namespace DefiniteLength

def encode : DefiniteLength → Octets
  | short octet _ => [octet]
  | long octets _ _ => (0x80 ||| UInt8.ofNat octets.length) :: octets

theorem length_encode_pos (length : DefiniteLength) : 0 < length.encode.length := by
  cases length <;> exact Nat.succ_pos _

def value : DefiniteLength → Nat
  | short octet _ => octet.toNat
  | long octets _ _ => beValue octets

/-- X.690 10.1: the short form where it fits, otherwise no leading zero octet. -/
def Minimal : DefiniteLength → Prop
  | short _ _ => True
  | long octets _ _ => 128 ≤ beValue octets ∧ octets.head? ≠ some 0

end DefiniteLength

/-- The shortest definite length octets for a number. -/
def derLength (n : Nat) : Octets :=
  if n < 128 then [UInt8.ofNat n]
  else (0x80 ||| UInt8.ofNat (octetCount n)) :: beOctets (octetCount n) n

theorem derLength_ne_nil (n : Nat) : derLength n ≠ [] := by
  unfold derLength
  split <;> simp

namespace DefiniteLength

/-- The two ways a number is written determine the octets, so a minimal
length is the one of `derLength`. -/
theorem encode_eq_derLength {l : DefiniteLength} (h : l.Minimal) :
    l.encode = derLength l.value := by
  cases l with
  | short octet small =>
      have hSmall : octet.toNat < 128 := small
      simp [encode, value, derLength, hSmall]
  | long octets nonempty bounded =>
      obtain ⟨hLarge, hHead⟩ := h
      obtain ⟨first, rest, rfl⟩ := List.exists_cons_of_ne_nil nonempty
      have hFirst : 1 ≤ first.toNat := by
        have : first.toNat ≠ 0 := fun h0 => hHead (by
          rw [List.head?_cons, ← UInt8.toNat_inj.mp (h0.trans UInt8.toNat_zero.symm)])
        omega
      have hLower : 256 ^ rest.length ≤ beValue (first :: rest) := by
        rw [beValue_cons]
        exact (Nat.le_mul_of_pos_left _ hFirst).trans (Nat.le_add_right _ _)
      have hCount : octetCount (beValue (first :: rest)) = rest.length + 1 := by
        have hUpper := octetCount_le (by simp) (beValue_lt (first :: rest))
        rw [List.length_cons] at hUpper
        refine Nat.le_antisymm hUpper ?_
        by_contra hLt
        have hMono : 256 ^ octetCount (beValue (first :: rest)) ≤ 256 ^ rest.length :=
          Nat.pow_le_pow_right (by decide) (by omega)
        have := lt_pow_octetCount (beValue (first :: rest))
        omega
      simp only [encode, value, derLength, Nat.not_lt.mpr hLarge, if_false, hCount]
      exact congrArg _ (beOctets_beValue (first :: rest)).symm

/-- Every number that fits in 127 octets has a minimal definite length. -/
theorem exists_minimal {n : Nat} (h : n < 256 ^ 127) :
    ∃ l : DefiniteLength, l.Minimal ∧ l.value = n := by
  by_cases hSmall : n < 128
  · have hOctet : (UInt8.ofNat n).toNat = n :=
      UInt8.toNat_ofNat_of_lt' (by change n < 256; omega)
    refine ⟨short (UInt8.ofNat n) ?_, trivial, hOctet⟩
    rw [UInt8.lt_iff_toNat_lt, hOctet]
    exact hSmall
  · have hCount : octetCount n ≤ 127 := octetCount_le (by decide) h
    have hValue : beValue (beOctets (octetCount n) n) = n := by
      rw [beValue_beOctets, Nat.mod_eq_of_lt (lt_pow_octetCount n)]
    refine ⟨long (beOctets (octetCount n) n) ?_ ?_, ⟨?_, ?_⟩, hValue⟩
    · simp [octetCount, beOctets]
    · simpa using hCount
    · rw [hValue]
      omega
    · have hLow := pow_octetCount_le (n := n) (by omega)
      have hHigh := lt_pow_octetCount n
      have hSucc : octetCount n = octetCount n - 1 + 1 := by simp [octetCount]
      rw [hSucc] at hHigh ⊢
      have hQuotient : n / 256 ^ (octetCount n - 1) < 256 := by
        rw [Nat.div_lt_iff_lt_mul (Nat.pow_pos (by decide)), ← pow_succ']
        exact hHigh
      have hPos : 0 < n / 256 ^ (octetCount n - 1) :=
        Nat.div_pos hLow (Nat.pow_pos (by decide))
      simp only [beOctets, List.head?_cons]
      intro hZero
      have := congrArg UInt8.toNat (Option.some.inj hZero)
      rw [UInt8.toNat_ofNat_of_lt' hQuotient] at this
      exact absurd this (Nat.ne_of_gt hPos)

end DefiniteLength
end X690
