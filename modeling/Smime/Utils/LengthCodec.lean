import Smime.Data.Except
import Smime.Utils.BerToDer

/-! The length codec of `src/utils.rs` against X.690: what
`decode_ber_definite_length` accepts are exactly the definite lengths whose
value fits `usize`, and `encode_der_length` writes the shortest of them. -/
namespace Smime.Utils

open X690

theorem Target.usizeSize_pos (target : Target) : 0 < target.usizeSize := by
  cases target <;> decide

theorem usizeSize_le (target : Target) : target.usizeSize ≤ 256 ^ 8 := by
  cases target <;> decide

theorem usizeSize_lt (target : Target) : target.usizeSize < 256 ^ 127 := by
  cases target <;> decide

theorem bytesNeeded_eq (length : Nat) : (length.log2 + 1 + 7) / 8 = octetCount length := by
  unfold octetCount
  omega

theorem map_shiftRight_eq_beOctets (count length : Nat) :
    (List.range count).reverse.map (fun i => UInt8.ofNat (length >>> (i * 8))) =
      beOctets count length := by
  induction count with
  | zero => rfl
  | succ count ih =>
      have hShift : length >>> (count * 8) = length / 256 ^ count := by
        rw [Nat.shiftRight_eq_div_pow, Nat.mul_comm, pow_mul]
        rfl
      rw [List.range_succ, List.reverse_append, List.reverse_singleton, List.singleton_append,
        List.map_cons, ih, hShift, beOctets]

/-- The encoder emits DER length octets. -/
theorem encodeDerLength_eq (length : Nat) : encodeDerLength length = derLength length := by
  unfold encodeDerLength derLength
  simp only [bytesNeeded_eq, map_shiftRight_eq_beOctets]

theorem lengthStep_eq (target : Target) (length : Nat) (octet : UInt8) :
    lengthStep target length octet =
      if length * 256 + octet.toNat < target.usizeSize then .ok (length * 256 + octet.toNat)
      else .error "length overflow" := by
  unfold lengthStep Target.checkedMul Target.checkedAdd
  by_cases hAdd : length * 256 + octet.toNat < target.usizeSize
  · have hMul : length * 256 < target.usizeSize := Nat.lt_of_le_of_lt (Nat.le_add_right _ _) hAdd
    rw [if_pos hMul, Option.bind_some, if_pos hAdd, if_pos hAdd]
    rfl
  · rw [if_neg hAdd]
    by_cases hMul : length * 256 < target.usizeSize
    · rw [if_pos hMul, Option.bind_some, if_neg hAdd]
      rfl
    · rw [if_neg hMul]
      rfl

/-- The accumulator never wraps: it ends at the exact value or fails. -/
theorem foldlM_lengthStep (target : Target) (octets : Octets) (length : Nat)
    (h : length < target.usizeSize) :
    octets.foldlM (lengthStep target) length =
      if length * 256 ^ octets.length + beValue octets < target.usizeSize then
        .ok (length * 256 ^ octets.length + beValue octets)
      else .error "length overflow" := by
  induction octets generalizing length with
  | nil => simp [beValue, h]
  | cons octet rest ih =>
      have hValue : length * 256 ^ (octet :: rest).length + beValue (octet :: rest) =
          (length * 256 + octet.toNat) * 256 ^ rest.length + beValue rest := by
        rw [beValue_cons, List.length_cons]
        ring
      rw [List.foldlM_cons, lengthStep_eq, hValue]
      by_cases hStep : length * 256 + octet.toNat < target.usizeSize
      · rw [if_pos hStep, Except.ok_bind', ih _ hStep]
      · have hPow : 0 < 256 ^ rest.length := Nat.pow_pos (by decide)
        have hMono := Nat.le_mul_of_pos_right (length * 256 + octet.toNat) hPow
        rw [if_neg hStep, Except.error_bind', if_neg (by omega)]

theorem foldlM_lengthStep_zero (target : Target) (octets : Octets) :
    octets.foldlM (lengthStep target) 0 =
      if beValue octets < target.usizeSize then .ok (beValue octets)
      else .error "length overflow" := by
  simpa using foldlM_lengthStep target octets 0 target.usizeSize_pos

theorem short_octet {octet : UInt8} (h : octet < 0x80) : octet &&& 0x80 = 0 := by
  have hAll : ∀ octet : UInt8, octet < 0x80 → octet &&& 0x80 = 0 :=
    forall_octet (by decide +kernel)
  exact hAll octet h

theorem long_octet {count : Nat} (h : count < 128) :
    (0x80 ||| UInt8.ofNat count) &&& 0x80 ≠ 0 ∧
      ((0x80 ||| UInt8.ofNat count) &&& 0x7f).toNat = count := by
  have hAll : ∀ count : Fin 128, (0x80 ||| UInt8.ofNat count.val) &&& 0x80 ≠ 0 ∧
      ((0x80 ||| UInt8.ofNat count.val) &&& 0x7f).toNat = count.val := by
    decide +kernel
  exact hAll ⟨count, h⟩

theorem octet_cases (octet : UInt8) :
    (octet &&& 0x80 = 0 ∧ octet < 0x80) ∨
      (octet &&& 0x80 ≠ 0 ∧ (octet &&& 0x7f).toNat < 128 ∧
        octet = (0x80 ||| UInt8.ofNat (octet &&& 0x7f).toNat)) := by
  revert octet
  exact forall_octet (by decide +kernel)

/-- Definite length octets are read back, whatever follows them. -/
theorem decodeBerDefiniteLength_encode (target : Target) (l : DefiniteLength) (behind : Octets)
    (h : l.value < target.usizeSize) :
    ∃ first more, l.encode = first :: more ∧ first ≠ 0x80 ∧
      decodeBerDefiniteLength target first (more ++ behind) = .ok (l.value, more.length) := by
  cases l with
  | short octet small =>
      refine ⟨octet, [], rfl, fun hEq => by subst hEq; exact absurd small (by decide), ?_⟩
      simp [decodeBerDefiniteLength, short_octet small, DefiniteLength.value]
  | long octets nonempty bounded =>
      have hCount : octets.length < 128 := Nat.lt_succ_of_le bounded
      have hNonzero : octets.length ≠ 0 := by simpa using nonempty
      obtain ⟨hLong, hLow⟩ := long_octet hCount
      refine ⟨_, octets, rfl, ?_, ?_⟩
      · intro hEq
        rw [hEq] at hLow
        exact hNonzero (hLow.symm.trans (by decide))
      · have hValue : beValue octets < target.usizeSize := h
        simp only [decodeBerDefiniteLength, if_neg hLong, hLow, hNonzero, if_false,
          List.length_append, Nat.not_lt.mpr (Nat.le_add_right _ _),
          List.take_left, foldlM_lengthStep_zero, if_pos hValue]
        rfl

/-- Whatever is accepted as a definite length is one, and its value is exact. -/
theorem decodeBerDefiniteLength_ok {target : Target} {first : UInt8} {rest : Octets}
    {length consumed : Nat}
    (h : decodeBerDefiniteLength target first rest = .ok (length, consumed)) :
    ∃ l : DefiniteLength, l.value = length ∧ length < target.usizeSize ∧
      consumed ≤ rest.length ∧ l.encode = first :: rest.take consumed := by
  rcases octet_cases first with ⟨hShort, hSmall⟩ | ⟨hLong, hLow, hFirst⟩
  · simp only [decodeBerDefiniteLength, if_pos hShort, Except.ok.injEq, Prod.mk.injEq] at h
    obtain ⟨rfl, rfl⟩ := h
    refine ⟨.short first hSmall, rfl, ?_, Nat.zero_le _, by simp [DefiniteLength.encode]⟩
    calc
      first.toNat < 2 ^ 8 := first.toNat_lt
      _ ≤ target.usizeSize := by cases target <;> decide
  · obtain ⟨numBytes, hNum⟩ : ∃ numBytes, (first &&& 0x7f).toNat = numBytes := ⟨_, rfl⟩
    rw [hNum] at hLow hFirst
    simp only [decodeBerDefiniteLength, if_neg hLong, hNum, foldlM_lengthStep_zero] at h
    split at h
    · cases h
    split at h
    · cases h
    rename_i hNonzero hAvailable
    have hTake : (rest.take numBytes).length = numBytes := by
      rw [List.length_take]
      omega
    split at h
    · rename_i hFits
      obtain ⟨rfl, rfl⟩ := Prod.mk.injEq .. ▸ Except.ok.inj h
      refine ⟨.long (rest.take numBytes) ?_ (by omega), rfl, hFits, by omega, ?_⟩
      · intro hNil
        rw [hNil] at hTake
        exact hNonzero hTake.symm
      · rw [DefiniteLength.encode, hTake, ← hFirst]
    · cases h

end Smime.Utils
