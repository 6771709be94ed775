import Mathlib.Data.Nat.Digits.Defs
import Smime.Utils.LengthCodec

/-! Both directions of the length codec: which octets are read as a length,
without any bound on how many they are, and how short the written ones are. -/
namespace Smime.Utils

open X690

/-- The big-endian value is the one of the base-256 digits, last octet first. -/
theorem beValue_eq_ofDigits (octets : Octets) :
    beValue octets = Nat.ofDigits 256 (octets.reverse.map UInt8.toNat) := by
  induction octets with
  | nil => rfl
  | cons octet rest ih =>
      rw [beValue_cons, ih, List.reverse_cons, List.map_append, Nat.ofDigits_append,
        List.length_map, List.length_reverse]
      simp only [List.map_cons, List.map_nil, Nat.ofDigits_singleton]
      ring

/-- A definite length at `first :: rest`: its value and how many octets of `rest` it
has. The first octet has the value or, with bit 8 set, the number of the others. -/
inductive ReadsLength (first : UInt8) (rest : Octets) : Nat → Nat → Prop where
  | short (small : first.toNat < 0x80) : ReadsLength first rest first.toNat 0
  | long {count : Nat} (announced : first.toNat = 0x80 + count) (nonzero : count ≠ 0)
      (available : count ≤ rest.length) :
      ReadsLength first rest (Nat.ofDigits 256 ((rest.take count).reverse.map UInt8.toNat)) count

theorem toNat_long_octet {count : Nat} (h : count < 128) :
    (0x80 ||| UInt8.ofNat count).toNat = 0x80 + count := by
  have hAll : ∀ count : Fin 128, (0x80 ||| UInt8.ofNat count.val).toNat = 0x80 + count.val := by
    decide +kernel
  exact hAll ⟨count, h⟩

/-- Length octets in front of `rest` are a definite length of X.690. -/
theorem readsLength_iff (first : UInt8) (rest : Octets) (length consumed : Nat) :
    ReadsLength first rest length consumed ↔
      ∃ l : DefiniteLength, l.value = length ∧ consumed ≤ rest.length ∧
        l.encode = first :: rest.take consumed := by
  constructor
  · intro h
    cases h with
    | short small => exact ⟨.short first small, rfl, Nat.zero_le _, by simp [DefiniteLength.encode]⟩
    | long announced nonzero available =>
        have hCount : consumed < 128 := by
          have := first.toNat_lt
          omega
        have hTake : (rest.take consumed).length = consumed := List.length_take_of_le available
        refine ⟨.long (rest.take consumed) ?_ (by omega), beValue_eq_ofDigits _, available, ?_⟩
        · intro hNil
          rw [hNil] at hTake
          exact nonzero hTake.symm
        · have hFirst : 0x80 ||| UInt8.ofNat consumed = first :=
            UInt8.toNat_inj.mp ((toNat_long_octet hCount).trans announced.symm)
          rw [DefiniteLength.encode, hTake, hFirst]
  · rintro ⟨l, rfl, hAvailable, hEncode⟩
    cases l with
    | short octet small =>
        obtain ⟨rfl, hTake⟩ := List.cons.inj hEncode
        have hConsumed : consumed = 0 := by
          have := congrArg List.length hTake
          rw [List.length_take_of_le hAvailable] at this
          exact this.symm
        subst hConsumed
        exact .short small
    | long octets nonempty bounded =>
        obtain ⟨hFirst, hTake⟩ := List.cons.inj hEncode
        have hLength : octets.length = consumed := by
          rw [hTake, List.length_take_of_le hAvailable]
        have hAnnounced : first.toNat = 0x80 + consumed := by
          rw [← hFirst, toNat_long_octet (by omega), hLength]
        have hNonzero : consumed ≠ 0 := by
          rw [← hLength]
          exact fun hZero => nonempty (List.length_eq_zero_iff.mp hZero)
        have hLong : ReadsLength first rest _ consumed := .long hAnnounced hNonzero hAvailable
        rwa [← beValue_eq_ofDigits, ← hTake] at hLong

/-- The octets of a definite length tell it apart from everything behind them. -/
theorem readsLength_unique {first : UInt8} {rest : Octets} {length consumed other taken : Nat}
    (h : ReadsLength first rest length consumed) (hOther : ReadsLength first rest other taken) :
    length = other ∧ consumed = taken := by
  cases h with
  | short small =>
      cases hOther with
      | short => exact ⟨rfl, rfl⟩
      | long announced => omega
  | long announced =>
      cases hOther with
      | short small => omega
      | long announced' =>
          obtain rfl : consumed = taken := by omega
          exact ⟨rfl, rfl⟩

/-- The decoder reads the definite lengths with a value that fits `usize`. -/
theorem decodeBerDefiniteLength_ok_iff (target : Target) (first : UInt8) (rest : Octets)
    (length consumed : Nat) :
    decodeBerDefiniteLength target first rest = .ok (length, consumed) ↔
      ReadsLength first rest length consumed ∧ length < target.usizeSize := by
  rw [readsLength_iff]
  constructor
  · intro h
    obtain ⟨l, hValue, hFits, hConsumed, hEncode⟩ := decodeBerDefiniteLength_ok h
    exact ⟨⟨l, hValue, hConsumed, hEncode⟩, hFits⟩
  · rintro ⟨⟨l, rfl, hConsumed, hEncode⟩, hFits⟩
    obtain ⟨first', more, hCons, -, hDecode⟩ :=
      decodeBerDefiniteLength_encode target l (rest.drop consumed) hFits
    obtain ⟨rfl, rfl⟩ := List.cons.inj (hCons.symm.trans hEncode)
    rwa [List.take_append_drop, List.length_take_of_le hConsumed] at hDecode

/-- No other definite form of a number is shorter than that of DER. -/
theorem length_derLength_le (l : DefiniteLength) :
    (derLength l.value).length ≤ l.encode.length := by
  unfold derLength
  split
  · exact l.length_encode_pos
  · rename_i hLarge
    cases l with
    | short octet small => exact absurd small hLarge
    | long octets nonempty bounded =>
        have hPos : 0 < octets.length := List.length_pos_iff.mpr nonempty
        simp only [List.length_cons, beOctets_length, DefiniteLength.encode]
        exact Nat.succ_le_succ (octetCount_le hPos (beValue_lt octets))

/-- Every `usize` has a definite length of DER, with at most 8 octets behind the first. -/
theorem exists_definiteLength {target : Target} {length : Nat} (h : length < target.usizeSize) :
    ∃ l : DefiniteLength, l.value = length ∧ l.encode = encodeDerLength length := by
  have hBound : length < 256 ^ 127 := h.trans (usizeSize_lt target)
  obtain ⟨l, hMinimal, hValue⟩ := DefiniteLength.exists_minimal hBound
  refine ⟨l, hValue, ?_⟩
  rw [DefiniteLength.encode_eq_derLength hMinimal, hValue, encodeDerLength_eq]

/-- What the two functions of the codec do with a length `n`: written octets are read back
whatever follows them, and they are the shortest definite form. -/
structure RoundTripsLength (target : Target) (n : Nat) : Prop where
  readBack : ∀ behind : Octets, ∃ first more, encodeDerLength n = first :: more ∧
    decodeBerDefiniteLength target first (more ++ behind) = .ok (n, more.length)
  definite : ∃ l : DefiniteLength, l.value = n ∧ l.encode = encodeDerLength n
  shortest : ∀ l : DefiniteLength, l.value = n → (encodeDerLength n).length ≤ l.encode.length

theorem roundTripsLength {target : Target} {n : Nat} (h : n < target.usizeSize) :
    RoundTripsLength target n := by
  obtain ⟨l, rfl, hEncode⟩ := exists_definiteLength h
  refine ⟨fun behind => ?_, ⟨l, rfl, hEncode⟩, fun other hValue => ?_⟩
  · obtain ⟨first, more, hCons, -, hDecode⟩ := decodeBerDefiniteLength_encode target l behind h
    exact ⟨first, more, hEncode.symm.trans hCons, hDecode⟩
  · rw [encodeDerLength_eq, ← hValue]
    exact length_derLength_le other

/-- What the decoder answers to any octets. -/
structure DecodesExactly (target : Target) (first : UInt8) (rest : Octets) : Prop where
  value : ∀ length consumed,
    decodeBerDefiniteLength target first rest = .ok (length, consumed) ↔
      ReadsLength first rest length consumed ∧ length < target.usizeSize
  tooLarge : ∀ length consumed, ReadsLength first rest length consumed →
    target.usizeSize ≤ length → ∃ e, decodeBerDefiniteLength target first rest = .error e
  missing : 0x80 + rest.length < first.toNat →
    ∃ e, decodeBerDefiniteLength target first rest = .error e
  indefinite : first = 0x80 → ∃ e, decodeBerDefiniteLength target first rest = .error e

theorem decodesExactly (target : Target) (first : UInt8) (rest : Octets) :
    DecodesExactly target first rest where
  value := decodeBerDefiniteLength_ok_iff target first rest
  tooLarge := by
    intro length consumed hReads hLarge
    refine exists_error_of_not_ok fun (other, taken) hOk => ?_
    obtain ⟨hOther, hFits⟩ := (decodeBerDefiniteLength_ok_iff ..).mp hOk
    obtain ⟨rfl, -⟩ := readsLength_unique hReads hOther
    omega
  missing := by
    intro hMissing
    refine exists_error_of_not_ok fun (length, consumed) hOk => ?_
    obtain ⟨hReads, -⟩ := (decodeBerDefiniteLength_ok_iff ..).mp hOk
    cases hReads with
    | short small => omega
    | long announced _ available => omega
  indefinite := by
    rintro rfl
    refine exists_error_of_not_ok fun (length, consumed) hOk => ?_
    obtain ⟨hReads, -⟩ := (decodeBerDefiniteLength_ok_iff ..).mp hOk
    cases hReads with
    | short small => exact absurd small (by decide)
    | long announced nonzero => exact nonzero (Nat.add_left_cancel announced).symm

/-- The length codec is exact for every width of `usize`. -/
theorem lengthCodec_exact (target : Target) :
    (∀ n < target.usizeSize, RoundTripsLength target n) ∧
      ∀ (first : UInt8) (rest : Octets), DecodesExactly target first rest :=
  ⟨fun _ h => roundTripsLength h, decodesExactly target⟩

end Smime.Utils
