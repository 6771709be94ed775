import Smime.Data.Utf8

/-! The machine of UTF-8 takes exactly the encodings of characters. -/
namespace Utf8

/-- The octets of one character. -/
inductive Sequence : List UInt8 → Prop
  | one {a : UInt8} (h : a.toNat < 0x80) : Sequence [a]
  | two {a b : UInt8} (least : 0xC2 ≤ a.toNat) (greatest : a.toNat < 0xE0)
      (hb : Continuation.any.Accepts b) : Sequence [a, b]
  | three {a b c : UInt8} (least : 0xE0 ≤ a.toNat) (greatest : a.toNat < 0xF0)
      (hb : (second a).Accepts b) (hc : Continuation.any.Accepts c) : Sequence [a, b, c]
  | four {a b c d : UInt8} (least : 0xF0 ≤ a.toNat) (greatest : a.toNat < 0xF5)
      (hb : (second a).Accepts b) (hc : Continuation.any.Accepts c)
      (hd : Continuation.any.Accepts d) : Sequence [a, b, c, d]

section Machine

theorem run_accepts {next : Continuation} {octet : UInt8} (h : next.Accepts octet)
    (owed : List Continuation) (rest : List UInt8) :
    run (next :: owed) (octet :: rest) = run owed rest := by
  rw [run_cons, step, if_pos h]
  rfl

theorem exists_of_run {next : Continuation} {owed : List Continuation} {octets : List UInt8}
    (h : run (next :: owed) octets = some []) :
    ∃ (octet : UInt8) (rest : List UInt8), octets = octet :: rest ∧ next.Accepts octet ∧
      run owed rest = some [] := by
  cases octets with
  | nil => cases h
  | cons octet rest =>
      by_cases hAccepts : next.Accepts octet
      · rw [run_accepts hAccepts] at h
        exact ⟨octet, rest, rfl, hAccepts, h⟩
      · rw [run_cons, step, if_neg hAccepts] at h
        cases h

theorem Sequence.wellFormed {octets : List UInt8} (h : Sequence octets) : WellFormed octets := by
  unfold WellFormed
  cases h with
  | one h =>
      rw [run_ascii h]
      rfl
  | two least greatest hb =>
      rw [run_cons, step, owedBy, if_neg (by omega), if_neg (by omega), if_pos greatest,
        Option.bind_some, run_accepts hb]
      rfl
  | three least greatest hb hc =>
      rw [run_cons, step, owedBy, if_neg (by omega), if_neg (by omega), if_neg (by omega),
        if_pos greatest, Option.bind_some, run_accepts hb, run_accepts hc]
      rfl
  | four least greatest hb hc hd =>
      rw [run_cons, step, owedBy, if_neg (by omega), if_neg (by omega), if_neg (by omega),
        if_neg (by omega), if_pos greatest, Option.bind_some, run_accepts hb, run_accepts hc,
        run_accepts hd]
      rfl

/-- What is well formed starts with a character. -/
theorem exists_sequence {octet : UInt8} {octets : List UInt8} (h : WellFormed (octet :: octets)) :
    ∃ first rest : List UInt8, octet :: octets = first ++ rest ∧ Sequence first ∧
      WellFormed rest := by
  rw [WellFormed, run_cons, step, owedBy] at h
  split at h
  next hOne => exact ⟨[octet], octets, rfl, .one hOne, h⟩
  split at h
  next => cases h
  split at h
  next hLeast hTwo =>
    obtain ⟨b, rest, rfl, hb, hRest⟩ := exists_of_run h
    exact ⟨[octet, b], rest, rfl, .two (by omega) hTwo hb, hRest⟩
  split at h
  next hLeast hThree =>
    obtain ⟨b, others, rfl, hb, hOthers⟩ := exists_of_run h
    obtain ⟨c, rest, rfl, hc, hRest⟩ := exists_of_run hOthers
    exact ⟨[octet, b, c], rest, rfl, .three (by omega) hThree hb hc, hRest⟩
  split at h
  next hLeast hFour =>
    obtain ⟨b, others, rfl, hb, hOthers⟩ := exists_of_run h
    obtain ⟨c, others, rfl, hc, hOthers⟩ := exists_of_run hOthers
    obtain ⟨d, rest, rfl, hd, hRest⟩ := exists_of_run hOthers
    exact ⟨[octet, b, c, d], rest, rfl, .four (by omega) hFour hb hc hd, hRest⟩
  next => cases h

end Machine

section Characters

theorem accepts_any_iff {octet : UInt8} :
    Continuation.any.Accepts octet ↔ 0x80 ≤ octet.toNat ∧ octet.toNat ≤ 0xBF := Iff.rfl

theorem accepts_second_iff {first octet : UInt8} :
    (second first).Accepts octet ↔ (0x80 ≤ octet.toNat ∧ octet.toNat ≤ 0xBF) ∧
      (first.toNat = 0xE0 → 0xA0 ≤ octet.toNat) ∧ (first.toNat = 0xED → octet.toNat ≤ 0x9F) ∧
        (first.toNat = 0xF0 → 0x90 ≤ octet.toNat) ∧ (first.toNat = 0xF4 → octet.toNat ≤ 0x8F) := by
  unfold second Continuation.Accepts
  split_ifs <;> simp only [Continuation.bounds] <;> omega

theorem toNat_ofNat {n : Nat} (h : n < 256) : (UInt8.ofNat n).toNat = n := by
  rw [UInt8.toNat_ofNat', Nat.mod_eq_of_lt h]

theorem sequence_utf8EncodeChar (char : Char) : Sequence (String.utf8EncodeChar char) := by
  have hValid : char.val.toNat.isValidChar := char.valid
  unfold Nat.isValidChar at hValid
  unfold String.utf8EncodeChar
  generalize char.val.toNat = v at *
  dsimp only
  have hLast : (UInt8.ofNat (v % 64 + 128)).toNat = v % 64 + 128 := toNat_ofNat (by omega)
  have hMiddle : (UInt8.ofNat (v / 64 % 64 + 128)).toNat = v / 64 % 64 + 128 :=
    toNat_ofNat (by omega)
  split
  next hOne => exact .one (by rw [toNat_ofNat (by omega)]; omega)
  split
  next hTwo =>
    have hFirst : (UInt8.ofNat (v / 64 % 32 + 192)).toNat = v / 64 % 32 + 192 :=
      toNat_ofNat (by omega)
    exact .two (by omega) (by omega) (accepts_any_iff.mpr (by omega))
  split
  next hThree =>
    have hFirst : (UInt8.ofNat (v / 4096 % 16 + 224)).toNat = v / 4096 % 16 + 224 :=
      toNat_ofNat (by omega)
    exact .three (by omega) (by omega) (accepts_second_iff.mpr (by omega))
      (accepts_any_iff.mpr (by omega))
  next hFour =>
    have hFirst : (UInt8.ofNat (v / 262144 % 8 + 240)).toNat = v / 262144 % 8 + 240 :=
      toNat_ofNat (by omega)
    have hSecond : (UInt8.ofNat (v / 4096 % 64 + 128)).toNat = v / 4096 % 64 + 128 :=
      toNat_ofNat (by omega)
    exact .four (by omega) (by omega) (accepts_second_iff.mpr (by omega))
      (accepts_any_iff.mpr (by omega)) (accepts_any_iff.mpr (by omega))

theorem exists_char_of_valid {n : Nat} (h : n.isValidChar) : ∃ char : Char, char.val.toNat = n := by
  refine ⟨Char.ofNat n, ?_⟩
  rw [Char.ofNat, dif_pos h]
  rfl

theorem ofNat_eq {n : Nat} {octet : UInt8} (h : n = octet.toNat) : UInt8.ofNat n = octet := by
  rw [h, UInt8.ofNat_toNat]

/-- Every sequence is the encoding of a character. -/
theorem Sequence.exists_char {octets : List UInt8} (h : Sequence octets) :
    ∃ char : Char, String.utf8EncodeChar char = octets := by
  cases h with
  | @one a h =>
      obtain ⟨char, hChar⟩ := @exists_char_of_valid a.toNat (.inl (by omega))
      refine ⟨char, ?_⟩
      rw [String.utf8EncodeChar, hChar, if_pos (by omega), UInt8.ofNat_toNat]
  | @two a b least greatest hb =>
      rw [accepts_any_iff] at hb
      obtain ⟨char, hChar⟩ :=
        @exists_char_of_valid ((a.toNat - 192) * 64 + (b.toNat - 128)) (.inl (by omega))
      refine ⟨char, ?_⟩
      rw [String.utf8EncodeChar, hChar, if_neg (by omega), if_pos (by omega), @ofNat_eq _ a (by omega),
        @ofNat_eq _ b (by omega)]
  | @three a b c least greatest hb hc =>
      rw [accepts_second_iff] at hb
      rw [accepts_any_iff] at hc
      obtain ⟨char, hChar⟩ := @exists_char_of_valid
        ((a.toNat - 224) * 4096 + (b.toNat - 128) * 64 + (c.toNat - 128)) (by
          unfold Nat.isValidChar
          omega)
      refine ⟨char, ?_⟩
      rw [String.utf8EncodeChar, hChar, if_neg (by omega), if_neg (by omega), if_pos (by omega),
        @ofNat_eq _ a (by omega), @ofNat_eq _ b (by omega), @ofNat_eq _ c (by omega)]
  | @four a b c d least greatest hb hc hd =>
      rw [accepts_second_iff] at hb
      rw [accepts_any_iff] at hc hd
      obtain ⟨char, hChar⟩ := @exists_char_of_valid
        ((a.toNat - 240) * 262144 + (b.toNat - 128) * 4096 + (c.toNat - 128) * 64 +
          (d.toNat - 128)) (by
          unfold Nat.isValidChar
          omega)
      refine ⟨char, ?_⟩
      rw [String.utf8EncodeChar, hChar, if_neg (by omega), if_neg (by omega), if_neg (by omega),
        @ofNat_eq _ a (by omega), @ofNat_eq _ b (by omega), @ofNat_eq _ c (by omega),
        @ofNat_eq _ d (by omega)]

theorem wellFormed_flatMap (chars : List Char) :
    WellFormed (chars.flatMap String.utf8EncodeChar) := by
  induction chars with
  | nil => rfl
  | cons char rest ih =>
      rw [List.flatMap_cons]
      exact (sequence_utf8EncodeChar char).wellFormed.append ih

theorem WellFormed.exists_chars {octets : List UInt8} (h : WellFormed octets) :
    ∃ chars : List Char, chars.flatMap String.utf8EncodeChar = octets := by
  induction hLength : octets.length using Nat.strongRecOn generalizing octets with
  | ind length ih =>
      cases octets with
      | nil => exact ⟨[], rfl⟩
      | cons octet octets =>
          obtain ⟨first, rest, hSplit, hFirst, hRest⟩ := exists_sequence h
          obtain ⟨char, rfl⟩ := hFirst.exists_char
          have hPos := List.length_pos_of_ne_nil (@String.utf8EncodeChar_ne_nil char)
          rw [hSplit, List.length_append] at hLength
          obtain ⟨chars, hChars⟩ := ih rest.length (by omega) hRest rfl
          refine ⟨char :: chars, ?_⟩
          rw [List.flatMap_cons, hChars, hSplit]

/-- The machine takes what is valid as a string. -/
theorem wellFormed_iff_isValidUTF8 {octets : List UInt8} :
    WellFormed octets ↔ (ByteArray.mk octets.toArray).IsValidUTF8 := by
  constructor
  · intro h
    obtain ⟨chars, rfl⟩ := h.exists_chars
    exact ⟨chars, ByteArray.ext (List.data_toByteArray).symm⟩
  · rintro ⟨chars, hChars⟩
    have hData := congrArg ByteArray.data hChars
    rw [List.utf8Encode, List.data_toByteArray, Array.mk.injEq] at hData
    rw [hData]
    exact wellFormed_flatMap chars

end Characters

section Text

theorem toList_loop_eq (bytes : ByteArray) (i : Nat) (read : List UInt8) :
    ByteArray.toList.loop bytes i read = read.reverse ++ bytes.data.toList.drop i := by
  fun_induction ByteArray.toList.loop bytes i read with
  | case1 i read h ih =>
      have hIndex : i < bytes.data.toList.length := by simpa using h
      have hGet : bytes.get! i = bytes.data.toList[i] := by simp [ByteArray.get!, h]
      rw [ih, List.drop_eq_getElem_cons hIndex, List.reverse_cons, hGet, List.append_assoc,
        List.singleton_append]
  | case2 i read h =>
      have hEnd : bytes.data.toList.length ≤ i := by simpa using Nat.le_of_not_lt h
      rw [List.drop_eq_nil_of_le hEnd, List.append_nil]

theorem toList_toUTF8 (text : String) :
    text.toUTF8.toList = text.toList.flatMap String.utf8EncodeChar := by
  have hData : text.toUTF8 = text.toList.utf8Encode := String.utf8Encode_toList.symm
  rw [hData, ByteArray.toList, toList_loop_eq, List.utf8Encode, List.data_toByteArray]
  rfl

/-- An ASCII octet is in the encoding of its character only. -/
theorem ascii_mem_toUTF8 {text : String} {octet : UInt8} (hAscii : octet.toNat < 0x80)
    (h : octet ∈ text.toUTF8.toList) : ∃ char ∈ text.toList, char.val.toNat = octet.toNat := by
  rw [toList_toUTF8] at h
  obtain ⟨char, hChar, hOctet⟩ := List.mem_flatMap.mp h
  refine ⟨char, hChar, ?_⟩
  have hValid : char.val.toNat.isValidChar := char.valid
  unfold Nat.isValidChar at hValid
  unfold String.utf8EncodeChar at hOctet
  dsimp only at hOctet
  have hFrom : ∀ n < 256, octet = UInt8.ofNat n → octet.toNat = n := fun n hn hEq => by
    rw [hEq, toNat_ofNat hn]
  generalize char.val.toNat = v at *
  split at hOctet
  · have := hFrom v (by omega) (List.mem_singleton.mp hOctet)
    exact this.symm
  -- Every octet of a longer encoding has its first bit set.
  · exfalso
    split at hOctet
    · simp only [List.mem_cons, List.not_mem_nil, or_false] at hOctet
      rcases hOctet with hEq | hEq
      all_goals have := hFrom _ (by omega) hEq; omega
    split at hOctet
    · simp only [List.mem_cons, List.not_mem_nil, or_false] at hOctet
      rcases hOctet with hEq | hEq | hEq
      all_goals have := hFrom _ (by omega) hEq; omega
    · simp only [List.mem_cons, List.not_mem_nil, or_false] at hOctet
      rcases hOctet with hEq | hEq | hEq | hEq
      all_goals have := hFrom _ (by omega) hEq; omega

end Text

end Utf8
