import Smime.Utils.Recognition
import Smime.X690.Rearranged

/-! What `ber_to_der` means: any BER encoding of a value is rewritten as the DER
encoding of that value, and nothing else is accepted. -/
namespace Smime.Utils

open X690

/-- The rewritten octets are the one DER encoding of the value. -/
theorem exists_der_of_encodes {target : Target} {ber : Ber} {value : Value}
    (hEncodes : Encodes ber value) (hSlice : ber.encode.length < target.usizeSize) :
    ∃ der, IsDer der ∧ Encodes der value ∧ der.encode = value.der := by
  have hSize : ber.encode.length ≤ 256 ^ 8 := hSlice.le.trans (usizeSize_le target)
  have hDer : value.der.length ≤ 8 * ber.encode.length := hEncodes.length_der_le hSize
  have hLimit : (8 * 256 ^ 8 : Nat) < 256 ^ 127 := by decide
  exact exists_isDer value (by omega)

/-- Completeness. Every BER encoding of a value is accepted, whatever the sender
chose at each element, and the result is the DER encoding of the value. -/
theorem berToDer_complete (target : Target) (value : Value) (hTags : value.NoTagZero) (ber : Ber)
    (hEncodes : Encodes ber value) (hDepth : ber.height ≤ maxBerDepth) (input : Slice target)
    (hInput : input.octets = ber.encode) :
    berToDer target input.octets = .ok value.der ∧
      ∃ der, IsDer der ∧ Encodes der value ∧ der.encode = value.der := by
  constructor
  · apply (berToDer_ok_iff_element target input.octets value.der input.fits).mpr
    exact ⟨ber, value, hInput.symm, hEncodes.eocFree hTags, Nat.lt_succ_of_le hDepth, hEncodes, rfl⟩
  · have hSlice := input.fits
    rw [hInput] at hSlice
    exact exists_der_of_encodes hEncodes hSlice

/-- A SET sent with end-of-contents, its components out of order and one of them
in two segments. -/
theorem berToDer_complete_streamed :
    berToDer .wasm32 [0x31, 0x80, 0x24, 0x80, 0x04, 0x01, 0xAA, 0x04, 0x81, 0x01, 0xBB, 0x00, 0x00,
        0x02, 0x01, 0x05, 0x00, 0x00] =
      .ok [0x31, 0x07, 0x02, 0x01, 0x05, 0x04, 0x02, 0xAA, 0xBB] := by
  let set := Tag.ofOctet 0x31 (by decide)
  let integer := Tag.ofOctet 0x02 (by decide)
  let segmented := Tag.ofOctet 0x24 (by decide)
  let type := StringType.octetString
  let number : Value := .prim integer (by decide) [0x05]
  let string : Value := .prim type.primitiveTag type.primitiveTag_constructed [0xAA, 0xBB]
  let oneOctet : DefiniteLength := .short 0x01 (by decide)
  let oneOctetLong : DefiniteLength := .long [0x01] (by decide) (by decide)
  let sentNumber : Ber := .prim integer (by decide) oneOctet [0x05]
  let sentString : Ber := .cons segmented (by decide) .indefinite
    [.prim type.primitiveTag type.primitiveTag_constructed oneOctet [0xAA],
      .prim type.primitiveTag type.primitiveTag_constructed oneOctetLong [0xBB]]
  have hNumber : Encodes sentNumber number := .prim (by decide)
  have hString : Encodes sentString string :=
    @Encodes.segments segmented (by decide) type .indefinite _ [[0xAA], [0xBB]] _ (by decide)
      trivial (.cons (.prim (by decide)) (.cons (.prim (by decide)) .nil)) rfl
  have hSet : Encodes (.cons set (by decide) .indefinite [sentString, sentNumber])
      (.cons set (by decide) (by decide) [number, string]) :=
    .cons trivial (.cons hString (.cons hNumber .nil)) (List.Perm.swap number string [])
  have hTags : Value.NoTagZero (.cons set (by decide) (by decide) [number, string]) := by
    apply Value.NoTagZero.cons
    intro child hMem
    rcases List.mem_pair.mp hMem with rfl | rfl
    · exact .prim (by decide)
    · exact .prim (by decide)
  exact (berToDer_complete .wasm32 _ hTags _ hSet (by decide) ⟨_, by decide⟩ rfl).1

/-- Soundness. An input is accepted exactly when it is one well-formed BER
element with at most `maxBerDepth` levels below it, and the result is the DER
encoding of its value. -/
theorem berToDer_sound (target : Target) (input : Slice target) (out : Octets) :
    berToDer target input.octets = .ok out ↔
      ∃ ber value, ber.encode = input.octets ∧ ber.EocFree ∧ ber.height ≤ maxBerDepth ∧
        Encodes ber value ∧ out = value.der ∧
        ∃ der, IsDer der ∧ Encodes der value ∧ der.encode = out := by
  rw [berToDer_ok_iff_element target input.octets out input.fits]
  constructor
  · intro ⟨ber, value, hOctets, hFree, hHeight, hEncodes, hOut⟩
    have hSlice := input.fits
    rw [← hOctets] at hSlice
    obtain ⟨der, hDer, hDerEncodes, hDerOctets⟩ := exists_der_of_encodes hEncodes hSlice
    exact ⟨ber, value, hOctets, hFree, Nat.le_of_lt_succ hHeight, hEncodes, hOut, der, hDer,
      hDerEncodes, by rw [hDerOctets, hOut]⟩
  · intro ⟨ber, value, hOctets, hFree, hHeight, hEncodes, hOut, _⟩
    exact ⟨ber, value, hOctets, hFree, Nat.lt_succ_of_le hHeight, hEncodes, hOut⟩

/-- DER is a fixed point. -/
theorem berToDer_encode (target : Target) {value : Value} (hSets : value.SetsAscending)
    (hHeight : value.height ≤ maxBerDepth) (hSlice : value.encode.length < target.usizeSize) :
    berToDer target value.encode = .ok value.encode := by
  have hLimit : (256 ^ 8 : Nat) ≤ 256 ^ 127 := Nat.pow_le_pow_right (by decide) (by decide)
  have hSize : value.der.length < 256 ^ 127 := by
    rw [Value.der_eq_encode hSets]
    exact hSlice.trans_le ((usizeSize_le target).trans hLimit)
  obtain ⟨der, hDer, hEncodes, hOctets⟩ := exists_isDer value hSize
  rw [Value.der_eq_encode hSets] at hOctets
  apply (berToDer_ok_iff_element target value.encode value.encode hSlice).mpr
  exact ⟨der, value, hOctets, hDer.eocFree,
    Nat.lt_succ_of_le ((hDer.height_le hEncodes).trans hHeight), hEncodes,
    (Value.der_eq_encode hSets).symm⟩

end Smime.Utils
