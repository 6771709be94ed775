import Smime.Utils.Recognition
import Smime.X690.Unique

/-! Which inputs `ber_to_der` identifies. A signature over a re-encoded message is
checked against the DER, so two inputs stand for one signed text exactly when their
DER is the same. -/
namespace X690

theorem SentAs.canonical {tag : Tag} {sent components : List Value}
    (h : SentAs tag sent components) :
    SentAs tag (sent.map Value.canonical)
      (Value.orderChildren tag (components.map Value.canonical)) := by
  unfold SentAs at h ⊢
  split at h
  · rename_i hSet
    rw [if_pos hSet]
    exact (h.map Value.canonical).trans (Value.orderChildren_perm tag _).symm
  · rename_i hSet
    rw [if_neg hSet, h, Value.orderChildren, if_neg hSet]

/-- An encoding of a value is one of the value with its sets in ascending order: the
order of a SET is a choice of the sender. -/
theorem Encodes.canonical {ber : Ber} {value : Value} (h : Encodes ber value) :
    Encodes ber value.canonical := by
  induction ber generalizing value with
  | prim tag primitive length content =>
      cases h with
      | prim exact =>
          rw [Value.canonical_prim]
          exact .prim exact
  | cons tag constructed form children ih =>
      cases h with
      | @cons _ _ hw _ _ sent components exact inner order =>
          have hInner : List.Forall₂ Encodes children (sent.map Value.canonical) := by
            apply List.forall₂_map_right_iff.mpr
            exact inner.imp_mem fun child hMem value hEncodes => ih child hMem hEncodes
          rw [Value.canonical_cons]
          exact .cons exact hInner order.canonical
      | segments announced exact inner joins =>
          rw [Value.canonical_prim]
          exact .segments announced exact inner joins

end X690

namespace Smime.Utils

open X690

/-- The octets are one element of at most `maxBerDepth` levels and encode the value. -/
def ReadsAs (input : Octets) (value : Value) : Prop :=
  ∃ ber : Ber, ber.encode = input ∧ ber.EocFree ∧ ber.height ≤ maxBerDepth ∧ Encodes ber value

theorem ReadsAs.canonical {input : Octets} {value : Value} (h : ReadsAs input value) :
    ReadsAs input value.canonical := by
  obtain ⟨ber, hOctets, hFree, hHeight, hEncodes⟩ := h
  exact ⟨ber, hOctets, hFree, hHeight, hEncodes.canonical⟩

theorem berToDer_ok_iff_readsAs {target : Target} (input : Slice target) (der : Octets) :
    berToDer target input.octets = .ok der ↔ ∃ value, ReadsAs input.octets value ∧ der = value.der := by
  rw [berToDer_ok_iff_element target input.octets der input.fits]
  constructor
  · intro ⟨ber, value, hOctets, hFree, hHeight, hEncodes, hDer⟩
    exact ⟨value, ⟨ber, hOctets, hFree, Nat.le_of_lt_succ hHeight, hEncodes⟩, hDer⟩
  · intro ⟨value, ⟨ber, hOctets, hFree, hHeight, hEncodes⟩, hDer⟩
    exact ⟨ber, value, hOctets, hFree, Nat.lt_succ_of_le hHeight, hEncodes, hDer⟩

/-- The DER of what a slice encodes is short enough to determine the value. -/
theorem ReadsAs.length_der_lt {target : Target} {input : Slice target} {value : Value}
    (h : ReadsAs input.octets value) : value.der.length < 256 ^ 127 := by
  obtain ⟨ber, hOctets, -, -, hEncodes⟩ := h
  have hSlice : ber.encode.length < target.usizeSize := by
    rw [hOctets]
    exact input.fits
  have hSize : ber.encode.length ≤ 256 ^ 8 := hSlice.le.trans (usizeSize_le target)
  have hDer : value.der.length ≤ 8 * ber.encode.length := hEncodes.length_der_le hSize
  have hLimit : (8 * 256 ^ 8 : Nat) < 256 ^ 127 := by decide
  omega

/-- An order of the sets that suits both is that of the DER. -/
theorem exists_readsAs_of_same {target : Target} {input other : Slice target} {der : Octets}
    (hInput : berToDer target input.octets = .ok der)
    (hOther : berToDer target other.octets = .ok der) :
    ∃ value, ReadsAs input.octets value ∧ ReadsAs other.octets value := by
  obtain ⟨value, hReads, hDer⟩ := (berToDer_ok_iff_readsAs input der).mp hInput
  obtain ⟨otherValue, hOtherReads, hOtherDer⟩ := (berToDer_ok_iff_readsAs other der).mp hOther
  have hSame : value.canonical = otherValue.canonical :=
    Value.encode_inj hReads.length_der_lt (hDer.symm.trans hOtherDer)
  refine ⟨value.canonical, hReads.canonical, ?_⟩
  rw [hSame]
  exact hOtherReads.canonical

/-- Two inputs are rewritten to one DER exactly when both encode one value. -/
theorem berToDer_same_iff (target : Target) (input other : Slice target) :
    (∃ der, berToDer target input.octets = .ok der ∧ berToDer target other.octets = .ok der) ↔
      ∃ value, ReadsAs input.octets value ∧ ReadsAs other.octets value := by
  constructor
  · intro ⟨der, hInput, hOther⟩
    exact exists_readsAs_of_same hInput hOther
  · intro ⟨value, hReads, hOtherReads⟩
    exact ⟨value.der, (berToDer_ok_iff_readsAs input value.der).mpr ⟨value, hReads, rfl⟩,
      (berToDer_ok_iff_readsAs other value.der).mpr ⟨value, hOtherReads, rfl⟩⟩

end Smime.Utils
