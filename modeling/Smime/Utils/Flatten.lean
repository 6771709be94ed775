import Smime.X690.Der
import Smime.Utils.TlvHeader

/-! `flatten_constructed_string` against X.690 8.6.4 and 8.7.3: it accepts
exactly the segmentations of a string, and emits the joined string. -/
namespace Smime.Utils

open X690

theorem octets_primitiveTag (type : StringType) :
    type.primitiveTag.octets = [type.primitiveTag.first] := by
  cases type <;> rfl

/-- The identifier of a segmented string, with bit 6 cleared, is the identifier
of its segments. -/
theorem first_of_ofTag? {tag : Tag} {type : StringType} (h : StringType.ofTag? tag = some type) :
    tag.first &&& ~~~0x20 = type.primitiveTag.first := by
  unfold StringType.ofTag? at h
  split at h
  · rename_i hFirst
    cases h
    rw [hFirst]
    decide
  · split at h
    · rename_i hFirst
      cases h
      rw [hFirst]
      decide
    · cases h

theorem joinOctetSegments_eq (target : Target) (tag : Tag) (segments : List Octets)
    (content : Octets) (h : ∀ segment ∈ segments, segment.length < target.usizeSize) :
    joinOctetSegments target (segments.map (tlv tag.octets)) content =
      .ok (content ++ segments.flatten) := by
  induction segments generalizing content with
  | nil => simp [joinOctetSegments]
  | cons segment rest ih =>
      obtain ⟨hSegment, hRest⟩ := List.forall_mem_cons.mp h
      rw [List.map_cons, joinOctetSegments, derContent_tlv target tag segment hSegment,
        Except.ok_bind', ih _ hRest, List.flatten_cons, List.append_assoc]

theorem joinsBits_cons_iff {segment : Octets} {rest : List Octets} {content : Octets} :
    JoinsBits (segment :: rest) content ↔
      (rest = [] ∧ ∃ unused bits, segment = unused :: bits ∧ unused ≤ 7 ∧
        (bits = [] → unused = 0) ∧ content = segment) ∨
      (rest ≠ [] ∧ ∃ bits unused data, segment = 0x00 :: bits ∧
        JoinsBits rest (unused :: data) ∧ content = unused :: (bits ++ data)) := by
  constructor
  · intro h
    cases h with
    | @last unused bits legal data => exact .inl ⟨rfl, unused, bits, rfl, legal, data, rfl⟩
    | @more bits data unused _ tail =>
        by_cases hRest : rest = []
        · subst hRest
          cases tail
          exact .inl ⟨rfl, 0x00, bits, rfl, by decide, fun _ => rfl, by simp⟩
        · exact .inr ⟨hRest, bits, unused, data, rfl, tail, rfl⟩
  · rintro (⟨rfl, unused, bits, rfl, legal, data, rfl⟩ | ⟨-, bits, unused, data, rfl, tail, rfl⟩)
    · exact .last legal data
    · exact .more tail

/-- The loop over BIT STRING segments, from any octets already joined. -/
theorem joinBitSegments_ok_iff (target : Target) (segments : List Octets) (unused : UInt8)
    (joined out : Octets) (h : ∀ segment ∈ segments, segment.length < target.usizeSize)
    (hNonempty : segments ≠ []) :
    joinBitSegments target (segments.map (tlv StringType.bitString.primitiveTag.octets))
        (unused :: joined) = .ok out ↔
      ∃ last bits, JoinsBits segments (last :: bits) ∧ out = last :: (joined ++ bits) := by
  induction segments generalizing unused joined with
  | nil => exact absurd rfl hNonempty
  | cons segment rest ih =>
      obtain ⟨hSegment, hRest⟩ := List.forall_mem_cons.mp h
      rw [List.map_cons, joinBitSegments, derContent_tlv target _ segment hSegment,
        Except.ok_bind']
      simp only [joinsBits_cons_iff]
      cases segment with
      | nil => simp
      | cons first bits =>
          cases rest with
          | nil =>
              simp only [List.map_nil, List.isEmpty_nil, Bool.not_true, Bool.or_false,
                List.set_cons_zero, joinBitSegments]
              constructor
              · intro hOk
                split at hOk
                · cases hOk
                · rename_i hLegal
                  simp only [Bool.or_eq_true, decide_eq_true_eq, Bool.and_eq_true,
                    List.isEmpty_iff, bne_iff_ne, ne_eq, not_or, not_and, gt_iff_lt,
                    UInt8.not_lt] at hLegal
                  cases hOk
                  exact ⟨first, bits, .inl ⟨trivial, first, bits, rfl, hLegal.1,
                    fun hNil => by_contra fun hNe => hLegal.2 hNe hNil, rfl⟩, rfl⟩
              · rintro ⟨last, data, (⟨-, u, b, hEq, legal, noData, hContent⟩ | ⟨hNe, -⟩), rfl⟩
                · obtain ⟨rfl, rfl⟩ := List.cons.inj hEq
                  obtain ⟨rfl, rfl⟩ := List.cons.inj hContent
                  rw [if_neg]
                  · rfl
                  · simp only [Bool.or_eq_true, decide_eq_true_eq, Bool.and_eq_true,
                      List.isEmpty_iff, bne_iff_ne, ne_eq, not_or, not_and, gt_iff_lt,
                      UInt8.not_lt]
                    exact ⟨legal, fun hNe hNil => hNe (noData hNil)⟩
                · exact absurd rfl hNe
          | cons next rest =>
              have hIsEmpty : ((next :: rest).map
                  (tlv StringType.bitString.primitiveTag.octets)).isEmpty = false := rfl
              simp only [hIsEmpty, Bool.not_false, Bool.or_true, Bool.and_true,
                List.set_cons_zero, List.cons_append]
              by_cases hZero : first = 0
              · subst hZero
                rw [if_neg (by decide), ih 0 (joined ++ bits) hRest (by simp)]
                constructor
                · rintro ⟨last, data, hJoins, rfl⟩
                  exact ⟨last, bits ++ data, .inr ⟨by simp, bits, last, data, rfl, hJoins, rfl⟩,
                    by simp⟩
                · rintro ⟨last, data, (⟨hNil, -⟩ | ⟨-, b, u, d, hEq, hJoins, hContent⟩), rfl⟩
                  · cases hNil
                  · obtain ⟨-, rfl⟩ := List.cons.inj hEq
                    obtain ⟨rfl, rfl⟩ := List.cons.inj hContent
                    exact ⟨last, d, hJoins, by simp⟩
              · rw [if_pos (by simp [hZero])]
                constructor
                · intro hOk
                  cases hOk
                · rintro ⟨last, data, (⟨hNil, -⟩ | ⟨-, b, u, d, hEq, -⟩), -⟩
                  · cases hNil
                  · exact absurd (List.cons.inj hEq).1 hZero

/-- Joining accepts the segments of a string exactly when they are legal. -/
theorem flattenConstructedString_ok_iff (target : Target) {tag : Tag} {type : StringType}
    (announced : StringType.ofTag? tag = some type) (segments : List Octets) (out : Octets)
    (h : ∀ segment ∈ segments, segment.length < target.usizeSize) :
    flattenConstructedString target tag.first (segments.map (tlv type.primitiveTag.octets)) =
        .ok out ↔
      ∃ content, Joins type segments content ∧ out = tlv type.primitiveTag.octets content := by
  have hHead : (segments.map (tlv type.primitiveTag.octets)).any
      (fun blob => blob.head? != some type.primitiveTag.first) = false := by
    rw [List.any_eq_false]
    intro blob hMem
    obtain ⟨segment, -, rfl⟩ := List.mem_map.mp hMem
    simp [tlv, octets_primitiveTag]
  unfold flattenConstructedString
  simp only [first_of_ofTag? announced, hHead, Bool.false_eq_true, if_false, encodeDerLength_eq]
  have hOut : ∀ content, type.primitiveTag.first :: (derLength content.length ++ content) =
      tlv type.primitiveTag.octets content := by
    intro content
    rw [tlv, octets_primitiveTag]
    rfl
  cases type with
  | octetString =>
      rw [if_neg (by decide), joinOctetSegments_eq target _ segments [] h]
      simp only [Except.ok_bind', Except.pure_eq_ok', List.nil_append, hOut, Except.ok.injEq, Joins]
      constructor
      · intro hEq
        exact ⟨_, rfl, hEq.symm⟩
      · rintro ⟨content, rfl, hEq⟩
        exact hEq.symm
  | bitString =>
      rw [if_pos (by decide)]
      simp only [Except.bind_eq_ok_iff, Except.pure_eq_ok', hOut, Except.ok.injEq, Joins]
      by_cases hNil : segments = []
      · subst hNil
        simp only [List.map_nil, joinBitSegments, Except.ok.injEq]
        constructor
        · rintro ⟨content, rfl, rfl⟩
          exact ⟨_, .none, rfl⟩
        · rintro ⟨content, hJoins, rfl⟩
          cases hJoins
          exact ⟨_, rfl, rfl⟩
      · simp only [joinBitSegments_ok_iff target segments 0x00 [] _ h hNil, List.nil_append]
        constructor
        · rintro ⟨content, ⟨last, bits, hJoins, rfl⟩, rfl⟩
          exact ⟨_, hJoins, rfl⟩
        · rintro ⟨content, hJoins, rfl⟩
          cases hJoins with
          | none => exact absurd rfl hNil
          | last legal data => exact ⟨_, ⟨_, _, .last legal data, rfl⟩, rfl⟩
          | more tail => exact ⟨_, ⟨_, _, .more tail, rfl⟩, rfl⟩

end Smime.Utils
