import Smime.Data.Except
import Smime.Utils.BerToDer

/-! The two component loops of `ber_tlv_to_der`, for any element parser: if the
parser splits off exactly the elements of a grammar, the loops split off exactly
the sequences of such elements, closed by the end of the input or by the
end-of-contents pair. -/
namespace Smime.Utils

open X690 (Octets)

/-- On inputs shorter than `bound`, `parse` takes exactly the prefixes that the
grammar relates to a result and leaves the rest alone. -/
def Recognizes (bound : Nat) (parse : Octets → Except String (Octets × Octets))
    (grammar : Octets → Octets → Prop) : Prop :=
  ∀ input out behind, input.length < bound →
    (parse input = .ok (out, behind) ↔ ∃ octets, input = octets ++ behind ∧ grammar octets out)

/-- Elements have an identifier and a length. -/
def HasHeaders (grammar : Octets → Octets → Prop) : Prop :=
  ∀ octets out, grammar octets out → 2 ≤ octets.length

section Loops

variable {bound : Nat} {parse : Octets → Except String (Octets × Octets)}
  {grammar : Octets → Octets → Prop}

theorem flatten_eq_nil_of_headers (hHeaders : HasHeaders grammar) {pieces blobs : List Octets}
    (hPieces : List.Forall₂ grammar pieces blobs) (hNil : pieces.flatten = []) :
    pieces = [] ∧ blobs = [] := by
  cases hPieces with
  | nil => exact ⟨rfl, rfl⟩
  | cons hFirst _ =>
      have hTwo := hHeaders _ _ hFirst
      have hEmpty := congrArg List.length hNil
      simp only [List.flatten_cons, List.length_append, List.length_nil] at hEmpty
      omega

theorem childrenToEnd_cons (fuel : Nat) (octet : UInt8) (rest : Octets) :
    childrenToEnd parse (fuel + 1) (octet :: rest) =
      (do
        let (childDer, remaining) ← parse (octet :: rest)
        let childBlobs ← childrenToEnd parse fuel remaining
        return childDer :: childBlobs) := by
  rw [childrenToEnd]
  simp

/-- The definite-length loop reads exactly the sequences of elements. -/
theorem childrenToEnd_ok_iff (hParse : Recognizes bound parse grammar)
    (hHeaders : HasHeaders grammar) (fuel : Nat) (rest : Octets) (blobs : List Octets)
    (hBound : rest.length < bound) (hFuel : rest.length < fuel) :
    childrenToEnd parse fuel rest = .ok blobs ↔
      ∃ pieces, rest = pieces.flatten ∧ List.Forall₂ grammar pieces blobs := by
  induction fuel generalizing rest blobs with
  | zero => exact absurd hFuel (Nat.not_lt_zero _)
  | succ fuel ih =>
      cases rest with
      | nil =>
          constructor
          · intro h
            cases h
            exact ⟨[], rfl, .nil⟩
          · intro ⟨pieces, hEq, hPieces⟩
            rw [(flatten_eq_nil_of_headers hHeaders hPieces hEq.symm).2]
            rfl
      | cons octet rest =>
          rw [childrenToEnd_cons]
          simp only [Except.bind_eq_ok_iff, Except.pure_eq_ok', Except.ok.injEq, Prod.exists]
          constructor
          · intro ⟨childDer, remaining, hFirst, childBlobs, hRest, hBlobs⟩
            obtain ⟨piece, hPiece, hGrammar⟩ := (hParse _ _ _ hBound).mp hFirst
            have hTwo := hHeaders _ _ hGrammar
            have hLength := congrArg List.length hPiece
            rw [List.length_append] at hLength
            obtain ⟨pieces, hPieces, hGrammars⟩ :=
              (ih remaining childBlobs (by omega) (by omega)).mp hRest
            subst hBlobs
            exact ⟨piece :: pieces, by rw [hPiece, hPieces, List.flatten_cons],
              .cons hGrammar hGrammars⟩
          · intro ⟨pieces, hEq, hPieces⟩
            cases hPieces with
            | nil => cases hEq
            | @cons piece childDer pieces childBlobs hGrammar hGrammars =>
                have hTwo := hHeaders _ _ hGrammar
                have hLength := congrArg List.length hEq
                rw [List.flatten_cons, List.length_append] at hLength
                exact ⟨childDer, pieces.flatten, (hParse _ _ _ hBound).mpr ⟨piece, hEq, hGrammar⟩,
                  childBlobs, (ih _ _ (by omega) (by omega)).mpr ⟨pieces, rfl, hGrammars⟩, rfl⟩

theorem eoc_prefix_append {octets : Octets} (hTwo : 2 ≤ octets.length) (behind : Octets) :
    [0x00, 0x00] <+: octets ++ behind ↔ [0x00, 0x00] <+: octets := by
  constructor
  · intro h
    exact List.prefix_of_prefix_length_le h (List.prefix_append _ _) hTwo
  · intro h
    exact h.trans (List.prefix_append _ _)

theorem childrenUntilEoc_eoc (fuel : Nat) (behind : Octets) :
    childrenUntilEoc parse (fuel + 1) (0x00 :: 0x00 :: behind) = .ok ([], behind) := by
  rw [childrenUntilEoc]

theorem childrenUntilEoc_cons (fuel : Nat) {rest : Octets} (hNonempty : rest ≠ [])
    (hOpen : ¬ [0x00, 0x00] <+: rest) :
    childrenUntilEoc parse (fuel + 1) rest =
      (do
        let (childDer, remaining) ← parse rest
        let (childBlobs, behind) ← childrenUntilEoc parse fuel remaining
        return (childDer :: childBlobs, behind)) := by
  rw [childrenUntilEoc]
  · intro behind hEq
    exact hOpen ⟨behind, hEq.symm⟩
  · exact hNonempty

/-- The indefinite-length loop reads exactly the sequences of elements up to the
first pair of zero octets in the place of an element. -/
theorem childrenUntilEoc_ok_iff (hParse : Recognizes bound parse grammar)
    (hHeaders : HasHeaders grammar) (fuel : Nat) (rest : Octets) (blobs : List Octets)
    (behind : Octets) (hBound : rest.length < bound) (hFuel : rest.length < fuel) :
    childrenUntilEoc parse fuel rest = .ok (blobs, behind) ↔
      ∃ pieces, rest = pieces.flatten ++ 0x00 :: 0x00 :: behind ∧
        List.Forall₂ grammar pieces blobs ∧ ∀ piece ∈ pieces, ¬ [0x00, 0x00] <+: piece := by
  induction fuel generalizing rest blobs with
  | zero => exact absurd hFuel (Nat.not_lt_zero _)
  | succ fuel ih =>
      by_cases hClosed : [0x00, 0x00] <+: rest
      · obtain ⟨tail, rfl⟩ := hClosed
        rw [List.cons_append, List.cons_append, List.nil_append, childrenUntilEoc_eoc]
        constructor
        · intro h
          cases h
          exact ⟨[], rfl, .nil, fun _ hMem => absurd hMem List.not_mem_nil⟩
        · intro ⟨pieces, hEq, hPieces, hOpen⟩
          cases hPieces with
          | nil =>
              cases hEq
              rfl
          | @cons piece _ pieces _ hGrammar _ =>
              have hPiece : [0x00, 0x00] <+: piece := by
                rw [← eoc_prefix_append (hHeaders _ _ hGrammar)
                  (pieces.flatten ++ 0x00 :: 0x00 :: behind), ← List.append_assoc,
                  ← List.flatten_cons, ← hEq]
                exact ⟨tail, rfl⟩
              exact absurd hPiece (hOpen piece List.mem_cons_self)
      · by_cases hNonempty : rest = []
        · subst hNonempty
          constructor
          · intro h
            cases h
          · intro ⟨pieces, hEq, _⟩
            simp at hEq
        · rw [childrenUntilEoc_cons fuel hNonempty hClosed]
          simp only [Except.bind_eq_ok_iff, Except.pure_eq_ok', Except.ok.injEq, Prod.exists,
            Prod.mk.injEq]
          constructor
          · intro ⟨childDer, remaining, hFirst, childBlobs, last, hRest, hBlobs, hLast⟩
            obtain ⟨piece, hPiece, hGrammar⟩ := (hParse _ _ _ hBound).mp hFirst
            have hTwo := hHeaders _ _ hGrammar
            have hLength := congrArg List.length hPiece
            rw [List.length_append] at hLength
            subst hLast
            obtain ⟨pieces, hPieces, hGrammars, hOpen⟩ :=
              (ih remaining childBlobs (by omega) (by omega)).mp hRest
            subst hBlobs
            refine ⟨piece :: pieces, ?_, .cons hGrammar hGrammars,
              List.forall_mem_cons.mpr ⟨?_, hOpen⟩⟩
            · rw [hPiece, hPieces, List.flatten_cons, List.append_assoc]
            · rw [hPiece] at hClosed
              exact fun h => hClosed ((eoc_prefix_append hTwo remaining).mpr h)
          · intro ⟨pieces, hEq, hPieces, hOpen⟩
            cases hPieces with
            | nil => exact absurd ⟨behind, hEq.symm⟩ hClosed
            | @cons piece childDer pieces childBlobs hGrammar hGrammars =>
                rw [List.flatten_cons, List.append_assoc] at hEq
                have hTwo := hHeaders _ _ hGrammar
                have hLength := congrArg List.length hEq
                rw [List.length_append] at hLength
                exact ⟨childDer, _, (hParse _ _ _ hBound).mpr ⟨piece, hEq, hGrammar⟩, childBlobs,
                  behind, (ih _ _ (by omega) (by omega)).mpr ⟨pieces, rfl, hGrammars,
                    fun p hMem => hOpen p (List.mem_cons_of_mem _ hMem)⟩, rfl, rfl⟩

end Loops
end Smime.Utils
