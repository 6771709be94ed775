import Mathlib.Data.List.Forall2
import Mathlib.Data.List.Sort

/-! Ranges of a text that are replaced one after another. Splicing from the back,
the ranges in front stay where they are. -/
namespace Smime

variable {α β : Type}

/-- A range of a text with what stands behind it up to the next one. -/
structure Piece (α β : Type) where
  range : β
  body : List α
  gap : List α

namespace Piece

def octets (piece : Piece α β) : List α := piece.body ++ piece.gap

/-- The text from `first` on, with other bodies in the ranges. -/
def replaced (newBody : β → List α) (first : List α) (pieces : List (Piece α β)) : List α :=
  first ++ pieces.flatMap fun piece => newBody piece.range ++ piece.gap

/-- A text laid out around the ranges that `start` and `stop` delimit. -/
structure Layout (start stop : β → Nat) (text : List α) (ranges : List β) (first : List α)
    (pieces : List (Piece α β)) : Prop where
  ranges : pieces.map Piece.range = ranges
  text : first ++ pieces.flatMap Piece.octets = text
  positions : ∀ (front : List (Piece α β)) (piece : Piece α β) (behind : List (Piece α β)),
    pieces = front ++ piece :: behind →
      start piece.range = (first ++ front.flatMap Piece.octets).length ∧
        stop piece.range = start piece.range + piece.body.length

variable {start stop : β → Nat} {text : List α}

/-- Ranges in order have a layout behind every position up to the first. -/
theorem exists_layout_from {ranges : List β} {pos : Nat}
    (hOrder : ranges.Pairwise fun a b => stop a < start b)
    (hRange : ∀ range ∈ ranges, pos ≤ start range ∧ start range ≤ stop range ∧
      stop range ≤ text.length) :
    ∃ (first : List α) (pieces : List (Piece α β)),
      pieces.map Piece.range = ranges ∧ first ++ pieces.flatMap Piece.octets = text.drop pos ∧
        ∀ (front : List (Piece α β)) (piece : Piece α β) (behind : List (Piece α β)),
          pieces = front ++ piece :: behind →
            start piece.range = pos + (first ++ front.flatMap Piece.octets).length ∧
              stop piece.range = start piece.range + piece.body.length := by
  induction ranges generalizing pos with
  | nil =>
      refine ⟨text.drop pos, [], rfl, by simp, ?_⟩
      intro front piece behind hEq
      simp at hEq
  | cons range rest ih =>
      obtain ⟨hHead, hRest⟩ := List.pairwise_cons.mp hOrder
      obtain ⟨hPos, hLe, hEnd⟩ := hRange range List.mem_cons_self
      have hBehind : ∀ other ∈ rest, stop range ≤ start other ∧ start other ≤ stop other ∧
          stop other ≤ text.length := by
        intro other hMem
        have hOther := hRange other (List.mem_cons_of_mem _ hMem)
        exact ⟨le_of_lt (hHead other hMem), hOther.2⟩
      obtain ⟨gap, pieces, hRanges, hText, hPositions⟩ := ih hRest hBehind
      refine ⟨(text.drop pos).take (start range - pos),
        ⟨range, (text.drop (start range)).take (stop range - start range), gap⟩ :: pieces,
        by rw [List.map_cons, hRanges], ?_, ?_⟩
      · rw [List.flatMap_cons, octets, List.append_assoc, hText]
        have hBody : (text.drop (start range)).take (stop range - start range) ++
            text.drop (stop range) = text.drop (start range) := by
          have hDrop := List.drop_drop (i := stop range - start range) (j := start range) (l := text)
          rw [show start range + (stop range - start range) = stop range by omega] at hDrop
          rw [← hDrop, List.take_append_drop]
        have hFirst : (text.drop pos).take (start range - pos) ++ text.drop (start range) =
            text.drop pos := by
          have hDrop := List.drop_drop (i := start range - pos) (j := pos) (l := text)
          rw [show pos + (start range - pos) = start range by omega] at hDrop
          rw [← hDrop, List.take_append_drop]
        rw [hBody, hFirst]
      · intro front piece behind hEq
        have hFirstLength : ((text.drop pos).take (start range - pos)).length = start range - pos := by
          rw [List.length_take, List.length_drop]
          omega
        have hBodyLength : ((text.drop (start range)).take (stop range - start range)).length =
            stop range - start range := by
          rw [List.length_take, List.length_drop]
          omega
        rcases List.cons_eq_append_iff.mp hEq with ⟨rfl, hPieces⟩ | ⟨front', rfl, hPieces⟩
        · cases hPieces
          simp only [List.flatMap_nil, List.append_nil, hFirstLength, hBodyLength]
          omega
        · obtain ⟨hStart, hStop⟩ := hPositions front' piece behind hPieces
          refine ⟨?_, hStop⟩
          rw [hStart]
          simp only [List.flatMap_cons, octets, List.length_append, hFirstLength, hBodyLength]
          omega

theorem exists_layout {ranges : List β} (hOrder : ranges.Pairwise fun a b => stop a < start b)
    (hRange : ∀ range ∈ ranges, start range ≤ stop range ∧ stop range ≤ text.length) :
    ∃ (first : List α) (pieces : List (Piece α β)), Layout start stop text ranges first pieces := by
  obtain ⟨first, pieces, hRanges, hText, hPositions⟩ :=
    @exists_layout_from α β start stop text ranges 0 hOrder fun range hMem =>
      ⟨Nat.zero_le _, hRange range hMem⟩
  refine ⟨first, pieces, hRanges, hText, ?_⟩
  simpa using hPositions

/-- Without its last range a layout stays one. -/
theorem Layout.dropLast {first : List α} {pieces : List (Piece α β)} {piece : Piece α β}
    {ranges : List β} (h : Layout start stop text ranges first (pieces ++ [piece])) :
    Layout start stop (first ++ pieces.flatMap Piece.octets) (pieces.map Piece.range) first pieces where
  ranges := rfl
  text := rfl
  positions front other behind hEq :=
    h.positions front other (behind ++ [piece]) (by rw [hEq, List.append_assoc, List.cons_append])

/-- The pieces around new ranges, which delimit the new bodies. -/
def refilled (newBody : β → List α) (pieces : List (Piece α β)) (ranges : List β) :
    List (Piece α β) :=
  List.zipWith (fun piece range => ⟨range, newBody piece.range, piece.gap⟩) pieces ranges

/-- Where the bodies that are there take their own places, the text stays. -/
theorem replaced_refilled {newBody again : β → List α} {first : List α}
    {pieces : List (Piece α β)} {ranges : List β}
    (h : List.Forall₂ (fun range new => again new = newBody range) (pieces.map Piece.range) ranges) :
    replaced again first (refilled newBody pieces ranges) = replaced newBody first pieces := by
  have hBodies : (refilled newBody pieces ranges).flatMap (fun piece =>
      again piece.range ++ piece.gap) = pieces.flatMap fun piece => newBody piece.range ++ piece.gap := by
    induction pieces generalizing ranges with
    | nil => rfl
    | cons piece pieces ih =>
        cases h with
        | cons hHead hRest =>
            rw [refilled, List.zipWith_cons_cons, List.flatMap_cons, List.flatMap_cons, ← ih hRest,
              hHead]
            rfl
  rw [replaced, hBodies, replaced]

theorem length_newBody_le {newBody : β → List α} {first : List α} {pieces : List (Piece α β)}
    {piece : Piece α β} (hMem : piece ∈ pieces) :
    (newBody piece.range).length ≤ (replaced newBody first pieces).length := by
  obtain ⟨before, behind, rfl⟩ := List.append_of_mem hMem
  simp only [replaced, List.flatMap_append, List.flatMap_cons, List.length_append]
  omega

end Piece

/-- Sorted from the back, elements in order stand in reverse. -/
theorem insertionSort_descending {key : β → Nat} {xs : List β}
    (h : xs.Pairwise fun a b => key a < key b) :
    xs.insertionSort (fun a b => key b ≤ key a) = xs.reverse := by
  induction xs with
  | nil => rfl
  | cons x rest ih =>
      obtain ⟨hHead, hRest⟩ := List.pairwise_cons.mp h
      rw [List.insertionSort_cons, ih hRest, List.reverse_cons]
      have hLater : ∀ y ∈ rest.reverse, key x < key y := by
        intro y hMem
        exact hHead y (List.mem_reverse.mp hMem)
      generalize rest.reverse = later at hLater
      induction later with
      | nil => rfl
      | cons y others ihLater =>
          have hNot : ¬ key y ≤ key x := not_le.mpr (hLater y List.mem_cons_self)
          rw [List.orderedInsert_cons, if_neg hNot, List.cons_append,
            ihLater fun z hMem => hLater z (List.mem_cons_of_mem _ hMem)]

end Smime
