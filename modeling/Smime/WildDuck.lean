import Smime.Data.Utf8Chars
import Smime.VerifySignedData

/-! `normalize_wildduck_content` of `src/lib.rs` in terms of positions in the
content: where a CRLF goes, what is then in front of every boundary, and that
nothing else changes. -/
namespace Smime

open X690 (Octets)
open Mail Utils

section Positions

/-- A boundary line begins at `i`, and what is in front does not end with CRLF. -/
def MissesCrlf (boundary : Option Octets) (content : Octets) (i : Nat) : Prop :=
  (∃ mark ∈ boundary, mark <+: content.drop i) ∧ ¬ crlf <:+ content.take i

instance (boundary : Option Octets) (content : Octets) :
    DecidablePred (MissesCrlf boundary content) := fun i =>
  match boundary with
  | none => .isFalse fun h => by
      obtain ⟨mark, hMark, -⟩ := h.1
      cases hMark
  | some mark =>
      if h : mark <+: content.drop i ∧ ¬ crlf <:+ content.take i then
        .isTrue ⟨⟨mark, rfl, h.1⟩, h.2⟩
      else
        .isFalse fun hMisses => by
          obtain ⟨⟨mark', hMark, hOccurs⟩, hFront⟩ := hMisses
          cases hMark
          exact h ⟨hOccurs, hFront⟩

/-- The octets from position `i` on, with a CRLF put in front of those at `places`. -/
def insertCrlfsAt (places : Nat → Prop) [DecidablePred places] : Nat → Octets → Octets
  | _, [] => []
  | i, octet :: rest => (if places i then crlf else []) ++ octet :: insertCrlfsAt places (i + 1) rest

theorem sublist_insertCrlfsAt (places : Nat → Prop) [DecidablePred places] (i : Nat)
    (octets : Octets) : octets.Sublist (insertCrlfsAt places i octets) := by
  induction octets generalizing i with
  | nil => exact List.Sublist.slnil
  | cons octet rest ih =>
      have hTail : (octet :: rest).Sublist (octet :: insertCrlfsAt places (i + 1) rest) :=
        (ih (i + 1)).cons_cons octet
      exact hTail.trans (List.sublist_append_right _ _)

theorem insertCrlfsAt_append (places : Nat → Prop) [DecidablePred places] (i : Nat)
    (front octets : Octets) :
    insertCrlfsAt places i (front ++ octets) =
      insertCrlfsAt places i front ++ insertCrlfsAt places (i + front.length) octets := by
  induction front generalizing i with
  | nil => rfl
  | cons octet rest ih =>
      rw [List.cons_append, insertCrlfsAt, ih, insertCrlfsAt, List.length_cons,
        show i + 1 + rest.length = i + (rest.length + 1) by omega, List.append_assoc,
        List.cons_append]

theorem suffix_insertCrlfsAt {places : Nat → Prop} [DecidablePred places] (i : Nat)
    (front : Octets) (h : ¬ places (i + front.length + 1)) :
    crlf <:+ insertCrlfsAt places i (front ++ crlf) := by
  have hCrlf : insertCrlfsAt places (i + front.length) crlf =
      (if places (i + front.length) then crlf else []) ++ crlf := by
    show insertCrlfsAt places (i + front.length) [13, 10] = _
    rw [insertCrlfsAt, insertCrlfsAt, if_neg h, insertCrlfsAt, List.nil_append]
    rfl
  rw [insertCrlfsAt_append, hCrlf]
  exact (List.suffix_append _ _).trans (List.suffix_append _ _)

theorem insertCrlfsAt_of_none {places : Nat → Prop} [DecidablePred places]
    (h : ∀ i, ¬ places i) (i : Nat) (octets : Octets) : insertCrlfsAt places i octets = octets := by
  induction octets generalizing i with
  | nil => rfl
  | cons octet rest ih => rw [insertCrlfsAt, if_neg (h i), ih, List.nil_append]

theorem precededBy_iff (before rest : Octets) :
    crlf <:+ (before.reverse ++ rest).take before.length ↔
      crlf.reverse.isPrefixOf before = true := by
  rw [← List.length_reverse, List.take_left, List.isPrefixOf_iff_prefix, ← List.reverse_prefix,
    List.reverse_reverse]

theorem missesCrlf_iff (boundary : Option Octets) (before rest : Octets) :
    MissesCrlf boundary (before.reverse ++ rest) before.length ↔
      boundary.any (·.isPrefixOf rest) ∧ ¬ crlf.reverse.isPrefixOf before := by
  have hDrop : (before.reverse ++ rest).drop before.length = rest := by
    rw [← List.length_reverse, List.drop_left]
  rw [MissesCrlf, precededBy_iff, hDrop]
  cases boundary with
  | none => simp
  | some mark => simp [List.isPrefixOf_iff_prefix]

/-- The scan puts a CRLF in at every position that misses one. -/
theorem insertCrlfs_eq (boundary : Option Octets) (before rest : Octets) :
    insertCrlfs boundary before rest =
      insertCrlfsAt (MissesCrlf boundary (before.reverse ++ rest)) before.length rest := by
  induction rest generalizing before with
  | nil => rfl
  | cons octet rest ih =>
      have hContent : (octet :: before).reverse ++ rest = before.reverse ++ octet :: rest := by
        rw [List.reverse_cons, List.append_assoc, List.singleton_append]
      rw [insertCrlfs, insertCrlfsAt, ih, hContent, List.length_cons]
      congr 1
      exact if_congr (missesCrlf_iff boundary before (octet :: rest)).symm rfl rfl

end Positions

section Output

/-- A boundary line: CRLF, two hyphens and a boundary without CR. -/
structure IsMark (mark : Octets) : Prop where
  shape : ∃ b, mark = 13 :: 10 :: 45 :: b
  noCr : 13 ∉ mark.tail

variable {boundary : Option Octets}

/-- The scan starts what it puts in with CR, so text without CR is not split by it. -/
theorem prefix_of_prefix_insertCrlfs {text tail : Octets} (before rest : Octets)
    (hNoCr : 13 ∉ text) (hTail : tail = [] ∨ tail = crlf)
    (h : text <+: insertCrlfs boundary before rest ++ tail) : text <+: rest := by
  induction rest generalizing text before with
  | nil =>
      rw [insertCrlfs, List.nil_append] at h
      cases text with
      | nil => exact List.nil_prefix
      | cons first more =>
          exfalso
          rcases hTail with rfl | rfl
          · exact absurd (List.prefix_nil.mp h) (List.cons_ne_nil _ _)
          · exact hNoCr (List.mem_cons.mpr (.inl (List.cons_prefix_cons.mp h).1.symm))
  | cons octet rest ih =>
      cases text with
      | nil => exact List.nil_prefix
      | cons first more =>
          rw [insertCrlfs, List.append_assoc] at h
          split at h
          · exfalso
            rw [crlf, List.cons_append] at h
            exact hNoCr (List.mem_cons.mpr (.inl (List.cons_prefix_cons.mp h).1.symm))
          · obtain ⟨rfl, hMore⟩ := List.cons_prefix_cons.mp h
            have hRest := ih (first :: before) (fun hMem => hNoCr (List.mem_cons_of_mem _ hMem)) hMore
            exact List.cons_prefix_cons.mpr ⟨rfl, hRest⟩

/-- What the scan has written ends as what it has read. -/
def EndsAlike (written before : Octets) : Prop :=
  written.head? = before.head? ∧ (crlf.reverse <+: before → crlf.reverse <+: written)

theorem EndsAlike.cons {written before : Octets} (h : EndsAlike written before) (octet : UInt8) :
    EndsAlike (octet :: written) (octet :: before) := by
  refine ⟨rfl, fun hPrefix => ?_⟩
  obtain ⟨rfl, hCr⟩ := List.cons_prefix_cons.mp hPrefix
  refine List.cons_prefix_cons.mpr ⟨rfl, ?_⟩
  cases before with
  | nil => exact absurd (List.prefix_nil.mp hCr) (List.cons_ne_nil _ _)
  | cons last before =>
      obtain ⟨rfl, -⟩ := List.cons_prefix_cons.mp hCr
      cases written with
      | nil => exact absurd h.1 (by simp)
      | cons last written =>
          obtain rfl := Option.some.inj h.1
          exact List.cons_prefix_cons.mpr ⟨rfl, List.nil_prefix⟩

/-- A CR that the scan writes after its CRLF is not the end of one. -/
theorem EndsAlike.inserted {written : Octets} (before : Octets) :
    EndsAlike (13 :: (crlf.reverse ++ written)) (13 :: before) :=
  ⟨rfl, fun hPrefix => absurd (List.cons_prefix_cons.mp hPrefix).1 (by decide)⟩

/-- In front of every boundary line that is written, CRLF is written. -/
theorem preceded_insertCrlfs (hMark : ∀ mark ∈ boundary, IsMark mark) {mark tail : Octets}
    (hBoundary : mark ∈ boundary) (hTail : tail = [] ∨ tail = crlf) (written before rest : Octets)
    (hAlike : EndsAlike written before) (k : Nat)
    (hOccurs : mark <+: (insertCrlfs boundary before rest ++ tail).drop k) :
    crlf.reverse <+: ((insertCrlfs boundary before rest ++ tail).take k).reverse ++ written := by
  obtain ⟨⟨b, rfl⟩, hNoCr⟩ := hMark mark hBoundary
  induction rest generalizing written before k with
  | nil =>
      -- The last CRLF is too short for a boundary line.
      exfalso
      rw [insertCrlfs, List.nil_append] at hOccurs
      have hShort := hOccurs.length_le
      have hTwo : tail.length ≤ 2 := by
        rcases hTail with rfl | rfl <;> decide
      simp only [List.length_cons, List.length_drop] at hShort
      omega
  | cons octet rest ih =>
      by_cases hInsert : boundary.any (·.isPrefixOf (octet :: rest)) ∧ ¬ crlf.reverse.isPrefixOf before
      · have hCr : octet = 13 := by
          cases boundary with
          | none => exact absurd hInsert.1 Bool.false_ne_true
          | some mark =>
              cases hBoundary
              exact (List.cons_prefix_cons.mp (List.isPrefixOf_iff_prefix.mp hInsert.1)).1.symm
        subst hCr
        rw [insertCrlfs, if_pos hInsert] at hOccurs ⊢
        match k with
        | 0 =>
            obtain ⟨-, hOccurs⟩ := List.cons_prefix_cons.mp hOccurs
            obtain ⟨-, hOccurs⟩ := List.cons_prefix_cons.mp hOccurs
            exact absurd (List.cons_prefix_cons.mp hOccurs).1 (by decide)
        | 1 => exact absurd (List.cons_prefix_cons.mp hOccurs).1 (by decide)
        | 2 => exact ⟨written, rfl⟩
        | k + 3 =>
            have hRest := ih (13 :: (crlf.reverse ++ written)) (13 :: before)
              (EndsAlike.inserted before) k hOccurs
            simpa [crlf] using hRest
      · rw [insertCrlfs, if_neg hInsert, List.nil_append, List.cons_append] at hOccurs ⊢
        match k with
        | 0 =>
            obtain ⟨rfl, hMore⟩ := List.cons_prefix_cons.mp hOccurs
            have hRead : 10 :: 45 :: b <+: rest :=
              prefix_of_prefix_insertCrlfs _ rest hNoCr hTail hMore
            have hAny : boundary.any (·.isPrefixOf (13 :: rest)) = true := by
              rw [Option.mem_def.mp hBoundary, Option.any_some, List.isPrefixOf_iff_prefix]
              exact List.cons_prefix_cons.mpr ⟨rfl, hRead⟩
            have hBefore := not_not.mp fun hNot => hInsert ⟨hAny, hNot⟩
            exact hAlike.2 (List.isPrefixOf_iff_prefix.mp hBefore)
        | k + 1 =>
            have hRest := ih (octet :: written) (octet :: before) (hAlike.cons octet) k hOccurs
            simpa using hRest

end Output

section Normalization

/-- What a boundary line of the message begins with. -/
def boundaryMark (innerMessage : Message) : Option Octets :=
  (innerMessage.contentType.bind (·.attribute "boundary")).map fun b => crlf ++ utf8 "--" ++ utf8 b

/-- The boundary of the message, when there is one, is a line without CR and LF. -/
def OneLineBoundary (innerMessage : Message) : Prop :=
  ∀ b, innerMessage.contentType.bind (·.attribute "boundary") = some b →
    '\r' ∉ b.toList ∧ '\n' ∉ b.toList

/-- The content with CRLFs where it misses them, and nothing else. -/
structure AddsCrlfs (boundary : Option Octets) (content out : Octets) : Prop where
  inserted : out = insertCrlfsAt (MissesCrlf boundary content) 0 content ++
    if crlf <:+ content then [] else crlf
  kept : content.Sublist out
  preceded : ∀ i, ¬ MissesCrlf boundary out i
  terminated : crlf <:+ out

theorem isMark_of_oneLine {innerMessage : Message} (h : OneLineBoundary innerMessage) :
    ∀ mark ∈ boundaryMark innerMessage, IsMark mark := by
  intro mark hMark
  obtain ⟨b, hBoundary, rfl⟩ := Option.map_eq_some_iff.mp hMark
  have hHyphens : utf8 "--" = [45, 45] := by decide +kernel
  refine ⟨⟨45 :: utf8 b, by rw [hHyphens]; rfl⟩, ?_⟩
  intro hCr
  rw [hHyphens] at hCr
  have hMem : 13 ∈ utf8 b := by simpa [crlf] using hCr
  obtain ⟨char, hChar, hValue⟩ := Utf8.ascii_mem_toUTF8 (by decide) hMem
  have hEq : char = '\r' := Char.ext (UInt32.toNat_inj.mp hValue)
  exact (h b hBoundary).1 (hEq ▸ hChar)

theorem normalizeWildduckContent_at (content : Octets) (innerMessage : Message) :
    normalizeWildduckContent content innerMessage =
      insertCrlfs (boundaryMark innerMessage) [] content ++
        if crlf <:+ content then [] else crlf := by
  rw [normalizeWildduckContent]
  congr 1
  exact if_congr List.isSuffixOf_iff_suffix rfl rfl

/-- A final CRLF stays one: no boundary line begins with its LF. -/
theorem terminated_insertCrlfs {boundary : Option Octets} (hMark : ∀ mark ∈ boundary, IsMark mark)
    {content : Octets} (h : crlf <:+ content) :
    crlf <:+ insertCrlfsAt (MissesCrlf boundary content) 0 content := by
  obtain ⟨front, rfl⟩ := h
  have hLf : ¬ MissesCrlf boundary (front ++ crlf) (front.length + 1) := by
    rintro ⟨⟨mark, hBoundary, hOccurs⟩, -⟩
    obtain ⟨⟨b, rfl⟩, -⟩ := hMark mark hBoundary
    rw [← List.drop_drop, List.drop_left] at hOccurs
    exact absurd (List.cons_prefix_cons.mp hOccurs).1 (by decide)
  exact suffix_insertCrlfsAt 0 front (by rwa [Nat.zero_add])

theorem addsCrlfs_normalize {innerMessage : Message} (h : OneLineBoundary innerMessage)
    (content : Octets) :
    AddsCrlfs (boundaryMark innerMessage) content
      (normalizeWildduckContent content innerMessage) := by
  have hMark := isMark_of_oneLine h
  have hInserted := insertCrlfs_eq (boundaryMark innerMessage) [] content
  rw [normalizeWildduckContent_at]
  refine ⟨?_, ?_, ?_, ?_⟩
  · rw [hInserted]
    rfl
  · rw [hInserted]
    exact (sublist_insertCrlfsAt _ _ content).trans (List.sublist_append_left _ _)
  · rintro i ⟨⟨mark, hBoundary, hOccurs⟩, hFront⟩
    have hTail : (if crlf <:+ content then [] else crlf) = ([] : Octets) ∨
        (if crlf <:+ content then [] else crlf) = crlf := by
      split
      · exact .inl rfl
      · exact .inr rfl
    have hPreceded := preceded_insertCrlfs hMark hBoundary hTail [] [] content
      ⟨rfl, fun hPrefix => hPrefix⟩ i hOccurs
    rw [List.append_nil] at hPreceded
    exact hFront (List.reverse_prefix.mp hPreceded)
  · by_cases hEnd : crlf <:+ content
    · rw [if_pos hEnd, List.append_nil, hInserted]
      exact terminated_insertCrlfs hMark hEnd
    · rw [if_neg hEnd]
      exact List.suffix_append _ _

/-- Content without a missing CRLF stays as it is. -/
theorem normalize_of_complete {innerMessage : Message} {content : Octets}
    (hPreceded : ∀ i, ¬ MissesCrlf (boundaryMark innerMessage) content i)
    (hTerminated : crlf <:+ content) : normalizeWildduckContent content innerMessage = content := by
  rw [normalizeWildduckContent_at, insertCrlfs_eq, if_pos hTerminated, List.append_nil]
  exact insertCrlfsAt_of_none hPreceded _ content

/-- The normalization adds the missing CRLFs; what misses none it leaves alone, so that it
changes nothing when it is done again. -/
theorem normalizeWildduckContent_adds (innerMessage : Message) (h : OneLineBoundary innerMessage)
    (content : Octets) :
    AddsCrlfs (boundaryMark innerMessage) content
        (normalizeWildduckContent content innerMessage) ∧
      ((∀ i, ¬ MissesCrlf (boundaryMark innerMessage) content i) → crlf <:+ content →
        normalizeWildduckContent content innerMessage = content) ∧
      normalizeWildduckContent (normalizeWildduckContent content innerMessage) innerMessage =
        normalizeWildduckContent content innerMessage := by
  have hAdds := addsCrlfs_normalize h content
  exact ⟨hAdds, normalize_of_complete, normalize_of_complete hAdds.preceded hAdds.terminated⟩

/-- A message with the boundary SEP, as the workaround looks at it. -/
def sepMessage : Message where
  parts := [⟨⟨some ⟨"multipart", some "mixed", [("boundary", "SEP")]⟩, [], 0, 0⟩, .multipart []⟩]
  fromAddr := none
  date := none

/-- An empty line and the text a, followed by a last boundary line without its CRLF. -/
def sepContent : Octets := crlf ++ 97 :: crlf ++ [45, 45, 83, 69, 80, 45, 45]

theorem oneLineBoundary_sepMessage : OneLineBoundary sepMessage := by
  intro b hBoundary
  have hSep : sepMessage.contentType.bind (·.attribute "boundary") = some "SEP" := by decide
  rw [hSep] at hBoundary
  cases hBoundary
  decide

theorem normalizeWildduckContent_adds_sep :
    AddsCrlfs (boundaryMark sepMessage) sepContent
        (normalizeWildduckContent sepContent sepMessage) ∧
      ((∀ i, ¬ MissesCrlf (boundaryMark sepMessage) sepContent i) → crlf <:+ sepContent →
        normalizeWildduckContent sepContent sepMessage = sepContent) ∧
      normalizeWildduckContent (normalizeWildduckContent sepContent sepMessage) sepMessage =
        normalizeWildduckContent sepContent sepMessage :=
  normalizeWildduckContent_adds sepMessage oneLineBoundary_sepMessage sepContent

example : normalizeWildduckContent sepContent sepMessage =
    crlf ++ 97 :: crlf ++ crlf ++ [45, 45, 83, 69, 80, 45, 45] ++ crlf := by decide +kernel

end Normalization

end Smime
