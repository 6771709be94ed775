import Mathlib.Data.List.Induction
import Smime.ClearSigned
import Smime.Data.Base64
import Smime.Data.Call
import Smime.Data.Splice
import Smime.Mail.Message
import Smime.Utils.Canonical
import Smime.Utils.Regions

/-! `ber_to_der` of `src/modify_cms.rs`: the PKCS#7 bodies of a message file are
rewritten as DER, in Base64. -/
namespace Smime.ModifyCms

open X690 (Octets)
open Mail Utils

section Model

/-- What a Content-Transfer-Encoding says of a body: `identity` is for 7bit, 8bit,
binary, none and unknown ones. -/
inductive TransferEncoding where
  | base64
  | quotedPrintable
  | identity
  deriving DecidableEq

/-- A body part of a message, as `mail_parser` gives it. -/
structure BodyPart where
  contentType : Option ContentType
  encoding : TransferEncoding
  offsetBody : Nat
  offsetEnd : Nat
  contents : Octets
  deriving DecidableEq

def isPkcs7ContentType (part : BodyPart) : Bool :=
  match part.contentType with
  | none => false
  | some ct =>
      eqIgnoreAsciiCase ct.cType "application" &&
        match ct.cSubtype with
        | none => false
        | some subtype =>
            eqIgnoreAsciiCase subtype "pkcs7-mime" || eqIgnoreAsciiCase subtype "x-pkcs7-mime" ||
              eqIgnoreAsciiCase subtype "pkcs7-signature" ||
                eqIgnoreAsciiCase subtype "x-pkcs7-signature"

def lineBreak : Octets := [0x0D, 0x0A]

/-- `chunks`. Every chunk takes octets, so `fuel` of the length is never used up. -/
def chunksFrom (size : Nat) : Nat → Octets → List Octets
  | 0, _ => []
  | fuel + 1, octets =>
      if octets.isEmpty then []
      else octets.take size :: chunksFrom size fuel (octets.drop size)

def chunks (size : Nat) (octets : Octets) : List Octets := chunksFrom size octets.length octets

/-- The new body: lines of 76 characters. -/
def wrapBase64 (der : Octets) : Octets :=
  ((chunks 76 (base64 der)).zipIdx.flatMap fun (chunk, i) =>
    (if i > 0 then lineBreak else []) ++ chunk) ++ lineBreak

variable (target : Target) (parse : Octets → Option (List BodyPart))

def pkcs7Parts (parts : List BodyPart) : List BodyPart := parts.filter isPkcs7ContentType

/-- `[&result[..body_start], wrapped, &result[body_end..]].concat()`. -/
def spliceBody (result : Octets) (part : BodyPart) (wrapped : Octets) : Call String Octets := do
  let before ← Call.sliceTo result part.offsetBody
  let after ← Call.sliceFrom result part.offsetEnd
  return before ++ (wrapped ++ after)

def rewriteParts : Octets → List BodyPart → Call String Octets
  | result, [] => .ok result
  | result, part :: rest => do
      let der ← Call.returned
        ((berToDerCms target part.contents).mapError fun e => "BER-to-DER: " ++ e)
      let result ← spliceBody result part (wrapBase64 der)
      rewriteParts result rest

/-- The new file: parts from the back, so that earlier offsets remain valid. -/
def berToDer (emlBytes : Octets) : Call String Octets := do
  let parts ← Call.returned (orError "Failed to parse EML" (parse emlBytes))
  let reversed := (pkcs7Parts parts).insertionSort fun a b => b.offsetBody ≤ a.offsetBody
  if reversed.isEmpty then Call.error "No PKCS#7 MIME parts found in message"
  else rewriteParts target emlBytes reversed

end Model

section Wrapping

open Base64

theorem flatten_chunksFrom {size : Nat} (hSize : 0 < size) {fuel : Nat} {octets : Octets}
    (h : octets.length ≤ fuel) : (chunksFrom size fuel octets).flatten = octets := by
  induction fuel generalizing octets with
  | zero => simpa [chunksFrom] using h
  | succ fuel ih =>
      rw [chunksFrom]
      split
      next hEmpty => simpa using hEmpty
      next =>
        have hRest : (octets.drop size).length ≤ fuel := by
          rw [List.length_drop]
          omega
        rw [List.flatten_cons, ih hRest, List.take_append_drop]

theorem filter_lines (lines : List Octets) (start : Nat) :
    ((lines.zipIdx start).flatMap fun (chunk, i) =>
        (if i > 0 then lineBreak else []) ++ chunk).filter (fun c => !isLineBreak c) =
      lines.flatten.filter fun c => !isLineBreak c := by
  induction lines generalizing start with
  | nil => rfl
  | cons line rest ih =>
      rw [List.zipIdx_cons, List.flatMap_cons, List.filter_append, List.filter_append, ih,
        List.flatten_cons, List.filter_append]
      have hBreak : (if start > 0 then lineBreak else []).filter (fun c => !isLineBreak c) = [] := by
        split
        · rfl
        · rfl
      rw [hBreak, List.nil_append]

theorem not_isLineBreak_of_mem_base64 {der : Octets} {c : UInt8} (h : c ∈ base64 der) :
    isLineBreak c = false := by
  obtain ⟨digits, padding, hEq, hDigits, hPadding, -⟩ := exists_base64_eq der
  rw [hEq, List.mem_append] at h
  rcases h with hMem | hMem
  · exact not_isLineBreak_of_isDigit (hDigits c hMem)
  · rw [hPadding c hMem]
    rfl

/-- Broken into lines, the text is still that of the octets. -/
theorem filter_wrapBase64 (der : Octets) :
    (wrapBase64 der).filter (fun c => !isLineBreak c) = base64 der := by
  have hChunks : (chunks 76 (base64 der)).flatten = base64 der :=
    flatten_chunksFrom (by decide) le_rfl
  have hEnd : lineBreak.filter (fun c => !isLineBreak c) = [] := rfl
  rw [wrapBase64, List.filter_append, filter_lines, hChunks, hEnd, List.append_nil,
    List.filter_eq_self]
  intro c hMem
  rw [not_isLineBreak_of_mem_base64 hMem]
  rfl

theorem decode_wrapBase64 (der : Octets) : decode (wrapBase64 der) = some der := by
  rw [decode, filter_wrapBase64]
  exact decodeGroups_base64 der

/-- Lines of Base64: digits, padding and line breaks, the last line complete. -/
def IsBase64Text (body : Octets) : Prop :=
  (∀ c ∈ body, isDigit c = true ∨ c = 61 ∨ isLineBreak c = true) ∧ lineBreak <:+ body

theorem isBase64Text_wrapBase64 (der : Octets) : IsBase64Text (wrapBase64 der) := by
  refine ⟨?_, List.suffix_append _ _⟩
  intro c hMem
  cases hBreak : isLineBreak c with
  | true => exact .inr (.inr rfl)
  | false =>
      have hText : c ∈ base64 der := by
        rw [← filter_wrapBase64, List.mem_filter, hBreak]
        exact ⟨hMem, rfl⟩
      obtain ⟨digits, padding, hEq, hDigits, hPadding, -⟩ := exists_base64_eq der
      rw [hEq, List.mem_append] at hText
      rcases hText with hDigit | hPad
      · exact .inl (hDigits c hDigit)
      · exact .inr (.inl (hPadding c hPad))

theorem filter_takeWhile {p q : UInt8 → Bool} (h : ∀ c, q c = false → p c = true)
    (octets : Octets) : (octets.takeWhile p).filter q = (octets.filter q).takeWhile p := by
  induction octets with
  | nil => rfl
  | cons c rest ih =>
      cases hq : q c with
      | false => rw [List.takeWhile_cons, h c hq, if_pos rfl, List.filter_cons, hq,
          if_neg Bool.false_ne_true, ih, List.filter_cons, hq, if_neg Bool.false_ne_true]
      | true =>
          rw [List.filter_cons, hq, if_pos rfl, List.takeWhile_cons, List.takeWhile_cons]
          cases p c with
          | false => rfl
          | true => rw [if_pos rfl, if_pos rfl, List.filter_cons, hq, if_pos rfl, ih]

/-- In front of the padding stand more digits than there are octets. -/
theorem exists_wrapBase64_eq {der : Octets} (h : der ≠ []) :
    ∃ text rest : Octets, wrapBase64 der = text ++ rest ∧
      (∀ c ∈ text, isDigit c = true ∨ isLineBreak c = true) ∧
        der.length < (text.filter isDigit).length := by
  obtain ⟨digits, padding, hEq, hDigits, hPadding, hLength⟩ := exists_base64_eq der
  have hText : ∀ c ∈ (wrapBase64 der).takeWhile (· != 61),
      isDigit c = true ∨ isLineBreak c = true := by
    intro c hMem
    have hPad := List.mem_takeWhile_imp hMem
    rcases (isBase64Text_wrapBase64 der).1 c (List.takeWhile_subset _ hMem) with hDigit | rfl | hBreak
    · exact .inl hDigit
    · cases hPad
    · exact .inr hBreak
  refine ⟨_, (wrapBase64 der).dropWhile (· != 61), List.takeWhile_append_dropWhile.symm, hText, ?_⟩
  have hSame : ((wrapBase64 der).takeWhile (· != 61)).filter isDigit =
      ((wrapBase64 der).takeWhile (· != 61)).filter fun c => !isLineBreak c := by
    refine List.filter_congr fun c hMem => ?_
    rcases hText c hMem with hDigit | hBreak
    · rw [hDigit, not_isLineBreak_of_isDigit hDigit]
      rfl
    · cases hDigit : isDigit c with
      | false => rw [hBreak]; rfl
      | true =>
          rw [not_isLineBreak_of_isDigit hDigit] at hBreak
          cases hBreak
  have hBreaks : ∀ c : UInt8, (!isLineBreak c) = false → (c != 61) = true := by
    intro c hc
    rw [bne_iff_ne]
    rintro rfl
    cases hc
  have hFront : (digits ++ padding).takeWhile (· != 61) = digits := by
    rw [List.takeWhile_append_of_pos]
    · cases padding with
      | nil => simp
      | cons c rest => rw [hPadding c List.mem_cons_self]; simp
    · intro c hMem
      rw [bne_iff_ne]
      rintro rfl
      cases hDigits 61 hMem
  rw [hSame, filter_takeWhile hBreaks, filter_wrapBase64, hEq, hFront]
  exact hLength h

end Wrapping

section Rewriting

variable {target : Target}

/-- What stands in the place of a body. -/
def newBody (target : Target) (part : BodyPart) : Octets :=
  match berToDerCms target part.contents with
  | .ok der => wrapBase64 der
  | .error _ => []

def Converts (target : Target) (part : BodyPart) : Prop :=
  ∃ der : Octets, berToDerCms target part.contents = .ok der

/-- From the back, every part is found where it was, whatever stands behind it by now. -/
theorem rewriteParts_layout {text first : Octets} {parts : List BodyPart}
    {pieces : List (Piece UInt8 BodyPart)}
    (hLayout : Piece.Layout BodyPart.offsetBody BodyPart.offsetEnd text parts first pieces)
    (hConverts : ∀ part ∈ parts, Converts target part) (tail : Octets) :
    rewriteParts target (text ++ tail) parts.reverse =
      Call.ok (Piece.replaced (newBody target) first pieces ++ tail) := by
  induction pieces using List.reverseRecOn generalizing text parts tail with
  | nil =>
      obtain ⟨rfl, rfl, -⟩ := hLayout
      simp [Piece.replaced, rewriteParts]
  | append_singleton front piece ih =>
      have hFront := hLayout.dropLast
      obtain ⟨hStart, hStop⟩ := hLayout.positions front piece [] rfl
      obtain ⟨rfl, rfl, -⟩ := hLayout
      rw [List.map_append, List.forall_mem_append] at hConverts
      obtain ⟨der, hDer⟩ := hConverts.2 piece.range (by simp)
      have hNew : newBody target piece.range = wrapBase64 der := by
        rw [newBody, hDer]
      have hText : first ++ (front ++ [piece]).flatMap Piece.octets ++ tail =
          (first ++ front.flatMap Piece.octets) ++ (piece.body ++ (piece.gap ++ tail)) := by
        simp [Piece.octets]
      have hSplice : spliceBody (first ++ (front ++ [piece]).flatMap Piece.octets ++ tail) piece.range
          (wrapBase64 der) = Call.ok ((first ++ front.flatMap Piece.octets) ++
            (wrapBase64 der ++ (piece.gap ++ tail))) := by
        have hTo : (first ++ front.flatMap Piece.octets).length ≤
            ((first ++ front.flatMap Piece.octets) ++ (piece.body ++ (piece.gap ++ tail))).length := by
          exact (List.prefix_append _ _).length_le
        have hFrom : (first ++ front.flatMap Piece.octets).length + piece.body.length ≤
            ((first ++ front.flatMap Piece.octets) ++ (piece.body ++ (piece.gap ++ tail))).length := by
          simp only [List.length_append]
          omega
        rw [spliceBody, hText, hStop, hStart, Call.sliceTo_of_le hTo, Call.ok_bind,
          Call.sliceFrom_of_le hFrom, Call.ok_bind, List.take_left, ← List.drop_drop,
          List.drop_left, List.drop_left]
        rfl
      rw [List.map_append, List.reverse_append, List.map_singleton, List.reverse_singleton,
        List.singleton_append, rewriteParts, hDer]
      simp only [Except.mapError, Call.returned_ok, Call.ok_bind, hSplice]
      have hRest := ih hFront hConverts.1 (wrapBase64 der ++ (piece.gap ++ tail))
      refine Eq.trans hRest ?_
      simp [Piece.replaced, hNew]

theorem converts_of_rewriteParts {result out : Octets} {parts : List BodyPart}
    (h : rewriteParts target result parts = Call.ok out) :
    ∀ part ∈ parts, Converts target part := by
  induction parts generalizing result with
  | nil => simp
  | cons part rest ih =>
      rw [rewriteParts, Call.bind_eq_ok_iff] at h
      obtain ⟨der, hDer, h⟩ := h
      rw [Call.bind_eq_ok_iff] at h
      obtain ⟨spliced, -, hRest⟩ := h
      rw [Call.returned_eq_ok_iff, Except.mapError_eq_ok_iff] at hDer
      rw [List.forall_mem_cons]
      exact ⟨⟨der, hDer⟩, ih hRest⟩

/-- The bodies of the parts that are rewritten stand in the file in their order, with
something between them. -/
def InOrder (eml : Octets) (parts : List BodyPart) : Prop :=
  (parts.Pairwise fun a b => a.offsetEnd < b.offsetBody) ∧
    ∀ part ∈ parts, part.offsetBody ≤ part.offsetEnd ∧ part.offsetEnd ≤ eml.length

/-- The tool writes a file exactly when there is something to convert and all of it
does; then every body is replaced where it stands. -/
theorem berToDer_ok_iff {parse : Octets → Option (List BodyPart)} {eml out : Octets}
    (hOrder : ∀ parts, parse eml = some parts → InOrder eml (pkcs7Parts parts)) :
    berToDer target parse eml = Call.ok out ↔
      ∃ parts : List BodyPart, parse eml = some parts ∧ pkcs7Parts parts ≠ [] ∧
        (∀ part ∈ pkcs7Parts parts, Converts target part) ∧
          ∃ (first : Octets) (pieces : List (Piece UInt8 BodyPart)),
            Piece.Layout BodyPart.offsetBody BodyPart.offsetEnd eml (pkcs7Parts parts) first pieces ∧
              out = Piece.replaced (newBody target) first pieces := by
  rw [berToDer, Call.bind_eq_ok_iff]
  simp only [Call.returned_eq_ok_iff, orError_eq_ok_iff]
  refine exists_congr fun parts => and_congr_right fun hParse => ?_
  obtain ⟨hApart, hBounds⟩ := hOrder parts hParse
  have hAscending : (pkcs7Parts parts).Pairwise fun a b => a.offsetBody < b.offsetBody := by
    refine hApart.imp_of_mem fun {a b} ha _ hab => ?_
    exact lt_of_le_of_lt (hBounds a ha).1 hab
  obtain ⟨first, pieces, hLayout⟩ := Piece.exists_layout hApart hBounds
  rw [insertionSort_descending hAscending]
  have hRewritten (hConverts : ∀ part ∈ pkcs7Parts parts, Converts target part) :
      rewriteParts target eml (pkcs7Parts parts).reverse =
        Call.ok (Piece.replaced (newBody target) first pieces) := by
    simpa using rewriteParts_layout hLayout hConverts []
  constructor
  · intro h
    split at h
    next => cases h
    next hSome =>
      have hConverts : ∀ part ∈ pkcs7Parts parts, Converts target part := by
        intro part hMem
        exact converts_of_rewriteParts h part (List.mem_reverse.mpr hMem)
      rw [hRewritten hConverts] at h
      refine ⟨by simpa using hSome, hConverts, first, pieces, hLayout, ?_⟩
      cases h
      rfl
  · rintro ⟨hSome, hConverts, first', pieces', hLayout', rfl⟩
    rw [if_neg (by simpa using hSome)]
    simpa using rewriteParts_layout hLayout' hConverts []

end Rewriting

section Parser

open Base64

variable {target : Target} {decode : TransferEncoding → Octets → Octets}
  {parse : Octets → Option (List BodyPart)} {eml : Octets}

/-- What the MIME parser does with a message. The bodies that it delimits stand in the
message one after another. Where text that holds no boundary takes the place of
bodies, it finds the same parts, and decodes the new bodies by the transfer encodings
that their headers name: Base64 to the octets, and others so that digits stay. -/
structure ParsesMime (decode : TransferEncoding → Octets → Octets)
    (parse : Octets → Option (List BodyPart)) (eml : Octets) : Prop where
  inOrder : ∀ parts, parse eml = some parts → InOrder eml (pkcs7Parts parts)
  reparses : ∀ parts first pieces newBody, parse eml = some parts →
    Piece.Layout BodyPart.offsetBody BodyPart.offsetEnd eml (pkcs7Parts parts) first pieces →
      (∀ part ∈ pkcs7Parts parts, IsBase64Text (newBody part)) →
        ∃ reparsed, parse (Piece.replaced newBody first pieces) = some reparsed ∧
          List.Forall₂ (fun part new => new.contents = decode part.encoding (newBody part))
            (pkcs7Parts parts) (pkcs7Parts reparsed)
  base64 : ∀ text octets : Octets, IsBase64Text text →
    text.filter (fun c => !isLineBreak c) = Smime.base64 octets → decode .base64 text = octets
  keepsDigits : ∀ encoding, encoding ≠ TransferEncoding.base64 → ∀ text rest : Octets,
    (∀ c ∈ text, isDigit c = true ∨ isLineBreak c = true) →
      (text.filter isDigit).Sublist (decode encoding (text ++ rest))

/-- Outside the bodies of the parts the files agree. -/
def Framed (eml : Octets) (parts : List BodyPart) (out : Octets) : Prop :=
  ∃ (first : Octets) (pieces : List (Piece UInt8 BodyPart)) (body : BodyPart → Octets),
    Piece.Layout BodyPart.offsetBody BodyPart.offsetEnd eml parts first pieces ∧
      out = Piece.replaced body first pieces

/-- Read again, the file has the same parts with the DER of what they were. -/
def ReadsBack (target : Target) (parse : Octets → Option (List BodyPart)) (parts : List BodyPart)
    (out : Octets) : Prop :=
  ∃ reparsed, parse out = some reparsed ∧
    List.Forall₂ (fun part new => berToDerCms target part.contents = .ok new.contents)
      (pkcs7Parts parts) (pkcs7Parts reparsed)

/-- What the tool writes differs from the file in the PKCS#7 bodies only, and they
are those of the DER. -/
def RewritesExactly (target : Target) (parse : Octets → Option (List BodyPart))
    (eml : Octets) : Prop :=
  ∀ out : Octets, berToDer target parse eml = Call.ok out →
    ∃ parts, parse eml = some parts ∧ Framed eml (pkcs7Parts parts) out ∧
      ReadsBack target parse parts out

theorem ne_nil_of_berToDerCms {input der : Octets} (h : berToDerCms target input = .ok der) :
    der ≠ [] := by
  rintro rfl
  simp only [berToDerCms, Except.bind_eq_ok_iff] at h
  obtain ⟨sent, -, hSort⟩ := h
  have hLength := sortCmsImplicitSets_length hSort
  rw [List.length_nil, eq_comm, List.length_eq_zero_iff] at hLength
  subst hLength
  cases hSort

/-- A body in Base64 under another transfer encoding is not read as its octets. -/
theorem decode_wrapBase64_ne (hMime : ParsesMime decode parse eml) {encoding : TransferEncoding}
    (hEncoding : encoding ≠ .base64) {der : Octets} (h : der ≠ []) :
    decode encoding (wrapBase64 der) ≠ der := by
  intro hSame
  obtain ⟨text, rest, hWrapped, hText, hLonger⟩ := exists_wrapBase64_eq h
  have hKept := (hMime.keepsDigits encoding hEncoding text rest hText).length_le
  rw [← hWrapped, hSame] at hKept
  omega

theorem isBase64Text_newBody {part : BodyPart} (h : Converts target part) :
    IsBase64Text (newBody target part) := by
  obtain ⟨der, hDer⟩ := h
  rw [newBody, hDer]
  exact isBase64Text_wrapBase64 der

/-- The tool rewrites a message exactly, exactly when, if all of its PKCS#7 parts
convert, their transfer encoding is Base64. -/
theorem rewritesExactly_iff (target : Target) (hMime : ParsesMime decode parse eml) :
    RewritesExactly target parse eml ↔
      ∀ parts, parse eml = some parts → (∀ part ∈ pkcs7Parts parts, Converts target part) →
        ∀ part ∈ pkcs7Parts parts, part.encoding = .base64 := by
  constructor
  · intro hExact parts hParse hConverts part hMem
    obtain ⟨hApart, hBounds⟩ := hMime.inOrder parts hParse
    obtain ⟨first, pieces, hLayout⟩ := Piece.exists_layout hApart hBounds
    have hWritten := (berToDer_ok_iff hMime.inOrder).mpr
      ⟨parts, hParse, List.ne_nil_of_mem hMem, hConverts, first, pieces, hLayout, rfl⟩
    obtain ⟨parts', hParse', -, reparsed, hReparse, hBack⟩ := hExact _ hWritten
    rw [hParse, Option.some.injEq] at hParse'
    subst hParse'
    obtain ⟨again, hAgain, hDecoded⟩ := hMime.reparses parts first pieces _ hParse hLayout
      fun other hOther => isBase64Text_newBody (hConverts other hOther)
    rw [hReparse, Option.some.injEq] at hAgain
    subst hAgain
    have hBoth : List.Forall₂ (fun part new => berToDerCms target part.contents = .ok new.contents ∧
        new.contents = decode part.encoding (newBody target part)) (pkcs7Parts parts)
          (pkcs7Parts reparsed) :=
      List.Forall₂.mp (fun _ _ hFirst hSecond => ⟨hFirst, hSecond⟩) hBack hDecoded
    obtain ⟨new, -, hDer, hContents⟩ := hBoth.exists_right hMem
    by_contra hEncoding
    rw [newBody, hDer] at hContents
    exact decode_wrapBase64_ne hMime hEncoding (ne_nil_of_berToDerCms hDer) hContents.symm
  · intro hBase64 out hWritten
    obtain ⟨parts, hParse, -, hConverts, first, pieces, hLayout, rfl⟩ :=
      (berToDer_ok_iff hMime.inOrder).mp hWritten
    refine ⟨parts, hParse, ⟨first, pieces, _, hLayout, rfl⟩, ?_⟩
    obtain ⟨reparsed, hReparse, hDecoded⟩ := hMime.reparses parts first pieces _ hParse hLayout
      fun other hOther => isBase64Text_newBody (hConverts other hOther)
    refine ⟨reparsed, hReparse, hDecoded.imp_mem fun part hMem new hContents => ?_⟩
    obtain ⟨der, hDer⟩ := hConverts part hMem
    rw [hBase64 parts hParse hConverts part hMem, newBody, hDer] at hContents
    rw [hDer, hContents, hMime.base64 _ der (isBase64Text_wrapBase64 der) (filter_wrapBase64 der)]

end Parser

section Samples

/-! Messages of one PKCS#7 part, and a parser that reads these. -/

def sampleDecode : TransferEncoding → Octets → Octets
  | .base64, text => (Base64.decode text).getD text
  | _, text => text

def onePart (header : Octets) (encoding : TransferEncoding) (eml : Octets) : BodyPart where
  contentType := some ⟨"application", some "pkcs7-mime", []⟩
  encoding := encoding
  offsetBody := header.length
  offsetEnd := eml.length
  contents := sampleDecode encoding (eml.drop header.length)

/-- Reads the messages with the header `header`, which names the transfer encoding. -/
def parseOnePart (header : Octets) (encoding : TransferEncoding) (eml : Octets) :
    Option (List BodyPart) :=
  if header <+: eml then some [onePart header encoding eml] else none

theorem pkcs7Parts_onePart (header : Octets) (encoding : TransferEncoding) (eml : Octets) :
    pkcs7Parts [onePart header encoding eml] = [onePart header encoding eml] := by
  have hPkcs7 : isPkcs7ContentType (onePart header encoding eml) = true := by
    show (eqIgnoreAsciiCase "application" "application" && _) = true
    decide
  rw [pkcs7Parts, List.filter_cons, hPkcs7, if_pos rfl, List.filter_nil]

theorem parseOnePart_append (header : Octets) (encoding : TransferEncoding) (body : Octets) :
    parseOnePart header encoding (header ++ body) =
      some [onePart header encoding (header ++ body)] :=
  if_pos (List.prefix_append header body)

theorem parsesMime_onePart (header : Octets) (encoding : TransferEncoding) (eml : Octets) :
    ParsesMime sampleDecode (parseOnePart header encoding) eml where
  inOrder parts hParse := by
    unfold parseOnePart at hParse
    split at hParse
    next hHeader =>
      cases hParse
      rw [pkcs7Parts_onePart]
      refine ⟨List.pairwise_singleton _ _, ?_⟩
      rintro part hMem
      rw [List.mem_singleton.mp hMem]
      exact ⟨hHeader.length_le, le_rfl⟩
    next => cases hParse
  reparses parts first pieces body hParse hLayout _ := by
    unfold parseOnePart at hParse
    split at hParse
    next hHeader =>
      cases hParse
      rw [pkcs7Parts_onePart] at hLayout ⊢
      obtain ⟨piece, rfl, hPiece⟩ := List.map_eq_singleton_iff.mp hLayout.ranges
      obtain ⟨hStart, hStop⟩ := hLayout.positions [] piece [] rfl
      have hText := hLayout.text
      rw [hPiece] at hStart hStop
      simp only [onePart, List.flatMap_nil, List.append_nil] at hStart hStop
      simp only [List.flatMap_cons, List.flatMap_nil, List.append_nil, Piece.octets] at hText
      have hFirst : first = header :=
        (List.prefix_of_prefix_length_le (hText ▸ List.prefix_append _ _) hHeader hStart.ge).eq_of_length
          hStart.symm
      have hGap : piece.gap = [] := by
        have hLength := congrArg List.length hText
        simp only [List.length_append] at hLength
        exact List.length_eq_zero_iff.mp (by omega)
      have hReplaced : Piece.replaced body first [piece] =
          header ++ body (onePart header encoding eml) := by
        simp [Piece.replaced, hFirst, hGap, hPiece]
      rw [hReplaced]
      refine ⟨_, parseOnePart_append header encoding _, ?_⟩
      rw [pkcs7Parts_onePart]
      refine .cons ?_ .nil
      rw [onePart, List.drop_left]
      rfl
    next => cases hParse
  base64 text octets _ hText := by
    rw [sampleDecode, Base64.decode, hText, Base64.decodeGroups_base64, Option.getD_some]
  keepsDigits encoding hEncoding text rest _ := by
    have hSame : sampleDecode encoding (text ++ rest) = text ++ rest := by
      cases encoding with
      | base64 => exact absurd rfl hEncoding
      | quotedPrintable => rfl
      | identity => rfl
    rw [hSame]
    exact List.filter_sublist.trans (List.sublist_append_left text rest)

def base64Header : Octets :=
  ascii "Content-Type: application/pkcs7-mime\r\nContent-Transfer-Encoding: base64\r\n\r\n"

def binaryHeader : Octets :=
  ascii "Content-Type: application/pkcs7-mime\r\nContent-Transfer-Encoding: binary\r\n\r\n"

/-- A SEQUENCE of indefinite length, of one OBJECT IDENTIFIER. -/
def sampleBer : Octets := [0x30, 0x80, 0x06, 0x01, 0x2A, 0x00, 0x00]

theorem rewritesExactly_iff_base64 :
    RewritesExactly .native64 (parseOnePart base64Header .base64)
        (base64Header ++ wrapBase64 sampleBer) ↔
      ∀ parts, parseOnePart base64Header .base64 (base64Header ++ wrapBase64 sampleBer) = some parts →
        (∀ part ∈ pkcs7Parts parts, Converts .native64 part) →
          ∀ part ∈ pkcs7Parts parts, part.encoding = .base64 :=
  rewritesExactly_iff .native64 (parsesMime_onePart base64Header .base64 _)

/-- A part in binary gets its DER in Base64, and is then read as that text. -/
theorem rewritesExactly_fails :
    ParsesMime sampleDecode (parseOnePart binaryHeader .identity) (binaryHeader ++ sampleBer) ∧
      ¬ RewritesExactly .native64 (parseOnePart binaryHeader .identity)
        (binaryHeader ++ sampleBer) := by
  refine ⟨parsesMime_onePart _ _ _, ?_⟩
  intro hExact
  have hWritten : (berToDer .native64 (parseOnePart binaryHeader .identity)
      (binaryHeader ++ sampleBer)).run = some (.ok (binaryHeader ++ ascii "MAMGASo=\r\n")) := by
    decide +kernel
  obtain ⟨parts, hParse, -, reparsed, hReparse, hBack⟩ := hExact _ hWritten
  rw [parseOnePart_append, Option.some.injEq] at hParse hReparse
  subst hParse hReparse
  rw [pkcs7Parts_onePart, pkcs7Parts_onePart] at hBack
  cases hBack with
  | cons hHead _ =>
      revert hHead
      decide +kernel

end Samples

end Smime.ModifyCms
