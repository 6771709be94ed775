import Smime.Data.Call
import Smime.Utils.BerToDerCms

/-! `ber_to_der_cms` of `src/utils.rs` with the positions of the source. Every
index, slice and operation on `usize` is checked; a loop or a recursion that
has not ended after as many rounds as its `fuel` does not return. -/
namespace Smime.Utils

open X690 (Octets)

namespace Target

/-- `isize::MAX`: no slice has more octets than that. -/
def isizeMax (target : Target) : Nat := target.usizeSize / 2 - 1

/-- `usize::leading_zeros`. -/
def leadingZeros (target : Target) (n : Nat) : Nat :=
  if n = 0 then target.usizeBits else target.usizeBits - (n.log2 + 1)

end Target

/-- The octets that a `&[u8]` can refer to. -/
structure ByteSlice (target : Target) where
  octets : Octets
  fits : octets.length ≤ target.isizeMax

namespace Calls

variable (target : Target)

section Header

def decodeBerDefiniteLength (first : UInt8) (rest : Octets) : Call String (Nat × Nat) :=
  if first &&& 0x80 = 0 then Call.ok (first.toNat, 0)
  else
    let numBytes := (first &&& 0x7f).toNat
    if numBytes = 0 then Call.error "zero-length definite long form"
    else if numBytes > rest.length then Call.error "truncated definite length"
    else do
      let lengthOctets ← Call.sliceTo rest numBytes
      let length ← Call.returned (lengthOctets.foldlM (lengthStep target) 0)
      Call.ok (length, numBytes)

/-- `(length >> (i * 8)) as u8`. -/
def lengthOctet (length i : Nat) : Call String UInt8 := do
  let shift ← Call.mul target.usizeSize i 8
  let digit ← Call.shr target.usizeBits length shift
  Call.ok (UInt8.ofNat digit)

def encodeDerLength (length : Nat) : Call String Octets :=
  if length < 0x80 then Call.ok [UInt8.ofNat length]
  else do
    let bits ← Call.sub target.usizeBits (target.leadingZeros length)
    let bytesNeeded := (bits + 7) / 8
    let octets ← (List.range bytesNeeded).reverse.mapM (lengthOctet target length)
    Call.ok ((0x80 ||| UInt8.ofNat bytesNeeded) :: octets)

/-- The position of the first octet from `pos` on that has bit 8 clear. -/
def tagEnd (data : Octets) : Nat → Nat → Call String Nat
  | 0, _ => Call.panic
  | fuel + 1, pos =>
    if pos < data.length then do
      let octet ← Call.index data pos
      if octet &&& 0x80 != 0 then do
        let pos ← Call.add target.usizeSize pos 1
        tagEnd data fuel pos
      else Call.ok pos
    else Call.ok pos

/-- The position behind a tag; `pos` is that of its second octet. -/
def skipTag (data : Octets) (tagByte : UInt8) (pos : Nat) : Call String Nat :=
  if tagByte &&& 0x1f = 0x1f then do
    let pos ← tagEnd target data (data.length + 1) pos
    if pos ≥ data.length then Call.error "truncated multi-byte tag"
    else Call.add target.usizeSize pos 1
  else Call.ok pos

def parseDerTlv (data : Octets) (offset : Nat) : Call String DerTlv :=
  if offset ≥ data.length then Call.error "unexpected end of input in TLV header"
  else do
    let tagByte ← Call.index data offset
    let pos ← Call.add target.usizeSize offset 1
    let pos ← skipTag target data tagByte pos
    if pos ≥ data.length then Call.error "truncated length"
    else do
      let lenByte ← Call.index data pos
      let lengthStart ← Call.add target.usizeSize pos 1
      let afterLenByte ← Call.sliceFrom data lengthStart
      let (contentLen, consumed) ← decodeBerDefiniteLength target lenByte afterLenByte
      let taken ← Call.add target.usizeSize 1 consumed
      let pos ← Call.add target.usizeSize pos taken
      let available ← Call.sub data.length pos
      if contentLen > available then Call.error "TLV content exceeds buffer"
      else do
        let headerLen ← Call.sub pos offset
        Call.ok {
          headerLen := headerLen
          contentLen := contentLen
          isConstructed := tagByte &&& 0x20 != 0
          tagByte := tagByte }

end Header

section BerToDer

def derContent (tlv : Octets) : Call String Octets := do
  let t ← parseDerTlv target tlv 0
  let stop ← Call.add target.usizeSize t.headerLen t.contentLen
  Call.slice tlv t.headerLen stop

/-- `i` is the number of the first of the segments that are left, of `count`. -/
def joinBitSegments (count : Nat) : Nat → List Octets → Octets → Call String Octets
  | _, [], content => Call.ok content
  | i, blob :: blobs, content => do
    let segment ← derContent target blob
    match segment with
    | [] => Call.error "BIT STRING segment missing unused-bits octet"
    | unused :: bits => do
      let next ← Call.add target.usizeSize i 1
      let isLast := next == count
      if unused > 7 || (unused != 0 && (bits.isEmpty || !isLast)) then
        Call.error "invalid unused-bits octet in BIT STRING segment"
      else do
        let content ← Call.set content 0 unused
        joinBitSegments count next blobs (content ++ bits)

def joinOctetSegments : List Octets → Octets → Call String Octets
  | [], content => Call.ok content
  | blob :: blobs, content => do
    let segment ← derContent target blob
    joinOctetSegments blobs (content ++ segment)

def flattenConstructedString (tagByte : UInt8) (childBlobs : List Octets) : Call String Octets :=
  let primitiveTag := tagByte &&& ~~~0x20
  if childBlobs.any (fun blob => blob.head? != some primitiveTag) then
    Call.error "constructed string segment type mismatch"
  else do
    let content ←
      if primitiveTag = 0x03 then joinBitSegments target childBlobs.length 0 childBlobs [0x00]
      else joinOctetSegments target childBlobs []
    let lengthOctets ← encodeDerLength target content.length
    Call.ok (primitiveTag :: (lengthOctets ++ content))

/-- `rest.len() >= 2 && rest[0] == 0x00 && rest[1] == 0x00`. -/
def startsWithEoc (rest : Octets) : Call String Bool :=
  if rest.length ≥ 2 then do
    let first ← Call.index rest 0
    if first = 0x00 then do
      let second ← Call.index rest 1
      Call.ok (second == 0x00)
    else Call.ok false
  else Call.ok false

def childrenUntilEoc (tlv : Octets → Call String (Octets × Octets)) :
    Nat → Octets → Call String (List Octets × Octets)
  | 0, _ => Call.panic
  | fuel + 1, rest => do
    let eoc ← startsWithEoc rest
    if eoc then do
      let behind ← Call.sliceFrom rest 2
      Call.ok ([], behind)
    else if rest.isEmpty then Call.error "unterminated indefinite-length element"
    else do
      let (childDer, remaining) ← tlv rest
      let (childBlobs, behind) ← childrenUntilEoc tlv fuel remaining
      Call.ok (childDer :: childBlobs, behind)

def childrenToEnd (tlv : Octets → Call String (Octets × Octets)) :
    Nat → Octets → Call String (List Octets)
  | 0, _ => Call.panic
  | fuel + 1, rest =>
    if rest.isEmpty then Call.ok []
    else do
      let (childDer, remaining) ← tlv rest
      let childBlobs ← childrenToEnd tlv fuel remaining
      Call.ok (childDer :: childBlobs)

def assembleChildren (tagByte : UInt8) (tagBytes : Octets) (childBlobs : List Octets) :
    Call String Octets :=
  let baseTag := tagByte &&& ~~~0x20
  let needsFlatten := tagByte &&& 0x20 != 0 && (baseTag == 0x03 || baseTag == 0x04)
  if needsFlatten then flattenConstructedString target tagByte childBlobs
  else
    let isSet := tagByte == 0x31
    let childBlobs := if isSet then childBlobs.insertionSort (· ≤ ·) else childBlobs
    let childrenDer := childBlobs.flatten
    do
      let lengthOctets ← encodeDerLength target childrenDer.length
      Call.ok (tagBytes ++ lengthOctets ++ childrenDer)

def berTlvToDer : Nat → Octets → Nat → Call String (Octets × Octets)
  | 0, _, _ => Call.panic
  | fuel + 1, input, depth =>
    if depth > maxBerDepth then Call.error "BER nesting too deep"
    else if input.isEmpty then Call.error "unexpected end of input"
    else do
      let tagByte ← Call.index input 0
      let pos ← Call.add target.usizeSize 0 1
      let pos ← skipTag target input tagByte pos
      let tagBytes ← Call.slice input 0 pos
      let isConstructed := tagByte &&& 0x20 != 0
      if pos ≥ input.length then Call.error "truncated length"
      else do
        let lenByte ← Call.index input pos
        let pos ← Call.add target.usizeSize pos 1
        let component := fun rest => do
          let depth ← Call.add target.usizeSize depth 1
          berTlvToDer fuel rest depth
        if lenByte = 0x80 then
          if !isConstructed then Call.error "indefinite length on primitive tag"
          else do
            let content ← Call.sliceFrom input pos
            let (childBlobs, rest) ← childrenUntilEoc component (content.length + 1) content
            let out ← assembleChildren target tagByte tagBytes childBlobs
            Call.ok (out, rest)
        else do
          let afterLenByte ← Call.sliceFrom input pos
          let (contentLen, bytesConsumed) ← decodeBerDefiniteLength target lenByte afterLenByte
          let pos ← Call.add target.usizeSize pos bytesConsumed
          let stop ← Call.returned
            (okOr (target.checkedAdd pos contentLen) "content length overflow")
          if stop > input.length then do
            let available ← Call.sub input.length pos
            Call.error
              s!"content length {contentLen} exceeds available data {available} at offset {pos}"
          else if isConstructed then do
            let content ← Call.slice input pos stop
            let childBlobs ← childrenToEnd component (content.length + 1) content
            let out ← assembleChildren target tagByte tagBytes childBlobs
            let rest ← Call.sliceFrom input stop
            Call.ok (out, rest)
          else do
            let content ← Call.slice input pos stop
            let lengthOctets ← encodeDerLength target contentLen
            let rest ← Call.sliceFrom input stop
            Call.ok (tagBytes ++ lengthOctets ++ content, rest)

/-- One level more than there can be: the call at that level returns an error. -/
def berToDer (input : Octets) : Call String Octets := do
  let (der, rest) ← berTlvToDer target (maxBerDepth + 2) input 0
  if !rest.isEmpty then
    let trailing := rest.length
    Call.error s!"trailing {trailing} bytes after top-level element"
  else Call.ok der

end BerToDer

section ImplicitSets

def childSlices (data : Octets) (contentEnd : Nat) : Nat → Nat → Call String (List Octets × Nat)
  | 0, _ => Call.panic
  | fuel + 1, pos =>
    if pos < contentEnd then do
      let tlv ← parseDerTlv target data pos
      let childLen ← Call.add target.usizeSize tlv.headerLen tlv.contentLen
      let childEnd ← Call.add target.usizeSize pos childLen
      let child ← Call.slice data pos childEnd
      let pos ← Call.add target.usizeSize pos childLen
      let (children, stop) ← childSlices data contentEnd fuel pos
      Call.ok (child :: children, stop)
    else Call.ok ([], pos)

def writeBack (data : Octets) : Nat → List Octets → Call String Octets
  | _, [] => Call.ok data
  | pos, child :: children => do
    let childEnd ← Call.add target.usizeSize pos child.length
    let data ← Call.copyInto data pos childEnd child
    let pos ← Call.add target.usizeSize pos child.length
    writeBack data pos children

def sortChildrenInPlace (data : Octets) (offset headerLen contentLen : Nat) :
    Call String Octets := do
  let contentStart ← Call.add target.usizeSize offset headerLen
  let contentEnd ← Call.add target.usizeSize contentStart contentLen
  if contentEnd > data.length then Call.error "content exceeds data bounds"
  else do
    let (children, pos) ← childSlices target data contentEnd (contentLen + 1) contentStart
    if pos ≠ contentEnd then Call.error "children don't exactly fill content"
    else writeBack target data contentStart (children.insertionSort (· ≤ ·))

def forEachTlv (visit : Octets → Nat → DerTlv → Call String Octets) (contentEnd : Nat) :
    Nat → Octets → Nat → Call String Octets
  | 0, _, _ => Call.panic
  | fuel + 1, data, pos =>
    if pos < contentEnd then do
      let tlv ← parseDerTlv target data pos
      let data ← visit data pos tlv
      let elemTotal ← Call.add target.usizeSize tlv.headerLen tlv.contentLen
      let pos ← Call.add target.usizeSize pos elemTotal
      forEachTlv visit contentEnd fuel data pos
    else Call.ok data

def sortSignerInfoField (data : Octets) (fieldPos : Nat) (fieldTlv : DerTlv) :
    Call String Octets :=
  if (fieldTlv.tagByte == 0xA0 || fieldTlv.tagByte == 0xA1) && fieldTlv.isConstructed then
    sortChildrenInPlace target data fieldPos fieldTlv.headerLen fieldTlv.contentLen
  else Call.ok data

def sortSignerInfo (data : Octets) (siPos : Nat) (siTlv : DerTlv) : Call String Octets :=
  if siTlv.tagByte == 0x30 && siTlv.isConstructed then do
    let siContentStart ← Call.add target.usizeSize siPos siTlv.headerLen
    let siContentEnd ← Call.add target.usizeSize siContentStart siTlv.contentLen
    forEachTlv target (sortSignerInfoField target) siContentEnd (siTlv.contentLen + 1) data
      siContentStart
  else Call.ok data

def sortSignerInfosImplicitSets (data : Octets) (contentStart contentLen : Nat) :
    Call String Octets := do
  let contentEnd ← Call.add target.usizeSize contentStart contentLen
  forEachTlv target (sortSignerInfo target) contentEnd (contentLen + 1) data contentStart

def sortSignedDataField (data : Octets) (pos : Nat) (tlv : DerTlv) : Call String Octets :=
  if (tlv.tagByte == 0xA0 || tlv.tagByte == 0xA1) && tlv.isConstructed then
    sortChildrenInPlace target data pos tlv.headerLen tlv.contentLen
  else if tlv.tagByte == 0x31 && tlv.isConstructed then do
    let contentStart ← Call.add target.usizeSize pos tlv.headerLen
    let data ← sortSignerInfosImplicitSets target data contentStart tlv.contentLen
    sortChildrenInPlace target data pos tlv.headerLen tlv.contentLen
  else Call.ok data

def sortSignedData (data : Octets) (start : Nat) : Call String Octets := do
  let sd ← parseDerTlv target data start
  if sd.tagByte != 0x30 || !sd.isConstructed then
    Call.error "expected SEQUENCE (SignedData) inside [0]"
  else do
    let sdContentStart ← Call.add target.usizeSize start sd.headerLen
    let sdContentEnd ← Call.add target.usizeSize sdContentStart sd.contentLen
    forEachTlv target (sortSignedDataField target) sdContentEnd (sd.contentLen + 1) data
      sdContentStart

/-- The comparison reads the octets of an OBJECT IDENTIFIER only. -/
def isSignedDataType (data : Octets) (contentStart afterOid : Nat) (oidTlv : DerTlv) :
    Call String Bool :=
  if oidTlv.tagByte != 0x06 then Call.ok false
  else do
    let oidStart ← Call.add target.usizeSize contentStart oidTlv.headerLen
    let oid ← Call.slice data oidStart afterOid
    Call.ok (oid == idSignedData)

def sortCmsImplicitSets (data : Octets) : Call String Octets := do
  let ci ← parseDerTlv target data 0
  if ci.tagByte != 0x30 || !ci.isConstructed then Call.error "not a SEQUENCE at top level"
  else do
    let oidTlv ← parseDerTlv target data ci.headerLen
    let oidStart ← Call.add target.usizeSize ci.headerLen oidTlv.headerLen
    let afterOid ← Call.add target.usizeSize oidStart oidTlv.contentLen
    let isSignedData ← isSignedDataType target data ci.headerLen afterOid oidTlv
    if !isSignedData then Call.ok data
    else do
      let explicit0 ← parseDerTlv target data afterOid
      if explicit0.tagByte != 0xA0 then Call.error "expected [0] EXPLICIT after OID"
      else do
        let contentStart ← Call.add target.usizeSize afterOid explicit0.headerLen
        sortSignedData target data contentStart

def berToDerCms (input : Octets) : Call String Octets := do
  let der ← berToDer target input
  sortCmsImplicitSets target der

end ImplicitSets

end Calls

example : (Calls.berToDerCms .wasm32 [0x30, 0x03, 0x06, 0x81, 0x01, 0x2A]).run =
    some (.error "content length 1 exceeds available data 0 at offset 3") := by decide +kernel

end Smime.Utils
