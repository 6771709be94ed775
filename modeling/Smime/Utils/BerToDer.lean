import Smime.X690.Encoding

/-! `ber_to_der` of `src/utils.rs`: one recursive pass over untrusted BER that
rewrites it as DER. Slices are lists of octets; the `usize` arithmetic that the
source checks is checked against the width of the compilation target. -/
namespace Smime.Utils

open X690 (Octets)

/-- Compilation targets, by the width of `usize`. -/
inductive Target where
  | wasm32
  | native64
  deriving DecidableEq

namespace Target

def usizeBits : Target → Nat
  | wasm32 => 32
  | native64 => 64

/-- The number of values of `usize`. -/
def usizeSize (target : Target) : Nat := 2 ^ target.usizeBits

def checkedMul (target : Target) (a b : Nat) : Option Nat :=
  if a * b < target.usizeSize then some (a * b) else none

def checkedAdd (target : Target) (a b : Nat) : Option Nat :=
  if a + b < target.usizeSize then some (a + b) else none

end Target

/-- A slice of octets, or a vector: its length is a `usize`. -/
structure Slice (target : Target) where
  octets : Octets
  fits : octets.length < target.usizeSize

def okOr {α : Type} (value : Option α) (err : String) : Except String α :=
  match value with
  | some a => .ok a
  | none => .error err

/-- One digit of the length accumulator. -/
def lengthStep (target : Target) (length : Nat) (octet : UInt8) : Except String Nat :=
  okOr ((target.checkedMul length 256).bind (target.checkedAdd · octet.toNat)) "length overflow"

/-- The value of a definite length and how many octets of `rest` it took. -/
def decodeBerDefiniteLength (target : Target) (first : UInt8) (rest : Octets) :
    Except String (Nat × Nat) :=
  if first &&& 0x80 = 0 then .ok (first.toNat, 0)
  else
    let numBytes := (first &&& 0x7f).toNat
    if numBytes = 0 then .error "zero-length definite long form"
    else if numBytes > rest.length then .error "truncated definite length"
    else do
      let length ← (rest.take numBytes).foldlM (lengthStep target) 0
      return (length, numBytes)

/-- Length octets of the shortest form. `usize::BITS - length.leading_zeros()`
is the bit length of `length`. -/
def encodeDerLength (length : Nat) : Octets :=
  if length < 0x80 then [UInt8.ofNat length]
  else
    let bytesNeeded := (length.log2 + 1 + 7) / 8
    (0x80 ||| UInt8.ofNat bytesNeeded) ::
      (List.range bytesNeeded).reverse.map (fun i => UInt8.ofNat (length >>> (i * 8)))

/-- The octets of a tag after the first one, and the input behind the tag. -/
def tagContinuation (tagByte : UInt8) (rest : Octets) : Except String (Octets × Octets) :=
  if tagByte &&& 0x1f = 0x1f then
    match rest.span (fun octet => octet &&& 0x80 != 0) with
    | (_, []) => .error "truncated multi-byte tag"
    | (continued, last :: behind) => .ok (continued ++ [last], behind)
  else .ok ([], rest)

structure DerTlv where
  headerLen : Nat
  contentLen : Nat
  isConstructed : Bool
  tagByte : UInt8
  deriving DecidableEq

/-- Read a TLV header at `data[offset..]`. -/
def parseDerTlv (target : Target) (data : Octets) (offset : Nat) : Except String DerTlv :=
  match data.drop offset with
  | [] => .error "unexpected end of input in TLV header"
  | tagByte :: afterTagByte => do
    let (_, afterTag) ← tagContinuation tagByte afterTagByte
    match afterTag with
    | [] => .error "truncated length"
    | lenByte :: afterLenByte =>
      let (contentLen, consumed) ← decodeBerDefiniteLength target lenByte afterLenByte
      let content := afterLenByte.drop consumed
      if contentLen > content.length then .error "TLV content exceeds buffer"
      else return {
        headerLen := data.length - offset - content.length
        contentLen := contentLen
        isConstructed := tagByte &&& 0x20 != 0
        tagByte := tagByte }

/-- The content of a DER TLV. -/
def derContent (target : Target) (tlv : Octets) : Except String Octets := do
  let t ← parseDerTlv target tlv 0
  return (tlv.drop t.headerLen).take t.contentLen

/-- X.690 8.6.4: join BIT STRING segments behind the unused-bits octet of the
last one; `content` already holds the octets joined so far. -/
def joinBitSegments (target : Target) : List Octets → Octets → Except String Octets
  | [], content => .ok content
  | blob :: blobs, content => do
    match ← derContent target blob with
    | [] => .error "BIT STRING segment missing unused-bits octet"
    | unused :: bits =>
      let isLast := blobs.isEmpty
      if unused > 7 || (unused != 0 && (bits.isEmpty || !isLast)) then
        .error "invalid unused-bits octet in BIT STRING segment"
      else joinBitSegments target blobs (content.set 0 unused ++ bits)

def joinOctetSegments (target : Target) : List Octets → Octets → Except String Octets
  | [], content => .ok content
  | blob :: blobs, content => do
    let segment ← derContent target blob
    joinOctetSegments target blobs (content ++ segment)

/-- Rewrite the segments of a constructed string as one primitive element
(X.690 8.6.4, 8.7.3). Nested segments are already flat at this point. -/
def flattenConstructedString (target : Target) (tagByte : UInt8) (childBlobs : List Octets) :
    Except String Octets :=
  let primitiveTag := tagByte &&& ~~~0x20
  if childBlobs.any (fun blob => blob.head? != some primitiveTag) then
    .error "constructed string segment type mismatch"
  else do
    let content ←
      if primitiveTag = 0x03 then joinBitSegments target childBlobs [0x00]
      else joinOctetSegments target childBlobs []
    return primitiveTag :: (encodeDerLength content.length ++ content)

def maxBerDepth : Nat := 64

/-- The components of an indefinite-length element and the input behind its
end-of-contents pair. Every component takes input, so `fuel` beyond the length
of the input is never used up. -/
def childrenUntilEoc (tlv : Octets → Except String (Octets × Octets)) :
    Nat → Octets → Except String (List Octets × Octets)
  | 0, _ => .error "out of fuel"
  | fuel + 1, rest =>
    match rest with
    | 0x00 :: 0x00 :: behind => .ok ([], behind)
    | [] => .error "unterminated indefinite-length element"
    | _ => do
      let (childDer, remaining) ← tlv rest
      let (childBlobs, behind) ← childrenUntilEoc tlv fuel remaining
      return (childDer :: childBlobs, behind)

/-- The components of a definite-length element, which fill `rest`. -/
def childrenToEnd (tlv : Octets → Except String (Octets × Octets)) :
    Nat → Octets → Except String (List Octets)
  | 0, _ => .error "out of fuel"
  | fuel + 1, rest =>
    match rest with
    | [] => .ok []
    | _ => do
      let (childDer, remaining) ← tlv rest
      let childBlobs ← childrenToEnd tlv fuel remaining
      return childDer :: childBlobs

/-- Put a constructed element together from its rewritten components. -/
def assembleChildren (target : Target) (tagByte : UInt8) (tagBytes : Octets)
    (childBlobs : List Octets) : Except String Octets :=
  let baseTag := tagByte &&& ~~~0x20
  let needsFlatten := tagByte &&& 0x20 != 0 && (baseTag == 0x03 || baseTag == 0x04)
  if needsFlatten then flattenConstructedString target tagByte childBlobs
  else
    let isSet := tagByte == 0x31
    let childBlobs := if isSet then childBlobs.insertionSort (· ≤ ·) else childBlobs
    let childrenDer := childBlobs.flatten
    .ok (tagBytes ++ encodeDerLength childrenDer.length ++ childrenDer)

/-- Rewrite the first BER element of `input` as DER and return the input behind
it. `levels` counts down what is left of `maxBerDepth`. -/
def berTlvToDer (target : Target) : Nat → Octets → Except String (Octets × Octets)
  | 0, _ => .error "BER nesting too deep"
  | levels + 1, input =>
    match input with
    | [] => .error "unexpected end of input"
    | tagByte :: afterTagByte => do
      let (more, afterTag) ← tagContinuation tagByte afterTagByte
      let tagBytes := tagByte :: more
      let isConstructed := tagByte &&& 0x20 != 0
      match afterTag with
      | [] => .error "truncated length"
      | lenByte :: afterLenByte =>
        if lenByte = 0x80 then
          if !isConstructed then .error "indefinite length on primitive tag"
          else do
            let (childBlobs, rest) ←
              childrenUntilEoc (berTlvToDer target levels) (afterLenByte.length + 1) afterLenByte
            let out ← assembleChildren target tagByte tagBytes childBlobs
            return (out, rest)
        else do
          let (contentLen, bytesConsumed) ← decodeBerDefiniteLength target lenByte afterLenByte
          let content := afterLenByte.drop bytesConsumed
          let pos := input.length - content.length
          let stop ← okOr (target.checkedAdd pos contentLen) "content length overflow"
          if stop > input.length then
            let available := input.length - pos
            .error s!"content length {contentLen} exceeds available data {available} at offset {pos}"
          else if isConstructed then do
            let childBlobs ←
              childrenToEnd (berTlvToDer target levels) (contentLen + 1) (content.take contentLen)
            let out ← assembleChildren target tagByte tagBytes childBlobs
            return (out, content.drop contentLen)
          else
            let out := tagBytes ++ encodeDerLength contentLen ++ content.take contentLen
            return (out, content.drop contentLen)

/-- Rewrite one BER element as DER; nothing may follow it. -/
def berToDer (target : Target) (input : Octets) : Except String Octets := do
  let (der, rest) ← berTlvToDer target (maxBerDepth + 1) input
  if !rest.isEmpty then
    let trailing := rest.length
    .error s!"trailing {trailing} bytes after top-level element"
  else return der

example : berToDer .native64 [0x23, 0x80, 0x03, 0x02, 0x00, 0xAA, 0x03, 0x02, 0x04, 0xB0, 0x00, 0x00] =
    .ok [0x03, 0x03, 0x04, 0xAA, 0xB0] := by decide
example : berToDer .wasm32 [0x31, 0x80, 0x02, 0x01, 0x05, 0x02, 0x81, 0x01, 0x01, 0x00, 0x00] =
    .ok [0x31, 0x06, 0x02, 0x01, 0x01, 0x02, 0x01, 0x05] := by decide

end Smime.Utils
