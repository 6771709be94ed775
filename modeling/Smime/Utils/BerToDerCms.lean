import Smime.Utils.BerToDer

/-! `ber_to_der_cms` of `src/utils.rs`: after `ber_to_der`, the implicitly
tagged SET OF fields of a SignedData are sorted inside the buffer. The buffer
is passed along as a list of octets; offsets are positions in it. -/
namespace Smime.Utils

open X690 (Octets)

/-- `data[pos..pos + child.len()].copy_from_slice(child)`. -/
def copyFromSlice (data : Octets) (pos : Nat) (child : Octets) : Octets :=
  data.take pos ++ (child ++ data.drop (pos + child.length))

/-- The elements from `pos` up to `contentEnd` and the position behind them.
Every element takes octets, so `fuel` beyond the length of the region is never
used up; the same holds of the loops below. -/
def childSlices (target : Target) (data : Octets) (contentEnd : Nat) :
    Nat → Nat → Except String (List Octets × Nat)
  | 0, _ => .error "out of fuel"
  | fuel + 1, pos =>
    if pos < contentEnd then do
      let tlv ← parseDerTlv target data pos
      let childLen := tlv.headerLen + tlv.contentLen
      let (children, stop) ← childSlices target data contentEnd fuel (pos + childLen)
      return ((data.drop pos).take childLen :: children, stop)
    else .ok ([], pos)

def writeBack (data : Octets) : Nat → List Octets → Octets
  | _, [] => data
  | pos, child :: children => writeBack (copyFromSlice data pos child) (pos + child.length) children

/-- Sort the components of a constructed DER element inside the buffer. -/
def sortChildrenInPlace (target : Target) (data : Octets) (offset headerLen contentLen : Nat) :
    Except String Octets :=
  let contentStart := offset + headerLen
  let contentEnd := contentStart + contentLen
  if contentEnd > data.length then .error "content exceeds data bounds"
  else do
    let (children, pos) ← childSlices target data contentEnd (contentLen + 1) contentStart
    if pos ≠ contentEnd then .error "children don't exactly fill content"
    else return writeBack data contentStart (children.insertionSort (· ≤ ·))

/-- Read the element at each position of a region in turn and let `visit`
rearrange the buffer before going on behind that element. -/
def forEachTlv (target : Target) (visit : Octets → Nat → DerTlv → Except String Octets)
    (contentEnd : Nat) : Nat → Octets → Nat → Except String Octets
  | 0, _, _ => .error "out of fuel"
  | fuel + 1, data, pos =>
    if pos < contentEnd then do
      let tlv ← parseDerTlv target data pos
      let data ← visit data pos tlv
      forEachTlv target visit contentEnd fuel data (pos + (tlv.headerLen + tlv.contentLen))
    else .ok data

/-- A field of a SignerInfo: only `[0]` and `[1]` are sorted. -/
def sortSignerInfoField (target : Target) (data : Octets) (fieldPos : Nat) (fieldTlv : DerTlv) :
    Except String Octets :=
  if (fieldTlv.tagByte == 0xA0 || fieldTlv.tagByte == 0xA1) && fieldTlv.isConstructed then
    sortChildrenInPlace target data fieldPos fieldTlv.headerLen fieldTlv.contentLen
  else .ok data

/-- An element of a SET OF SignerInfo: only a SEQUENCE is looked into. -/
def sortSignerInfo (target : Target) (data : Octets) (siPos : Nat) (siTlv : DerTlv) :
    Except String Octets :=
  if siTlv.tagByte == 0x30 && siTlv.isConstructed then
    let siContentStart := siPos + siTlv.headerLen
    let siContentEnd := siContentStart + siTlv.contentLen
    forEachTlv target (sortSignerInfoField target) siContentEnd (siTlv.contentLen + 1) data
      siContentStart
  else .ok data

def sortSignerInfosImplicitSets (target : Target) (data : Octets) (contentStart contentLen : Nat) :
    Except String Octets :=
  forEachTlv target (sortSignerInfo target) (contentStart + contentLen) (contentLen + 1) data
    contentStart

/-- A field of a SignedData. -/
def sortSignedDataField (target : Target) (data : Octets) (pos : Nat) (tlv : DerTlv) :
    Except String Octets :=
  if (tlv.tagByte == 0xA0 || tlv.tagByte == 0xA1) && tlv.isConstructed then
    sortChildrenInPlace target data pos tlv.headerLen tlv.contentLen
  else if tlv.tagByte == 0x31 && tlv.isConstructed then do
    let data ← sortSignerInfosImplicitSets target data (pos + tlv.headerLen) tlv.contentLen
    -- sorting signedAttrs changed the keys by which ber_to_der had sorted the SET OF
    sortChildrenInPlace target data pos tlv.headerLen tlv.contentLen
  else .ok data

/-- id-signedData, 1.2.840.113549.1.7.2. -/
def idSignedData : Octets := [0x2A, 0x86, 0x48, 0x86, 0xF7, 0x0D, 0x01, 0x07, 0x02]

/-- The SignedData at `start` of the buffer. -/
def sortSignedData (target : Target) (data : Octets) (start : Nat) : Except String Octets := do
  let sd ← parseDerTlv target data start
  if sd.tagByte != 0x30 || !sd.isConstructed then
    .error "expected SEQUENCE (SignedData) inside [0]"
  else
    let sdContentStart := start + sd.headerLen
    let sdContentEnd := sdContentStart + sd.contentLen
    forEachTlv target (sortSignedDataField target) sdContentEnd (sd.contentLen + 1) data
      sdContentStart

/-- ContentInfo to SignedData. Other content types are left alone. -/
def sortCmsImplicitSets (target : Target) (data : Octets) : Except String Octets := do
  let ci ← parseDerTlv target data 0
  if ci.tagByte != 0x30 || !ci.isConstructed then
    .error "not a SEQUENCE at top level"
  else
    let ciContentStart := ci.headerLen
    let oidTlv ← parseDerTlv target data ciContentStart
    let afterOid := ciContentStart + oidTlv.headerLen + oidTlv.contentLen
    if oidTlv.tagByte != 0x06 ||
        (data.drop (ciContentStart + oidTlv.headerLen)).take oidTlv.contentLen != idSignedData then
      .ok data
    else
      let explicit0 ← parseDerTlv target data afterOid
      if explicit0.tagByte != 0xA0 then .error "expected [0] EXPLICIT after OID"
      else sortSignedData target data (afterOid + explicit0.headerLen)

/-- BER or DER CMS as the DER that the ASN.1 layer parses. -/
def berToDerCms (target : Target) (input : Octets) : Except String Octets := do
  let der ← berToDer target input
  sortCmsImplicitSets target der

end Smime.Utils
