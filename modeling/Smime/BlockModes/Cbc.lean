import Mathlib.Algebra.Order.Group.Nat
import Mathlib.Data.List.Basic
import Mathlib.Tactic.Ring

/-! Cipher block chaining over an arbitrary block cipher under one key, with the
padding of PKCS #7. -/
namespace Smime.BlockModes

section Blocks

variable {α : Type} {size : Nat}

/-- The first `count` blocks. -/
def blocks (size : Nat) : Nat → List α → List (List α)
  | 0, _ => []
  | count + 1, data => data.take size :: blocks size count (data.drop size)

def toBlocks (size : Nat) (data : List α) : List (List α) :=
  blocks size (data.length / size) data

theorem flatten_blocks {count : Nat} {data : List α} (h : data.length = count * size) :
    (blocks size count data).flatten = data := by
  induction count generalizing data with
  | zero =>
      rw [Nat.zero_mul, List.length_eq_zero_iff] at h
      rw [h]
      rfl
  | succ count ih =>
      have hRest : (data.drop size).length = count * size := by
        rw [List.length_drop, h, Nat.succ_mul, Nat.add_sub_cancel]
      rw [blocks, List.flatten_cons, ih hRest, List.take_append_drop]

theorem flatten_toBlocks {data : List α} (h : size ∣ data.length) :
    (toBlocks size data).flatten = data :=
  flatten_blocks (Nat.div_mul_cancel h).symm

theorem length_of_mem_blocks {count : Nat} {data : List α} (h : count * size ≤ data.length) :
    ∀ block ∈ blocks size count data, block.length = size := by
  induction count generalizing data with
  | zero => simp [blocks]
  | succ count ih =>
      rw [Nat.succ_mul] at h
      intro block hBlock
      rcases List.mem_cons.mp hBlock with rfl | hRest
      · rw [List.length_take]
        omega
      · exact ih (by rw [List.length_drop]; omega) block hRest

theorem length_of_mem_toBlocks {data : List α} :
    ∀ block ∈ toBlocks size data, block.length = size :=
  length_of_mem_blocks (Nat.div_mul_le_self data.length size)

theorem blocks_flatten {parts : List (List α)} (h : ∀ part ∈ parts, part.length = size) :
    blocks size parts.length parts.flatten = parts := by
  induction parts with
  | nil => rfl
  | cons part rest ih =>
      have hPart : part.length = size := h part List.mem_cons_self
      have hRest := ih fun other hOther => h other (List.mem_cons_of_mem _ hOther)
      rw [List.length_cons, List.flatten_cons, blocks, ← hPart, List.take_left, List.drop_left,
        hPart, hRest]

theorem length_flatten_of {parts : List (List α)} (h : ∀ part ∈ parts, part.length = size) :
    parts.flatten.length = parts.length * size := by
  induction parts with
  | nil => simp
  | cons part rest ih =>
      have hRest := ih fun other hOther => h other (List.mem_cons_of_mem _ hOther)
      rw [List.flatten_cons, List.length_append, hRest, h part List.mem_cons_self,
        List.length_cons]
      ring

theorem toBlocks_flatten {parts : List (List α)} (hSize : 0 < size)
    (h : ∀ part ∈ parts, part.length = size) : toBlocks size parts.flatten = parts := by
  rw [toBlocks, length_flatten_of h, Nat.mul_div_cancel _ hSize, blocks_flatten h]

end Blocks

section Chaining

/-- A block combined with another of its length. -/
def xorBlock (a b : List UInt8) : List UInt8 := List.zipWith (· ^^^ ·) a b

@[simp] theorem length_xorBlock (a b : List UInt8) :
    (xorBlock a b).length = min a.length b.length := List.length_zipWith

theorem xorBlock_xorBlock {a b : List UInt8} (h : a.length = b.length) :
    xorBlock a (xorBlock a b) = b := by
  induction a generalizing b with
  | nil =>
      rw [List.length_nil] at h
      rw [List.length_eq_zero_iff.mp h.symm]
      rfl
  | cons x xs ih =>
      cases b with
      | nil => cases h
      | cons y ys =>
          have hTail : xorBlock xs (xorBlock xs ys) = ys := ih (Nat.succ.inj h)
          show (x ^^^ (x ^^^ y)) :: xorBlock xs (xorBlock xs ys) = y :: ys
          rw [hTail, ← UInt8.xor_assoc, UInt8.xor_self, UInt8.zero_xor]

variable (enc dec : List UInt8 → List UInt8)

def encryptBlocks : List UInt8 → List (List UInt8) → List (List UInt8)
  | _, [] => []
  | iv, block :: rest =>
      let cipher := enc (xorBlock iv block)
      cipher :: encryptBlocks cipher rest

def decryptBlocks : List UInt8 → List (List UInt8) → List (List UInt8)
  | _, [] => []
  | iv, cipher :: rest => xorBlock iv (dec cipher) :: decryptBlocks cipher rest

variable {enc dec} {size : Nat}

theorem length_of_mem_encryptBlocks (hLength : ∀ block, block.length = size →
    (enc block).length = size) {iv : List UInt8} {parts : List (List UInt8)}
    (hIv : iv.length = size) (hParts : ∀ part ∈ parts, part.length = size) :
    ∀ cipher ∈ encryptBlocks enc iv parts, cipher.length = size := by
  induction parts generalizing iv with
  | nil => simp [encryptBlocks]
  | cons part rest ih =>
      have hPart : (xorBlock iv part).length = size := by
        rw [length_xorBlock, hIv, hParts part List.mem_cons_self, Nat.min_self]
      intro cipher hCipher
      rcases List.mem_cons.mp hCipher with rfl | hRest
      · exact hLength _ hPart
      · exact ih (hLength _ hPart) (fun other hOther => hParts other (List.mem_cons_of_mem _ hOther))
          cipher hRest

theorem decryptBlocks_encryptBlocks (hLength : ∀ block, block.length = size →
      (enc block).length = size) (hInverse : ∀ block, block.length = size → dec (enc block) = block)
    {iv : List UInt8} {parts : List (List UInt8)} (hIv : iv.length = size)
    (hParts : ∀ part ∈ parts, part.length = size) :
    decryptBlocks dec iv (encryptBlocks enc iv parts) = parts := by
  induction parts generalizing iv with
  | nil => rfl
  | cons part rest ih =>
      have hPart : part.length = size := hParts part List.mem_cons_self
      have hXor : (xorBlock iv part).length = size := by
        rw [length_xorBlock, hIv, hPart, Nat.min_self]
      have hRest := ih (hLength _ hXor) fun other hOther =>
        hParts other (List.mem_cons_of_mem _ hOther)
      show xorBlock iv (dec (enc (xorBlock iv part))) ::
        decryptBlocks dec (enc (xorBlock iv part)) (encryptBlocks enc (enc (xorBlock iv part)) rest) =
          part :: rest
      rw [hInverse _ hXor, hRest, xorBlock_xorBlock (hIv.trans hPart.symm)]

end Chaining

section Padding

variable {size : Nat}

/-- One to `size` octets, each their number. -/
def pad (size : Nat) (data : List UInt8) : List UInt8 :=
  data ++ List.replicate (size - data.length % size) (UInt8.ofNat (size - data.length % size))

def unpad (size : Nat) (data : List UInt8) : Option (List UInt8) :=
  match data.getLast? with
  | none => none
  | some last =>
      if last.toNat = 0 ∨ size < last.toNat then none
      else if data.drop (data.length - last.toNat) = List.replicate last.toNat last then
        some (data.take (data.length - last.toNat))
      else none

theorem dvd_length_pad (hSize : 0 < size) (data : List UInt8) : size ∣ (pad size data).length := by
  have hLt := Nat.mod_lt data.length hSize
  have hSplit := Nat.div_add_mod data.length size
  refine ⟨data.length / size + 1, ?_⟩
  rw [pad, List.length_append, List.length_replicate, Nat.mul_add, Nat.mul_one]
  omega

theorem unpad_pad (hSize : 0 < size) (hSmall : size ≤ 255) (data : List UInt8) :
    unpad size (pad size data) = some data := by
  have hLt := Nat.mod_lt data.length hSize
  unfold pad
  generalize hCount : size - data.length % size = count
  have hPos : 0 < count := by omega
  have hToNat : (UInt8.ofNat count).toNat = count :=
    UInt8.toNat_ofNat_of_lt' (by rw [UInt8.size]; omega)
  have hLast : (data ++ List.replicate count (UInt8.ofNat count)).getLast? =
      some (UInt8.ofNat count) := by
    rw [List.getLast?_append, List.getLast?_replicate, if_neg (Nat.ne_of_gt hPos)]
    rfl
  have hLength : (data ++ List.replicate count (UInt8.ofNat count)).length - count =
      data.length := by
    rw [List.length_append, List.length_replicate, Nat.add_sub_cancel]
  unfold unpad
  rw [hLast]
  dsimp only
  rw [hToNat, hLength, List.drop_left, List.take_left, if_neg (by omega), if_pos rfl]

end Padding

section Modes

variable (size : Nat) (enc dec : List UInt8 → List UInt8)

def cbcEncrypt (iv data : List UInt8) : List UInt8 :=
  (encryptBlocks enc iv (toBlocks size (pad size data))).flatten

/-- Without padding: the data has to be whole blocks. -/
def cbcDecryptRaw (iv data : List UInt8) : Option (List UInt8) :=
  if data.length % size = 0 then some (decryptBlocks dec iv (toBlocks size data)).flatten else none

def cbcDecrypt (iv data : List UInt8) : Option (List UInt8) :=
  (cbcDecryptRaw size dec iv data).bind (unpad size)

variable {size enc dec}

/-- Decryption undoes encryption, when it does so on the blocks. -/
theorem cbcDecrypt_cbcEncrypt (hSize : 0 < size) (hSmall : size ≤ 255)
    (hLength : ∀ block, block.length = size → (enc block).length = size)
    (hInverse : ∀ block, block.length = size → dec (enc block) = block) {iv : List UInt8}
    (hIv : iv.length = size) (data : List UInt8) :
    cbcDecrypt size dec iv (cbcEncrypt size enc iv data) = some data := by
  have hBlocks := length_of_mem_encryptBlocks hLength hIv
    (@length_of_mem_toBlocks _ size (pad size data))
  have hWhole : (cbcEncrypt size enc iv data).length % size = 0 := by
    rw [cbcEncrypt, length_flatten_of hBlocks, Nat.mul_mod_left]
  have hRaw : cbcDecryptRaw size dec iv (cbcEncrypt size enc iv data) =
      some (pad size data) := by
    rw [cbcDecryptRaw, if_pos hWhole, cbcEncrypt, toBlocks_flatten hSize hBlocks,
      decryptBlocks_encryptBlocks hLength hInverse hIv length_of_mem_toBlocks,
      flatten_toBlocks (dvd_length_pad hSize data)]
  rw [cbcDecrypt, hRaw, Option.bind_some, unpad_pad hSize hSmall]

end Modes

end Smime.BlockModes
