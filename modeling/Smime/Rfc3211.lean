import Mathlib.Logic.Equiv.Basic
import Smime.BlockModes.TwoPass
import Smime.Data.Call
import Smime.Decrypt.Recipients
import Smime.Layers

/-! RFC 3211 key wrap: `rfc3211_wrap_cek` of `src/create_cms.rs` against
`pwri_unwrap_cek` and `decrypt_pwri_cek` of `src/decrypt.rs`. -/
namespace Smime

open X690 (Octets)
open X509 BlockModes

variable (env : CmsExternals)

section Wrap

/-- Length, check value, key and padding. -/
def pwriPayload (cek padding : Octets) : Octets :=
  UInt8.ofNat cek.length :: ((cek.take 3).map (fun octet => ~~~octet) ++ (cek ++ padding))

/-- The AES whose keys have this length. -/
def aesOfKeyLen (keyLen : Nat) : Option BlockCipher :=
  match keyLen with
  | 16 => some .aes128
  | 24 => some .aes192
  | 32 => some .aes256
  | _ => none

/-- The length of a payload in octets: whole blocks, and two at least. -/
def pwriPaddedLen (cekLen : Nat) : Nat :=
  let paddedLen := (4 + cekLen + 16 - 1) / 16 * 16
  if paddedLen < 2 * 16 then 2 * 16 else paddedLen

/-- The encrypted key and its IV; `rng` and `iv` are what is drawn, `none` is a panic. -/
def rfc3211WrapCek (rng : (n : Nat) → Bytes n) (iv : Bytes 16) (kek cek : Octets) :
    Option (Octets × Bytes 16) :=
  if cek.length < 3 then none
  else do
    let paddedLen := pwriPaddedLen cek.length
    let payload := pwriPayload cek (rng (paddedLen - 4 - cek.length)).val
    let cipher ← aesOfKeyLen kek.length
    let once ← cbcEncryptRaw 16 (env.encryptBlock cipher kek) iv.val payload
    -- The second pass goes on from the last block of the first.
    let pass2Iv := once.drop (paddedLen - 16)
    let twice ← cbcEncryptRaw 16 (env.encryptBlock cipher kek) pass2Iv once
    return (twice, iv)

end Wrap

section Calls

/-- `pwri_unwrap_cek` with its slices and subtractions. -/
def Calls.pwriUnwrapCek (cipher : BlockCipher) (kek iv ct : Octets) : Call SmimeError Octets :=
  let bs := cipher.blockSize
  if ct.length < 2 * bs ∨ ct.length % bs ≠ 0 then
    Call.error (.decryptionFailed "PWRI encrypted key too short or not block-aligned")
  else do
    let n := ct.length / bs
    let step1From ← Call.sub n 2
    let step1To ← Call.sub n 1
    let step1Iv ← Call.slice ct (step1From * bs) (step1To * bs)
    let lastBlock ← Call.sliceFrom ct (step1To * bs)
    let lastBlock ← Call.returned (cbcDecryptNoPadding env cipher kek step1Iv lastBlock)
    let buf ← Call.sliceTo ct (step1To * bs)
    let buf ← Call.returned (cbcDecryptNoPadding env cipher kek lastBlock buf)
    Call.returned (cbcDecryptNoPadding env cipher kek iv (buf ++ lastBlock))

/-- The tests of `decrypt_pwri_cek` on what was unwrapped. -/
def Calls.readPwriCek (decrypted : Octets) : Call SmimeError Octets :=
  if decrypted.length < 4 then
    Call.error (.decryptionFailed "PWRI unwrap produced output too short")
  else do
    let cekLen ← Call.index decrypted 0
    if cekLen.toNat + 4 > decrypted.length then
      Call.error (.decryptionFailed
        ("PWRI CEK length " ++ toString cekLen.toNat ++ " exceeds unwrapped data"))
    else if cekLen.toNat < 3 then
      Call.error (.decryptionFailed
        ("PWRI CEK length " ++ toString cekLen.toNat ++ " too short for check value"))
    else do
      let check ← Call.slice decrypted 1 4
      let cek ← Call.slice decrypted 4 (4 + cekLen.toNat)
      let a ← Call.index cek 0
      let b ← Call.index cek 1
      let c ← Call.index cek 2
      if check ≠ [~~~a, ~~~b, ~~~c] then
        Call.error (.decryptionFailed "PWRI check value mismatch")
      else Call.ok cek

/-- Unwrapping and the tests behind it. -/
def Calls.unwrapCek (cipher : BlockCipher) (kek iv ct : Octets) : Call SmimeError Octets := do
  let decrypted ← Calls.pwriUnwrapCek env cipher kek iv ct
  Calls.readPwriCek decrypted

def Calls.decryptPwriCek (password : Option String) (pwri : PasswordRecipientInfo) :
    Call SmimeError (Octets × List SmimeError) := do
  let password ← Call.returned
    (orError (.decryptionFailed "password required for PasswordRecipientInfo") password)
  let innerAlg ← Call.returned (extractPwriInnerAlgorithm env pwri.keyEncryptionAlgorithm)
  let (cipher, iv) ← Call.returned (orError (.unsupportedKeyEncryptionAlg
    ("PWRI cipher: " ++ env.debugAlgorithmParameters innerAlg.params)) (cbcCipher env innerAlg.params))
  let kda ← Call.returned (orError
    (.unsupportedKeyEncryptionAlg "PWRI without keyDerivationAlgorithm") pwri.keyDerivationAlgorithm)
  let (kek, warnings) ←
    match kda.params with
    | .pbkdf2 params =>
        Call.returned <|
          (derivePbkdf2Key env params password cipher.keySize).mapError .decryptionFailed
    | other => Call.error (.unsupportedKeyEncryptionAlg
        ("PWRI KDF: " ++ env.debugAlgorithmParameters other))
  let decrypted ← Calls.pwriUnwrapCek env cipher kek iv pwri.encryptedKey
  let cek ← Calls.readPwriCek decrypted
  Call.ok (cek, warnings)

end Calls

section NoPanic

variable {env}

theorem BlockCipher.blockSize_pos (cipher : BlockCipher) : 0 < cipher.blockSize := by
  cases cipher <;> decide

/-- No slice of the ciphertext is out of range. -/
theorem pwriUnwrapCek_returns (cipher : BlockCipher) (kek iv ct : Octets) :
    Calls.pwriUnwrapCek env cipher kek iv ct = Call.returned (pwriUnwrapCek env cipher kek iv ct) := by
  have hPos := cipher.blockSize_pos
  unfold Calls.pwriUnwrapCek pwriUnwrapCek
  generalize cipher.blockSize = bs at hPos
  refine Call.ite_returned (fun _ => rfl) fun hLength => ?_
  obtain ⟨hShort, hWhole⟩ := not_or.mp hLength
  have hBlocks : ct.length = ct.length / bs * bs := by
    have := Nat.div_add_mod ct.length bs
    rw [not_not.mp hWhole, Nat.add_zero, Nat.mul_comm] at this
    exact this.symm
  generalize ct.length / bs = n at hBlocks
  have hTwo : 2 ≤ n := by
    by_contra hFew
    have hMul : n * bs ≤ 1 * bs := Nat.mul_le_mul_right bs (by omega)
    omega
  have hFrom : (n - 2) * bs ≤ (n - 1) * bs := Nat.mul_le_mul_right bs (by omega)
  have hTo : (n - 1) * bs ≤ ct.length := by
    rw [hBlocks]
    exact Nat.mul_le_mul_right bs (Nat.sub_le n 1)
  have hBlock : (n - 1) * bs - (n - 2) * bs = bs := by
    rw [← Nat.sub_mul, show n - 1 - (n - 2) = 1 by omega, Nat.one_mul]
  simp only [Call.sub_of_le hTwo, Call.sub_of_le (show 1 ≤ n by omega), Call.ok_bind,
    Call.slice_of_le hFrom hTo, Call.sliceFrom_of_le hTo, Call.sliceTo_of_le hTo, hBlock]
  refine Call.bind_returned rfl fun lastBlock _ => ?_
  exact Call.bind_returned rfl fun buf _ => rfl

theorem readPwriCek_returns (decrypted : Octets) :
    Calls.readPwriCek decrypted = Call.returned (readPwriCek decrypted) := by
  match decrypted with
  | [] => rfl
  | [_] => rfl
  | [_, _] => rfl
  | [_, _, _] => rfl
  | cekLen :: a :: b :: c :: rest =>
      have hFour : ¬ (cekLen :: a :: b :: c :: rest).length < 4 := by simp
      rw [Calls.readPwriCek, if_neg hFour, Call.index_of_lt (Nat.succ_pos _), Call.ok_bind]
      refine Call.ite_returned (fun _ => rfl) fun hLong => ?_
      refine Call.ite_returned (fun _ => rfl) fun hThree => ?_
      simp only [List.getElem_cons_zero, List.length_cons] at hLong hThree
      have hCheck : (Call.slice (cekLen :: a :: b :: c :: rest) 1 4 : Call SmimeError Octets) =
          Call.ok [a, b, c] := Call.slice_of_le (by decide) (by simp)
      have hCek : (Call.slice (cekLen :: a :: b :: c :: rest) 4 (4 + cekLen.toNat) :
          Call SmimeError Octets) = Call.ok (rest.take cekLen.toNat) := by
        rw [Call.slice_of_le (Nat.le_add_right _ _) (by simp only [List.length_cons]; omega),
          Nat.add_sub_cancel_left]
        rfl
      simp only [List.getElem_cons_zero, hCheck, hCek, Call.ok_bind]
      obtain ⟨x, y, z, more, hTake⟩ : ∃ x y z more, rest.take cekLen.toNat = x :: y :: z :: more := by
        have hLength : (rest.take cekLen.toNat).length = cekLen.toNat :=
          List.length_take_of_le (by omega)
        match hRest : rest.take cekLen.toNat with
        | [] => simp [hRest] at hLength; omega
        | [_] => simp [hRest] at hLength; omega
        | [_, _] => simp [hRest] at hLength; omega
        | x :: y :: z :: more => exact ⟨x, y, z, more, rfl⟩
      rw [hTake]
      exact Call.ite_returned (fun _ => rfl) fun _ => rfl

theorem unwrapCek_returns (cipher : BlockCipher) (kek iv ct : Octets) :
    Calls.unwrapCek env cipher kek iv ct =
      Call.returned (pwriUnwrapCek env cipher kek iv ct >>= readPwriCek) :=
  Call.bind_returned (pwriUnwrapCek_returns cipher kek iv ct) fun decrypted _ =>
    readPwriCek_returns decrypted

theorem decryptPwriCek_returns (password : Option String) (pwri : PasswordRecipientInfo) :
    Calls.decryptPwriCek env password pwri = Call.returned (decryptPwriCek env password pwri) := by
  unfold Calls.decryptPwriCek decryptPwriCek
  refine Call.bind_returned rfl fun password _ => ?_
  refine Call.bind_returned rfl fun innerAlg _ => ?_
  refine Call.bind_returned rfl fun (cipher, iv) _ => ?_
  refine Call.bind_returned rfl fun kda _ => ?_
  have hUnwrap : ∀ derived : Octets × List SmimeError,
      (do
        let decrypted ← Calls.pwriUnwrapCek env cipher derived.1 iv pwri.encryptedKey
        let cek ← Calls.readPwriCek decrypted
        Call.ok (cek, derived.2)) =
      Call.returned (do
        let decrypted ← pwriUnwrapCek env cipher derived.1 iv pwri.encryptedKey
        let cek ← readPwriCek decrypted
        return (cek, derived.2)) := fun derived =>
    Call.bind_returned (pwriUnwrapCek_returns cipher derived.1 iv _) fun decrypted _ =>
      Call.bind_returned (readPwriCek_returns decrypted) fun cek _ => rfl
  cases kda.params <;> exact Call.bind_returned rfl fun derived _ => hUnwrap derived

end NoPanic

section RoundTrip

variable {env} {cipher : BlockCipher} {kek : Octets}

/-- A payload passes the tests, and only a payload does. -/
theorem readPwriCek_ok_iff {decrypted cek : Octets} :
    readPwriCek decrypted = .ok cek ↔
      ∃ padding, decrypted = pwriPayload cek padding ∧ 3 ≤ cek.length ∧ cek.length ≤ 255 := by
  constructor
  · intro h
    match decrypted with
    | [] | [_] | [_, _] | [_, _, _] => cases h
    | cekLen :: a :: b :: c :: rest =>
        simp only [readPwriCek] at h
        split at h
        · cases h
        rename_i hLong
        split at h
        · cases h
        rename_i hThree
        split at h
        · cases h
        rename_i hCheck
        cases h
        have hLength : (rest.take cekLen.toNat).length = cekLen.toNat := by
          rw [List.length_take_of_le]
          simp only [List.length_cons] at hLong
          omega
        refine ⟨rest.drop cekLen.toNat, ?_, by omega, ?_⟩
        · rw [pwriPayload, hLength, UInt8.ofNat_toNat, ← not_not.mp hCheck,
            List.take_append_drop]
          rfl
        · rw [hLength]
          exact Nat.le_of_lt_succ cekLen.toNat_lt
  · rintro ⟨padding, rfl, hThree, hByte⟩
    have hLen : (UInt8.ofNat cek.length).toNat = cek.length :=
      UInt8.toNat_ofNat_of_lt' (Nat.lt_succ_of_le hByte)
    match cek with
    | [] | [_] | [_, _] => simp at hThree
    | x :: y :: z :: more =>
        have hTake : ((x :: y :: z :: more) ++ padding).take (x :: y :: z :: more).length =
            x :: y :: z :: more := List.take_left
        show readPwriCek (UInt8.ofNat (x :: y :: z :: more).length :: ~~~x :: ~~~y :: ~~~z ::
          ((x :: y :: z :: more) ++ padding)) = _
        simp only [readPwriCek]
        rw [hLen, hTake, if_neg, if_neg (Nat.not_lt.mpr hThree)]
        · exact if_neg (not_not.mpr rfl)
        · simp only [List.length_cons, List.length_append]
          omega

theorem cbcDecryptNoPadding_flatten (hSize : cipher.blockSize = 16)
    (hKek : kek.length = cipher.keySize) {iv : Octets} {parts : List Octets} (hIv : iv.length = 16)
    (hParts : ∀ part ∈ parts, part.length = 16) :
    cbcDecryptNoPadding env cipher kek iv parts.flatten =
      .ok (decryptBlocks (env.decryptBlock cipher kek) iv parts).flatten := by
  have hLengths : checkCbcLengths env cipher kek iv = .ok () := if_pos ⟨hKek, by rw [hIv, hSize]⟩
  rw [cbcDecryptNoPadding, hLengths, Except.ok_bind', hSize,
    cbcDecryptRaw_flatten (by decide) hParts]
  rfl

/-- The unwrapping undoes the two passes over any two or more blocks. -/
theorem pwriUnwrapCek_encryptTwice (hSize : cipher.blockSize = 16)
    (hKek : kek.length = cipher.keySize)
    (hLength : ∀ block : Octets, block.length = 16 → (env.encryptBlock cipher kek block).length = 16)
    (hInverse : ∀ block : Octets, block.length = 16 →
      env.decryptBlock cipher kek (env.encryptBlock cipher kek block) = block)
    {iv : Octets} {parts : List Octets} (hIv : iv.length = 16)
    (hParts : ∀ part ∈ parts, part.length = 16) (hTwo : 2 ≤ parts.length) :
    pwriUnwrapCek env cipher kek iv
      (encryptTwice (env.encryptBlock cipher kek) iv parts).flatten = .ok parts.flatten := by
  have hOnce := length_of_mem_encryptBlocks hLength hIv hParts
  have hSecond := length_secondIv hIv hOnce
  have hTwice := length_of_mem_encryptBlocks hLength hSecond hOnce
  have hCount : (encryptTwice (env.encryptBlock cipher kek) iv parts).length = parts.length := by
    rw [encryptTwice, length_encryptBlocks, length_encryptBlocks]
  -- The last two blocks, and the ones before them.
  obtain ⟨earlier, previous, final, hChain⟩ := exists_append_two (hCount ▸ hTwo)
  unfold encryptTwice at hChain ⊢
  rw [hChain] at hTwice ⊢
  obtain ⟨hFinal, hBack⟩ := decryptBlocks_twice hLength hInverse hIv hOnce (by simp) hChain
  have hBefore : ∀ part ∈ earlier ++ [previous], part.length = 16 := fun part hPart =>
    hTwice part (List.mem_append_left _ hPart)
  have hEarlier : ∀ part ∈ earlier, part.length = 16 := fun part hPart =>
    hBefore part (List.mem_append_left _ hPart)
  have hFinalLength : final.length = 16 := hTwice final (by simp)
  have hPrevious : previous.length = 16 := hBefore previous (by simp)
  rw [List.getLast_concat] at hFinal
  have hCt : ((earlier ++ [previous]) ++ [final]).flatten.length = (earlier.length + 2) * 16 := by
    rw [length_flatten_of hTwice]
    simp
  have hIvSlice : (((earlier ++ [previous]) ++ [final]).flatten.drop (earlier.length * 16)).take 16 =
      previous := by
    rw [List.append_assoc, List.flatten_append, ← length_flatten_of hEarlier, List.drop_left,
      List.singleton_append, List.flatten_cons, ← hPrevious, List.take_left]
  have hLast := @drop_flatten_concat 16 (earlier ++ [previous]) final hBefore
  have hFirst := @take_flatten_concat 16 (earlier ++ [previous]) final hBefore
  rw [List.length_append, List.length_singleton] at hLast hFirst
  have hBlocks : (earlier.length + 2) * 16 / 16 = earlier.length + 2 :=
    Nat.mul_div_cancel _ (by decide)
  rw [pwriUnwrapCek, hSize, if_neg (by rw [hCt]; omega), hCt, hBlocks]
  dsimp only
  rw [Nat.add_sub_cancel, show earlier.length + 2 - 1 = earlier.length + 1 from rfl, hIvSlice, hLast,
    hFirst]
  have hStep1 := @cbcDecryptNoPadding_flatten env cipher kek hSize hKek previous [final] hPrevious
    (by simpa using hFinalLength)
  rw [List.flatten_singleton] at hStep1
  simp only [decryptBlocks, List.flatten_singleton] at hStep1
  rw [hStep1, Except.ok_bind', hFinal, cbcDecryptNoPadding_flatten hSize hKek hSecond hBefore,
    Except.ok_bind', ← List.flatten_concat, hBack,
    cbcDecryptNoPadding_flatten hSize hKek hIv hOnce,
    decryptBlocks_encryptBlocks hLength hInverse hIv hParts]

theorem pwriPaddedLen_spec (cekLen : Nat) :
    pwriPaddedLen cekLen % 16 = 0 ∧ 32 ≤ pwriPaddedLen cekLen ∧
      4 + cekLen ≤ pwriPaddedLen cekLen := by
  unfold pwriPaddedLen
  dsimp only
  split <;> omega

theorem length_pwriPayload {cek : Octets} (hThree : 3 ≤ cek.length) (padding : Octets) :
    (pwriPayload cek padding).length = 4 + cek.length + padding.length := by
  simp only [pwriPayload, List.length_cons, List.length_append, List.length_map, List.length_take]
  omega

theorem drop_secondIv {iv : Octets} {once : List Octets} (hTwo : 2 ≤ once.length)
    (hOnce : ∀ part ∈ once, part.length = 16) :
    once.flatten.drop (once.length * 16 - 16) = secondIv iv once := by
  obtain ⟨before, a, last, rfl⟩ := exists_append_two hTwo
  have hBefore : ∀ part ∈ before ++ [a], part.length = 16 := fun part hPart =>
    hOnce part (List.mem_append_left _ hPart)
  have hCount : ((before ++ [a]) ++ [last]).length * 16 - 16 = (before ++ [a]).length * 16 := by
    rw [List.length_append, List.length_singleton]
    omega
  rw [hCount, drop_flatten_concat hBefore, secondIv, List.getLast?_concat, Option.getD_some]

/-- The wrapped key is the payload encrypted twice. -/
theorem rfc3211WrapCek_eq {rng : (n : Nat) → Bytes n} {iv : Bytes 16} {cek : Octets}
    (hCipher : aesOfKeyLen kek.length = some cipher)
    (hLength : ∀ block : Octets, block.length = 16 → (env.encryptBlock cipher kek block).length = 16)
    (hThree : 3 ≤ cek.length) :
    ∃ padding parts, (∀ part ∈ parts, part.length = 16) ∧ 2 ≤ parts.length ∧
      parts.flatten = pwriPayload cek padding ∧
      rfc3211WrapCek env rng iv kek cek =
        some ((encryptTwice (env.encryptBlock cipher kek) iv.val parts).flatten, iv) := by
  obtain ⟨hWhole, hTwoBlocks, hRoom⟩ := pwriPaddedLen_spec cek.length
  obtain ⟨padding, hPadding⟩ :
      ∃ padding, padding = rng (pwriPaddedLen cek.length - 4 - cek.length) := ⟨_, rfl⟩
  have hPayload : (pwriPayload cek padding.val).length = pwriPaddedLen cek.length := by
    rw [length_pwriPayload hThree, padding.property]
    omega
  have hFlatten : (toBlocks 16 (pwriPayload cek padding.val)).flatten =
      pwriPayload cek padding.val :=
    flatten_toBlocks (Nat.dvd_of_mod_eq_zero (by rw [hPayload, hWhole]))
  have hParts : ∀ part ∈ toBlocks 16 (pwriPayload cek padding.val), part.length = 16 :=
    length_of_mem_toBlocks
  generalize toBlocks 16 (pwriPayload cek padding.val) = parts at hFlatten hParts
  have hCount : parts.length * 16 = pwriPaddedLen cek.length := by
    rw [← length_flatten_of hParts, hFlatten, hPayload]
  have hOnce := length_of_mem_encryptBlocks hLength iv.property hParts
  have hOnceCount := @length_encryptBlocks (env.encryptBlock cipher kek) iv.val parts
  refine ⟨padding.val, parts, hParts, by omega, hFlatten, ?_⟩
  have hSecond := @drop_secondIv iv.val _ (by rw [hOnceCount]; omega) hOnce
  rw [hOnceCount, hCount] at hSecond
  rw [rfc3211WrapCek, if_neg (Nat.not_lt.mpr hThree)]
  simp only [← hPadding, hCipher, Option.bind_eq_bind, Option.bind_some, ← hFlatten,
    cbcEncryptRaw_flatten (by decide : 0 < 16) hParts, hSecond,
    cbcEncryptRaw_flatten (by decide : 0 < 16) hOnce]
  rfl

theorem aesOfKeyLen_spec {keyLen : Nat} (h : keyLen = 16 ∨ keyLen = 24 ∨ keyLen = 32) :
    ∃ cipher, aesOfKeyLen keyLen = some cipher ∧ cipher.blockSize = 16 ∧ keyLen = cipher.keySize := by
  rcases h with rfl | rfl | rfl
  · exact ⟨.aes128, rfl, rfl, rfl⟩
  · exact ⟨.aes192, rfl, rfl, rfl⟩
  · exact ⟨.aes256, rfl, rfl, rfl⟩

end RoundTrip

section Claims

/-- The surroundings with these block ciphers of 16 octets, one permutation of the
blocks for each cipher and key. -/
def CmsExternals.withBlockCiphers (env : CmsExternals)
    (permutation : BlockCipher → Octets → Equiv.Perm (Bytes 16)) : CmsExternals :=
  { env with
    encryptBlock := fun cipher key => onBlocks (permutation cipher key)
    decryptBlock := fun cipher key => onBlocks (permutation cipher key).symm }

/-- What an unwrapped key says about the ciphertext and about what is in it. -/
structure Unwraps (cipher : BlockCipher) (kek iv ct cek : Octets) : Prop where
  whole : ct.length % cipher.blockSize = 0
  twoBlocks : 2 * cipher.blockSize ≤ ct.length
  payload : ∃ padding,
    Calls.pwriUnwrapCek env cipher kek iv ct = Call.ok (pwriPayload cek padding)
  checked : 3 ≤ cek.length ∧ cek.length ≤ 255

variable {env}

theorem unwraps_of_ok {cipher : BlockCipher} {kek iv ct decrypted cek : Octets}
    (hUnwrap : pwriUnwrapCek env cipher kek iv ct = .ok decrypted)
    (hRead : readPwriCek decrypted = .ok cek) : Unwraps env cipher kek iv ct cek := by
  obtain ⟨padding, rfl, hChecked⟩ := readPwriCek_ok_iff.mp hRead
  have hLength : ¬ (ct.length < 2 * cipher.blockSize ∨ ct.length % cipher.blockSize ≠ 0) := by
    intro hShort
    rw [pwriUnwrapCek, if_pos hShort] at hUnwrap
    cases hUnwrap
  obtain ⟨hTwo, hWhole⟩ := not_or.mp hLength
  refine ⟨not_not.mp hWhole, Nat.not_lt.mp hTwo, ⟨padding, ?_⟩, hChecked⟩
  rw [pwriUnwrapCek_returns, hUnwrap, Call.returned_ok]

theorem unwraps_of_unwrapCek {cipher : BlockCipher} {kek iv ct cek : Octets}
    (h : (pwriUnwrapCek env cipher kek iv ct >>= readPwriCek) = .ok cek) :
    Unwraps env cipher kek iv ct cek := by
  obtain ⟨decrypted, hUnwrap, hRead⟩ := Except.bind_eq_ok_iff.mp h
  exact unwraps_of_ok hUnwrap hRead

theorem unwraps_of_decryptPwriCek {password : Option String} {pwri : PasswordRecipientInfo}
    {cek : Octets} {warnings : List SmimeError}
    (h : decryptPwriCek env password pwri = .ok (cek, warnings)) :
    ∃ cipher kek iv, Unwraps env cipher kek iv pwri.encryptedKey cek := by
  obtain ⟨password, -, h⟩ := Except.bind_eq_ok_iff.mp h
  obtain ⟨innerAlg, -, h⟩ := Except.bind_eq_ok_iff.mp h
  obtain ⟨⟨cipher, iv⟩, -, h⟩ := Except.bind_eq_ok_iff.mp h
  obtain ⟨kda, -, h⟩ := Except.bind_eq_ok_iff.mp h
  have hTail : ∃ derived : Octets × List SmimeError,
      (do
        let decrypted ← pwriUnwrapCek env cipher derived.1 iv pwri.encryptedKey
        let cek ← readPwriCek decrypted
        return (cek, derived.2)) = .ok (cek, warnings) := by
    cases hParams : kda.params <;> simp only [hParams] at h <;>
      obtain ⟨derived, -, h⟩ := Except.bind_eq_ok_iff.mp h <;> exact ⟨derived, h⟩
  obtain ⟨⟨kek, warnings'⟩, h⟩ := hTail
  obtain ⟨decrypted, hUnwrap, h⟩ := Except.bind_eq_ok_iff.mp h
  obtain ⟨found, hRead, h⟩ := Except.bind_eq_ok_iff.mp h
  cases h
  exact ⟨cipher, kek, iv, unwraps_of_ok hUnwrap hRead⟩

/-- Unwrapping undoes wrapping, and of any ciphertext it returns an error or what
passes the tests. -/
theorem rfc3211_unwrap_wrap (env : CmsExternals)
    (permutation : BlockCipher → Octets → Equiv.Perm (Bytes 16)) :
    (∀ (rng : (n : Nat) → Bytes n) (iv : Bytes 16) (kek cek : Octets),
      kek.length = 16 ∨ kek.length = 24 ∨ kek.length = 32 → 3 ≤ cek.length → cek.length ≤ 255 →
        ∃ cipher wrapped, aesOfKeyLen kek.length = some cipher ∧
          rfc3211WrapCek (env.withBlockCiphers permutation) rng iv kek cek = some (wrapped, iv) ∧
          Calls.unwrapCek (env.withBlockCiphers permutation) cipher kek iv.val wrapped =
            Call.ok cek) ∧
      (∀ (cipher : BlockCipher) (kek iv ct : Octets), ∃ result,
        Calls.unwrapCek env cipher kek iv ct = Call.returned result ∧
          ∀ cek, result = .ok cek → Unwraps env cipher kek iv ct cek) ∧
      ∀ (password : Option String) (pwri : PasswordRecipientInfo), ∃ result,
        Calls.decryptPwriCek env password pwri = Call.returned result ∧
          ∀ cek warnings, result = .ok (cek, warnings) →
            ∃ cipher kek iv, Unwraps env cipher kek iv pwri.encryptedKey cek := by
  refine ⟨fun rng iv kek cek hKek hThree hByte => ?_, fun cipher kek iv ct => ?_,
    fun password pwri => ?_⟩
  · obtain ⟨cipher, hCipher, hSize, hKeySize⟩ := aesOfKeyLen_spec hKek
    have hLength : ∀ block : Octets, block.length = 16 →
        ((env.withBlockCiphers permutation).encryptBlock cipher kek block).length = 16 :=
      fun block hBlock => length_onBlocks hBlock
    have hInverse : ∀ block : Octets, block.length = 16 →
        (env.withBlockCiphers permutation).decryptBlock cipher kek
          ((env.withBlockCiphers permutation).encryptBlock cipher kek block) = block :=
      fun block hBlock => onBlocks_symm hBlock
    obtain ⟨padding, parts, hParts, hTwo, hFlatten, hWrap⟩ :=
      @rfc3211WrapCek_eq (env.withBlockCiphers permutation) cipher kek rng iv cek hCipher hLength
        hThree
    refine ⟨cipher, _, hCipher, hWrap, ?_⟩
    rw [unwrapCek_returns, pwriUnwrapCek_encryptTwice hSize hKeySize hLength hInverse iv.property
      hParts hTwo, Except.ok_bind', hFlatten, readPwriCek_ok_iff.mpr ⟨padding, rfl, hThree, hByte⟩,
      Call.returned_ok]
  · exact ⟨_, unwrapCek_returns cipher kek iv ct, fun cek h => unwraps_of_unwrapCek h⟩
  · exact ⟨_, decryptPwriCek_returns password pwri, fun cek warnings h =>
      unwraps_of_decryptPwriCek h⟩

end Claims

section Sample

/-- Four blocks under the AES-128 key 00 01 .. 0f, with their encryptions. -/
def aesBlocks : List (Bytes 16 × Bytes 16) :=
  [ (⟨[0x10, 0xef, 0xee, 0xed, 0x10, 0x11, 0x12, 0x13,
       0x14, 0x15, 0x16, 0x17, 0x18, 0x19, 0x1a, 0x1b], rfl⟩,
      ⟨[0x12, 0x23, 0x84, 0xb7, 0xc4, 0x20, 0xb2, 0x90,
        0xf8, 0x54, 0x8c, 0x72, 0x6d, 0x58, 0xcf, 0x7d], rfl⟩),
    (⟨[0x0e, 0x3e, 0x9a, 0xa8, 0xc4, 0x20, 0xb2, 0x90,
       0xf8, 0x54, 0x8c, 0x72, 0x6d, 0x58, 0xcf, 0x7d], rfl⟩,
      ⟨[0x27, 0x57, 0x57, 0x40, 0x60, 0x07, 0x7a, 0x42,
        0x3c, 0x4d, 0x99, 0xbe, 0x15, 0xa0, 0x77, 0x5f], rfl⟩),
    (⟨[0x35, 0x74, 0xd3, 0xf7, 0xa4, 0x27, 0xc8, 0xd2,
       0xc4, 0x19, 0x15, 0xcc, 0x78, 0xf8, 0xb8, 0x22], rfl⟩,
      ⟨[0x3b, 0x56, 0x88, 0x3a, 0x51, 0x17, 0x01, 0x37,
        0x0a, 0x58, 0x73, 0x1c, 0x56, 0x97, 0x63, 0x23], rfl⟩),
    (⟨[0x1c, 0x01, 0xdf, 0x7a, 0x31, 0x10, 0x7b, 0x75,
       0x36, 0x15, 0xea, 0xa2, 0x43, 0x37, 0x14, 0x7c], rfl⟩,
      ⟨[0x2c, 0x18, 0xff, 0xb9, 0x29, 0xc1, 0x01, 0xe1,
        0xe9, 0x40, 0x22, 0x26, 0x38, 0x2e, 0xb3, 0xca], rfl⟩)]

/-- AES-128 on these blocks. -/
def aesPermutation (_ : BlockCipher) (_ : Octets) : Equiv.Perm (Bytes 16) :=
  aesBlocks.foldr (fun pair rest => (Equiv.swap pair.1 pair.2).trans rest) (Equiv.refl _)

def zeroPadding (n : Nat) : Bytes n := ⟨List.replicate n 0, List.length_replicate⟩

def wrapKek : Octets := (List.range 16).map UInt8.ofNat

def wrapCek16 : Octets := (List.range 16).map fun i => UInt8.ofNat (16 + i)

theorem rfc3211_unwrap_wrap_aes128 :
    ∃ cipher wrapped, aesOfKeyLen wrapKek.length = some cipher ∧
      rfc3211WrapCek (nestedExternals.withBlockCiphers aesPermutation) zeroPadding (zeroPadding 16)
        wrapKek wrapCek16 = some (wrapped, zeroPadding 16) ∧
      Calls.unwrapCek (nestedExternals.withBlockCiphers aesPermutation) cipher wrapKek
        (zeroPadding 16).val wrapped = Call.ok wrapCek16 :=
  (rfc3211_unwrap_wrap nestedExternals aesPermutation).1 zeroPadding (zeroPadding 16) wrapKek
    wrapCek16 (by decide) (by decide) (by decide)

example : (rfc3211WrapCek (nestedExternals.withBlockCiphers aesPermutation) zeroPadding
    (zeroPadding 16) wrapKek wrapCek16).map (·.1.take 8) =
      some [0x3b, 0x56, 0x88, 0x3a, 0x51, 0x17, 0x01, 0x37] := by decide +kernel

end Sample

end Smime
