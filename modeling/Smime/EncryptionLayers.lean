import Smime.Data.Base64
import Smime.EncryptDecrypt
import Smime.SenderAuthenticity
import Smime.VerifyFrame
import Smime.VerifySuccess

/-! Which layers of a message are encrypted, and whose encryption is in the
result. -/
namespace Smime

open X690 (Octets)
open X509 Mail Utils

section Layer

variable (env : CmsExternals) (ctx : LayerContext)

/-- The CMS of a layer that is an application/pkcs7-mime message. -/
def layerContent (eml : Octets) : Option Content :=
  (env.parseMessage eml).bind fun message =>
    message.contentType.bind fun ct =>
      if smimeContentKind ct = .pkcs7Mime then (pkcs7MimeContent env ctx.target message).toOption
      else none

def contentEncryption (content : Content) : Option EncryptionInfo :=
  match content with
  | .envelopedData envelopedData =>
      let cea := envelopedData.encryptedContentInfo.contentEncryptionAlgorithm.params
      some (encryptionInfoOf env (envelopedCipherName cea) envelopedData.recipientInfos)
  | .authEnvelopedData authEnveloped =>
      let cea := authEnveloped.authEncryptedContentInfo.contentEncryptionAlgorithm.params
      some (encryptionInfoOf env (authEnvelopedCipherName cea) authEnveloped.recipientInfos)
  | _ => none

/-- The encryption of a layer, if it is an encrypted one. -/
def layerEncryption (eml : Octets) : Option EncryptionInfo :=
  (layerContent env ctx eml).bind (contentEncryption env)

variable {env ctx} {eml : Octets} {outermostFrom : Option Addr} {outermostDate : Option Instant}

theorem layerContent_of_message {message : Message} {ct : ContentType}
    (hMessage : env.parseMessage eml = some message) (hCt : message.contentType = some ct) :
    layerContent env ctx eml =
      if smimeContentKind ct = .pkcs7Mime then (pkcs7MimeContent env ctx.target message).toOption
      else none := by
  simp [layerContent, hMessage, hCt]

theorem verifySmimeFromEmlDetailed_encryptionInfo (env : Externals) (target : Target)
    (eml : Octets) (trust : TrustConfig) :
    (verifySmimeFromEmlDetailed env target eml trust).encryptionInfo = none := by
  rcases verifySmimeFromEmlDetailed_cases env target eml trust with
    ⟨message, signedData, signed, signingSystem, -, hResult⟩ | ⟨-, signingSystem, err, hResult⟩
  · rw [hResult]
    exact (verifySignedData_sameSystem env signedData signed trust.stores trust.caFilePem
      message.fromAddr (outerDateOf env message) { signingSystem }).encryptionInfo
  · rw [hResult]

theorem recordDecryption_encryptionInfo
    {outcome : Except SmimeError (Option Octets × List SmimeError)}
    {result : SmimeValidationResult} :
    (recordDecryption outcome result).encryptionInfo = result.encryptionInfo := by
  unfold recordDecryption
  split <;> rfl

theorem processContent_encryptionInfo {content : Content} {result : SmimeValidationResult}
    (h : result.encryptionInfo = none) :
    (processContent env ctx content outermostFrom outermostDate result).encryptionInfo =
      contentEncryption env content := by
  cases content with
  | data content => exact h
  | other => exact h
  | envelopedData envelopedData => exact recordDecryption_encryptionInfo
  | authEnvelopedData authEnveloped => exact recordDecryption_encryptionInfo
  | signedData signedData =>
      unfold processContent verifySignedDataLayer
      dsimp only
      cases SignedTarget.ofEcontent signedData with
      | error e => exact h
      | ok target => exact (verifySignedData_sameSystem _ _ _ _ _ _ _ _).encryptionInfo.trans h

theorem decryptAndVerifyOneLayer_encryptionInfo :
    (decryptAndVerifyOneLayer env ctx eml outermostFrom outermostDate).encryptionInfo =
      layerEncryption env ctx eml := by
  unfold decryptAndVerifyOneLayer layerEncryption
  cases hMessage : env.parseMessage eml with
  | none => simp [layerContent, hMessage, SmimeValidationResult.push]
  | some message =>
      dsimp only
      cases hCt : message.contentType with
      | none => simp [layerContent, hMessage, hCt, SmimeValidationResult.push]
      | some ct =>
          rw [layerContent_of_message hMessage hCt]
          dsimp only
          by_cases hKind : smimeContentKind ct = .pkcs7Mime
          · rw [if_neg (not_not.mpr hKind), if_pos hKind]
            cases pkcs7MimeContent env ctx.target message with
            | error e => rfl
            | ok content => exact processContent_encryptionInfo rfl
          · rw [if_pos hKind, if_neg hKind]
            exact verifySmimeFromEmlDetailed_encryptionInfo _ _ _ _

theorem process_encryptionInfo (state : LayerState) :
    (state.process env ctx).encryptionInfo = layerEncryption env ctx state.currentEml :=
  decryptAndVerifyOneLayer_encryptionInfo

end Layer

section Loop

variable (env : CmsExternals) (ctx : LayerContext)

/-- The encryption of the first of the layers that is encrypted. -/
def outermostEncryption (states : List LayerState) : Option EncryptionInfo :=
  states.findSome? fun state => layerEncryption env ctx state.currentEml

/-- The result has the encryption of the outermost encrypted layer, and none
exactly when no layer is encrypted. -/
structure ReportsOutermost (eml : Octets) : Prop where
  outermost : (decryptAndVerifySmimeFromEmlDetailed env ctx eml).encryptionInfo =
    outermostEncryption env ctx (layerStates env ctx maxDecryptDepth 0 { currentEml := eml })
  none_iff : (decryptAndVerifySmimeFromEmlDetailed env ctx eml).encryptionInfo = none ↔
    ∀ state ∈ layerStates env ctx maxDecryptDepth 0 { currentEml := eml },
      layerEncryption env ctx state.currentEml = none

/-- An encrypted layer that ends the loop has the encryption of the outermost
encrypted layer before it. -/
def EndsAsOutermost (states : List LayerState) : Prop :=
  ∀ (before : List LayerState) (last : LayerState), states = before ++ [last] →
    nestedEml env (last.process env ctx) = none →
      ∀ info outer : EncryptionInfo, layerEncryption env ctx last.currentEml = some info →
        outermostEncryption env ctx before = some outer → info = outer

variable {env ctx}

theorem layerLoop_encryptionInfo (remaining depth : Nat) (state : LayerState) :
    (layerLoop env ctx remaining depth state).encryptionInfo =
      (((closingState env ctx (layerStates env ctx remaining depth state)).bind
          fun closing => layerEncryption env ctx closing.currentEml) <|>
        (state.outerEncryptionInfo <|>
          outermostEncryption env ctx (layerStates env ctx remaining depth state))) := by
  induction remaining, depth, state using layerLoop_induction env ctx with
  | hLimit depth state =>
      show state.outerEncryptionInfo = (none <|> (state.outerEncryptionInfo <|> none))
      cases state.outerEncryptionInfo <;> rfl
  | hLast remaining depth state hLast =>
      have hOuter : (state.remember depth (state.process env ctx)).outerEncryptionInfo =
          (state.outerEncryptionInfo <|> (state.process env ctx).encryptionInfo) := by
        by_cases hDepth : depth = 0 <;> simp [LayerState.remember, hDepth]
      rw [layerStates_last hLast, layerLoop_last hLast, closingState_single hLast,
        LayerState.finish]
      dsimp only
      rw [hOuter, process_encryptionInfo, Option.bind_some, outermostEncryption,
        List.findSome?_cons]
      cases state.outerEncryptionInfo <;>
        cases layerEncryption env ctx state.currentEml <;> rfl
  | hNested remaining depth state eml hNested ih =>
      have hNext : (state.next env ctx depth eml).outerEncryptionInfo =
          (state.outerEncryptionInfo <|> layerEncryption env ctx state.currentEml) := by
        rw [← process_encryptionInfo]
        by_cases hDepth : depth = 0 <;> simp [LayerState.next, LayerState.remember, hDepth]
      rw [layerStates_nested hNested, layerLoop_nested hNested, ih, hNext,
        closingState_cons_nested (by rw [hNested]; rfl)]
      congr 1
      rw [outermostEncryption, outermostEncryption, List.findSome?_cons]
      cases state.outerEncryptionInfo <;>
        cases layerEncryption env ctx state.currentEml <;> rfl

/-- An encrypted outermost layer has the outermost encryption. -/
theorem outermostEncryption_first {remaining depth : Nat} {state : LayerState}
    {info : EncryptionInfo} (h : layerEncryption env ctx state.currentEml = some info) :
    outermostEncryption env ctx (layerStates env ctx (remaining + 1) depth state) = some info := by
  rw [layerStates, outermostEncryption, List.findSome?_cons, h]

theorem outermostEncryption_append (before : List LayerState) (last : LayerState) :
    outermostEncryption env ctx (before ++ [last]) =
      (outermostEncryption env ctx before <|> layerEncryption env ctx last.currentEml) := by
  unfold outermostEncryption
  rw [List.findSome?_append]
  cases List.findSome? (fun state => layerEncryption env ctx state.currentEml) before with
  | some outer => rfl
  | none =>
      rw [List.findSome?_cons, List.findSome?_nil]
      cases layerEncryption env ctx last.currentEml <;> rfl

theorem closingState_append {before : List LayerState} {last : LayerState} :
    closingState env ctx (before ++ [last]) =
      if nestedEml env (last.process env ctx) = none then some last else none := by
  rw [closingState, List.getLast?_append_of_ne_nil _ (List.cons_ne_nil _ _),
    List.getLast?_singleton]
  simp [Option.filter, Option.isNone_iff_eq_none]

theorem endsAsOutermost_append {before : List LayerState} {last : LayerState} :
    EndsAsOutermost env ctx (before ++ [last]) ↔
      (nestedEml env (last.process env ctx) = none →
        ∀ info outer : EncryptionInfo, layerEncryption env ctx last.currentEml = some info →
          outermostEncryption env ctx before = some outer → info = outer) := by
  constructor
  · intro h
    exact h before last rfl
  · intro h other state hSplit
    obtain ⟨rfl, hState⟩ := List.append_inj' hSplit rfl
    obtain rfl : last = state := (List.cons.inj hState).1
    exact h

/-- The loop reports the encryption of the layer that ends it, if that one is
encrypted. -/
theorem reported_eq_outermost_iff (states : List LayerState) :
    (((closingState env ctx states).bind fun closing =>
        layerEncryption env ctx closing.currentEml) <|> outermostEncryption env ctx states) =
        outermostEncryption env ctx states ↔
      EndsAsOutermost env ctx states := by
  rcases List.eq_nil_or_concat states with rfl | ⟨before, last, rfl⟩
  · simp [closingState_nil, outermostEncryption, EndsAsOutermost]
  · rw [List.concat_eq_append, closingState_append, outermostEncryption_append,
      endsAsOutermost_append]
    by_cases hLast : nestedEml env (last.process env ctx) = none
    · rw [if_pos hLast, Option.bind_some]
      cases layerEncryption env ctx last.currentEml <;>
        cases outermostEncryption env ctx before <;> simp [hLast]
    · rw [if_neg hLast]
      simp [hLast]

variable (env ctx)

theorem decryptAndVerify_encryptionInfo (eml : Octets) :
    let states := layerStates env ctx maxDecryptDepth 0 { currentEml := eml }
    (decryptAndVerifySmimeFromEmlDetailed env ctx eml).encryptionInfo =
      (((closingState env ctx states).bind fun closing =>
        layerEncryption env ctx closing.currentEml) <|> outermostEncryption env ctx states) :=
  layerLoop_encryptionInfo maxDecryptDepth 0 { currentEml := eml }

/-- The result reports the outermost encryption unless an encrypted layer with
another one ends the loop. -/
theorem reportsOutermost_iff (eml : Octets) :
    ReportsOutermost env ctx eml ↔
      EndsAsOutermost env ctx (layerStates env ctx maxDecryptDepth 0 { currentEml := eml }) := by
  have hReported := decryptAndVerify_encryptionInfo env ctx eml
  dsimp only at hReported
  rw [← reported_eq_outermost_iff, ← hReported]
  constructor
  · intro h
    exact h.outermost
  · intro hOutermost
    refine ⟨hOutermost, ?_⟩
    rw [hOutermost]
    exact List.findSome?_eq_none_iff

end Loop

section Samples

/-! A message that is encrypted twice, for two keys, of which the recipient has
the outer one. The outside answers as it does for this message. -/

def innerEnvelopedDer : Octets :=
  octets 38 0x3081a506092a864886f70d010703a081973081940201023131a22f0201043003040102300b06
    ++ octets 38 0x0960864801650304010504188d838055fdc0c1d1ad109a70d133e2372932603baa0b55ee305c
    ++ octets 38 0x06092a864886f70d010701301d060960864801650304010204100bcc7803c858c2422eb5745f
    ++ octets 38 0xc546832d80302f18fea5686cf8d8377e02df4c9e36a40a263c7df301127b0af8ab446eaa7afa
    ++ octets 16 0xa57ad99aa6fdad889cf117a2c8ac5241

def sealedDer : Octets :=
  octets 38 0x308201bd060b2a864886f70d0109100117a08201ac308201a80201003131a22f020104300304
    ++ octets 38 0x0101300b06096086480165030401050418bf3413b76ae2941fa8ba556d9f99351fa0126b6221
    ++ octets 38 0x0ac9da3082015c06092a864886f70d010701301e06096086480165030401063011040c78a6d9
    ++ octets 38 0xe8c1fdc2525d13246d0201108082012d50ee32f1898ddfd453a586465a4f23f1db35bb88b08b
    ++ octets 38 0xdcedb623ec7c151b1b82fc34ae14b738de28a0340005bd441d85d37cfb3692fb4adf1f218d1a
    ++ octets 38 0xc37754c585d033935ff1ae48ebdabce02190e24f0de6bc963a2b9a1ec288754fc66322422513
    ++ octets 38 0x063363863f3c993e8a689ee2046d1172b69a4c841d8e2c416a73bfa3db53141a9775a3026f91
    ++ octets 38 0x88b354a9ed4c9eab567fb4fa3d9e819a0891bfba35856c7d3016dc0067b3060016b9878caec6
    ++ octets 38 0x5551409973e3f3b2da1bcd8a0e890a999b3c6436b28479083ab144bcf8c0140679d6fa7d6027
    ++ octets 38 0xf94a3f7dea12e7be741ab21001d6760e0c66cd09410e851c6a87cdb731254d16c211c3d5b765
    ++ octets 38 0x4cd109f660dbfc9bae30479a69b31894cd32ae82d64c6ff555df09ba769aab2ecbbbd660b3d5
    ++ octets 31 0xf19698a4fb563c827e17c5110d041089757e929eb66f974227fa557c9dd621

def innerSealedEml : Octets := pkcs7MimeHeader ++ base64 innerEnvelopedDer ++ crlf

def sealedEml : Octets :=
  ascii "From: anu@naide.ee\r\n" ++ pkcs7MimeHeader ++ base64 sealedDer ++ crlf

def outerKek : Octets := octets 16 0x000102030405060708090a0b0c0d0e0f

def outerCek : Octets := octets 16 0x6b1225dd9d331c8a2a56bc89ebae1b4d

def aes128WrapAlg : AlgorithmIdentifier := ⟨aes128WrapOid, .other aes128WrapOid none⟩

def innerEnveloped : EnvelopedData where
  version := 2
  originatorInfo := none
  recipientInfos := [.kek ⟨4, aes128WrapAlg, (innerEnvelopedDer.drop 50).take 24⟩]
  encryptedContentInfo :=
    ⟨pkcs7DataOid,
      ⟨[2, 16, 840, 1, 101, 3, 4, 1, 2], .aes128Cbc ((innerEnvelopedDer.drop 102).take 16)⟩,
      some (innerEnvelopedDer.drop 120)⟩
  unprotectedAttrs := none

def sealedEnveloped : AuthEnvelopedData where
  version := 0
  originatorInfo := none
  recipientInfos := [.kek ⟨4, aes128WrapAlg, (sealedDer.drop 55).take 24⟩]
  authEncryptedContentInfo :=
    ⟨pkcs7DataOid,
      ⟨[2, 16, 840, 1, 101, 3, 4, 1, 6], .aes128Gcm ⟨(sealedDer.drop 111).take 12, 16⟩⟩,
      some ((sealedDer.drop 130).take 301)⟩
  authAttrs := none
  mac := sealedDer.drop 433
  unauthAttrs := none

def sealedMessage (eml : Octets) : Option Message :=
  if eml = sealedEml then
    some (singlePart pkcs7MimeType (some ⟨none, some "anu@naide.ee"⟩) sealedDer eml)
  else if eml = innerSealedEml then some (singlePart pkcs7MimeType none innerEnvelopedDer eml)
  else none

def sealedContentInfo (der : Octets) : Except String Content :=
  if der = sealedDer then .ok (.authEnvelopedData sealedEnveloped)
  else if der = innerEnvelopedDer then .ok (.envelopedData innerEnveloped)
  else unanswered

/-- The outer key opens the outer layer only. -/
def sealedExternals : CmsExternals :=
  { cmsExternals sealedMessage sealedContentInfo with
    keyWrapInit := fun kekLen kek => if kek.length = kekLen then .ok () else unanswered
    unwrapKey := fun kek wrapped =>
      if kek = outerKek ∧ wrapped = (sealedDer.drop 55).take 24 then .ok outerCek else unanswered
    gcmDecrypt := fun key nonce aad ciphertext tag =>
      if key = outerCek ∧ nonce = (sealedDer.drop 111).take 12 ∧ aad = [] ∧
        ciphertext = (sealedDer.drop 130).take 301 ∧ tag = sealedDer.drop 433
      then .ok innerSealedEml
      else unanswered }

def withOuterKek : LayerContext := { debugTrust with keys := { kek := some outerKek } }

/-- The inner layer is encrypted with AES-CBC and does not open. The result has
its encryption, and that of the outer layer is lost. -/
theorem not_reportsOutermost :
    ¬ ∀ (env : CmsExternals) (ctx : LayerContext) (eml : Octets),
      ReportsOutermost env ctx eml := by
  intro h
  have hReported := (h sealedExternals withOuterKek sealedEml).outermost
  have hOuter : layerEncryption sealedExternals withOuterKek sealedEml =
      some ⟨"AES-GCM", "128-bit", []⟩ := by
    decide +kernel
  have hOutermost : outermostEncryption sealedExternals withOuterKek
      (layerStates sealedExternals withOuterKek maxDecryptDepth 0 { currentEml := sealedEml }) =
        some ⟨"AES-GCM", "128-bit", []⟩ :=
    outermostEncryption_first hOuter
  have hResult : (decryptAndVerifySmimeFromEmlDetailed sealedExternals withOuterKek
      sealedEml).encryptionInfo = some ⟨"AES-CBC", "128-bit", []⟩ := by
    decide +kernel
  rw [hResult, hOutermost] at hReported
  exact absurd hReported (by decide)

end Samples

end Smime
