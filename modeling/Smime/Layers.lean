import Smime.DecryptVerify
import Smime.SignerViolations

/-! The layers that the loop of `src/decrypt_verify.rs` processes, one after the
other, and the induction over them. -/
namespace Smime

open X690 (Octets tlv)
open X509 Mail Utils

section Trace

variable (env : CmsExternals) (ctx : LayerContext)

/-- The state with which the loop goes on to the content `eml` of the layer. -/
def LayerState.next (depth : Nat) (state : LayerState) (eml : Octets) : LayerState :=
  { state.remember depth (state.process env ctx) with currentEml := eml }

/-- The states at the beginning of each layer that is processed. -/
def layerStates : (remaining depth : Nat) → LayerState → List LayerState
  | 0, _, _ => []
  | remaining + 1, depth, state =>
      state ::
        match nestedEml env (state.process env ctx) with
        | some eml => layerStates remaining (depth + 1) (state.next env ctx depth eml)
        | none => []

/-- What each of the layers of a message gives, in their order. -/
def processedLayers (eml : Octets) : List SmimeValidationResult :=
  (layerStates env ctx maxDecryptDepth 0 { currentEml := eml }).map (LayerState.process env ctx)

/-- The layer that ends the loop, unless the nesting limit does. -/
def closingLayer (layers : List SmimeValidationResult) : Option SmimeValidationResult :=
  layers.getLast?.filter fun layer => (nestedEml env layer).isNone

def nestingFailure : SmimeError :=
  .decryptionFailed ("nesting depth exceeds maximum of " ++ toString maxDecryptDepth)

end Trace

section Loop

variable {env : CmsExternals} {ctx : LayerContext}

theorem closingLayer_cons_nested {layer : SmimeValidationResult}
    {rest : List SmimeValidationResult} (h : (nestedEml env layer).isSome) :
    closingLayer env (layer :: rest) = closingLayer env rest := by
  unfold closingLayer
  cases rest with
  | nil => simpa [closingLayer, ← Option.isSome_iff_ne_none] using h
  | cons other rest => rw [List.getLast?_cons_cons]

theorem closingLayer_single {layer : SmimeValidationResult} (h : nestedEml env layer = none) :
    closingLayer env [layer] = some layer := by
  simp [closingLayer, h]

/-- An induction over the layers: the loop either ends with a layer, or goes on
to its content, or has come to the nesting limit. -/
theorem layerLoop_induction (env : CmsExternals) (ctx : LayerContext) {P : Nat → Nat → LayerState → Prop}
    (hLimit : ∀ (depth : Nat) (state : LayerState), P 0 depth state)
    (hLast : ∀ (remaining depth : Nat) (state : LayerState),
      nestedEml env (state.process env ctx) = none → P (remaining + 1) depth state)
    (hNested : ∀ (remaining depth : Nat) (state : LayerState) (eml : Octets),
      nestedEml env (state.process env ctx) = some eml →
        P remaining (depth + 1) (state.next env ctx depth eml) → P (remaining + 1) depth state)
    (remaining depth : Nat) (state : LayerState) : P remaining depth state := by
  induction remaining generalizing depth state with
  | zero => exact hLimit depth state
  | succ remaining ih =>
      cases hNext : nestedEml env (state.process env ctx) with
      | none => exact hLast remaining depth state hNext
      | some eml => exact hNested remaining depth state eml hNext (ih _ _)

theorem layerStates_last {remaining depth : Nat} {state : LayerState}
    (h : nestedEml env (state.process env ctx) = none) :
    layerStates env ctx (remaining + 1) depth state = [state] := by
  rw [layerStates, h]

theorem layerStates_nested {remaining depth : Nat} {state : LayerState} {eml : Octets}
    (h : nestedEml env (state.process env ctx) = some eml) :
    layerStates env ctx (remaining + 1) depth state =
      state :: layerStates env ctx remaining (depth + 1) (state.next env ctx depth eml) := by
  rw [layerStates, h]

theorem layerLoop_nested {remaining depth : Nat} {state : LayerState} {eml : Octets}
    (h : nestedEml env (state.process env ctx) = some eml) :
    layerLoop env ctx (remaining + 1) depth state =
      layerLoop env ctx remaining (depth + 1) (state.next env ctx depth eml) := by
  rw [layerLoop]
  dsimp only
  rw [h]
  rfl

theorem layerLoop_last {remaining depth : Nat} {state : LayerState}
    (h : nestedEml env (state.process env ctx) = none) :
    layerLoop env ctx (remaining + 1) depth state =
      (state.remember depth (state.process env ctx)).finish
        { state.process env ctx with
          encryptionInfo :=
            if state.outerEncryptionInfo.isNone then none
            else (state.process env ctx).encryptionInfo } := by
  rw [layerLoop]
  dsimp only
  rw [h]

/-- Only the layer that ends the loop has no further S/MIME message as its content. -/
theorem layerStates_getLast?_of_mem (remaining depth : Nat) (state : LayerState)
    {layer : LayerState} (hMem : layer ∈ layerStates env ctx remaining depth state)
    (hLast : nestedEml env (layer.process env ctx) = none) :
    (layerStates env ctx remaining depth state).getLast? = some layer := by
  induction remaining, depth, state using layerLoop_induction env ctx with
  | hLimit depth state => cases hMem
  | hLast remaining depth state hState =>
      rw [layerStates_last hState] at hMem ⊢
      rw [List.getLast?_singleton, List.mem_singleton.mp hMem]
  | hNested remaining depth state eml hState ih =>
      rw [layerStates_nested hState] at hMem ⊢
      rcases List.mem_cons.mp hMem with rfl | hMem
      · rw [hLast] at hState
        cases hState
      · rw [List.getLast?_cons, ih hMem]
        rfl

end Loop

section Samples

/-! A message signed twice without signers, whose outer SignedData has a wrong
version; the outside answers as it does for this message. -/

def signedDataOidDer : Octets := [0x06, 0x09, 0x2A, 0x86, 0x48, 0x86, 0xF7, 0x0D, 0x01, 0x07, 0x02]

/-- A SignedData without digest algorithms, certificates and signers. -/
def unsignedDer (version : UInt8) (content : Octets) : Octets :=
  let encapContentInfo := tlv [0x30] (dataOidDer ++ tlv [0xA0] (tlv [0x04] content))
  let signedData := tlv [0x02] [version] ++ tlv [0x31] [] ++ encapContentInfo ++ tlv [0x31] []
  tlv [0x30] (signedDataOidDer ++ tlv [0xA0] (tlv [0x30] signedData))

def unsignedData (version : UInt8) (content : Octets) : SignedData :=
  ⟨version, .data (some content), none, none, []⟩

def helloContent : Octets := ascii "Content-Type: text/plain\r\n\r\nHello"

def pkcs7MimeHeader : Octets :=
  ascii "Content-Type: application/pkcs7-mime\r\nContent-Transfer-Encoding: base64\r\n\r\n"

/-- Its body is the encoding of `unsignedDer 1 helloContent`. -/
def innerEml : Octets :=
  pkcs7MimeHeader ++ ascii "MEgGCSqGSIb3DQEHAqA7MDkCAQExADAwBgkqhkiG9w0BBwGgIwQhQ29udGVudC1UeXBl"
    ++ ascii "OiB0ZXh0L3BsYWluDQoNCkhlbGxvMQA=\r\n"

/-- Its body is the encoding of `unsignedDer 3 innerEml`. -/
def outerEml : Octets :=
  ascii "From: anu@naide.ee\r\n" ++ pkcs7MimeHeader
    ++ ascii "MIHdBgkqhkiG9w0BBwKggc8wgcwCAQMxADCBwgYJKoZIhvcNAQcBoIG0BIGxQ29udGVudC1UeXBlOiBhcHBs"
    ++ ascii "aWNhdGlvbi9wa2NzNy1taW1lDQpDb250ZW50LVRyYW5zZmVyLUVuY29kaW5nOiBiYXNlNjQNCg0KTUVnR0NT"
    ++ ascii "cUdTSWIzRFFFSEFxQTdNRGtDQVFFeEFEQXdCZ2txaGtpRzl3MEJCd0dnSXdRaFEyOXVkR1Z1ZEMxVWVYQmxP"
    ++ ascii "aUIwWlhoMEwzQnNZV2x1RFFvTkNraGxiR3h2TVFBPQ0KMQA=\r\n"

def pkcs7MimeType : ContentType := ⟨"application", some "pkcs7-mime", []⟩

def singlePart (ct : ContentType) (sender : Option Addr) (contents eml : Octets) : Message :=
  { parts := [⟨⟨some ct, contents, 0, eml.length⟩, .leaf⟩], fromAddr := sender, date := none }

def nestedMessage (eml : Octets) : Option Message :=
  if eml = outerEml then
    some (singlePart pkcs7MimeType (some ⟨none, some "anu@naide.ee"⟩) (unsignedDer 3 innerEml) eml)
  else if eml = innerEml then
    some (singlePart pkcs7MimeType none (unsignedDer 1 helloContent) eml)
  else if eml = helloContent then
    some (singlePart ⟨"text", some "plain", []⟩ none (ascii "Hello") eml)
  else none

def nestedContentInfo (der : Octets) : Except String Content :=
  if der = unsignedDer 3 innerEml then .ok (.signedData (unsignedData 3 innerEml))
  else if der = unsignedDer 1 helloContent then .ok (.signedData (unsignedData 1 helloContent))
  else unanswered

/-- `essExternals` with other messages; no key opens anything. -/
def cmsExternals (parseMessage : Octets → Option Message)
    (parseContentInfo : Octets → Except String Content) : CmsExternals where
  toExternals := { essExternals with parseMessage, parseContentInfo }
  parseTlv _ := unanswered
  parseRecipientInfo _ := unanswered
  writeAlgorithmIdentifier _ := unanswered
  writeSharedInfo _ := unanswered
  writeAttributes _ := unanswered
  writeRecipientInfo _ := unanswered
  writeContentInfo _ := unanswered
  parsePem _ := unanswered
  RsaPrivateKey := Unit
  RsaPublicKey := Unit
  rsaPrivateKeyFromPkcs8 _ := unanswered
  rsaPublicKeyFromDer _ := unanswered
  rsaModulusBits _ := 0
  rsaDecrypt _ _ _ := unanswered
  rsaEncrypt _ _ _ _ := unanswered
  EcSecretKey _ := Unit
  EcPublicKey _ := Unit
  parsePrivateKeyInfo _ := unanswered
  ecSecretKeyFromPkcs8 _ _ := unanswered
  ecPublicKeyFromSec1 _ _ := unanswered
  ecPublicKeyOf _ := ()
  ecToSec1 _ := []
  diffieHellman _ _ := []
  x25519 scalar _ := scalar
  x25519PublicKeyOf scalar := scalar
  x963Kdf _ _ _ _ := none
  hkdf _ _ _ _ _ := unanswered
  pbkdf2Hmac _ _ _ _ _ := []
  keyWrapInit _ _ := unanswered
  wrapKey _ _ := unanswered
  unwrapKey _ _ := unanswered
  encryptBlock _ _ block := block
  decryptBlock _ _ block := block
  invalidLength := ""
  unpadError := ""
  gcmEncrypt _ _ _ _ := unanswered
  gcmDecrypt _ _ _ _ _ := unanswered
  ccmDecrypt _ _ _ _ _ := unanswered
  features := .default
  debugNestedParameters _ := ""

def nestedExternals : CmsExternals := cmsExternals nestedMessage nestedContentInfo

def noKeys : LayerContext := ⟨.native64, ⟨[], none⟩, {}⟩

/-- As `noKeys`, with the debug anchor. -/
def debugTrust : LayerContext := { noKeys with trust := ⟨[.debug], none⟩ }

end Samples

end Smime
