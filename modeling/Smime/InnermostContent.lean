import Smime.Layers

/-! Whether a message of several layers is processed down to its innermost
content, or something of S/MIME is left in the result. -/
namespace Smime

open X690 (Octets)
open X509 Mail Utils

section Descent

variable (env : CmsExternals) (ctx : LayerContext)

/-- The octets are themselves an S/MIME message. -/
def smimeEntity (content : Octets) : Bool := (env.parseMessage content).any isSmimeMime

def IsUtf8 (content : Octets) : Prop := ∃ text : String, fromUtf8 env.toExternals content = .ok text

/-- The content of the innermost layer, as the layers are nested and whatever
their octets are; `none` when there are more than `remaining` layers. -/
def innermostContent : (remaining depth : Nat) → LayerState → Option (Option Octets)
  | 0, _, _ => none
  | remaining + 1, depth, state =>
      match (state.process env ctx).signedContent.filter (smimeEntity env) with
      | some eml => innermostContent remaining (depth + 1) (state.next env ctx depth eml)
      | none => some (state.process env ctx).signedContent

/-- The result has the innermost content, or the failure of the nesting limit
and no content; it never has an S/MIME message. -/
structure ProcessesAll (remaining depth : Nat) (state : LayerState)
    (result : SmimeValidationResult) : Prop where
  notSmime : ∀ content : Octets, result.signedContent = some content →
    smimeEntity env content = false
  innermost : ∀ content : Option Octets,
    innermostContent env ctx remaining depth state = some content → result.signedContent = content
  tooDeep : innermostContent env ctx remaining depth state = none →
    result.failures = [nestingFailure] ∧ result.signedContent = none

/-- An S/MIME message that a layer contains is UTF-8. -/
def ReadableInside (state : LayerState) : Prop :=
  ∀ content : Octets, (state.process env ctx).signedContent = some content →
    smimeEntity env content = true → IsUtf8 env content

end Descent

section Loop

variable {env : CmsExternals} {ctx : LayerContext}

theorem toOption_isSome_iff {content : Octets} :
    (fromUtf8 env.toExternals content).toOption.isSome = true ↔ IsUtf8 env content := by
  unfold IsUtf8
  cases fromUtf8 env.toExternals content with
  | error e => simp [Except.toOption]
  | ok text => simp [Except.toOption]

theorem nestedEml_some_iff {result : SmimeValidationResult} {eml : Octets} :
    nestedEml env result = some eml ↔
      result.signedContent = some eml ∧ IsUtf8 env eml ∧ smimeEntity env eml = true := by
  rw [nestedEml, Option.filter_eq_some_iff, Bool.and_eq_true, toOption_isSome_iff]
  rfl

/-- Without anything unreadable inside, the loop goes on exactly with S/MIME messages. -/
theorem nestedEml_eq_filter {state : LayerState} (h : ReadableInside env ctx state) :
    nestedEml env (state.process env ctx) =
      (state.process env ctx).signedContent.filter (smimeEntity env) := by
  apply Option.ext
  intro eml
  rw [nestedEml_some_iff, Option.filter_eq_some_iff]
  constructor
  · rintro ⟨hContent, -, hSmime⟩
    exact ⟨hContent, hSmime⟩
  · rintro ⟨hContent, hSmime⟩
    exact ⟨hContent, h eml hContent hSmime, hSmime⟩

theorem layerLoop_last_signedContent {remaining depth : Nat} {state : LayerState}
    (h : nestedEml env (state.process env ctx) = none) :
    (layerLoop env ctx (remaining + 1) depth state).signedContent =
      (state.process env ctx).signedContent := by
  rw [layerLoop_last h]
  rfl

theorem processesAll_of_readable (remaining depth : Nat) (state : LayerState)
    (h : ∀ layer ∈ layerStates env ctx remaining depth state, ReadableInside env ctx layer) :
    ProcessesAll env ctx remaining depth state (layerLoop env ctx remaining depth state) := by
  induction remaining, depth, state using layerLoop_induction env ctx with
  | hLimit depth state =>
      refine ⟨?_, ?_, fun _ => ⟨rfl, rfl⟩⟩
      · intro content hContent
        cases hContent
      · intro content hContent
        cases hContent
  | hLast remaining depth state hLast =>
      rw [layerStates_last hLast] at h
      have hFilter := nestedEml_eq_filter (h state List.mem_cons_self)
      rw [hLast] at hFilter
      have hContent := @layerLoop_last_signedContent env ctx remaining depth state hLast
      constructor
      · intro content hResult
        rw [hContent] at hResult
        rw [hResult, eq_comm, Option.filter_eq_none_iff] at hFilter
        simpa using hFilter content rfl
      · intro content hInnermost
        rw [innermostContent, ← hFilter, Option.some.injEq] at hInnermost
        rw [hContent, hInnermost]
      · intro hInnermost
        rw [innermostContent, ← hFilter] at hInnermost
        cases hInnermost
  | hNested remaining depth state eml hNested ih =>
      rw [layerStates_nested hNested] at h
      have hFilter := nestedEml_eq_filter (h state List.mem_cons_self)
      rw [hNested] at hFilter
      have hInner : innermostContent env ctx (remaining + 1) depth state =
          innermostContent env ctx remaining (depth + 1) (state.next env ctx depth eml) := by
        rw [innermostContent, ← hFilter]
      obtain ⟨hNotSmime, hInnermost, hTooDeep⟩ :=
        ih fun layer hLayer => h layer (List.mem_cons_of_mem _ hLayer)
      constructor <;> rw [layerLoop_nested hNested]
      · exact hNotSmime
      · rw [hInner]
        exact hInnermost
      · rw [hInner]
        exact hTooDeep

/-- What the layer that ends the loop contains is in the result. -/
theorem readable_of_notSmime (remaining depth : Nat) (state : LayerState)
    (h : ∀ content : Octets,
      (layerLoop env ctx remaining depth state).signedContent = some content →
        smimeEntity env content = false) :
    ∀ layer ∈ layerStates env ctx remaining depth state, ReadableInside env ctx layer := by
  induction remaining, depth, state using layerLoop_induction env ctx with
  | hLimit depth state =>
      intro layer hLayer
      cases hLayer
  | hLast remaining depth state hLast =>
      intro layer hLayer content hContent hSmime
      rw [layerStates_last hLast, List.mem_singleton] at hLayer
      subst hLayer
      have hNot := h content ((layerLoop_last_signedContent hLast).trans hContent)
      rw [hNot] at hSmime
      cases hSmime
  | hNested remaining depth state eml hNested ih =>
      rw [layerLoop_nested hNested] at h
      rw [layerStates_nested hNested]
      refine List.forall_mem_cons.mpr ⟨?_, ih h⟩
      obtain ⟨hEml, hUtf8, -⟩ := nestedEml_some_iff.mp hNested
      intro content hContent _
      rw [hEml, Option.some.injEq] at hContent
      rw [← hContent]
      exact hUtf8

/-- Nothing of S/MIME is left, and all of it is processed within the limit,
exactly when the S/MIME messages inside the layers are UTF-8. -/
theorem processesAll_iff (env : CmsExternals) (ctx : LayerContext) (eml : Octets) :
    ProcessesAll env ctx maxDecryptDepth 0 { currentEml := eml }
        (decryptAndVerifySmimeFromEmlDetailed env ctx eml) ↔
      ∀ layer ∈ layerStates env ctx maxDecryptDepth 0 { currentEml := eml },
        ReadableInside env ctx layer := by
  constructor
  · exact fun h => readable_of_notSmime maxDecryptDepth 0 _ h.notSmime
  · exact processesAll_of_readable maxDecryptDepth 0 _

end Loop

section Samples

/-! An S/MIME message in Latin-1, opaquely signed without signers. -/

def latinEml : Octets := ascii "Subject: " ++ [0xE4, 0x0D, 0x0A] ++ innerEml

/-- Its body is the encoding of `unsignedDer 1 latinEml`. -/
def latinOuterEml : Octets :=
  ascii "From: anu@naide.ee\r\n" ++ pkcs7MimeHeader
    ++ ascii "MIHpBgkqhkiG9w0BBwKggdswgdgCAQExADCBzgYJKoZIhvcNAQcBoIHABIG9U3ViamVjdDog5A0KQ29udGVu"
    ++ ascii "dC1UeXBlOiBhcHBsaWNhdGlvbi9wa2NzNy1taW1lDQpDb250ZW50LVRyYW5zZmVyLUVuY29kaW5nOiBiYXNl"
    ++ ascii "NjQNCg0KTUVnR0NTcUdTSWIzRFFFSEFxQTdNRGtDQVFFeEFEQXdCZ2txaGtpRzl3MEJCd0dnSXdRaFEyOXVk"
    ++ ascii "R1Z1ZEMxVWVYQmxPaUIwWlhoMEwzQnNZV2x1RFFvTkNraGxiR3h2TVFBPQ0KMQA=\r\n"

def latinMessage (eml : Octets) : Option Message :=
  if eml = latinOuterEml then
    some (singlePart pkcs7MimeType (some ⟨none, some "anu@naide.ee"⟩) (unsignedDer 1 latinEml) eml)
  else if eml = latinEml then
    some (singlePart pkcs7MimeType none (unsignedDer 1 helloContent) eml)
  else nestedMessage eml

def latinContentInfo (der : Octets) : Except String Content :=
  if der = unsignedDer 1 latinEml then .ok (.signedData (unsignedData 1 latinEml))
  else nestedContentInfo der

def latinExternals : CmsExternals := cmsExternals latinMessage latinContentInfo

/-- The inner message is returned as it is, with its signatures unverified. -/
theorem not_processesAll :
    ¬ ∀ (env : CmsExternals) (ctx : LayerContext) (eml : Octets),
      ProcessesAll env ctx maxDecryptDepth 0 { currentEml := eml }
        (decryptAndVerifySmimeFromEmlDetailed env ctx eml) := by
  intro h
  have hContent : (decryptAndVerifySmimeFromEmlDetailed latinExternals debugTrust
      latinOuterEml).signedContent = some latinEml := by
    decide +kernel
  have hSmime : smimeEntity latinExternals latinEml = true := by
    decide +kernel
  have hNot := (h latinExternals debugTrust latinOuterEml).notSmime latinEml hContent
  rw [hSmime] at hNot
  cases hNot

end Samples

end Smime
