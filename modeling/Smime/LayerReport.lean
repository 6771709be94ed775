import Smime.Layers

/-! What the loop of `src/decrypt_verify.rs` computes, without what it carries: the
layers of a message, each of them the content of the one before, and the report
on all of them. -/
namespace Smime

open X690 (Octets)
open X509 Mail Utils

section Specification

variable (env : CmsExternals) (ctx : LayerContext)

/-- The layers of an inner message, at most `bound`, under the From and Date of
the outermost one. -/
def innerLayers (outermostFrom : Option Addr) (outermostDate : Option Instant) :
    (bound : Nat) → Octets → List SmimeValidationResult
  | 0, _ => []
  | bound + 1, eml =>
      let layer := decryptAndVerifyOneLayer env ctx eml outermostFrom outermostDate
      layer ::
        match nestedEml env layer with
        | some content => innerLayers outermostFrom outermostDate bound content
        | none => []

/-- All layers of a message. -/
def layersOf (eml : Octets) : List SmimeValidationResult :=
  let outermost := decryptAndVerifyOneLayer env ctx eml none none
  outermost ::
    match nestedEml env outermost with
    | some content =>
        innerLayers env ctx (addrOf outermost.fromAddress outermost.fromComment) outermost.date
          (maxDecryptDepth - 1) content
    | none => []

/-- The layer that ends the message, or the failure of the nesting limit. -/
def closingResult (layers : List SmimeValidationResult) : SmimeValidationResult :=
  (closingLayer env layers).getD { failures := [nestingFailure] }

/-- The result for a list of layers: that of the last one, with all signers, the
outermost headers for those it does not have, and the first encryption for its own. -/
def reportOf (layers : List SmimeValidationResult) : SmimeValidationResult :=
  let closing := closingResult env layers
  let outermost := layers.head?.getD {}
  { closing with
    signers := layers.flatMap SmimeValidationResult.signers
    encryptionInfo :=
      closing.encryptionInfo <|> layers.findSome? SmimeValidationResult.encryptionInfo
    fromAddress := closing.fromAddress <|> outermost.fromAddress
    fromComment := closing.fromComment <|> outermost.fromComment
    date := closing.date <|> outermost.date }

/-- As `reportOf`, for what is left of a message in the midst of the loop. -/
def LayerState.conclude (state : LayerState) (layers : List SmimeValidationResult) :
    SmimeValidationResult :=
  let closing := closingResult env layers
  { closing with
    signers := state.accumulatedSigners ++ layers.flatMap SmimeValidationResult.signers
    encryptionInfo := closing.encryptionInfo <|>
      (state.outerEncryptionInfo <|> layers.findSome? SmimeValidationResult.encryptionInfo)
    fromAddress := closing.fromAddress <|> state.outerFromAddress
    fromComment := closing.fromComment <|> state.outerFromComment
    date := closing.date <|> state.outerDate }

end Specification

section Refinement

variable {env : CmsExternals} {ctx : LayerContext}

theorem closingResult_nested {layer : SmimeValidationResult} (rest : List SmimeValidationResult)
    (h : (nestedEml env layer).isSome) :
    closingResult env (layer :: rest) = closingResult env rest := by
  rw [closingResult, closingResult, closingLayer_cons_nested h]

theorem closingResult_single {layer : SmimeValidationResult} (h : nestedEml env layer = none) :
    closingResult env [layer] = layer := by
  rw [closingResult, closingLayer_single h]
  rfl

/-- One layer in front of the rest. -/
theorem conclude_cons {state after : LayerState} {layer : SmimeValidationResult}
    {rest : List SmimeValidationResult} (hNested : (nestedEml env layer).isSome)
    (hSigners : after.accumulatedSigners = state.accumulatedSigners ++ layer.signers)
    (hInfo : after.outerEncryptionInfo = (state.outerEncryptionInfo <|> layer.encryptionInfo))
    (hFrom : after.outerFromAddress = state.outerFromAddress)
    (hComment : after.outerFromComment = state.outerFromComment)
    (hDate : after.outerDate = state.outerDate) :
    after.conclude env rest = state.conclude env (layer :: rest) := by
  have hClosing := closingResult_nested rest hNested
  have hFirst : (state.outerEncryptionInfo <|>
        (layer :: rest).findSome? SmimeValidationResult.encryptionInfo) =
      (after.outerEncryptionInfo <|> rest.findSome? SmimeValidationResult.encryptionInfo) := by
    rw [hInfo, List.findSome?_cons]
    cases state.outerEncryptionInfo <;> cases layer.encryptionInfo <;> rfl
  rw [LayerState.conclude, LayerState.conclude, hClosing, hFirst, hSigners, hFrom, hComment, hDate,
    List.flatMap_cons, List.append_assoc]

/-- Inside a message the loop computes the report on the layers that are left. -/
theorem layerLoop_conclude (remaining depth : Nat) (state : LayerState) :
    layerLoop env ctx remaining (depth + 1) state =
      state.conclude env (innerLayers env ctx
        (addrOf state.outerFromAddress state.outerFromComment) state.outerDate remaining
        state.currentEml) := by
  induction remaining generalizing depth state with
  | zero =>
      rw [layerLoop, innerLayers, LayerState.conclude, LayerState.nestingExceeded, closingResult]
      simp [closingLayer, nestingFailure]
  | succ remaining ih =>
      rw [innerLayers]
      cases hNext : nestedEml env (state.process env ctx) with
      | some content =>
          have hSome : (nestedEml env (state.process env ctx)).isSome := by rw [hNext]; rfl
          rw [layerLoop_nested hNext, ih]
          have hLayer : nestedEml env (decryptAndVerifyOneLayer env ctx state.currentEml
              (addrOf state.outerFromAddress state.outerFromComment) state.outerDate) =
                some content := hNext
          rw [hLayer]
          apply conclude_cons hSome
          all_goals simp [LayerState.next, LayerState.remember, LayerState.process]
      | none =>
          have hLayer : nestedEml env (decryptAndVerifyOneLayer env ctx state.currentEml
              (addrOf state.outerFromAddress state.outerFromComment) state.outerDate) = none := hNext
          rw [layerLoop_last hNext, hLayer, LayerState.conclude]
          dsimp only
          rw [closingResult_single hLayer]
          cases hOuter : state.outerEncryptionInfo <;>
            simp [LayerState.finish, LayerState.remember, LayerState.process, hOuter]

/-- From its first state the loop reports on all layers. -/
theorem layerLoop_eq_reportOf (env : CmsExternals) (ctx : LayerContext) (eml : Octets) :
    layerLoop env ctx maxDecryptDepth 0 { currentEml := eml } =
      reportOf env (layersOf env ctx eml) := by
  have hProcess : LayerState.process env ctx { currentEml := eml } =
      decryptAndVerifyOneLayer env ctx eml none none := rfl
  rw [layersOf, maxDecryptDepth]
  cases hNext : nestedEml env (decryptAndVerifyOneLayer env ctx eml none none) with
  | some content =>
      have hSome : (nestedEml env (decryptAndVerifyOneLayer env ctx eml none none)).isSome := by
        rw [hNext]
        rfl
      rw [layerLoop_nested (hProcess ▸ hNext), layerLoop_conclude, LayerState.conclude, reportOf,
        closingResult_nested _ hSome]
      simp only [LayerState.next, LayerState.remember, hProcess, if_true, List.nil_append,
        List.flatMap_cons, List.findSome?_cons, List.head?_cons, Option.getD_some,
        Nat.add_one_sub_one]
      cases (decryptAndVerifyOneLayer env ctx eml none none).encryptionInfo <;> rfl
  | none =>
      rw [layerLoop_last (hProcess ▸ hNext), reportOf, closingResult_single hNext]
      generalize decryptAndVerifyOneLayer env ctx eml none none = outermost at hProcess
      rw [hProcess]
      cases hInfo : outermost.encryptionInfo <;>
        simp [LayerState.finish, LayerState.remember, hInfo]

/-- The loop reports on the layers of the message, whatever it carries. -/
theorem decryptAndVerify_eq_reportOf (env : CmsExternals) (ctx : LayerContext) (eml : Octets) :
    decryptAndVerifySmimeFromEmlDetailed env ctx eml = reportOf env (layersOf env ctx eml) :=
  layerLoop_eq_reportOf env ctx eml

end Refinement

end Smime
