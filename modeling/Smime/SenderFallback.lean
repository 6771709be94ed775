import Smime.ShownAlike

/-! When the From and Date of the outermost layer stand in for those that an
inner signed layer does not have. -/
namespace Smime

open X690 (Octets tlv)
open X509 Mail Utils

section Signed

variable {env : CmsExternals} {ctx : LayerContext} {eml : Octets} {message : Message}
  {ct : ContentType} {outermostFrom : Option Addr} {outermostDate : Option Instant}

open Except in
theorem clearSignedInput_failsOnly (env : Externals) (target : Target) (message : Message)
    (eml : Octets) : FailsOnly NotSender (clearSignedInput env target message eml) := by
  have hExtract : FailsOnly NotSender (extractSmimeClearSignedContent target message eml) := by
    unfold extractSmimeClearSignedContent
    refine .ite (.error trivial) ?_
    refine (orError_failsOnly trivial _).bind fun sigId => ?_
    refine (FailsOnly.mapError (fun _ => trivial) _).bind fun p7sDer => ?_
    split
    · exact (orError_failsOnly trivial _).bind fun contentId => (orError_failsOnly trivial _).bind
        fun contentPart => (orError_failsOnly trivial _).bind fun content => .ok _
    · exact .error trivial
  have hParse : ∀ der : Octets, FailsOnly NotSender (parseSignedData env der true) := by
    intro der
    refine (FailsOnly.mapError (fun _ => trivial) _).bind fun content => ?_
    cases content with
    | signedData signedData => exact .ok _
    | _ => exact .error trivial
  exact hExtract.bind fun extracted => (hParse extracted.2).bind fun signedData => .ok _

theorem decryptAndVerifyOneLayer_clearSigned (hMessage : env.parseMessage eml = some message)
    (hCt : message.contentType = some ct) (hKind : smimeContentKind ct = .signedMultipart) :
    decryptAndVerifyOneLayer env ctx eml outermostFrom outermostDate =
      if lacksBoundary ct then ({} : SmimeValidationResult).push .missingBoundary
      else verifyClearSigned env.toExternals ctx.target message eml ctx.trust {} := by
  have hOther : smimeContentKind ct ≠ .pkcs7Mime := by
    rw [hKind]
    exact nofun
  simp only [decryptAndVerifyOneLayer, verifySmimeFromEmlDetailed, hMessage, hCt, hKind, ne_eq,
    reduceCtorEq, not_false_eq_true, if_true]

theorem decryptAndVerifyOneLayer_signedData {signedData : SignedData}
    (hMessage : env.parseMessage eml = some message) (hCt : message.contentType = some ct)
    (hKind : smimeContentKind ct = .pkcs7Mime)
    (hContent : pkcs7MimeContent env ctx.target message = .ok (.signedData signedData)) :
    decryptAndVerifyOneLayer env ctx eml outermostFrom outermostDate =
      verifySignedDataLayer env ctx signedData outermostFrom outermostDate
        (layerHeaders env message) := by
  simp only [decryptAndVerifyOneLayer, hMessage, hCt, hKind, hContent, ne_eq, not_true_eq_false,
    if_false, processContent]

/-- A multipart/signed layer misses its From exactly where its SignedData is read. -/
theorem clearSigned_missingFrom_iff (hMessage : env.parseMessage eml = some message)
    (hCt : message.contentType = some ct) (hKind : smimeContentKind ct = .signedMultipart)
    (hNone : message.fromAddr = none) :
    .missingFrom ∈
        (decryptAndVerifyOneLayer env ctx eml outermostFrom outermostDate).failures ↔
      ReadsClearSigned env ctx eml message := by
  rw [decryptAndVerifyOneLayer_clearSigned hMessage hCt hKind]
  by_cases hBoundary : lacksBoundary ct = true
  · rw [if_pos hBoundary]
    simp [SmimeValidationResult.push, ReadsClearSigned, hCt, hBoundary]
  · rw [if_neg hBoundary]
    have hRead : ReadsClearSigned env ctx eml message ↔
        ∃ (content : Octets) (signedData : SignedData),
          clearSignedInput env.toExternals ctx.target message eml = .ok (content, signedData) ∧
            AsksSender env.toExternals signedData ctx.trust := by
      simp [ReadsClearSigned, AsksSender, hCt, hKind, hBoundary]
    rw [hRead, verifyClearSigned, hNone]
    cases hInput : clearSignedInput env.toExternals ctx.target message eml with
    | error e =>
        have hOther : SmimeError.missingFrom ≠ e := by
          rintro rfl
          exact clearSignedInput_failsOnly _ _ _ _ _ hInput
        simp [SmimeValidationResult.push, hOther]
    | ok input =>
        obtain ⟨content, signedData⟩ := input
        dsimp only
        rw [verifySignedData_missingFrom_iff]
        simp

/-- Where it is not read, the sender and date make no difference. -/
theorem clearSigned_congr {other : Message} {repeated : Octets} {otherFrom : Option Addr}
    {otherDate : Option Instant}
    (hMessage : env.parseMessage eml = some message) (hCt : message.contentType = some ct)
    (hKind : smimeContentKind ct = .signedMultipart)
    (hOther : env.parseMessage repeated = some other) (hOtherCt : other.contentType = some ct)
    (hInput : clearSignedInput env.toExternals ctx.target other repeated =
      clearSignedInput env.toExternals ctx.target message eml)
    (hNot : ¬ ReadsClearSigned env ctx eml message) :
    decryptAndVerifyOneLayer env ctx repeated otherFrom otherDate =
      decryptAndVerifyOneLayer env ctx eml outermostFrom outermostDate := by
  rw [decryptAndVerifyOneLayer_clearSigned hOther hOtherCt hKind,
    decryptAndVerifyOneLayer_clearSigned hMessage hCt hKind]
  by_cases hBoundary : lacksBoundary ct = true
  · rw [if_pos hBoundary, if_pos hBoundary]
  · rw [if_neg hBoundary, if_neg hBoundary, verifyClearSigned, verifyClearSigned, hInput]
    cases hRead : clearSignedInput env.toExternals ctx.target message eml with
    | error e => rfl
    | ok input =>
        obtain ⟨content, signedData⟩ := input
        have hNotAsks : ¬ AsksSender env.toExternals signedData ctx.trust := by
          intro hAsks
          apply hNot
          exact ⟨⟨ct, hCt, hKind, by simpa using hBoundary⟩, content, signedData, hRead, hAsks⟩
        let start : SmimeValidationResult := { signingSystem := .multipartSignedSmime }
        have hFrame := fun sender date => verifySignedData_of_not_asks signedData
          (.detached content) ctx.trust sender none date none start start hNotAsks
        exact (hFrame _ _).trans (hFrame _ _).symm

end Signed

section Fallback

variable (env : CmsExternals) (ctx : LayerContext)

/-- The layer is encrypted or an opaque SignedData. -/
def EncryptedOrOpaque (eml : Octets) : Prop :=
  ∃ content : Content, layerContent env ctx eml = some content ∧
    ((contentEncryption env content).isSome ∨
      ∃ signedData : SignedData, content = .signedData signedData)

/-- The message is an opaque SignedData. -/
def IsOpaque (message : Message) (signedData : SignedData) : Prop :=
  ∃ ct : ContentType, message.contentType = some ct ∧ smimeContentKind ct = .pkcs7Mime ∧
    pkcs7MimeContent env ctx.target message = .ok (.signedData signedData)

/-- The message is a multipart/signed one or an opaque SignedData. -/
def IsSigned (message : Message) : Prop :=
  (∃ ct : ContentType, message.contentType = some ct ∧ smimeContentKind ct = .signedMultipart) ∨
    ∃ signedData : SignedData, IsOpaque env ctx message signedData

/-- The layer at `depth` is a signed message without a From header, inside
encrypted or opaque layers of the message `outer`, which has one. -/
structure InnerWithoutFrom (eml : Octets) (outer : Message) (depth : Nat) (state : LayerState)
    (message : Message) : Prop where
  outermost : env.parseMessage eml = some outer
  hasFrom : (outer.fromAddr.bind Addr.address).isSome
  inner : depth ≠ 0
  reached : (layerStates env ctx maxDecryptDepth 0 { currentEml := eml })[depth]? = some state
  outside : ∀ layer ∈ (layerStates env ctx maxDecryptDepth 0 { currentEml := eml }).take depth,
    EncryptedOrOpaque env ctx layer.currentEml
  parsed : env.parseMessage state.currentEml = some message
  signed : IsSigned env ctx message
  noFrom : message.fromAddr = none

/-- `repeated` is the message of the layer again, with the From of the outermost
message in its header, and the Date of it where the layer has none. -/
structure RepeatsHeaders (outer : Message) (state : LayerState) (message : Message)
    (repeated : Octets) (other : Message) : Prop where
  parsed : env.parseMessage repeated = some other
  fromAddr : other.fromAddr = outer.fromAddr
  date : (layerHeaders env other).date =
    ((layerHeaders env message).date <|> (layerHeaders env outer).date)
  contentType : other.contentType = message.contentType
  cms : pkcs7MimeContent env ctx.target other = pkcs7MimeContent env ctx.target message
  clearSigned : clearSignedInput env.toExternals ctx.target other repeated =
    clearSignedInput env.toExternals ctx.target message state.currentEml

/-- The outermost From and Date stand in for those of the layer: it does not
miss a From, and the result is as if its header repeated them. -/
structure BacksUp (eml : Octets) (outer : Message) (depth : Nat) (state : LayerState)
    (message : Message) : Prop where
  verified : .missingFrom ∉ (state.process env ctx).failures
  ends : nestedEml env (state.process env ctx) = none →
    .missingFrom ∉ (decryptAndVerifySmimeFromEmlDetailed env ctx eml).failures
  same : ∀ (repeated : Octets) (other : Message),
    RepeatsHeaders env ctx outer state message repeated other →
      layerLoop env ctx (maxDecryptDepth - depth) depth { state with currentEml := repeated } =
        decryptAndVerifySmimeFromEmlDetailed env ctx eml

variable {env ctx} {eml : Octets} {depth : Nat} {state : LayerState} {outer message : Message}

/-- What an opaque layer shows is its content, whoever signed it. -/
theorem nestedEml_opaque_iff {signedData : SignedData} (hMessage : env.parseMessage eml = some message)
    (hOpaque : IsOpaque env ctx message signedData) {outermostFrom : Option Addr}
    {outermostDate : Option Instant} :
    nestedEml env (decryptAndVerifyOneLayer env ctx eml outermostFrom outermostDate) = none ↔
      EndsLoop env signedData := by
  obtain ⟨ct, hCt, hKind, hContent⟩ := hOpaque
  rw [decryptAndVerifyOneLayer_signedData hMessage hCt hKind hContent, Option.eq_none_iff_forall_ne_some]
  unfold verifySignedDataLayer
  cases hTarget : SignedTarget.ofEcontent signedData with
  | error e =>
      dsimp only
      refine iff_of_true (fun eml hNested => ?_) fun content hData => ?_
      · cases (nestedEml_some_iff.mp hNested).1
      · rw [SignedTarget.ofEcontent, hData] at hTarget
        cases hTarget
  | ok target =>
      obtain ⟨content, hData, rfl⟩ := ofEcontent_ok hTarget
      dsimp only
      constructor
      · intro hLast other hOther hNested
        refine hLast other (nestedEml_some_iff.mpr ⟨?_, hNested⟩)
        obtain rfl : content = other := by simpa using hData.symm.trans hOther
        exact verifySignedData_econtent_content hTarget _ _ _
      · intro hEnds other hNested
        obtain ⟨hShown, hSmime⟩ := nestedEml_some_iff.mp hNested
        rw [verifySignedData_econtent_content hTarget] at hShown
        exact hEnds other (hData.trans (congrArg _ hShown)) hSmime

/-- A layer that shows its own From header shows some sender. -/
theorem process_fromAddress_isSome {own : String}
    (h : ShowsOwnSender env ctx state.currentEml own) :
    (state.process env ctx).fromAddress.isSome := by
  by_cases hResolves : ∃ address : String, Resolves env ctx state address
  · obtain ⟨address, hAddress⟩ := hResolves
    rw [process_resolved hAddress]
    rfl
  · rcases (process_unresolved (not_exists.mp hResolves)).own own h with hSender | hSender
    all_goals
      rw [hSender]
      rfl

theorem signedLayer_signedData {signedData : SignedData} {layer : SignedLayer}
    (hContent : layerContent env ctx eml = some (.signedData signedData))
    (h : signedLayer env ctx eml none none = some layer) : layer.signedData = signedData := by
  cases hMessage : env.parseMessage eml with
  | none => simp [layerContent, hMessage] at hContent
  | some message =>
      obtain ⟨ct, hCt, hKind, hRead⟩ := readsCms_of_layerContent hMessage hContent
      obtain ⟨hSigned, -⟩ := @opaqueLayer_cases env ctx eml none none message ct hMessage hCt hKind
      rw [hSigned, opaqueLayer, hRead] at h
      dsimp only at h
      rw [Option.map_eq_some_iff] at h
      obtain ⟨target, -, rfl⟩ := h
      rfl

namespace InnerWithoutFrom

theorem outermost_content (h : InnerWithoutFrom env ctx eml outer depth state message) :
    ∃ content : Content, layerContent env ctx eml = some content := by
  have hFirst : ({ currentEml := eml } : LayerState) ∈
      (layerStates env ctx maxDecryptDepth 0 { currentEml := eml }).take depth := by
    obtain ⟨position, hPosition⟩ := Nat.exists_eq_succ_of_ne_zero h.inner
    rw [hPosition, maxDecryptDepth, layerStates, List.take_succ_cons]
    exact List.mem_cons_self
  obtain ⟨content, hContent, -⟩ := h.outside _ hFirst
  exact ⟨content, hContent⟩

theorem carriesHeaders {carried : SmimeValidationResult}
    (h : InnerWithoutFrom env ctx eml outer depth state message)
    (hLeft : LeftHeaders env ctx eml outer carried) : CarriesHeaders carried state := by
  obtain ⟨position, hPosition⟩ := Nat.exists_eq_succ_of_ne_zero h.inner
  have hReached := h.reached
  rw [hPosition] at hReached
  have hMem : state ∈ innerStates env ctx eml := by
    rw [innerStates, List.mem_iff_getElem?]
    exact ⟨position, by rw [List.getElem?_tail]; exact hReached⟩
  obtain ⟨content, hContent⟩ := h.outermost_content
  obtain ⟨hFrom, hComment, hDate⟩ := hLeft.process_eq h.outermost h.hasFrom hContent
  obtain ⟨hStateFrom, hStateComment, hStateDate⟩ := innerStates_carriesHeaders env ctx eml hMem
  exact ⟨hStateFrom.trans hFrom, hStateComment.trans hComment, hStateDate.trans hDate⟩

/-- The outermost layer shows a sender. -/
theorem outerFrom (h : InnerWithoutFrom env ctx eml outer depth state message) :
    state.outerFromAddress.isSome := by
  obtain ⟨own, hOwn⟩ := Option.isSome_iff_exists.mp h.hasFrom
  obtain ⟨content, hContent⟩ := h.outermost_content
  obtain ⟨ct, hCt, hKind, hRead⟩ := readsCms_of_layerContent h.outermost hContent
  obtain ⟨carried, hLeft⟩ := @exists_leftHeaders env ctx eml outer
  rw [(h.carriesHeaders hLeft).fromAddress,
    ← (hLeft.process_eq h.outermost h.hasFrom hContent).fromAddress]
  exact process_fromAddress_isSome
    ⟨outer, h.outermost, hOwn, .inl ⟨h.outermost, ⟨ct, hCt, hKind⟩, content, hRead⟩⟩

theorem layerLoop_eq (h : InnerWithoutFrom env ctx eml outer depth state message) :
    layerLoop env ctx (maxDecryptDepth - depth) depth state =
      decryptAndVerifySmimeFromEmlDetailed env ctx eml := by
  have hAt := layerLoop_at maxDecryptDepth 0 { currentEml := eml } h.reached
  rw [Nat.zero_add] at hAt
  exact hAt

theorem remaining_eq (h : InnerWithoutFrom env ctx eml outer depth state message) :
    ∃ remaining : Nat, maxDecryptDepth - depth = remaining + 1 := by
  have hBound := (List.getElem?_eq_some_iff.mp h.reached).1
  have hLength := @layerStates_length_le env ctx maxDecryptDepth 0 { currentEml := eml }
  exact ⟨maxDecryptDepth - depth - 1, by omega⟩

/-- The layer misses a From exactly when it is a multipart/signed one that is read. -/
theorem missingFrom_iff (h : InnerWithoutFrom env ctx eml outer depth state message) :
    .missingFrom ∈ (state.process env ctx).failures ↔
      ReadsClearSigned env ctx state.currentEml message := by
  rcases h.signed with ⟨ct, hCt, hKind⟩ | ⟨signedData, ct, hCt, hKind, hContent⟩
  · exact clearSigned_missingFrom_iff h.parsed hCt hKind h.noFrom
  · obtain ⟨address, hAddress⟩ := Option.isSome_iff_exists.mp h.outerFrom
    have hNot : ¬ ReadsClearSigned env ctx state.currentEml message := by
      rintro ⟨⟨other, hOther, hSigned, -⟩, -⟩
      rw [hCt, Option.some.injEq] at hOther
      rw [← hOther, hKind] at hSigned
      cases hSigned
    rw [iff_false_right hNot, LayerState.process,
      decryptAndVerifyOneLayer_signedData h.parsed hCt hKind hContent, verifySignedDataLayer]
    cases hTarget : SignedTarget.ofEcontent signedData with
    | error e =>
        unfold SignedTarget.ofEcontent at hTarget
        split at hTarget
        · cases hTarget
        · cases hTarget
          simp [layerHeaders, SmimeValidationResult.push]
    | ok target =>
        dsimp only
        rw [verifySignedData_missingFrom_iff]
        simp [layerHeaders, h.noFrom, addrOf, hAddress]

/-- An opaque layer gives the same with the outermost headers in its own exactly
when the carried ones are shown alike. -/
theorem same_opaque_iff {signedData : SignedData} {carried : SmimeValidationResult}
    {repeated : Octets} {other : Message}
    (h : InnerWithoutFrom env ctx eml outer depth state message)
    (hOpaque : IsOpaque env ctx message signedData) (hLeft : LeftHeaders env ctx eml outer carried)
    (hRepeats : RepeatsHeaders env ctx outer state message repeated other) :
    layerLoop env ctx (maxDecryptDepth - depth) depth { state with currentEml := repeated } =
        decryptAndVerifySmimeFromEmlDetailed env ctx eml ↔
      ShowsAlike env ctx signedData (layerHeaders env message).date (layerHeaders env outer)
        carried := by
  have hCarries := h.carriesHeaders hLeft
  have hCarried : carried.fromAddress.isSome := by
    rw [← hCarries.fromAddress]
    exact h.outerFrom
  have hTwins := @verifySignedDataLayer_twins env ctx (layerHeaders env outer) carried
    (layerHeaders env message) state signedData hCarries hCarried h.hasFrom
    (by simp [layerHeaders, h.noFrom]) (by simp [layerHeaders, h.noFrom])
  have hEnds := @nestedEml_opaque_iff env ctx state.currentEml message signedData h.parsed hOpaque
    (addrOf state.outerFromAddress state.outerFromComment) state.outerDate
  obtain ⟨ct, hCt, hKind, hContent⟩ := hOpaque
  have hHeaders : layerHeaders env other =
      (layerHeaders env outer).backedBy (layerHeaders env message) := by
    rw [SmimeValidationResult.backedBy, ← hRepeats.date]
    simp [layerHeaders, hRepeats.fromAddr, h.noFrom]
  have hProcess : state.process env ctx = verifySignedDataLayer env ctx signedData
      (addrOf carried.fromAddress carried.fromComment) carried.date (layerHeaders env message) := by
    rw [LayerState.process, decryptAndVerifyOneLayer_signedData h.parsed hCt hKind hContent,
      hCarries.fromAddress, hCarries.fromComment, hCarries.date]
  have hTwin : LayerState.process env ctx { state with currentEml := repeated } =
      verifySignedDataLayer env ctx signedData
        (addrOf carried.fromAddress carried.fromComment) carried.date
        ((layerHeaders env outer).backedBy (layerHeaders env message)) := by
    rw [LayerState.process, decryptAndVerifyOneLayer_signedData hRepeats.parsed
      (hRepeats.contentType.trans hCt) hKind (hRepeats.cms.trans hContent), hHeaders,
      hCarries.fromAddress, hCarries.fromComment, hCarries.date]
  dsimp only at hTwins
  rw [← hProcess, ← hTwin] at hTwins
  obtain ⟨remaining, hRemaining⟩ := h.remaining_eq
  rw [← h.layerLoop_eq, hRemaining, layerLoop_repeated_iff h.inner hTwins.reheaded,
    hTwins.signers, hTwins.headers]
  rw [← LayerState.process] at hEnds
  rw [hEnds]
  constructor
  · rintro ⟨hNotes, hSender⟩
    exact ⟨hNotes, hSender⟩
  · rintro ⟨hNotes, hSender⟩
    exact ⟨hNotes, hSender⟩

/-- A multipart/signed layer that is not read gives the same. -/
theorem same_clearSigned (h : InnerWithoutFrom env ctx eml outer depth state message)
    {ct : ContentType} (hCt : message.contentType = some ct)
    (hKind : smimeContentKind ct = .signedMultipart)
    (hNot : ¬ ReadsClearSigned env ctx state.currentEml message) {repeated : Octets}
    {other : Message} (hRepeats : RepeatsHeaders env ctx outer state message repeated other) :
    layerLoop env ctx (maxDecryptDepth - depth) depth { state with currentEml := repeated } =
      decryptAndVerifySmimeFromEmlDetailed env ctx eml := by
  have hProcess : LayerState.process env ctx { state with currentEml := repeated } =
      state.process env ctx :=
    clearSigned_congr h.parsed hCt hKind hRepeats.parsed (hRepeats.contentType.trans hCt)
      hRepeats.clearSigned hNot
  obtain ⟨remaining, hRemaining⟩ := h.remaining_eq
  rw [← h.layerLoop_eq, hRemaining]
  refine (layerLoop_repeated_iff h.inner ?_).mpr ?_
  · rw [hProcess]
    rfl
  · rw [hProcess]
    exact ⟨rfl, fun _ => .refl _⟩

theorem ends_of_verified (h : InnerWithoutFrom env ctx eml outer depth state message)
    (hVerified : .missingFrom ∉ (state.process env ctx).failures)
    (hLast : nestedEml env (state.process env ctx) = none) :
    .missingFrom ∉ (decryptAndVerifySmimeFromEmlDetailed env ctx eml).failures := by
  rw [(decryptAndVerify_closing env ctx eml).1,
    closingState_of_mem maxDecryptDepth 0 _ (List.mem_of_getElem? h.reached) hLast]
  exact hVerified

end InnerWithoutFrom

/-- The outermost From and Date back an inner layer up unless it is a
multipart/signed message that is read, or an opaque one for which the headers
that the outermost layer leaves do something else. Those of an encrypted layer
never do. -/
theorem backsUp_iff (env : CmsExternals) (ctx : LayerContext) (eml : Octets) (outer : Message)
    (depth : Nat) (state : LayerState) (message : Message)
    (hInner : InnerWithoutFrom env ctx eml outer depth state message) (repeated : Octets)
    (other : Message) (hRepeats : RepeatsHeaders env ctx outer state message repeated other) :
    (BacksUp env ctx eml outer depth state message ↔
      ¬ ReadsClearSigned env ctx state.currentEml message ∧
        ∀ (signedData : SignedData) (carried : SmimeValidationResult),
          IsOpaque env ctx message signedData → LeftHeaders env ctx eml outer carried →
            ShowsAlike env ctx signedData (layerHeaders env message).date
              (layerHeaders env outer) carried) ∧
      ((layerEncryption env ctx eml).isSome →
        (BacksUp env ctx eml outer depth state message ↔
          ¬ ReadsClearSigned env ctx state.currentEml message)) := by
  have hExact : BacksUp env ctx eml outer depth state message ↔
      ¬ ReadsClearSigned env ctx state.currentEml message ∧
        ∀ (signedData : SignedData) (carried : SmimeValidationResult),
          IsOpaque env ctx message signedData → LeftHeaders env ctx eml outer carried →
            ShowsAlike env ctx signedData (layerHeaders env message).date
              (layerHeaders env outer) carried := by
    rw [← hInner.missingFrom_iff]
    constructor
    · intro h
      refine ⟨h.verified, fun signedData carried hOpaque hLeft => ?_⟩
      exact (hInner.same_opaque_iff hOpaque hLeft hRepeats).mp (h.same repeated other hRepeats)
    · rintro ⟨hVerified, hAlike⟩
      refine ⟨hVerified, hInner.ends_of_verified hVerified, fun again message' hAgain => ?_⟩
      rcases hInner.signed with ⟨ct, hCt, hKind⟩ | ⟨signedData, hOpaque⟩
      · rw [hInner.missingFrom_iff] at hVerified
        exact hInner.same_clearSigned hCt hKind hVerified hAgain
      · obtain ⟨carried, hLeft⟩ := @exists_leftHeaders env ctx eml outer
        exact (hInner.same_opaque_iff hOpaque hLeft hAgain).mpr
          (hAlike signedData carried hOpaque hLeft)
  refine ⟨hExact, fun hEncrypted => hExact.trans (and_iff_left ?_)⟩
  intro signedData carried _ hLeft
  rw [hLeft.of_encrypted hInner.outermost hEncrypted]
  exact showsAlike_self _ _ _

/-- Without a signer that certifies the From of its content, an opaque outermost
layer leaves headers that do the same for a SignedData with content. -/
theorem showsAlike_of_unresolved {signedData : SignedData} {carried : SmimeValidationResult}
    {content : Octets} (hStay : ALabelsStay env.toExternals) (hLeft : LeftHeaders env ctx eml outer carried)
    (hUnresolved : ∀ layer : SignedLayer, signedLayer env ctx eml none none = some layer →
      ¬ layer.IsResolved env ctx)
    (hContent : signedData.content = .data (some content)) (own : Option Instant) :
    ShowsAlike env ctx signedData own (layerHeaders env outer) carried := by
  cases hLeft with
  | own => exact showsAlike_self _ _ _
  | @asked layer hLayer hAsks hNot =>
      obtain ⟨hNotes, hSender⟩ : ShowsAlike env ctx signedData own (layerHeaders env outer)
          (layerHeaders env outer) := showsAlike_self _ _ _
      refine ⟨hNotes, fun hEnds hNone => ?_⟩
      obtain ⟨-, hComment, hDate⟩ := hSender hEnds hNone
      refine ⟨?_, hComment, hDate⟩
      obtain ⟨-, caCerts, hCerts⟩ := hAsks
      have hInner : AsksSender env.toExternals signedData ctx.trust :=
        ⟨by rw [hContent]; exact nofun, caCerts, hCerts⟩
      rw [shownAddress_of_asks hContent hInner, shownAddress_of_asks hContent hInner]
      dsimp only
      rw [Option.map_map]
      congr 1
      funext address
      exact emailDomainToALabel_idem hStay address
  | @named layer verify hLayer hReaches hCertifies =>
      exact absurd ((isResolved_iff hReaches).mpr hCertifies) (hUnresolved layer hLayer)
  | @unnamed layer verify hLayer hReaches hCertifies =>
      exact absurd ((isResolved_iff hReaches).mpr hCertifies) (hUnresolved layer hLayer)

end Fallback

section Samples

/-! Messages without signers, wrapped in an opaque one of anu@naide.ee. The
headers are given by their octets. -/

def fromAnu : Octets := octets 20 0x46726f6d3a20616e75406e616964652e65650d0a

def opaqueHeader : Octets :=
  octets 38 0x436f6e74656e742d547970653a206170706c69636174696f6e2f706b6373372d6d696d650d0a
    ++ octets 37 0x436f6e74656e742d5472616e736665722d456e636f64696e673a206261736536340d0a0d0a

example : fromAnu ++ opaqueHeader = ascii "From: anu@naide.ee\r\n" ++ pkcs7MimeHeader := by
  decide +kernel

def textEml : Octets :=
  octets 33 0x436f6e74656e742d547970653a20746578742f706c61696e0d0a0d0a48656c6c6f

def textMessage : Message := singlePart ⟨"text", some "plain", []⟩ none (textEml.drop 28) textEml

def opaqueEml (content : Octets) : Octets :=
  opaqueHeader ++ base64 (unsignedDer 1 content) ++ crlf

def detachedDer : Octets :=
  let signedData := tlv [0x02] [1] ++ tlv [0x31] [] ++ tlv [0x30] dataOidDer ++ tlv [0x31] []
  tlv [0x30] (signedDataOidDer ++ tlv [0xA0] (tlv [0x30] signedData))

/-- Up to the first body part; the boundary is SEP. -/
def multipartHeader : Octets :=
  octets 38 0x436f6e74656e742d547970653a206d756c7469706172742f7369676e65643b2070726f746f63
    ++ octets 38 0x6f6c3d226170706c69636174696f6e2f706b6373372d7369676e6174757265223b20626f756e
    ++ octets 21 0x646172793d22534550220d0a0d0a2d2d5345500d0a

def signatureHeader : Octets :=
  octets 38 0x436f6e74656e742d547970653a206170706c69636174696f6e2f706b6373372d7369676e6174
    ++ octets 38 0x7572650d0a436f6e74656e742d5472616e736665722d456e636f64696e673a20626173653634
    ++ octets 4 0x0d0a0d0a

/-- A text and its signature. -/
def multipartEml : Octets :=
  multipartHeader ++ textEml ++ octets 9 0x0d0a2d2d5345500d0a ++ signatureHeader
    ++ base64 detachedDer ++ octets 11 0x0d0a2d2d5345502d2d0d0a

def multipartMessage : Message where
  parts :=
    [⟨⟨some ⟨"multipart", some "signed",
        [("protocol", "application/pkcs7-signature"), ("boundary", "SEP")]⟩, [], 0, 282⟩,
      .multipart [1, 2]⟩,
     ⟨⟨some ⟨"text", some "plain", []⟩, textEml.drop 28, 97, 130⟩, .leaf⟩,
     ⟨⟨some ⟨"application", some "pkcs7-signature", []⟩, detachedDer, 139, 271⟩, .leaf⟩]
  fromAddr := none
  date := none

def anu : Option Addr := some ⟨none, some "anu@naide.ee"⟩

def opaqueMessage (sender : Option Addr) (content eml : Octets) : Message :=
  singlePart pkcs7MimeType sender (unsignedDer 1 content) eml

@[simp] theorem opaqueMessage_fromAddr (sender : Option Addr) (content eml : Octets) :
    (opaqueMessage sender content eml).fromAddr = sender := rfl

@[simp] theorem opaqueMessage_date (sender : Option Addr) (content eml : Octets) :
    (opaqueMessage sender content eml).date = none := rfl

@[simp] theorem opaqueMessage_contentType (sender : Option Addr) (content eml : Octets) :
    (opaqueMessage sender content eml).contentType = some pkcs7MimeType := rfl

def wrappedMessage (inner : Octets) (message : Message) (eml : Octets) : Option Message :=
  if eml = fromAnu ++ opaqueEml inner then
    some (singlePart pkcs7MimeType (some ⟨none, some "anu@naide.ee"⟩) (unsignedDer 1 inner) eml)
  else if eml = inner then some message
  else if eml = textEml then some textMessage
  else none

def wrappedContentInfo (inner der : Octets) : Except String Content :=
  if der = unsignedDer 1 inner then .ok (.signedData (unsignedData 1 inner))
  else if der = unsignedDer 1 textEml then .ok (.signedData (unsignedData 1 textEml))
  else if der = detachedDer then .ok (.signedData ⟨1, .data none, none, none, []⟩)
  else unanswered

def wrapping (inner : Octets) (message : Message) : CmsExternals :=
  cmsExternals (wrappedMessage inner message) (wrappedContentInfo inner)

/-- As `wrapping`, with the message `again` behind the outermost From. -/
def wrappingAgain (inner : Octets) (message again : Message) : CmsExternals :=
  let parseMessage := fun eml : Octets =>
    if eml = fromAnu ++ inner then some again else wrappedMessage inner message eml
  cmsExternals parseMessage (wrappedContentInfo inner)

/-- What a wrapped message without a From is an instance of. -/
theorem innerWithoutFrom_wrapping {env : CmsExternals} {inner : Octets} {message : Message}
    {state : LayerState}
    (hOuter : env.parseMessage (fromAnu ++ opaqueEml inner) =
      some (opaqueMessage anu inner (fromAnu ++ opaqueEml inner)))
    (hReached : (layerStates env debugTrust maxDecryptDepth 0
      { currentEml := fromAnu ++ opaqueEml inner })[1]? = some state)
    (hOutside : layerContent env debugTrust (fromAnu ++ opaqueEml inner) =
      some (.signedData (unsignedData 1 inner)))
    (hParsed : env.parseMessage state.currentEml = some message)
    (hSigned : IsSigned env debugTrust message) (hNone : message.fromAddr = none) :
    InnerWithoutFrom env debugTrust (fromAnu ++ opaqueEml inner)
      (opaqueMessage anu inner (fromAnu ++ opaqueEml inner)) 1 state message := by
  refine ⟨hOuter, rfl, Nat.one_ne_zero, hReached, fun layer hMem => ?_, hParsed, hSigned, hNone⟩
  rw [maxDecryptDepth, layerStates, List.take_succ_cons, List.take_zero, List.mem_singleton] at hMem
  rw [hMem]
  exact ⟨_, hOutside, .inr ⟨_, rfl⟩⟩

/-- Opaque messages repeat the header of each other, but for the From. -/
theorem repeatsHeaders_opaque {env : CmsExternals} {content eml outerContent outerEml : Octets}
    {state : LayerState}
    (hParsed : env.parseMessage (fromAnu ++ eml) =
      some (opaqueMessage anu content (fromAnu ++ eml)))
    (hCms : pkcs7MimeContent env debugTrust.target (opaqueMessage anu content (fromAnu ++ eml)) =
      pkcs7MimeContent env debugTrust.target (opaqueMessage none content eml))
    (hClear : clearSignedInput env.toExternals debugTrust.target
        (opaqueMessage anu content (fromAnu ++ eml)) (fromAnu ++ eml) =
      clearSignedInput env.toExternals debugTrust.target (opaqueMessage none content eml)
        state.currentEml) :
    RepeatsHeaders env debugTrust (opaqueMessage anu outerContent outerEml) state
      (opaqueMessage none content eml) (fromAnu ++ eml)
      (opaqueMessage anu content (fromAnu ++ eml)) := by
  refine ⟨hParsed, ?_, ?_, ?_, hCms, hClear⟩
  · rw [opaqueMessage_fromAddr, opaqueMessage_fromAddr]
  · simp [layerHeaders]
  · rw [opaqueMessage_contentType, opaqueMessage_contentType]

/-- An opaque message without signers, to be wrapped in another one. -/
def wrappedEml : Octets := opaqueEml textEml

def wrappingWrapped : CmsExternals :=
  wrappingAgain wrappedEml (opaqueMessage none textEml wrappedEml)
    (opaqueMessage anu textEml (fromAnu ++ wrappedEml))

/-- It is backed up. -/
theorem backsUp_wrapping :
    ∃ state : LayerState, state.currentEml = wrappedEml ∧
      BacksUp wrappingWrapped debugTrust (fromAnu ++ opaqueEml wrappedEml)
        (opaqueMessage anu wrappedEml (fromAnu ++ opaqueEml wrappedEml)) 1 state
        (opaqueMessage none textEml wrappedEml) := by
  have hState : ((layerStates wrappingWrapped debugTrust maxDecryptDepth 0
      { currentEml := fromAnu ++ opaqueEml wrappedEml })[1]?).map LayerState.currentEml =
        some wrappedEml := by
    decide +kernel
  obtain ⟨state, hReached, hEml⟩ := Option.map_eq_some_iff.mp hState
  have hParsed : wrappingWrapped.parseMessage wrappedEml =
      some (opaqueMessage none textEml wrappedEml) := by
    decide +kernel
  have hOutside : layerContent wrappingWrapped debugTrust (fromAnu ++ opaqueEml wrappedEml) =
      some (.signedData (unsignedData 1 wrappedEml)) := by
    decide +kernel
  have hCms : pkcs7MimeContent wrappingWrapped debugTrust.target
      (opaqueMessage none textEml wrappedEml) = .ok (.signedData (unsignedData 1 textEml)) := by
    decide +kernel
  have hOpaque : IsOpaque wrappingWrapped debugTrust (opaqueMessage none textEml wrappedEml)
      (unsignedData 1 textEml) := ⟨pkcs7MimeType, rfl, by decide +kernel, hCms⟩
  have hInner := innerWithoutFrom_wrapping (by decide +kernel) hReached hOutside
    (by rw [hEml]; exact hParsed) (.inr ⟨_, hOpaque⟩) rfl
  have hRepeats : RepeatsHeaders wrappingWrapped debugTrust
      (opaqueMessage anu wrappedEml (fromAnu ++ opaqueEml wrappedEml)) state
      (opaqueMessage none textEml wrappedEml) (fromAnu ++ wrappedEml)
      (opaqueMessage anu textEml (fromAnu ++ wrappedEml)) := by
    apply repeatsHeaders_opaque
    · decide +kernel
    · rw [hCms]
      decide +kernel
    · rw [hEml]
      decide +kernel
  refine ⟨state, hEml, (backsUp_iff _ _ _ _ 1 state _ hInner _ _ hRepeats).1.mpr ⟨?_, ?_⟩⟩
  · rintro ⟨⟨ct, hCt, hKind, -⟩, -⟩
    rw [opaqueMessage_contentType, Option.some.injEq] at hCt
    rw [← hCt] at hKind
    exact absurd hKind (by decide +kernel)
  · rintro signedData carried ⟨-, -, -, hRead⟩ hLeft
    obtain rfl : unsignedData 1 textEml = signedData := by
      rw [hCms, Except.ok.injEq, Content.signedData.injEq] at hRead
      exact hRead
    apply showsAlike_of_unresolved (fun _ _ _ => rfl) hLeft _ rfl
    -- There is no signer that could certify anything.
    rintro layer hLayer ⟨address, verify, -, -, idx, signer, hSigner, -⟩
    rw [signedLayer_signedData hOutside hLayer] at hSigner
    cases hSigner

/-- The multipart/signed message inside misses the From that the outermost
message has. -/
theorem not_backsUp :
    ¬ ∀ (env : CmsExternals) (ctx : LayerContext) (eml : Octets) (outer : Message) (depth : Nat)
        (state : LayerState) (message : Message),
      InnerWithoutFrom env ctx eml outer depth state message →
        BacksUp env ctx eml outer depth state message := by
  intro h
  let env := wrapping multipartEml multipartMessage
  have hRun : ((layerStates env debugTrust maxDecryptDepth 0
      { currentEml := fromAnu ++ opaqueEml multipartEml })[1]?).map (fun state =>
        (state.currentEml, nestedEml env (state.process env debugTrust))) =
        some (multipartEml, none) ∧
      (decryptAndVerifySmimeFromEmlDetailed env debugTrust
        (fromAnu ++ opaqueEml multipartEml)).failures = [.missingFrom] := by
    decide +kernel
  obtain ⟨hState, hFailures⟩ := hRun
  obtain ⟨state, hReached, hPair⟩ := Option.map_eq_some_iff.mp hState
  obtain ⟨hEml, hLast⟩ := Prod.mk.inj hPair
  have hParsed : env.parseMessage multipartEml = some multipartMessage := by
    decide +kernel
  have hInner := @innerWithoutFrom_wrapping env _ _ _ (by decide +kernel) hReached
    (by decide +kernel) (by rw [hEml]; exact hParsed) (.inl ⟨_, rfl, by decide +kernel⟩) rfl
  apply (h _ _ _ _ 1 state _ hInner).ends hLast
  rw [hFailures]
  exact List.mem_cons_self

end Samples

end Smime
