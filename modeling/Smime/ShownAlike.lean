import Smime.CarriedSender
import Smime.InnermostContent

/-! What a layer inside shows with the sender and date that the loop carries to
it, and what it would show with those of another header. -/
namespace Smime

open X690 (Octets)
open X509 Mail Utils

section Loop

variable {env : CmsExternals} {ctx : LayerContext}

/-- A result with the outermost From and Date where it has none of its own. -/
def LayerState.backUp (state : LayerState) (result : SmimeValidationResult) :
    SmimeValidationResult :=
  { result with
    fromAddress := result.fromAddress <|> state.outerFromAddress
    fromComment := result.fromComment <|> state.outerFromComment
    date := result.date <|> state.outerDate }

/-- The signers that the loop has come across stand in front of the others. -/
theorem layerLoop_accumulated (signers : List SignerValidation) (remaining depth : Nat)
    (state : LayerState) :
    layerLoop env ctx remaining depth
        { state with accumulatedSigners := signers ++ state.accumulatedSigners } =
      { layerLoop env ctx remaining depth state with
        signers := signers ++ (layerLoop env ctx remaining depth state).signers } := by
  induction remaining, depth, state using layerLoop_induction env ctx with
  | hLimit depth state => rfl
  | hLast remaining depth state hLast =>
      rw [layerLoop_last hLast, layerLoop_last (by exact hLast)]
      by_cases hDepth : depth = 0
      all_goals simp only [LayerState.finish, LayerState.remember, hDepth, if_true, if_false,
        List.append_assoc]
      all_goals rfl
  | hNested remaining depth state eml hNested ih =>
      have hNext : LayerState.next env ctx depth
          { state with accumulatedSigners := signers ++ state.accumulatedSigners } eml =
            { state.next env ctx depth eml with
              accumulatedSigners :=
                signers ++ (state.next env ctx depth eml).accumulatedSigners } := by
        by_cases hDepth : depth = 0
        all_goals simp only [LayerState.next, LayerState.remember, hDepth, if_true, if_false,
          List.append_assoc]
        all_goals rfl
      rw [layerLoop_nested hNested, layerLoop_nested (by exact hNested), hNext, ih]

theorem layerLoop_signers_inj {remaining depth : Nat} {state : LayerState}
    {signers others : List SignerValidation} :
    layerLoop env ctx remaining depth { state with accumulatedSigners := signers } =
        layerLoop env ctx remaining depth { state with accumulatedSigners := others } ↔
      signers = others := by
  have hFront : ∀ signers : List SignerValidation,
      layerLoop env ctx remaining depth { state with accumulatedSigners := signers } =
        { layerLoop env ctx remaining depth { state with accumulatedSigners := [] } with
          signers := signers ++
            (layerLoop env ctx remaining depth { state with accumulatedSigners := [] }).signers } := by
    intro signers
    have hAll := @layerLoop_accumulated env ctx signers remaining depth
      { state with accumulatedSigners := [] }
    rw [List.append_nil] at hAll
    exact hAll
  constructor
  · intro h
    have hSame := (hFront signers).symm.trans (h.trans (hFront others))
    exact List.append_cancel_right (congrArg SmimeValidationResult.signers hSame)
  · intro h
    rw [h]

/-- Inside, the loop gives the same for results that differ in their headers
exactly when their signers and, at its end, their backed up headers are the same. -/
theorem layerLoop_repeated_iff {remaining depth : Nat} {state : LayerState} {repeated : Octets}
    (hDepth : depth ≠ 0)
    (h : LayerState.process env ctx { state with currentEml := repeated } =
      (state.process env ctx).reheaded
        (LayerState.process env ctx { state with currentEml := repeated })) :
    layerLoop env ctx (remaining + 1) depth { state with currentEml := repeated } =
        layerLoop env ctx (remaining + 1) depth state ↔
      (LayerState.process env ctx { state with currentEml := repeated }).signers =
          (state.process env ctx).signers ∧
        (nestedEml env (state.process env ctx) = none →
          SameHeaders
            (state.backUp (LayerState.process env ctx { state with currentEml := repeated }))
            (state.backUp (state.process env ctx))) := by
  have hSystem := congrArg SmimeValidationResult.signingSystem h
  have hFailures := congrArg SmimeValidationResult.failures h
  have hContent := congrArg SmimeValidationResult.signedContent h
  have hInfo := congrArg SmimeValidationResult.encryptionInfo h
  have hNested : nestedEml env (LayerState.process env ctx { state with currentEml := repeated })
      = nestedEml env (state.process env ctx) := by
    rw [nestedEml, hContent]
    rfl
  cases hNext : nestedEml env (state.process env ctx) with
  | some content =>
      have hRemember : LayerState.next env ctx depth { state with currentEml := repeated } content =
          { state.next env ctx depth content with
            accumulatedSigners := state.accumulatedSigners ++
              (LayerState.process env ctx { state with currentEml := repeated }).signers } := by
        simp only [LayerState.next, LayerState.remember, hDepth, if_false, hInfo]
        rfl
      have hOwn : state.next env ctx depth content =
          { state.next env ctx depth content with
            accumulatedSigners := state.accumulatedSigners ++ (state.process env ctx).signers } := by
        simp only [LayerState.next, LayerState.remember, hDepth, if_false]
      rw [layerLoop_nested hNext, layerLoop_nested (hNested.trans hNext), hRemember, hOwn]
      refine layerLoop_signers_inj.trans ?_
      simp
  | none =>
      rw [layerLoop_last hNext, layerLoop_last (hNested.trans hNext)]
      simp only [LayerState.finish, LayerState.remember, hDepth, if_false, hSystem, hFailures,
        hContent, hInfo, SmimeValidationResult.mk.injEq]
      constructor
      · rintro ⟨-, hSigners, -, -, hFrom, hComment, hDate, -⟩
        exact ⟨List.append_cancel_left hSigners, fun _ => ⟨hFrom, hComment, hDate⟩⟩
      · rintro ⟨hSigners, hHeaders⟩
        obtain ⟨hFrom, hComment, hDate⟩ := hHeaders trivial
        exact ⟨rfl, by rw [hSigners], rfl, rfl, hFrom, hComment, hDate, rfl⟩

theorem layerStates_length_le (remaining depth : Nat) (state : LayerState) :
    (layerStates env ctx remaining depth state).length ≤ remaining := by
  induction remaining, depth, state using layerLoop_induction env ctx with
  | hLimit depth state => exact le_refl _
  | hLast remaining depth state hLast =>
      rw [layerStates_last hLast]
      exact Nat.succ_le_succ (Nat.zero_le _)
  | hNested remaining depth state eml hNested ih =>
      rw [layerStates_nested hNested]
      exact Nat.succ_le_succ ih

/-- The loop comes to each of its states. -/
theorem layerLoop_at (remaining depth : Nat) (state : LayerState) {position : Nat}
    {layer : LayerState}
    (h : (layerStates env ctx remaining depth state)[position]? = some layer) :
    layerLoop env ctx (remaining - position) (depth + position) layer =
      layerLoop env ctx remaining depth state := by
  induction remaining, depth, state using layerLoop_induction env ctx generalizing position with
  | hLimit depth state => cases h
  | hLast remaining depth state hLast =>
      rw [layerStates_last hLast] at h
      cases position with
      | zero =>
          cases h
          rfl
      | succ position => cases h
  | hNested remaining depth state eml hNested ih =>
      rw [layerStates_nested hNested] at h
      cases position with
      | zero =>
          cases h
          rfl
      | succ position =>
          rw [List.getElem?_cons_succ] at h
          rw [layerLoop_nested hNested, ← ih h, Nat.succ_sub_succ, Nat.succ_add_eq_add_succ]

end Loop

section Shown

variable (env : CmsExternals) (ctx : LayerContext)

/-- The form in which an opaque SignedData shows the address it is verified with. -/
def shownAddress (signedData : SignedData) (address : Option String) : Option String :=
  match signedData.content, loadCaCerts env.toExternals ctx.trust.stores ctx.trust.caFilePem with
  | .data (some _), .ok _ => address.map (emailDomainToALabel env.toExternals)
  | _, _ => address

/-- The content of an opaque SignedData is no further message for the loop. -/
def EndsLoop (signedData : SignedData) : Prop :=
  ∀ content : Octets, signedData.content = .data (some content) →
    ¬ (IsUtf8 env content ∧ smimeEntity env content = true)

/-- The carried sender and date are shown as those of `outer` would be, by a
layer whose own date is `own`. -/
structure SameSender (signedData : SignedData) (own : Option Instant)
    (outer carried : SmimeValidationResult) : Prop where
  fromAddress : shownAddress env ctx signedData carried.fromAddress =
    shownAddress env ctx signedData outer.fromAddress
  fromComment : carried.fromComment = (outer.fromComment <|> carried.fromComment)
  date : (own <|> carried.date) = ((own <|> outer.date) <|> carried.date)

/-- For an opaque SignedData the carried headers do what those of `outer` would:
its signers have the same notes and, where the loop ends with it and no signer
certifies a From, the same sender is shown. -/
structure ShowsAlike (signedData : SignedData) (own : Option Instant)
    (outer carried : SmimeValidationResult) : Prop where
  notes : ∀ target : SignedTarget, SignedTarget.ofEcontent signedData = .ok target →
    NotesKept env.toExternals signedData target ctx.trust (own <|> carried.date)
      ((own <|> outer.date) <|> carried.date)
  sender : EndsLoop env signedData →
    (∀ target : SignedTarget, SignedTarget.ofEcontent signedData = .ok target →
      ¬ IsResolved env.toExternals signedData target ctx.trust (own <|> carried.date)) →
      SameSender env ctx signedData own outer carried

variable {env ctx} {signedData : SignedData} {own : Option Instant}
  {outer carried headers : SmimeValidationResult} {state : LayerState}

/-- The headers with those of `outer` where they have none. -/
def SmimeValidationResult.backedBy (outer headers : SmimeValidationResult) :
    SmimeValidationResult :=
  { headers with
    fromAddress := headers.fromAddress <|> outer.fromAddress
    fromComment := headers.fromComment <|> outer.fromComment
    date := headers.date <|> outer.date }

theorem notesKept_self {env : Externals} {target : SignedTarget} {trust : TrustConfig}
    (date : Option Instant) : NotesKept env signedData target trust date date := by
  intro verify hVerify idx signer _
  rw [← reaches_outerDate hVerify]
  exact ⟨fun _ _ => rfl, fun _ _ => rfl⟩

/-- The outermost headers themselves do what they would. -/
theorem showsAlike_self (signedData : SignedData) (own : Option Instant)
    (outer : SmimeValidationResult) : ShowsAlike env ctx signedData own outer outer := by
  have hTwice : ∀ {α : Type} (first second : Option α),
      (first <|> second) = ((first <|> second) <|> second) := by
    intro α first second
    cases first <;> cases second <;> rfl
  refine ⟨fun target _ => ?_, fun _ _ => ⟨rfl, hTwice none outer.fromComment, hTwice own outer.date⟩⟩
  rw [← hTwice own outer.date]
  exact notesKept_self _

/-- Two results with the headers as they are given, one by the layer and the
other by `outer`, are alike when backed up if these are shown alike. -/
theorem sameHeaders_backUp_iff {result twin : SmimeValidationResult}
    (hCarries : CarriesHeaders carried state) {shown twinShown : Option String}
    (hAddress : (shown <|> carried.fromAddress) = shownAddress env ctx signedData carried.fromAddress)
    (hTwinAddress : (twinShown <|> carried.fromAddress) =
      shownAddress env ctx signedData outer.fromAddress)
    {comment : Option String} (hComment : (comment <|> carried.fromComment) = carried.fromComment)
    {date twinDate : Option Instant} (hDate : (date <|> carried.date) = (own <|> carried.date))
    (hTwinDate : (twinDate <|> carried.date) = ((own <|> outer.date) <|> carried.date))
    (hResult : SameHeaders result { fromAddress := shown, fromComment := comment, date })
    (hTwin : SameHeaders twin
      { fromAddress := twinShown, fromComment := outer.fromComment, date := twinDate }) :
    SameHeaders (state.backUp twin) (state.backUp result) ↔
      SameSender env ctx signedData own outer carried := by
  have hBacked : state.backUp result =
      { result with
        fromAddress := shownAddress env ctx signedData carried.fromAddress
        fromComment := carried.fromComment
        date := own <|> carried.date } := by
    rw [LayerState.backUp, hResult.fromAddress, hResult.fromComment, hResult.date,
      hCarries.fromAddress, hCarries.fromComment, hCarries.date]
    dsimp only
    rw [hAddress, hComment, hDate]
  have hTwinBacked : state.backUp twin =
      { twin with
        fromAddress := shownAddress env ctx signedData outer.fromAddress
        fromComment := outer.fromComment <|> carried.fromComment
        date := (own <|> outer.date) <|> carried.date } := by
    rw [LayerState.backUp, hTwin.fromAddress, hTwin.fromComment, hTwin.date,
      hCarries.fromAddress, hCarries.fromComment, hCarries.date]
    dsimp only
    rw [hTwinAddress, hTwinDate]
  rw [hBacked, hTwinBacked]
  constructor
  · rintro ⟨hFrom, hName, hTime⟩
    exact ⟨hFrom.symm, hName.symm, hTime.symm⟩
  · rintro ⟨hFrom, hName, hTime⟩
    exact ⟨hFrom.symm, hName.symm, hTime.symm⟩

theorem orElse_twice {α : Type} (first second : Option α) :
    ((first <|> second) <|> second) = (first <|> second) := by
  cases first <;> cases second <;> rfl

theorem shownAddress_of_not_asks {content : Octets} {address : Option String}
    (hContent : signedData.content = .data (some content))
    (hNot : ¬ AsksSender env.toExternals signedData ctx.trust) :
    shownAddress env ctx signedData address = address := by
  unfold shownAddress
  cases hCerts : loadCaCerts env.toExternals ctx.trust.stores ctx.trust.caFilePem with
  | error e => rw [hContent]
  | ok caCerts =>
      refine absurd ⟨?_, caCerts, hCerts⟩ hNot
      rw [hContent]
      exact nofun

theorem shownAddress_of_asks {content : Octets} {address : Option String}
    (hContent : signedData.content = .data (some content))
    (hAsks : AsksSender env.toExternals signedData ctx.trust) :
    shownAddress env ctx signedData address =
      address.map (emailDomainToALabel env.toExternals) := by
  obtain ⟨-, caCerts, hCerts⟩ := hAsks
  rw [shownAddress, hContent, hCerts]

theorem ofEcontent_ok {target : SignedTarget} (h : SignedTarget.ofEcontent signedData = .ok target) :
    ∃ content : Octets, signedData.content = .data (some content) ∧ target = .econtent content := by
  unfold SignedTarget.ofEcontent at h
  split at h
  next content hContent =>
    cases h
    exact ⟨content, hContent, rfl⟩
  next => cases h

/-- What a layer without a From shows, and what it does with the headers of `outer`. -/
structure LayerTwins (env : CmsExternals) (ctx : LayerContext) (signedData : SignedData)
    (own : Option Instant) (outer carried : SmimeValidationResult) (state : LayerState)
    (result twin : SmimeValidationResult) : Prop where
  reheaded : twin = result.reheaded twin
  signers : twin.signers = result.signers ↔
    ∀ target : SignedTarget, SignedTarget.ofEcontent signedData = .ok target →
      NotesKept env.toExternals signedData target ctx.trust (own <|> carried.date)
        ((own <|> outer.date) <|> carried.date)
  headers : SameHeaders (state.backUp twin) (state.backUp result) ↔
    ((∀ target : SignedTarget, SignedTarget.ofEcontent signedData = .ok target →
      ¬ IsResolved env.toExternals signedData target ctx.trust (own <|> carried.date)) →
      SameSender env ctx signedData own outer carried)

theorem backedBy_eq (hFrom : headers.fromAddress = none) (hComment : headers.fromComment = none) :
    outer.backedBy headers =
      { headers with
        fromAddress := outer.fromAddress
        fromComment := outer.fromComment
        date := headers.date <|> outer.date } := by
  rw [SmimeValidationResult.backedBy, hFrom, hComment]
  rfl

/-- A layer that does not come to its sender leaves the headers as they are. -/
theorem layerTwins_kept (rest : SmimeValidationResult) (hCarries : CarriesHeaders carried state)
    (hOuter : outer.fromAddress.isSome) (hFrom : headers.fromAddress = none)
    (hComment : headers.fromComment = none)
    (hShown : ∀ address : Option String, shownAddress env ctx signedData address = address)
    (hNone : ∀ (target : SignedTarget) (date : Option Instant)
      (verify : VerifyContext env.toExternals), SignedTarget.ofEcontent signedData = .ok target →
        ¬ Reaches signedData target ctx.trust.stores ctx.trust.caFilePem date verify) :
    LayerTwins env ctx signedData headers.date outer carried state (headers.withHeaders rest)
      ((outer.backedBy headers).withHeaders rest) := by
  obtain ⟨address, hAddress⟩ := Option.isSome_iff_exists.mp hOuter
  rw [backedBy_eq hFrom hComment]
  refine ⟨rfl, iff_of_true rfl fun target hTarget verify hVerify => ?_, ?_⟩
  · exact absurd hVerify (hNone target _ verify hTarget)
  · have hUnresolved : ∀ target : SignedTarget, SignedTarget.ofEcontent signedData = .ok target →
        ¬ IsResolved env.toExternals signedData target ctx.trust (headers.date <|> carried.date) := by
      rintro target hTarget ⟨_, verify, hVerify, -⟩
      exact hNone target _ verify hTarget hVerify
    have hOwnShown : (none <|> carried.fromAddress) =
        shownAddress env ctx signedData carried.fromAddress := (hShown _).symm
    have hOuterShown : (outer.fromAddress <|> carried.fromAddress) =
        shownAddress env ctx signedData outer.fromAddress := by
      rw [hShown, hAddress]
      rfl
    have hName : (none <|> carried.fromComment) = carried.fromComment := rfl
    rw [imp_iff_right hUnresolved]
    exact sameHeaders_backUp_iff hCarries hOwnShown hOuterShown hName rfl rfl
      ⟨hFrom, hComment, rfl⟩ ⟨rfl, rfl, rfl⟩

/-- One that does puts the sender it is given into the result. -/
theorem layerTwins_asked {target : SignedTarget} {address outerAddress : String}
    (hTarget : SignedTarget.ofEcontent signedData = .ok target)
    (hCarries : CarriesHeaders carried state) (hAddress : carried.fromAddress = some address)
    (hOuterAddress : outer.fromAddress = some outerAddress)
    (hAsks : AsksSender env.toExternals signedData ctx.trust) :
    let verify := verifySignedData env.toExternals signedData target ctx.trust.stores
      ctx.trust.caFilePem
    LayerTwins env ctx signedData headers.date outer carried state
      (verify (some ⟨carried.fromComment, some address⟩) (headers.date <|> carried.date)
        { headers with signingSystem := .mimePartSmime })
      (verify (some ⟨outer.fromComment, some outerAddress⟩)
        ((headers.date <|> outer.date) <|> carried.date)
        { outer.backedBy headers with signingSystem := .mimePartSmime }) := by
  have hTwins := @verifySignedData_twins env.toExternals signedData target ctx.trust
    (some ⟨carried.fromComment, some address⟩) (some ⟨outer.fromComment, some outerAddress⟩)
    (headers.date <|> carried.date) ((headers.date <|> outer.date) <|> carried.date)
    { headers with signingSystem := .mimePartSmime } (outer.backedBy headers) hAsks rfl
  obtain ⟨content, hContent, -⟩ := ofEcontent_ok hTarget
  have hOnly : ∀ {P : SignedTarget → Prop},
      (∀ other : SignedTarget, SignedTarget.ofEcontent signedData = .ok other → P other) ↔
        P target := by
    intro P
    simp [hTarget]
  constructor
  · exact hTwins.reheaded
  · rw [hOnly]
    exact hTwins.signers rfl
  · rw [hOnly]
    by_cases hResolved : IsResolved env.toExternals signedData target ctx.trust
        (headers.date <|> carried.date)
    · refine iff_of_true ?_ fun hNot => absurd hResolved hNot
      obtain ⟨hSameFrom, hSameComment, hSameDate⟩ := hTwins.resolved hResolved
      exact ⟨congrArg (· <|> _) hSameFrom, congrArg (· <|> _) hSameComment,
        congrArg (· <|> _) hSameDate⟩
    · rw [imp_iff_right hResolved]
      obtain ⟨hResult, hTwin⟩ := hTwins.unresolved hResolved
      have hOwnShown : (some (emailDomainToALabel env.toExternals address) <|>
          carried.fromAddress) = shownAddress env ctx signedData carried.fromAddress := by
        rw [shownAddress_of_asks hContent hAsks, hAddress]
        rfl
      have hOuterShown : (some (emailDomainToALabel env.toExternals outerAddress) <|>
          carried.fromAddress) = shownAddress env ctx signedData outer.fromAddress := by
        rw [shownAddress_of_asks hContent hAsks, hOuterAddress]
        rfl
      have hName : (carried.fromComment <|> carried.fromComment) = carried.fromComment :=
        orElse_twice none carried.fromComment
      exact sameHeaders_backUp_iff hCarries hOwnShown hOuterShown hName (orElse_twice _ _)
        (orElse_twice _ _) (hResult.trans ⟨rfl, rfl, rfl⟩) (hTwin.trans ⟨rfl, rfl, rfl⟩)

theorem verifySignedDataLayer_twins (signedData : SignedData)
    (hCarries : CarriesHeaders carried state) (hCarried : carried.fromAddress.isSome)
    (hOuter : outer.fromAddress.isSome) (hFrom : headers.fromAddress = none)
    (hComment : headers.fromComment = none) :
    let verify := verifySignedDataLayer env ctx signedData
      (addrOf carried.fromAddress carried.fromComment) carried.date
    LayerTwins env ctx signedData headers.date outer carried state (verify headers)
      (verify (outer.backedBy headers)) := by
  obtain ⟨address, hAddress⟩ := Option.isSome_iff_exists.mp hCarried
  obtain ⟨outerAddress, hOuterAddress⟩ := Option.isSome_iff_exists.mp hOuter
  let start : SmimeValidationResult := { headers with signingSystem := .mimePartSmime }
  unfold verifySignedDataLayer
  cases hTarget : SignedTarget.ofEcontent signedData with
  | error e =>
      refine layerTwins_kept (start.push e) hCarries hOuter hFrom hComment ?_ (by simp [hTarget])
      intro shown
      unfold SignedTarget.ofEcontent at hTarget
      unfold shownAddress
      split at hTarget
      · cases hTarget
      next hContent =>
        split
        next content _ hData _ => exact absurd hData (hContent content)
        next => rfl
  | ok target =>
      dsimp only
      obtain ⟨content, hContent, -⟩ := ofEcontent_ok hTarget
      have hSender : (addrOf headers.fromAddress headers.fromComment <|>
          addrOf carried.fromAddress carried.fromComment) =
            some ⟨carried.fromComment, some address⟩ := by
        rw [hFrom, hAddress]
        rfl
      have hTwinSender : (addrOf (outer.backedBy headers).fromAddress
          (outer.backedBy headers).fromComment <|>
            addrOf carried.fromAddress carried.fromComment) =
              some ⟨outer.fromComment, some outerAddress⟩ := by
        rw [backedBy_eq hFrom hComment, hOuterAddress]
        rfl
      rw [hSender, hTwinSender]
      by_cases hAsks : AsksSender env.toExternals signedData ctx.trust
      · exact layerTwins_asked hTarget hCarries hAddress hOuterAddress hAsks
      · have hKept := fun sender date given => verifySignedData_of_not_asks signedData target
          ctx.trust sender none date none given start hAsks
        refine (congrArg₂ (LayerTwins env ctx signedData headers.date outer carried state)
          (hKept _ _ headers) (hKept _ _ (outer.backedBy headers))).mpr ?_
        refine layerTwins_kept _ hCarries hOuter hFrom hComment
          (fun shown => shownAddress_of_not_asks hContent hAsks) ?_
        rintro other date verify - ⟨hData, caCerts, -, -, -, hCerts, -⟩
        exact hAsks ⟨hData, caCerts, hCerts⟩

end Shown

end Smime
