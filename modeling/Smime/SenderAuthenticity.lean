import Smime.LayerSender

/-! Whom a message of several layers is shown to be from: the sender of the
outermost message, one that a valid signer certifies, or the From header of the
last layer. -/
namespace Smime

open X690 (Octets)
open X509 Mail Utils

section Vouching

variable {env : Externals}

/-- A signer whose signature is valid has a certificate of the address. -/
def VouchedFor (env : Externals) (address : String) (signers : List SignerValidation) : Prop :=
  ∃ entry ∈ signers, entry.signatureValid = true ∧
    SenderResolver.Certified env address entry.validationDetails.checks.certificateEmails

@[simp] theorem vouchedFor_nil {address : String} : ¬ VouchedFor env address [] := by
  simp [VouchedFor]

theorem vouchedFor_append {address : String} {before behind : List SignerValidation} :
    VouchedFor env address (before ++ behind) ↔
      VouchedFor env address before ∨ VouchedFor env address behind := by
  simp [VouchedFor, or_and_right, exists_or]

theorem vouchedFor_congr {address other : String} {signers : List SignerValidation}
    (h : emailDomainToALabel env address = emailDomainToALabel env other) :
    VouchedFor env address signers ↔ VouchedFor env other signers := by
  unfold VouchedFor SenderResolver.Certified
  rw [h]

/-- The signer at `idx` is accepted with a certificate of the address. -/
def CertifiesAddress (ctx : VerifyContext env) (address : String) (idx : Nat)
    (signer : SignerInfo) : Prop :=
  ∃ cert : Certificate, Accepts ctx idx signer cert ∧
    SenderResolver.Certified env address (extractCertInfo env cert).emails

theorem signerStep_vouchedFor (ctx : VerifyContext env) (loop : SignerLoop) (idx : Nat)
    (signer : SignerInfo) (address : String) :
    VouchedFor env address (signerStep ctx loop (idx, signer)).result.signers ↔
      VouchedFor env address loop.result.signers ∨ CertifiesAddress ctx address idx signer := by
  obtain ⟨pushed, hSigners, hValid, hAccepted⟩ := signerStep_signers ctx loop idx signer
  rw [hSigners, vouchedFor_append]
  apply or_congr_right
  constructor
  · rintro ⟨entry, hEntry, hEntryValid, hCertified⟩
    obtain ⟨cert, hAccepts, hOf⟩ := hValid entry hEntry hEntryValid
    rw [hOf.emails] at hCertified
    exact ⟨cert, hAccepts, hCertified⟩
  · rintro ⟨cert, hAccepts, hCertified⟩
    obtain ⟨entry, hEntry, hEntryValid⟩ := hAccepted cert hAccepts
    obtain ⟨other, hOther, hOf⟩ := hValid entry hEntry hEntryValid
    have hSame := firstVerifying_unique hAccepts.1.first hOther.1.first
    refine ⟨entry, hEntry, hEntryValid, ?_⟩
    rw [hOf.emails, ← hSame]
    exact hCertified

theorem foldl_signerStep_vouchedFor (ctx : VerifyContext env) (signers : List (Nat × SignerInfo))
    (loop : SignerLoop) (address : String) :
    VouchedFor env address (signers.foldl (signerStep ctx) loop).result.signers ↔
      VouchedFor env address loop.result.signers ∨
        ∃ signer ∈ signers, CertifiesAddress ctx address signer.1 signer.2 := by
  induction signers generalizing loop with
  | nil => simp
  | cons signer rest ih =>
      rw [List.foldl_cons, ih, signerStep_vouchedFor]
      simp [or_assoc]

/-- The verification gets to a signer that is accepted with a certificate of the address. -/
def SignerCertifies (env : Externals) (signedData : SignedData) (target : SignedTarget)
    (trustStores : List TrustStore) (caFilePem : Option Octets) (outerDate : Option Instant)
    (address : String) : Prop :=
  ∃ ctx : VerifyContext env, Reaches signedData target trustStores caFilePem outerDate ctx ∧
    ∃ (idx : Nat) (signer : SignerInfo), signedData.signerInfos[idx]? = some signer ∧
      CertifiesAddress ctx address idx signer

theorem verifySignedData_vouchedFor (env : Externals) (signedData : SignedData)
    (target : SignedTarget) (trustStores : List TrustStore) (caFilePem : Option Octets)
    (outerFrom : Option Addr) (outerDate : Option Instant) (result : SmimeValidationResult)
    (address : String) :
    VouchedFor env address (verifySignedData env signedData target trustStores caFilePem outerFrom
        outerDate result).signers ↔
      VouchedFor env address result.signers ∨
        SignerCertifies env signedData target trustStores caFilePem outerDate address := by
  have hSigners := (startVerification_cases env signedData target trustStores caFilePem outerFrom
    outerDate result).1
  have hRun := verifySignedData_run env signedData target trustStores caFilePem outerFrom outerDate
    result
  generalize verifySignedData env signedData target trustStores caFilePem outerFrom outerDate
    result = after at hRun ⊢
  cases hRun with
  | stopped hNone =>
      have hNot : ¬ SignerCertifies env signedData target trustStores caFilePem outerDate
          address := by
        rintro ⟨ctx, hCtx, -⟩
        exact hNone ctx hCtx
      rw [hSigners]
      exact (or_iff_left hNot).symm
  | @looped ctx hCtx =>
      rw [foldl_signerStep_vouchedFor, hSigners]
      apply or_congr_right
      constructor
      · rintro ⟨⟨idx, signer⟩, hMem, hCertifies⟩
        rw [mem_indexed, reaches_signers hCtx] at hMem
        exact ⟨ctx, hCtx, idx, signer, hMem, hCertifies⟩
      · rintro ⟨other, hOther, idx, signer, hSigner, hCertifies⟩
        have hSame := reaches_unique hCtx hOther
        subst hSame
        refine ⟨(idx, signer), ?_, hCertifies⟩
        rw [mem_indexed, reaches_signers hCtx]
        exact hSigner

end Vouching

section Layer

variable (env : CmsExternals) (ctx : LayerContext)

/-- An accepted signer of the layer has a certificate of the address. -/
def LayerCertifies (state : LayerState) (address : String) : Prop :=
  ∃ layer : SignedLayer,
    signedLayer env ctx state.currentEml (addrOf state.outerFromAddress state.outerFromComment)
      state.outerDate = some layer ∧
      SignerCertifies env.toExternals layer.signedData layer.target ctx.trust.stores
        ctx.trust.caFilePem layer.date address

/-- An accepted signer of the layer certifies the inner From `address`. -/
def Resolves (state : LayerState) (address : String) : Prop :=
  LayerResolves env ctx state.currentEml (addrOf state.outerFromAddress state.outerFromComment)
    state.outerDate address

variable {env ctx} {state : LayerState}

theorem process_vouchedFor (state : LayerState) (address : String) :
    VouchedFor env.toExternals address (state.process env ctx).signers ↔
      LayerCertifies env ctx state address := by
  unfold LayerState.process LayerCertifies
  rcases decryptAndVerifyOneLayer_cases env ctx state.currentEml
    (addrOf state.outerFromAddress state.outerFromComment) state.outerDate with
    ⟨layer, hLayer, hResult⟩ | ⟨hNone, hSigners, -⟩
  · obtain ⟨hBefore, -⟩ := signedLayer_cases hLayer
    rw [hResult, SignedLayer.verify, verifySignedData_vouchedFor, hBefore, hLayer]
    simp
  · rw [hSigners, hNone]
    simp

theorem flatMap_vouchedFor (states : List LayerState) (address : String) :
    VouchedFor env.toExternals address
        (states.flatMap fun state => (state.process env ctx).signers) ↔
      ∃ state ∈ states, LayerCertifies env ctx state address := by
  induction states with
  | nil => simp
  | cons state rest ih =>
      rw [List.flatMap_cons, vouchedFor_append, process_vouchedFor, ih]
      simp

theorem layerCertifies_of_resolves {address : String} (h : Resolves env ctx state address) :
    LayerCertifies env ctx state address := by
  obtain ⟨layer, hLayer, verify, hReaches, hInner, idx, signer, hSigner, hCertifies⟩ := h
  obtain ⟨own, cert, hOwn, hAccepts, hCertified⟩ := hCertifies
  have hSame : own = address := Option.some.inj (hOwn.symm.trans hInner)
  subst hSame
  exact ⟨layer, hLayer, verify, hReaches, idx, signer, hSigner, cert, hAccepts, hCertified⟩

end Layer

section Loop

variable (env : CmsExternals) (ctx : LayerContext)

/-- The state of the layer that ends the loop, unless the nesting limit does. -/
def closingState (states : List LayerState) : Option LayerState :=
  states.getLast?.filter fun state => (nestedEml env (state.process env ctx)).isNone

/-- The states of the layers inside the outermost one. -/
def innerStates (eml : Octets) : List LayerState :=
  (layerStates env ctx maxDecryptDepth 0 { currentEml := eml }).tail

variable {env ctx}

theorem closingState_nil : closingState env ctx [] = none := rfl

theorem closingState_single {state : LayerState}
    (h : nestedEml env (state.process env ctx) = none) :
    closingState env ctx [state] = some state := by
  simp [closingState, h]

theorem closingState_cons_nested {state : LayerState} {rest : List LayerState}
    (h : (nestedEml env (state.process env ctx)).isSome) :
    closingState env ctx (state :: rest) = closingState env ctx rest := by
  unfold closingState
  cases rest with
  | nil => simpa [← Option.isSome_iff_ne_none] using h
  | cons other rest => rw [List.getLast?_cons_cons]

theorem closingState_mem {states : List LayerState} {state : LayerState}
    (h : closingState env ctx states = some state) : state ∈ states := by
  unfold closingState at h
  rw [Option.filter_eq_some_iff] at h
  exact List.mem_of_getLast? h.1

theorem closingState_of_mem (remaining depth : Nat) (state : LayerState) {layer : LayerState}
    (hMem : layer ∈ layerStates env ctx remaining depth state)
    (hLast : nestedEml env (layer.process env ctx) = none) :
    closingState env ctx (layerStates env ctx remaining depth state) = some layer := by
  rw [closingState, layerStates_getLast?_of_mem remaining depth state hMem hLast]
  simp [hLast]

/-- The signers of all layers are in the result. -/
theorem layerLoop_signers (remaining depth : Nat) (state : LayerState) :
    (layerLoop env ctx remaining depth state).signers =
      state.accumulatedSigners ++
        (layerStates env ctx remaining depth state).flatMap
          fun layer => (layer.process env ctx).signers := by
  induction remaining, depth, state using layerLoop_induction env ctx with
  | hLimit depth state => simp [layerLoop, layerStates, LayerState.nestingExceeded]
  | hLast remaining depth state hLast =>
      rw [layerStates_last hLast, layerLoop_last hLast]
      by_cases hDepth : depth = 0 <;> simp [LayerState.finish, LayerState.remember, hDepth]
  | hNested remaining depth state eml hNested ih =>
      have hNext : (state.next env ctx depth eml).accumulatedSigners =
          state.accumulatedSigners ++ (state.process env ctx).signers := by
        by_cases hDepth : depth = 0 <;> simp [LayerState.next, LayerState.remember, hDepth]
      rw [layerStates_nested hNested, layerLoop_nested hNested, ih, hNext, List.flatMap_cons,
        List.append_assoc]

/-- The sender of the outermost layer is kept from then on. -/
theorem next_outerFrom {depth : Nat} (hDepth : depth ≠ 0) (state : LayerState) (eml : Octets) :
    (state.next env ctx depth eml).outerFromAddress = state.outerFromAddress := by
  simp [LayerState.next, LayerState.remember, hDepth]

theorem next_outerFrom_zero (state : LayerState) (eml : Octets) :
    (state.next env ctx 0 eml).outerFromAddress = (state.process env ctx).fromAddress := by
  simp [LayerState.next, LayerState.remember]

/-- The state carries the sender and date of the outermost layer. -/
structure CarriesHeaders (outermost : SmimeValidationResult) (state : LayerState) : Prop where
  fromAddress : state.outerFromAddress = outermost.fromAddress
  fromComment : state.outerFromComment = outermost.fromComment
  date : state.outerDate = outermost.date

theorem next_carriesHeaders_zero (state : LayerState) (eml : Octets) :
    CarriesHeaders (state.process env ctx) (state.next env ctx 0 eml) := by
  constructor <;> simp [LayerState.next, LayerState.remember]

theorem CarriesHeaders.next {outermost : SmimeValidationResult} {depth : Nat} {state : LayerState}
    (h : CarriesHeaders outermost state) (hDepth : depth ≠ 0) (eml : Octets) :
    CarriesHeaders outermost (state.next env ctx depth eml) := by
  constructor <;> simp [LayerState.next, LayerState.remember, hDepth, h.fromAddress, h.fromComment,
    h.date]

theorem layerStates_carriesHeaders (remaining depth : Nat) (state : LayerState)
    {outermost : SmimeValidationResult} (hDepth : depth ≠ 0) (h : CarriesHeaders outermost state)
    {layer : LayerState} (hMem : layer ∈ layerStates env ctx remaining depth state) :
    CarriesHeaders outermost layer := by
  induction remaining, depth, state using layerLoop_induction env ctx with
  | hLimit depth state => cases hMem
  | hLast remaining depth state hLast =>
      rw [layerStates_last hLast, List.mem_singleton] at hMem
      rw [hMem]
      exact h
  | hNested remaining depth state eml hNested ih =>
      rw [layerStates_nested hNested, List.mem_cons] at hMem
      rcases hMem with rfl | hMem
      · exact h
      · exact ih depth.succ_ne_zero (h.next hDepth eml) hMem

/-- Inside, the sender is that of the layer that ends the loop, or the outermost one. -/
theorem layerLoop_fromAddress (remaining depth : Nat) (state : LayerState) (hDepth : depth ≠ 0) :
    (layerLoop env ctx remaining depth state).fromAddress =
      (((closingState env ctx (layerStates env ctx remaining depth state)).bind
        fun closing => (closing.process env ctx).fromAddress) <|> state.outerFromAddress) := by
  induction remaining, depth, state using layerLoop_induction env ctx with
  | hLimit depth state => rfl
  | hLast remaining depth state hLast =>
      rw [layerStates_last hLast, layerLoop_last hLast, closingState_single hLast]
      simp [LayerState.finish, LayerState.remember, hDepth]
  | hNested remaining depth state eml hNested ih =>
      rw [layerStates_nested hNested, layerLoop_nested hNested, ih depth.succ_ne_zero,
        closingState_cons_nested (by rw [hNested]; rfl), next_outerFrom hDepth]

variable (env ctx) (eml : Octets)

theorem innerStates_carriesHeaders {state : LayerState} (hMem : state ∈ innerStates env ctx eml) :
    CarriesHeaders (LayerState.process env ctx { currentEml := eml }) state := by
  unfold innerStates maxDecryptDepth at hMem
  cases hNested : nestedEml env (LayerState.process env ctx { currentEml := eml }) with
  | none =>
      rw [layerStates_last hNested] at hMem
      cases hMem
  | some content =>
      rw [layerStates_nested hNested] at hMem
      exact layerStates_carriesHeaders 3 1 _ Nat.one_ne_zero (next_carriesHeaders_zero _ _) hMem

theorem decryptAndVerify_fromAddress :
    (decryptAndVerifySmimeFromEmlDetailed env ctx eml).fromAddress =
      (((closingState env ctx (innerStates env ctx eml)).bind
          fun closing => (closing.process env ctx).fromAddress) <|>
        (LayerState.process env ctx { currentEml := eml }).fromAddress) := by
  unfold decryptAndVerifySmimeFromEmlDetailed innerStates maxDecryptDepth
  cases hNested : nestedEml env (LayerState.process env ctx { currentEml := eml }) with
  | none =>
      rw [layerStates_last hNested, layerLoop_last hNested]
      simp [LayerState.finish, LayerState.remember, closingState_nil]
  | some content =>
      rw [layerStates_nested hNested, layerLoop_nested hNested,
        layerLoop_fromAddress 3 1 _ Nat.one_ne_zero, next_outerFrom_zero]
      rfl

/-- Whose addresses the signers of the result vouch for. -/
theorem decryptAndVerify_vouchedFor (address : String) :
    VouchedFor env.toExternals address (decryptAndVerifySmimeFromEmlDetailed env ctx eml).signers ↔
      ∃ state ∈ layerStates env ctx maxDecryptDepth 0 { currentEml := eml },
        LayerCertifies env ctx state address := by
  rw [decryptAndVerifySmimeFromEmlDetailed, layerLoop_signers, List.nil_append,
    flatMap_vouchedFor]

end Loop

section Authenticity

variable (env : CmsExternals) (ctx : LayerContext) (eml : Octets)

/-- The address is the From of the outermost message, up to the form of the domain. -/
def OutermostSender (address : String) : Prop :=
  ∃ (message : Message) (sender : String), env.parseMessage eml = some message ∧
    message.fromAddr.bind Addr.address = some sender ∧
      emailDomainToALabel env.toExternals sender = emailDomainToALabel env.toExternals address

/-- The address is that of the outermost message, or a valid signer of the
result has a certificate of it. -/
def AuthenticSender (address : String) : Prop :=
  OutermostSender env eml address ∨
    VouchedFor env.toExternals address (decryptAndVerifySmimeFromEmlDetailed env ctx eml).signers

/-- The From header of an inner layer is that of the outermost message, or one
that an accepted signer of some layer has a certificate of. -/
def BackedSender (address : String) : Prop :=
  OutermostSender env eml address ∨
    ∃ state ∈ layerStates env ctx maxDecryptDepth 0 { currentEml := eml },
      LayerCertifies env ctx state address

variable {env ctx eml}

theorem backedSender_iff {address : String} :
    BackedSender env ctx eml address ↔ AuthenticSender env ctx eml address := by
  unfold BackedSender AuthenticSender
  rw [decryptAndVerify_vouchedFor]

theorem authenticSender_congr {address other : String}
    (h : emailDomainToALabel env.toExternals address = emailDomainToALabel env.toExternals other) :
    AuthenticSender env ctx eml address ↔ AuthenticSender env ctx eml other := by
  unfold AuthenticSender OutermostSender
  rw [h, vouchedFor_congr h]

theorem authenticSender_aLabel (hStay : ALabelsStay env.toExternals) {address : String} :
    AuthenticSender env ctx eml (emailDomainToALabel env.toExternals address) ↔
      AuthenticSender env ctx eml address :=
  authenticSender_congr (emailDomainToALabel_idem hStay address)

/-- A sender that a signer of any layer certifies is authentic. -/
theorem authenticSender_of_resolves {state : LayerState} {address : String}
    (hMem : state ∈ layerStates env ctx maxDecryptDepth 0 { currentEml := eml })
    (h : Resolves env ctx state address) : AuthenticSender env ctx eml address := by
  rw [← backedSender_iff]
  exact .inr ⟨state, hMem, layerCertifies_of_resolves h⟩

/-- Without a signer that certifies the sender, a layer shows its own From or the outermost one. -/
theorem process_unresolved {state : LayerState}
    (h : ∀ address : String, ¬ Resolves env ctx state address) :
    UnresolvedSender env ctx state.currentEml
      (addrOf state.outerFromAddress state.outerFromComment) (state.process env ctx).fromAddress :=
  (layer_fromAddress env ctx state.currentEml
    (addrOf state.outerFromAddress state.outerFromComment) state.outerDate).2 h

theorem process_resolved {state : LayerState} {address : String}
    (h : Resolves env ctx state address) :
    (state.process env ctx).fromAddress = some address :=
  (layer_fromAddress env ctx state.currentEml
    (addrOf state.outerFromAddress state.outerFromComment) state.outerDate).1 address h

theorem mem_layerStates_outermost :
    ({ currentEml := eml } : LayerState) ∈
      layerStates env ctx maxDecryptDepth 0 { currentEml := eml } := by
  unfold maxDecryptDepth layerStates
  exact List.mem_cons_self

/-- The outermost layer shows an authentic sender. -/
theorem outermost_authentic (hStay : ALabelsStay env.toExternals) {shown : String}
    (hShown : (LayerState.process env ctx { currentEml := eml }).fromAddress = some shown) :
    AuthenticSender env ctx eml shown := by
  by_cases hResolves : ∃ address : String, Resolves env ctx { currentEml := eml } address
  · obtain ⟨address, hAddress⟩ := hResolves
    rw [process_resolved hAddress, Option.some.injEq] at hShown
    rw [← hShown]
    exact authenticSender_of_resolves mem_layerStates_outermost hAddress
  · have hUnresolved := process_unresolved (not_exists.mp hResolves)
    by_cases hOwn : ∃ own : String, ShowsOwnSender env ctx eml own
    · obtain ⟨own, hShows⟩ := hOwn
      have hAuthentic : AuthenticSender env ctx eml own := by
        obtain ⟨message, hMessage, hFrom, -⟩ := hShows
        exact .inl ⟨message, own, hMessage, hFrom, rfl⟩
      rcases hUnresolved.own own hShows with hSender | hSender
      all_goals
        rw [hSender, Option.some.injEq] at hShown
        rw [← hShown]
      · exact hAuthentic
      · rw [authenticSender_aLabel hStay]
        exact hAuthentic
    · rcases hUnresolved.outermost (not_exists.mp hOwn) with hSender | hSender
      all_goals
        rw [hSender] at hShown
        cases hShown

/-- An inner layer without a From of its own shows an authentic sender, or none. -/
theorem inner_authentic (hStay : ALabelsStay env.toExternals) {state : LayerState} {shown : String}
    (hMem : state ∈ innerStates env ctx eml)
    (hUnresolved : ∀ address : String, ¬ Resolves env ctx state address)
    (hOwn : ∀ own : String, ¬ ShowsOwnSender env ctx state.currentEml own)
    (hShown : (state.process env ctx).fromAddress = some shown) :
    AuthenticSender env ctx eml shown := by
  rcases (process_unresolved hUnresolved).outermost hOwn with hSender | hSender
  · rw [hSender] at hShown
    cases hShown
  · have hOuter := (innerStates_carriesHeaders env ctx eml hMem).fromAddress
    rw [hSender] at hShown
    cases hOutermost : (LayerState.process env ctx { currentEml := eml }).fromAddress with
    | none =>
        rw [hOuter, hOutermost] at hShown
        cases hShown
    | some sender =>
        rw [hOuter, hOutermost] at hShown
        cases hShown
        rw [authenticSender_aLabel hStay]
        exact outermost_authentic hStay hOutermost

/-- The sender of the result is always authentic exactly when an inner layer
that ends the loop has no From header of its own that no signer backs. -/
theorem sender_authentic_iff (env : CmsExternals) (ctx : LayerContext) (eml : Octets)
    (hStay : ALabelsStay env.toExternals) :
    (∀ shown : String,
        (decryptAndVerifySmimeFromEmlDetailed env ctx eml).fromAddress = some shown →
          AuthenticSender env ctx eml shown) ↔
      ∀ (state : LayerState) (own : String),
        closingState env ctx (innerStates env ctx eml) = some state →
          ShowsOwnSender env ctx state.currentEml own →
            (∀ address : String, ¬ Resolves env ctx state address) →
              BackedSender env ctx eml own := by
  have hFrom := decryptAndVerify_fromAddress env ctx eml
  constructor
  · intro hAuthentic state own hClosing hShows hUnresolved
    rw [backedSender_iff]
    rcases (process_unresolved hUnresolved).own own hShows with hSender | hSender
    all_goals
      have hShown := hAuthentic _ (by rw [hFrom, hClosing, Option.bind_some, hSender]; rfl)
    · exact hShown
    · rw [authenticSender_aLabel hStay] at hShown
      exact hShown
  · intro hBacked shown hShown
    rw [hFrom] at hShown
    cases hClosing : closingState env ctx (innerStates env ctx eml) with
    | none =>
        rw [hClosing] at hShown
        exact outermost_authentic hStay hShown
    | some state =>
        have hMem := closingState_mem hClosing
        rw [hClosing, Option.bind_some] at hShown
        cases hState : (state.process env ctx).fromAddress with
        | none =>
            rw [hState] at hShown
            exact outermost_authentic hStay hShown
        | some sender =>
            rw [hState] at hShown
            cases hShown
            by_cases hResolves : ∃ address : String, Resolves env ctx state address
            · obtain ⟨address, hAddress⟩ := hResolves
              rw [process_resolved hAddress, Option.some.injEq] at hState
              rw [← hState]
              exact authenticSender_of_resolves (List.mem_of_mem_tail hMem) hAddress
            · have hUnresolved := not_exists.mp hResolves
              by_cases hOwn : ∃ own : String, ShowsOwnSender env ctx state.currentEml own
              · obtain ⟨own, hShows⟩ := hOwn
                have hAuthentic := hBacked state own hClosing hShows hUnresolved
                rw [backedSender_iff] at hAuthentic
                rcases (process_unresolved hUnresolved).own own hShows with hSender | hSender
                all_goals
                  rw [hState, Option.some.injEq] at hSender
                  rw [hSender]
                · exact hAuthentic
                · rw [authenticSender_aLabel hStay]
                  exact hAuthentic
              · exact inner_authentic hStay hMem hUnresolved (not_exists.mp hOwn) hState

end Authenticity

section Samples

/-! Messages signed twice without signers, as those of the failures. -/

theorem aLabelsStay_nested : ALabelsStay nestedExternals.toExternals :=
  fun _ _ _ => rfl

/-- The inner message has no From, so the outer one is shown. -/
theorem sender_authentic_nested :
    AuthenticSender nestedExternals noKeys outerEml "anu@naide.ee" := by
  have hRun : (decryptAndVerifySmimeFromEmlDetailed nestedExternals noKeys outerEml).fromAddress =
        some "anu@naide.ee" ∧
      (closingState nestedExternals noKeys
        (innerStates nestedExternals noKeys outerEml)).map LayerState.currentEml = some innerEml ∧
      (nestedExternals.parseMessage innerEml).map
        (fun message => message.fromAddr.bind Addr.address) = some none := by
    decide +kernel
  obtain ⟨hShown, hEml, hHeader⟩ := hRun
  refine (sender_authentic_iff nestedExternals noKeys outerEml aLabelsStay_nested).mpr ?_ _ hShown
  rintro state own hClosing ⟨message, hMessage, hOwn, -⟩ -
  rw [hClosing, Option.map_some, Option.some.injEq] at hEml
  rw [hEml] at hMessage
  rw [hMessage, Option.map_some, hOwn] at hHeader
  cases hHeader

def forgedInnerEml : Octets := ascii "From: mari@naide.ee\r\n" ++ innerEml

/-- Its body is the encoding of `unsignedDer 1 forgedInnerEml`. -/
def forgedEml : Octets :=
  ascii "From: anu@naide.ee\r\n" ++ pkcs7MimeHeader
    ++ ascii "MIHyBgkqhkiG9w0BBwKggeQwgeECAQExADCB1wYJKoZIhvcNAQcBoIHJBIHGRnJvbTogbWFyaUBuYWlkZS5l"
    ++ ascii "ZQ0KQ29udGVudC1UeXBlOiBhcHBsaWNhdGlvbi9wa2NzNy1taW1lDQpDb250ZW50LVRyYW5zZmVyLUVuY29k"
    ++ ascii "aW5nOiBiYXNlNjQNCg0KTUVnR0NTcUdTSWIzRFFFSEFxQTdNRGtDQVFFeEFEQXdCZ2txaGtpRzl3MEJCd0dn"
    ++ ascii "SXdRaFEyOXVkR1Z1ZEMxVWVYQmxPaUIwWlhoMEwzQnNZV2x1RFFvTkNraGxiR3h2TVFBPQ0KMQA=\r\n"

def forgedMessage (eml : Octets) : Option Message :=
  if eml = forgedEml then
    some (singlePart pkcs7MimeType (some ⟨none, some "anu@naide.ee"⟩)
      (unsignedDer 1 forgedInnerEml) eml)
  else if eml = forgedInnerEml then
    some (singlePart pkcs7MimeType (some ⟨none, some "mari@naide.ee"⟩)
      (unsignedDer 1 helloContent) eml)
  else nestedMessage eml

def forgedContentInfo (der : Octets) : Except String Content :=
  if der = unsignedDer 1 forgedInnerEml then .ok (.signedData (unsignedData 1 forgedInnerEml))
  else nestedContentInfo der

def forgedExternals : CmsExternals := cmsExternals forgedMessage forgedContentInfo

/-- The message of anu@naide.ee is shown to be from mari@naide.ee, whom nobody vouches for. -/
theorem not_sender_authentic :
    ¬ ∀ (env : CmsExternals) (ctx : LayerContext) (eml : Octets),
      ALabelsStay env.toExternals → ∀ shown : String,
        (decryptAndVerifySmimeFromEmlDetailed env ctx eml).fromAddress = some shown →
          AuthenticSender env ctx eml shown := by
  intro h
  have hRun : (decryptAndVerifySmimeFromEmlDetailed forgedExternals noKeys forgedEml).fromAddress
        = some "mari@naide.ee" ∧
      (decryptAndVerifySmimeFromEmlDetailed forgedExternals noKeys forgedEml).signers = [] ∧
      (forgedExternals.parseMessage forgedEml).map
        (fun message => message.fromAddr.bind Addr.address) = some (some "anu@naide.ee") := by
    decide +kernel
  obtain ⟨hShown, hSigners, hHeader⟩ := hRun
  have hStay : ALabelsStay forgedExternals.toExternals := fun _ _ _ => rfl
  rcases h forgedExternals noKeys forgedEml hStay "mari@naide.ee" hShown with
    ⟨message, sender, hMessage, hSender, hSame⟩ | hVouched
  · rw [hMessage, Option.map_some, hSender, Option.some.injEq, Option.some.injEq] at hHeader
    rw [hHeader] at hSame
    have hOther : emailDomainToALabel forgedExternals.toExternals "anu@naide.ee" ≠
        emailDomainToALabel forgedExternals.toExternals "mari@naide.ee" := by
      decide +kernel
    exact hOther hSame
  · rw [hSigners] at hVouched
    exact vouchedFor_nil hVouched

end Samples

end Smime
