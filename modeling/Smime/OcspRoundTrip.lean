import Smime.ChainVerdict
import Smime.ProxyRevocation
import Smime.Revocation
import Smime.SignRoundTrip

/-! What the responses of `build_ocsp_response` do to a message that they are
stapled to, genuine or forged, current or not. -/
namespace Smime.CreateCms

open X690 (Octets tlv)
open X509 Mail Utils

section Meaning

variable (env : OcspExternals)

/-- What is written is read again. -/
structure OcspLaws : Prop where
  names : NamesEncode env.toExternals
  tlv : ∀ (der : Octets) (element : Tlv), env.parseTlv der = .ok element → element.fullData = der
  response : ∀ (resp : OcspResponse) (der : Octets),
    env.writeOcspResponse resp = .ok der → env.parseOcspResponse der = .ok resp

namespace StapleArgs

/-- The statement that is made of the leaf. -/
def statement (args : StapleArgs) : SingleResponse where
  certId :=
    { hashAlgorithm := args.certIdHash.algorithm
      issuerNameHash := args.certIdHash.hash env.toExternals args.leafIssuerNameDer
      issuerKeyHash := args.certIdHash.hash env.toExternals args.issuerPubkeyBits
      serialNumber := args.leafSerial }
  certStatus := if args.good then .good else .revoked
  thisUpdate := midnight args.thisUpdate
  nextUpdate := args.nextUpdate.map midnight

/-- The arguments name the first certificate as one of the second. -/
def Names (args : StapleArgs) (link : Certificate × Certificate) : Prop :=
  ∃ nameDer : Octets, env.writeName link.1.issuer = .ok nameDer ∧
    args.certIdHash.hash env.toExternals args.leafIssuerNameDer =
        args.certIdHash.hash env.toExternals nameDer ∧
      args.certIdHash.hash env.toExternals args.issuerPubkeyBits =
          args.certIdHash.hash env.toExternals link.2.spki.subjectPublicKey ∧
        args.leafSerial = link.1.serial

/-- `now` is not before the update, and not after the next one. -/
def InForce (args : StapleArgs) (now : Instant) : Prop :=
  ∃ thisUpdate : Instant, asn1ToChrono env.toExternals (midnight args.thisUpdate) = some thisUpdate ∧
    thisUpdate ≤ now ∧
      match args.nextUpdate with
      | some date => ∃ nextUpdate : Instant,
          asn1ToChrono env.toExternals (midnight date) = some nextUpdate ∧ now ≤ nextUpdate
      | none => now ≤ thisUpdate + maxAgeWithoutNextUpdateDays * 86400

/-- The statement counts for the link. -/
structure Speaks (args : StapleArgs) (link : Certificate × Certificate) : Prop where
  names : args.Names env link
  inForce : args.InForce env env.now
  accepted : ∃ basic : BasicOcspResponse, basicOcspResponse env args = some basic ∧
    Accepted env.toExternals basic link.2 env.now

/-- The issuer itself, or a responder with a certificate of the issuer's for it. -/
def MayAnswer (args : StapleArgs) (issuer responder : Certificate) : Prop :=
  responder = issuer ∨ responder ∈ args.embeddedCerts ∧
    SameName env.toExternals responder.issuer issuer.subject ∧
      AkiMatches env.toExternals responder issuer ∧
        responder.signatureAlg ∈ env.permittedSignatureAlgorithms ∧
          (∃ certDer : Octets, env.writeTbsCertificate responder = .ok certDer ∧
            SignedUnder env.toExternals issuer responder.signatureAlg responder.signature certDer) ∧
              SignsOcsp env.toExternals responder

/-- The responder answers about the link, under its own name and with its own key. -/
structure AnsweredBy (args : StapleArgs) (link : Certificate × Certificate)
    (responder : Certificate) : Prop where
  names : args.Names env link
  may : args.MayAnswer env link.2 responder
  valid : ValidAt env.toExternals responder env.now
  name : ∃ name : Name, env.parseName args.responderNameDer = .ok name ∧
    SameName env.toExternals name responder.subject
  key : ∃ key : AnyPublicKey, publicKey env.toExternals responder = .ok key ∧
    ∀ data : Octets, env.verifySignatureWithSignatureAlgorithm key rsaSha256Alg
      (args.ocspSign data) data = .ok ()

end StapleArgs

def RevokedBy (responses : List StapleArgs) (link : Certificate × Certificate) : Prop :=
  ∃ args ∈ responses, args.good = false ∧ args.Speaks env link

def ConfirmedBy (responses : List StapleArgs) (link : Certificate × Certificate) : Prop :=
  ∃ args ∈ responses, args.good = true ∧ args.Speaks env link

open Classical in
/-- The certificates below the anchor that a response revokes, with their issuers. -/
noncomputable def revokedLinks (responses : List StapleArgs) (chain : List Certificate) :
    List (Certificate × Certificate) :=
  (chain.zip chain.tail).filter fun link => RevokedBy env responses link

/-- The anchors of the receiver lead to the chain, by what is embedded. -/
def StapledSigner.ChainsTo (signer : StapledSigner) (leaf : Certificate) (trust : TrustConfig)
    (chain : List Certificate) : Prop :=
  ∃ (caCerts : List Certificate) (builder : env.Builder) (verifier : env.Verifier),
    loadCaCerts env.toExternals trust.stores trust.caFilePem = .ok caCerts ∧
      buildPolicyBuilder env.toExternals caCerts = .ok builder ∧
        env.buildEmailVerifier builder = .ok verifier ∧
          ∀ signedData : SignedData, Embeds env.toCreateExternals signer signedData →
            env.verify verifier leaf (intermediariesOf leaf (extractCertificates signedData)) =
              .ok chain

end Meaning

section Statement

variable {env : OcspExternals} {args : StapleArgs} {basic : BasicOcspResponse}
  {link : Certificate × Certificate}

theorem genTime_some {date : Nat × Nat × Nat} {time : DateTime}
    (h : genTime env date = some time) : time = midnight date := by
  unfold genTime at h
  split at h
  · exact (Option.some.inj h).symm
  · cases h

theorem optionalTime_some {date : Option (Nat × Nat × Nat)} {time : Option DateTime}
    (h : optionalTime env date = some time) : time = date.map midnight := by
  cases date with
  | none => exact (Option.some.inj h).symm
  | some date =>
      obtain ⟨found, hFound, rfl⟩ := Option.map_eq_some_iff.mp h
      rw [genTime_some hFound]
      rfl

/-- The response that is built, and what has to be at hand for it. -/
theorem basicOcspResponse_some (h : basicOcspResponse env args = some basic) :
    ∃ (name : Name) (tbsDer : Octets), env.parseName args.responderNameDer = .ok name ∧
      basic.tbsResponseData.responderId = .byName name ∧
        basic.tbsResponseData.responses = [args.statement env] ∧
          env.writeResponseData basic.tbsResponseData = .ok tbsDer ∧
            basic.signatureAlgorithm = rsaSha256Alg ∧ basic.signature = args.ocspSign tbsDer ∧
              basic.certs.getD [] = args.embeddedCerts := by
  simp only [basicOcspResponse, Option.bind_eq_bind, Option.bind_eq_some_iff,
    toOption_eq_some_iff, Option.pure_def, Option.some.injEq] at h
  obtain ⟨serial, hSerial, thisUpdate, hThis, nextUpdate, hNext, name, hName, tbsDer, hTbs, rfl⟩ := h
  obtain rfl := bigInt_eq_some hSerial
  obtain rfl := genTime_some hThis
  obtain rfl := optionalTime_some hNext
  refine ⟨name, tbsDer, hName, rfl, rfl, hTbs, rfl, rfl, ?_⟩
  dsimp only
  split
  next hEmpty => rw [List.isEmpty_iff.mp hEmpty]; rfl
  next => rfl

theorem certIdMatches_statement :
    certIdMatches env.toExternals (args.statement env).certId link.1 link.2 = true ↔
      args.Names env link := by
  have hOther : sha256Oid ≠ sha1Oid := by decide
  unfold certIdMatches StapleArgs.Names
  cases env.writeName link.1.issuer with
  | error e => simp
  | ok nameDer =>
      cases hHash : args.certIdHash with
      | sha1 =>
          simp [StapleArgs.statement, hHash, CertIdHash.algorithm, CertIdHash.hash, and_assoc]
      | sha256 =>
          simp [StapleArgs.statement, hHash, CertIdHash.algorithm, CertIdHash.hash,
            sha256Algorithm, hOther, and_assoc]

theorem current_statement {now : Instant} :
    Current env.toExternals (args.statement env) now ↔ args.InForce env now := by
  unfold Current StapleArgs.InForce StapleArgs.statement
  cases args.nextUpdate with
  | none => exact Iff.rfl
  | some date => exact Iff.rfl

/-- What the response says of the link. -/
theorem stapleStatus_built (laws : OcspLaws env) (h : basicOcspResponse env args = some basic)
    (status : CertStatus) :
    stapleStatus env.toExternals link.1 link.2 env.now basic = some status ↔
      status = (if args.good then .good else .revoked) ∧ args.Speaks env link := by
  obtain ⟨name, tbsDer, -, -, hResponses, -⟩ := basicOcspResponse_some h
  rw [stapleStatus_some_iff, hResponses]
  constructor
  · rintro ⟨single, window, hFind, hSignature, hFresh, rfl⟩
    obtain rfl : single = args.statement env :=
      List.mem_singleton.mp (List.mem_of_find?_eq_some hFind)
    have hCertId := List.find?_some hFind
    exact ⟨rfl, certIdMatches_statement.mp hCertId,
      current_statement.mp (singleResponseFresh_iff.mp hFresh).1, basic, h,
      (verifyOcspSignature_ok_iff laws.names _ _ _).mp ⟨window, hSignature⟩⟩
  · rintro ⟨rfl, hNames, hInForce, other, hOther, hAccepted⟩
    rw [h, Option.some.injEq] at hOther
    subst hOther
    obtain ⟨window, hSignature⟩ := (verifyOcspSignature_ok_iff laws.names _ _ _).mpr hAccepted
    refine ⟨args.statement env, window, ?_, hSignature, ?_, rfl⟩
    · exact List.find?_cons_of_pos (certIdMatches_statement.mpr hNames)
    · exact singleResponseFresh_iff.mpr
        ⟨current_statement.mpr hInForce, ValidationProxy.verifyOcspSignature_window hSignature⟩

/-- A genuine answer counts. -/
theorem StapleArgs.AnsweredBy.speaks {responder : Certificate}
    (hPermitted : rsaSha256Alg ∈ env.permittedSignatureAlgorithms)
    (h : args.AnsweredBy env link responder) (hInForce : args.InForce env env.now)
    (hBasic : basicOcspResponse env args = some basic) : args.Speaks env link := by
  obtain ⟨name, tbsDer, hName, hId, -, hTbs, hAlgorithm, hSignature, hCerts⟩ :=
    basicOcspResponse_some hBasic
  obtain ⟨other, hOther, hSame⟩ := h.name
  rw [hName, Except.ok.injEq] at hOther
  subst hOther
  obtain ⟨key, hKey, hVerifies⟩ := h.key
  have hIdentified : Identifies env.toExternals basic.tbsResponseData.responderId responder := by
    rw [hId]
    exact hSame
  have hSigned : SignedUnder env.toExternals responder basic.signatureAlgorithm basic.signature
      tbsDer := by
    rw [hAlgorithm, hSignature]
    exact ⟨key, hKey, hVerifies tbsDer⟩
  refine ⟨h.names, hInForce, basic, hBasic, by rw [hAlgorithm]; exact hPermitted, tbsDer, hTbs, ?_⟩
  rcases h.may with rfl | ⟨hMem, hIssuerName, hIssuerKey, hAlg, hIssued, hUsage⟩
  · exact .inl ⟨hIdentified, h.valid, hSigned⟩
  · refine .inr ⟨responder, ?_, hIdentified, hIssuerName, hIssuerKey, hAlg, hIssued, hUsage, h.valid,
      hSigned⟩
    rw [hCerts]
    exact hMem

end Statement

section Staples

variable {env : OcspExternals} {responses : List StapleArgs} {staples : List BasicOcspResponse}
  {link : Certificate × Certificate}

/-- Of known statuses good is found when it is said, and nothing is revoked. -/
theorem searchStaples_good_iff {env : Externals} {leaf issuer : Certificate} {now : Instant}
    {found : Option StapledStatus} {staples : List BasicOcspResponse}
    (hFound : found = none ∨ found = some .good)
    (hKnown : ∀ stapled ∈ staples, stapleStatus env leaf issuer now stapled ≠ some .unknown) :
    searchStaples env leaf issuer now found staples = some .good ↔
      (found = some .good ∨
          ∃ stapled ∈ staples, stapleStatus env leaf issuer now stapled = some .good) ∧
        ∀ stapled ∈ staples, stapleStatus env leaf issuer now stapled ≠ some .revoked := by
  induction staples generalizing found with
  | nil => simp [searchStaples]
  | cons stapled rest ih =>
      obtain ⟨hFirst, hRest⟩ := List.forall_mem_cons.mp hKnown
      rw [List.exists_mem_cons_iff, List.forall_mem_cons]
      unfold searchStaples
      cases hStatus : stapleStatus env leaf issuer now stapled with
      | none => simpa using ih hFound hRest
      | some status =>
          cases status with
          | revoked => simp
          | unknown => exact absurd hStatus hFirst
          | good =>
              have hGood : (found <|> some .good) = some .good := by
                rcases hFound with rfl | rfl
                · rfl
                · rfl
              dsimp only
              rw [hGood, ih (.inr rfl) hRest]
              simp

theorem searchStaples_known {env : Externals} {leaf issuer : Certificate} {now : Instant}
    {staples : List BasicOcspResponse}
    (hKnown : ∀ stapled ∈ staples, stapleStatus env leaf issuer now stapled ≠ some .unknown) :
    stapledStatusFor env staples leaf issuer now ≠ some .unknown := by
  intro hUnknown
  rcases searchStaples_some hUnknown with hNone | ⟨stapled, hMem, said, hSaid, hStatus⟩
  · cases hNone
  · cases said with
    | good => cases hStatus
    | revoked => cases hStatus
    | unknown => exact hKnown stapled hMem hSaid

/-- The staples of the message are the responses, in some order. -/
def StapledFrom (env : OcspExternals) (responses : List StapleArgs)
    (staples : List BasicOcspResponse) : Prop :=
  ∃ built : List BasicOcspResponse,
    List.Forall₂ (fun args basic => basicOcspResponse env args = some basic) responses built ∧
      staples.Perm built

theorem StapledFrom.says_iff (laws : OcspLaws env) (h : StapledFrom env responses staples)
    (status : CertStatus) :
    (∃ stapled ∈ staples, stapleStatus env.toExternals link.1 link.2 env.now stapled = some status) ↔
      ∃ args ∈ responses, status = (if args.good then .good else .revoked) ∧
        args.Speaks env link := by
  obtain ⟨built, hBuilt, hPerm⟩ := h
  constructor
  · rintro ⟨stapled, hMem, hStatus⟩
    obtain ⟨args, hArgs, hBasic⟩ := hBuilt.exists_left (hPerm.mem_iff.mp hMem)
    exact ⟨args, hArgs, (stapleStatus_built laws hBasic status).mp hStatus⟩
  · rintro ⟨args, hArgs, hSaid⟩
    obtain ⟨stapled, hMem, hBasic⟩ := hBuilt.exists_right hArgs
    exact ⟨stapled, hPerm.mem_iff.mpr hMem, (stapleStatus_built laws hBasic status).mpr hSaid⟩

/-- The status of one link. -/
theorem StapledFrom.status (laws : OcspLaws env) (h : StapledFrom env responses staples)
    (link : Certificate × Certificate) :
    (linkStatus env.toExternals staples link = some .revoked ↔ RevokedBy env responses link) ∧
      (linkStatus env.toExternals staples link = some .good ↔
        ConfirmedBy env responses link ∧ ¬ RevokedBy env responses link) ∧
        linkStatus env.toExternals staples link ≠ some .unknown := by
  have hRevoked : (∃ stapled ∈ staples,
      stapleStatus env.toExternals link.1 link.2 env.now stapled = some .revoked) ↔
        RevokedBy env responses link := by
    rw [h.says_iff laws]
    refine exists_congr fun args => and_congr_right fun _ => and_congr_left fun _ => ?_
    cases args.good <;> simp
  have hGood : (∃ stapled ∈ staples,
      stapleStatus env.toExternals link.1 link.2 env.now stapled = some .good) ↔
        ConfirmedBy env responses link := by
    rw [h.says_iff laws]
    refine exists_congr fun args => and_congr_right fun _ => and_congr_left fun _ => ?_
    cases args.good <;> simp
  have hKnown : ∀ stapled ∈ staples,
      stapleStatus env.toExternals link.1 link.2 env.now stapled ≠ some .unknown := by
    intro stapled hMem hUnknown
    obtain ⟨args, -, hStatus, -⟩ := (h.says_iff laws .unknown).mp ⟨stapled, hMem, hUnknown⟩
    cases hSaid : args.good with
    | true => simp [hSaid] at hStatus
    | false => simp [hSaid] at hStatus
  refine ⟨?_, ?_, searchStaples_known hKnown⟩
  · rw [linkStatus, stapledStatusFor_revoked_iff, ← hRevoked]
    exact exists_congr fun stapled => and_congr_right fun _ => stapleStatus_revoked_iff.symm
  · rw [linkStatus, stapledStatusFor, searchStaples_good_iff (.inl rfl) hKnown, ← hRevoked, ← hGood]
    simp

/-- What is stapled is extracted again. -/
theorem extractStapledOcsp_built (laws : OcspLaws env) {ders : List Octets}
    {choices : List RevocationInfoChoice} {signedData : SignedData}
    (hResponses : List.Forall₂ (fun args der => buildOcspResponse env args = some der) responses ders)
    (hChoices : List.Forall₂ (fun der choice => ocspChoice env.toCreateExternals der = some choice)
      ders choices)
    (hPerm : (signedData.crls.getD []).Perm choices) :
    StapledFrom env responses (extractStapledOcsp env.toExternals signedData) := by
  refine ⟨_, ?_, hPerm.filterMap _⟩
  clear hPerm
  induction hResponses generalizing choices with
  | nil =>
      cases hChoices
      exact .nil
  | @cons args der responses ders hBuilt _ ih =>
      cases hChoices with
      | @cons _ choice _ choices hChoice hRest =>
          simp only [buildOcspResponse, Option.bind_eq_bind, Option.bind_eq_some_iff,
            toOption_eq_some_iff] at hBuilt
          simp only [ocspChoice, Option.bind_eq_bind, Option.bind_eq_some_iff,
            toOption_eq_some_iff, Option.pure_def, Option.some.injEq] at hChoice
          obtain ⟨basic, hBasic, hWrite⟩ := hBuilt
          obtain ⟨element, hElement, rfl⟩ := hChoice
          rw [laws.tlv der element hElement, List.filterMap_cons_some (b := basic)]
          · exact .cons hBasic (ih hRest)
          · simp [laws.response _ _ hWrite]

end Staples

section Verdict

variable {env : OcspExternals} {responses : List StapleArgs} {staples : List BasicOcspResponse}
  {chain : List Certificate}

theorem StapledFrom.linkRevoked_iff (laws : OcspLaws env) (h : StapledFrom env responses staples)
    (link : Certificate × Certificate) :
    linkRevoked env.toExternals staples link = true ↔ RevokedBy env responses link := by
  rw [linkRevoked, beq_iff_eq]
  exact (h.status laws link).1

/-- The verdict on a chain, by the arguments of the responses. -/
theorem StapledFrom.verdict (laws : OcspLaws env) (h : StapledFrom env responses staples)
    (chain : List Certificate) :
    let verdict := applyStapledOcsp env.toExternals chain staples
    (verdict.1 = some .revoked ↔ ∃ link ∈ chain.zip chain.tail, RevokedBy env responses link) ∧
      (verdict.1 = some .good ↔ (∀ link ∈ chain.zip chain.tail, ¬ RevokedBy env responses link) ∧
        ∃ link, (chain.zip chain.tail).head? = some link ∧ ConfirmedBy env responses link) ∧
        verdict.1 ≠ some .unknown ∧
          verdict.2 = (revokedLinks env responses chain).map (revocationError env.toExternals) := by
  have hFilter : (chain.zip chain.tail).filter (linkRevoked env.toExternals staples) =
      revokedLinks env responses chain := by
    apply List.filter_congr
    intro link _
    classical
    rw [Bool.eq_iff_iff, h.linkRevoked_iff laws, decide_eq_true_iff]
  have hAny : (chain.zip chain.tail).any (linkRevoked env.toExternals staples) = true ↔
      ∃ link ∈ chain.zip chain.tail, RevokedBy env responses link := by
    rw [List.any_eq_true]
    exact exists_congr fun link => and_congr_right fun _ => h.linkRevoked_iff laws link
  dsimp only
  rw [applyStapledOcsp_eq, hFilter]
  cases hRevoked : (chain.zip chain.tail).any (linkRevoked env.toExternals staples) with
  | true =>
      obtain ⟨link, hMem, hBy⟩ := hAny.mp hRevoked
      rw [if_pos rfl]
      refine ⟨iff_of_true rfl ⟨link, hMem, hBy⟩, ?_, by simp, rfl⟩
      simp only [Option.some.injEq, reduceCtorEq, false_iff, not_and]
      exact fun hNone => absurd hBy (hNone link hMem)
  | false =>
      have hNone : ∀ link ∈ chain.zip chain.tail, ¬ RevokedBy env responses link := by
        intro link hMem hBy
        rw [hAny.mpr ⟨link, hMem, hBy⟩] at hRevoked
        cases hRevoked
      rw [if_neg Bool.false_ne_true]
      unfold leafStatus
      cases hHead : (chain.zip chain.tail).head? with
      | none =>
          have hEmpty : chain.zip chain.tail = [] := List.head?_eq_none_iff.mp hHead
          simp [hEmpty]
      | some link =>
          have hMem := List.mem_of_mem_head? hHead
          obtain ⟨hLinkRevoked, hLinkGood, hKnown⟩ := h.status laws link
          rw [Option.bind_some, hLinkRevoked, hLinkGood]
          refine ⟨?_, ?_, hKnown, rfl⟩
          · refine iff_of_false (hNone link hMem) ?_
            rintro ⟨other, hOther, hBy⟩
            exact hNone other hOther hBy
          · simp only [Option.some.injEq, exists_eq_left']
            exact ⟨fun hBoth => ⟨hNone, hBoth.1⟩, fun hBoth => ⟨hBoth.2, hNone link hMem⟩⟩

/-- The verification of a message with stapled responses. -/
structure StapledAs (env : OcspExternals) (leaf : Certificate) (content : Octets)
    (responses : List StapleArgs) (chain : List Certificate) (result : SmimeValidationResult)
    (entry : SignerValidation) : Prop where
  signers : result.signers = [entry]
  entryOf : EntryOf env.toExternals leaf entry
  content : result.signedContent = some content
  valid : entry.signatureValid = true ↔
    ∀ link ∈ chain.zip chain.tail, ¬ RevokedBy env responses link
  revoked : entry.validationDetails.revocationStatus = some .revoked ↔
    ∃ link ∈ chain.zip chain.tail, RevokedBy env responses link
  good : entry.validationDetails.revocationStatus = some .good ↔
    (∀ link ∈ chain.zip chain.tail, ¬ RevokedBy env responses link) ∧
      ∃ link, (chain.zip chain.tail).head? = some link ∧ ConfirmedBy env responses link
  known : entry.validationDetails.revocationStatus ≠ some .unknown
  failures : result.failures =
    (revokedLinks env responses chain).map (revocationError env.toExternals)

end Verdict

section Samples

/-! `rootCert` revokes `leafCert`, and the response is stapled to what `leafCert` signs. -/

def revokedArgs : StapleArgs where
  leafIssuerNameDer := nameDer rootCert.subject
  issuerPubkeyBits := rootCert.spki.subjectPublicKey
  leafSerial := [2]
  responderNameDer := nameDer rootCert.subject
  good := false
  thisUpdate := (2026, 5, 28)
  nextUpdate := none
  embeddedCerts := []
  certIdHash := .sha1
  ocspSign _ := [0x0C]

def revokedSingle : SingleResponse where
  certId := ⟨CertIdHash.sha1.algorithm, rootNameHash, rootKeyHash, [2]⟩
  certStatus := .revoked
  thisUpdate := responseTime
  nextUpdate := none

def revokedSingleDer : Octets :=
  let sha1Der := tlv [0x30] (tlv [0x06] [0x2B, 0x0E, 0x03, 0x02, 0x1A] ++ tlv [0x05] [])
  let certIdDer := tlv [0x30] (sha1Der ++ tlv [0x04] rootNameHash ++ tlv [0x04] rootKeyHash ++
    tlv [0x02] [2])
  tlv [0x30] (certIdDer ++ tlv [0xA1] responseTimeDer ++ responseTimeDer)

def revokedData : ResponseData := ⟨.byName rootCert.subject, [revokedSingle], responseTimeDer⟩

def revokedDataDer : Octets :=
  tlv [0x30] (tlv [0xA1] (nameDer rootCert.subject) ++ responseTimeDer ++ tlv [0x30] revokedSingleDer)

def revokedResponse : BasicOcspResponse := ⟨revokedData, rsaSha256Alg, [0x0C], none⟩

def revokedResponseContent : Octets :=
  let basicDer := tlv [0x30] (revokedDataDer ++
    (algorithm [0x2A, 0x86, 0x48, 0x86, 0xF7, 0x0D, 0x01, 0x01, 0x0B]).encode ++
      tlv [0x03] [0x00, 0x0C])
  tlv [0x0A] [0x00] ++ tlv [0xA0] (tlv [0x30]
    (tlv [0x06] [0x2B, 0x06, 0x01, 0x05, 0x05, 0x07, 0x30, 0x01, 0x01] ++ tlv [0x04] basicDer))

def revokedResponseDer : Octets := tlv [0x30] revokedResponseContent

def stapledSent : SignedData :=
  signedDataOf [leafCert, rootCert] [.other riOcspOid revokedResponseDer]
    (signerInfoOf leafCert.issuer leafCert.serial sha256Algorithm rsaSha256Alg innerSample.attrs
      [0x5A]) innerSample.content

/-- In the order in which the certificates stand. -/
def stapledRead : SignedData :=
  { stapledSent with certificates := some [.certificate rootCert, .certificate leafCert] }

/-- As without the staple, but for the version. -/
def stapledDer : Octets :=
  let fields := signedDataFields innerSample.digest innerSample.content
  let crlsDer := tlv [0xA1] (tlv [0xA1]
    (tlv [0x06] [0x2B, 0x06, 0x01, 0x05, 0x05, 0x07, 0x10, 0x02] ++ revokedResponseDer))
  tlv [0x30] ((Cms.oid idSignedData).encode ++ tlv [0xA0] (tlv [0x30] ((integer [5]).encode ++
    ((fields.drop 1).take 3).flatMap X690.Value.encode ++ crlsDer ++
      (fields.drop 4).flatMap X690.Value.encode)))

/-- As `signedExternals` and `ocspExternals`, for this response and this message. -/
def stapledExternals : OcspExternals where
  toCreateExternals :=
    { signedExternals essExternals.parseMessage with
      writeName := ocspExternals.writeName
      sha1Of := ocspExternals.sha1Of
      withYmdAndHms := ocspExternals.withYmdAndHms
      verifySignatureWithSignatureAlgorithm := ocspExternals.verifySignatureWithSignatureAlgorithm
      writeResponseData := fun data => if data = revokedData then .ok revokedDataDer else unanswered
      parseOcspResponse := fun der =>
        if der = revokedResponseDer then .ok ⟨0, some revokedResponse⟩ else unanswered
      parseTlv := fun der =>
        if der = revokedResponseDer then .ok ⟨⟨16, true, .universal⟩, revokedResponseContent, der⟩
        else unanswered
      parseContentInfo := fun der =>
        if der = stapledDer then .ok (.signedData stapledRead) else unanswered
      writeSignedData := fun digestAlgorithms signedData =>
        if digestAlgorithms = [sha256Algorithm] ∧ signedData = stapledSent then .ok stapledDer
        else unanswered }
  dateExists date := date = responseTime
  writeGeneralizedTime time := if time = responseTime then responseTimeDer else []
  writeOcspResponse resp :=
    if resp = ⟨0, some revokedResponse⟩ then .ok revokedResponseDer else unanswered

theorem stapledLaws : OcspLaws stapledExternals where
  names name := ⟨nameDer name, rfl⟩
  tlv der element h := by
    simp only [stapledExternals] at h
    split_ifs at h
    · cases h
      rfl
    · cases h
  response resp der h := by
    simp only [stapledExternals] at h ⊢
    split_ifs at h with hResp
    · cases h
      rw [if_pos rfl, hResp]
    · cases h

theorem stapledExternals_writeAttribute : stapledExternals.writeAttribute =
    (signedExternals essExternals.parseMessage).writeAttribute := rfl

theorem stapledExternals_parseAttributes : stapledExternals.parseAttributes =
    (signedExternals essExternals.parseMessage).parseAttributes := rfl

theorem stapledExternals_parseCertificate : stapledExternals.parseCertificate =
    (signedExternals essExternals.parseMessage).parseCertificate := rfl

theorem stapledExternals_parseName : stapledExternals.parseName =
    (signedExternals essExternals.parseMessage).parseName := rfl

/-- The attributes are those of the message without the staple. -/
theorem isSetOf_stapled {attrs : List Attribute} {data : Octets} :
    IsSetOf stapledExternals.toExternals attrs data ↔
      IsSetOf (signedExternals essExternals.parseMessage).toExternals attrs data := by
  unfold IsSetOf
  rw [stapledExternals_writeAttribute]

theorem stapledSigning : SigningLaws stapledExternals.toCreateExternals where
  attributes contentHash data parsed hSetOf hParsed := by
    rw [isSetOf_stapled] at hSetOf
    rw [stapledExternals_parseAttributes] at hParsed
    exact sampleSigning.attributes _ _ _ hSetOf hParsed
  dataOid := (@sampleSigning essExternals.parseMessage).dataOid
  digest := (@sampleSigning essExternals.parseMessage).digest
  signedData signer content sent der _ h := by
    simp only [stapledExternals] at h ⊢
    split_ifs at h with hSent
    · cases h
      obtain ⟨-, rfl⟩ := hSent
      exact ⟨stapledRead, ⟨.some (List.Perm.swap _ _ _), .some (.refl _), rfl⟩, if_pos rfl⟩
    · cases h
  sha256 := rfl
  permitted := (@sampleSigning essExternals.parseMessage).permitted
  rsaSha256 := rfl

/-- The arguments of `sampleSigner`, with the response. -/
def stapledSigner : StapledSigner := { sampleSigner with ocspRespDers := [revokedResponseDer] }

theorem stapledSigner_owns : stapledSigner.Owns stapledExternals.toCreateExternals leafCert where
  read := by
    rw [stapledExternals_parseCertificate]
    exact sampleSigner_owns.read
  issuer := by
    rw [stapledExternals_parseName]
    exact sampleSigner_owns.issuer
  serial := rfl
  alone der hDer cert hCert := by
    rw [stapledExternals_parseCertificate] at hCert
    exact sampleSigner_owns.alone der hDer cert hCert
  key := by
    have hOther : ¬ (([2] : Octets) = rootCert.spki.subjectPublicKey ∧
        ([0x5A] : Octets) = [0x0C]) := by decide
    refine ⟨⟨.rsa, rsaOid, [2]⟩, rfl, fun data => ?_⟩
    show (if ([2] : Octets) = rootCert.spki.subjectPublicKey ∧ ([0x5A] : Octets) = [0x0C] then
      (.ok () : Except String Unit) else _) = _
    rw [if_neg hOther]
    rfl

theorem stapledSigner_chains :
    stapledSigner.ChainsTo stapledExternals leafCert ⟨[.debug], none⟩ [leafCert, rootCert] :=
  ⟨[rootCert], [rootCert], [rootCert], rfl, rfl, rfl, fun _ _ => rfl⟩

theorem basicOcspResponse_sample :
    basicOcspResponse stapledExternals revokedArgs = some revokedResponse := by
  decide +kernel

theorem buildOcspResponse_sample :
    buildOcspResponse stapledExternals revokedArgs = some revokedResponseDer := by
  rw [buildOcspResponse, basicOcspResponse_sample]
  simp only [stapledExternals, if_true, Option.bind_eq_bind, Option.bind_some, toOption_ok]

theorem buildStapledCms_stapled :
    buildStapledCms stapledExternals.toCreateExternals stapledSigner essContent =
      some stapledDer := by
  have hDigest : stapledExternals.digest .sha256 essContent = innerSample.digest := by
    show ((answerFor SignedSample.content SignedSample.digest innerSample.content).toOption).getD []
      = _
    rw [answerFor_key outerSample_ne.2.2.2 (.inl rfl)]
    rfl
  have hSigned : signAttrs stapledExternals.toCreateExternals stapledSigner.leafSign
      innerSample.digest = some (innerSample.attrs, [0x5A]) := by
    have hWritten : writeSetOf stapledExternals.toExternals
        [contentTypeAttr, messageDigestAttr innerSample.digest] = .ok innerSample.attrsSetDer :=
      isSetOf_iff_writeSetOf.mpr (isSetOf_stapled.mpr (isSetOf_sample (.inl rfl)))
    have hParsed : stapledExternals.parseAttributes innerSample.attrsSetDer =
        .ok innerSample.attrs := by
      rw [stapledExternals_parseAttributes, signedExternals_parseAttributes,
        answerFor_key outerSample_ne.2.1 (.inl rfl)]
    simp only [signAttrs, hWritten, hParsed, toOption_ok, Option.bind_eq_bind, Option.bind_some,
      Option.pure_def, stapledSigner, sampleSigner]
  have hRoot : stapledExternals.parseCertificate stapledSigner.rootDer = .ok rootCert := by
    rw [stapledExternals_parseCertificate, signedExternals_parseCertificate]
    exact if_pos rfl
  have hChoice : ocspChoice stapledExternals.toCreateExternals revokedResponseDer =
      some (.other riOcspOid revokedResponseDer) := by
    simp only [ocspChoice, stapledExternals, if_true, toOption_ok, Option.bind_eq_bind,
      Option.bind_some, Option.pure_def]
  have hStaples : stapledSigner.ocspRespDers.mapM (ocspChoice stapledExternals.toCreateExternals) =
      some [.other riOcspOid revokedResponseDer] := by
    simp only [stapledSigner, List.mapM_cons, List.mapM_nil, hChoice, Option.bind_eq_bind,
      Option.bind_some, Option.pure_def]
  have hSerial : bigInt stapledSigner.leafSerial = some [2] := rfl
  have hExtra : (stapledSigner.extraCertDers.mapM fun der =>
      (stapledExternals.parseCertificate der).toOption) = some [] := rfl
  have hSent : signedDataOf [leafCert, rootCert] [.other riOcspOid revokedResponseDer]
      (signerInfoOf leafCert.issuer [2] sha256Algorithm rsaSha256Alg innerSample.attrs [0x5A])
        essContent = stapledSent := rfl
  have hWrite : stapledExternals.writeSignedData [sha256Algorithm] stapledSent = .ok stapledDer := by
    simp only [stapledExternals, and_self, if_true]
  simp only [buildStapledCms, hDigest, hSigned, stapledSigner_owns.read, hRoot,
    stapledSigner_owns.issuer, toOption_ok, hSerial, hExtra, hStaples, hSent, hWrite,
    Option.bind_eq_bind, Option.bind_some]

theorem revokedArgs_answered :
    revokedArgs.AnsweredBy stapledExternals (leafCert, rootCert) rootCert where
  names := ⟨nameDer rootCert.subject, rfl, rfl, rfl, rfl⟩
  may := .inl rfl
  valid := ⟨(1775054313, 2248094313), by decide +kernel, by decide, by decide⟩
  name := ⟨rootCert.subject, by decide +kernel, nameDer rootCert.subject, rfl, rfl⟩
  key := ⟨⟨.rsa, rsaOid, rootCert.spki.subjectPublicKey⟩, by decide +kernel, fun data => by
    simp [stapledExternals, ocspExternals, revokedArgs]⟩

end Samples

end Smime.CreateCms
