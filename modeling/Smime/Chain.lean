import Smime.Ocsp

/-! The certificate chain of a signer, by `src/lib.rs`: the trust anchors, the
chain verifier, and the stapled revocation signals along a verified chain. -/
namespace Smime

open X690 (Octets)
open X509 Utils

variable (env : Externals)

def sha256FingerprintHex (cert : Certificate) : Option String :=
  match env.writeCertificate cert with
  | .ok der => some (hexEncode (sha256Of env der))
  | .error _ => none

def fingerprintOrError (cert : Certificate) : String :=
  (sha256FingerprintHex env cert).getD "<encoding error>"

/-- The certificates of a PEM bundle; blocks that do not parse are skipped. -/
def loadBundle (bundle : Octets) (label : String) : Except SmimeError (List Certificate) := do
  let blocks ← (env.parsePemMany bundle).mapError fun e => .loadCaBundle label e
  return blocks.filterMap fun block =>
    if Mail.eqIgnoreAsciiCase block.1 "CERTIFICATE" then (env.parseCertificate block.2).toOption
    else none

def loadCaCerts (trustStores : List TrustStore) (caFilePem : Option Octets) :
    Except SmimeError (List Certificate) := do
  let builtin ← trustStores.mapM fun store => loadBundle env (env.caBundle store) store.debugName
  let custom ← match caFilePem with
    | some bundle => loadBundle env bundle "CAfile"
    | none => .ok []
  return builtin.flatten ++ custom

def policyStep {α : Type} (step : String) (result : Except String α) : Except SmimeError α :=
  result.mapError (.policySetup step)

def buildPolicyBuilder (caCerts : List Certificate) : Except SmimeError env.Builder := do
  let store ← policyStep "create CA storage" (env.newStore caCerts)
  let builder ← policyStep "create policy" (env.withStore env.newBuilder store)
  let builder ← policyStep "set max chain depth" (env.withMaxChainDepth builder 4)
  policyStep "set verification time" (env.withTime builder env.nowAsn1)

/-- Fingerprints of the embedded certificates that make up a verified chain. -/
def verifiedChainFingerprints (chain certs : List Certificate) : List String :=
  chain.filterMap fun c =>
    (certs.find? fun p7 => p7.issuer == c.issuer && p7.serial == c.serial).bind
      (sha256FingerprintHex env)

def intermediariesOf (signerLeaf : Certificate) (certs : List Certificate) : List Certificate :=
  certs.filter fun c => c ≠ signerLeaf ∧ c.issuer ≠ c.subject

/-- What the loop over the chain has seen. -/
structure OcspScan where
  leafStatus : Option StapledStatus := none
  anyRevoked : Bool := false
  errors : List SmimeError := []

/-- The certificate at `i`, against its own issuer. -/
def OcspScan.step (staples : List BasicOcspResponse) (scan : OcspScan)
    (link : Nat × Certificate × Certificate) : OcspScan :=
  let (i, subject, issuer) := link
  match stapledStatusFor env staples subject issuer env.now with
  | none => scan
  | some status =>
      { leafStatus := if i = 0 then some status else scan.leafStatus
        anyRevoked := scan.anyRevoked || status == .revoked
        errors :=
          if status = .revoked then
            scan.errors ++ [.stapledOcspRevoked (env.dnToString subject.subject)]
          else scan.errors }

/-- Every certificate of the chain but the last, with its position and issuer. -/
def chainLinks (chain : List Certificate) : List (Nat × Certificate × Certificate) :=
  (chain.zip chain.tail).mapIdx fun i link => (i, link)

/-- The leaf's status, unless a certificate of the chain is revoked; and the
revocations. The trust anchor is never checked. -/
def applyStapledOcsp (verifiedChain : List Certificate) (staples : List BasicOcspResponse) :
    Option StapledStatus × List SmimeError :=
  if staples.isEmpty then (none, [])
  else
    let scan := (chainLinks verifiedChain).foldl (OcspScan.step env staples) {}
    (if scan.anyRevoked then some .revoked else scan.leafStatus, scan.errors)

/-- What `validate_chain` returns. -/
structure ChainValidation where
  chain : List String
  trusted : Bool
  revocationStatus : Option StapledStatus
  failures : List SmimeError

def validateChain (signerLeaf : Certificate) (certs : List Certificate) (verifier : env.Verifier)
    (staples : List BasicOcspResponse) (idx : Nat) : ChainValidation :=
  match env.verify verifier signerLeaf (intermediariesOf signerLeaf certs) with
  | .ok verified =>
      let (revocationStatus, failures) := applyStapledOcsp env verified staples
      { chain := verifiedChainFingerprints env verified certs
        trusted := revocationStatus != some .revoked
        revocationStatus
        failures }
  | .error e =>
      { chain := []
        trusted := false
        revocationStatus := none
        failures := [.chainValidation (fingerprintOrError env signerLeaf) idx e] }

end Smime
