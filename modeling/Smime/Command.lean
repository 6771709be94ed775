import Smime.Data.Utf8Chars
import Smime.Utils.Text
import Smime.VerifyMessage

/-! The `verify` command of `src/main.rs`. A string is its octets. -/
namespace Smime

open X690 (Octets)
open Utf8 (fromUtf8Lossy)

/-- `std::fs`, and `{:?}` of a path. -/
structure FileSystem where
  read : String → Except String Octets
  write : String → Octets → Except String Unit
  debugPath : String → String

structure TrustArgs where
  caFile : Option String := none
  debugAnchor : Bool := false

structure VerifyArgs where
  file : String := "./tests/general/smime-multipart.eml"
  trust : TrustArgs := {}
  out : Option String := none

section Model

variable (env : Externals) (fs : FileSystem)

def readEml (path : String) : Except String Octets := do
  let bytes ← (fs.read path).mapError fun err => env.localize (.readEml path err)
  return fromUtf8Lossy bytes

def writeOutput (out : Option String) (result : SmimeValidationResult) : Except String Unit :=
  match out with
  | none => .ok ()
  | some path => do
      let content ← orError "--out: no payload was produced to write" result.signedContent
      (fs.write path content).mapError fun err =>
        "Failed to write output " ++ fs.debugPath path ++ ": " ++ err

def resolveTrust (args : TrustArgs) : Except String TrustConfig := do
  let debug := if args.debugAnchor then [TrustStore.debug] else []
  match args.caFile with
  | some path => do
      let pem ← (fs.read path).mapError fun err =>
        "Failed to read CA file " ++ fs.debugPath path ++ ": " ++ err
      return { stores := debug, caFilePem := some pem }
  | none => return { stores := .builtin :: debug, caFilePem := none }

/-- `run` for the `Verify` command. -/
def runVerify (target : Utils.Target) (args : VerifyArgs) : Except String SmimeValidationResult := do
  let trust ← resolveTrust fs args.trust
  let emlStr ← readEml env fs args.file
  let result := verifySmimeFromEmlDetailed env target emlStr trust
  writeOutput fs args.out result
  return result

end Model

section Inversion

variable {env : Externals} {fs : FileSystem}

theorem readEml_ok_iff {path : String} {eml : Octets} :
    readEml env fs path = .ok eml ↔
      ∃ file : Octets, fs.read path = .ok file ∧ fromUtf8Lossy file = eml := by
  rw [readEml, Except.bind_eq_ok_iff]
  simp

/-- What the command reports is the verification of the converted file. -/
theorem runVerify_ok {target : Utils.Target} {args : VerifyArgs} {result : SmimeValidationResult}
    (h : runVerify env fs target args = .ok result) :
    ∃ (trust : TrustConfig) (file : Octets),
      resolveTrust fs args.trust = .ok trust ∧ fs.read args.file = .ok file ∧
        result = verifySmimeFromEmlDetailed env target (fromUtf8Lossy file) trust := by
  rw [runVerify, Except.bind_eq_ok_iff] at h
  obtain ⟨trust, hTrust, h⟩ := h
  rw [Except.bind_eq_ok_iff] at h
  obtain ⟨eml, hEml, h⟩ := h
  rw [Except.bind_eq_ok_iff] at h
  obtain ⟨_, -, h⟩ := h
  obtain ⟨file, hFile, rfl⟩ := readEml_ok_iff.mp hEml
  exact ⟨trust, file, hTrust, hFile, (Except.ok.inj h).symm⟩

/-- Without a file for the payload nothing more can fail. -/
theorem runVerify_of_read {target : Utils.Target} {args : VerifyArgs} {trust : TrustConfig}
    {file : Octets} (hTrust : resolveTrust fs args.trust = .ok trust)
    (hRead : fs.read args.file = .ok file) (hOut : args.out = none) :
    runVerify env fs target args =
      .ok (verifySmimeFromEmlDetailed env target (fromUtf8Lossy file) trust) := by
  have hEml : readEml env fs args.file = .ok (fromUtf8Lossy file) :=
    readEml_ok_iff.mpr ⟨file, hRead, rfl⟩
  rw [runVerify, hTrust, Except.ok_bind', hEml, Except.ok_bind', hOut]
  rfl

end Inversion

end Smime
