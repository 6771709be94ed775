import Mathlib.Data.List.ReduceOption
import Smime.Layers
import Smime.Pkcs12

/-! When the entries of a PKCS#12 file that cannot be read hide the key or the
certificate of another entry. -/
namespace Smime.Pkcs12

open X690 (Octets tlv)
open X509 Mail

section Extraction

variable {env : P12Externals} {password : String}
  {step : BagValue → Except P12Error (Option Octets)}

/-- What both extractors do: the first of all that `step` finds in the bags. -/
def extractFirst (env : P12Externals) (step : BagValue → Except P12Error (Option Octets))
    (missing : P12Error) (data : Octets) (password : String) : Except P12Error Octets := do
  let allContents ← openSafeContents env data password
  let found ← allContents.findSomeM? fun contents => do
    let bags ← parseBags env contents
    bags.findSomeM? step
  orError missing found

theorem extractPrivateKeyFromP12_eq (data : Octets) :
    extractPrivateKeyFromP12 env data password =
      extractFirst env (keyOfBag env password) .noPrivateKey data password := rfl

theorem extractLeafCertificateFromP12_eq (data : Octets) :
    extractLeafCertificateFromP12 env data password =
      extractFirst env (leafOfBag env) .noLeafCertificate data password := rfl

/-- A readable entry with a bag that `step` finds something in. -/
def Holds (env : P12Externals) (password : String)
    (step : BagValue → Except P12Error (Option Octets)) (entry : SafeContent) : Prop :=
  ∃ (contents : Octets) (bags : List BagValue), openEntry env password entry = .ok (some contents) ∧
    parseBags env contents = .ok bags ∧ ∃ bag ∈ bags, ∃ found, step bag = .ok (some found)

/-- Every entry is readable, or of a type that is skipped. -/
def AllOpen (env : P12Externals) (password : String) (entries : List SafeContent) : Prop :=
  ∀ entry ∈ entries, ∃ opened, openEntry env password entry = .ok opened

/-- What a search comes across in an entry, once it is open. -/
def entryItems (env : P12Externals) (password : String)
    (step : BagValue → Except P12Error (Option Octets)) (entry : SafeContent) :
    List (Except P12Error (Option Octets)) :=
  match openEntry env password entry with
  | .ok (some contents) => itemsOf (parseBags env) step contents
  | _ => []

/-- Contents that do not parse and bags that fail all stand behind one that succeeds. -/
def FailuresBehind (env : P12Externals) (password : String)
    (step : BagValue → Except P12Error (Option Octets)) (entries : List SafeContent) : Prop :=
  ∀ before err behind, entries.flatMap (entryItems env password step) = before ++ .error err :: behind →
    ∃ found, .ok (some found) ∈ before

theorem holds_iff {entry : SafeContent} :
    Holds env password step entry ↔
      ∃ found, .ok (some found) ∈ entryItems env password step entry := by
  unfold Holds entryItems
  cases openEntry env password entry with
  | error err => simp
  | ok opened =>
      cases opened with
      | none => simp
      | some contents =>
          simp only [mem_itemsOf, Except.ok.injEq, Option.some.injEq]
          constructor
          · rintro ⟨_, bags, rfl, hParse, bag, hMem, found, hFound⟩
            exact ⟨found, bags, hParse, bag, hMem, hFound⟩
          · rintro ⟨found, bags, hParse, bag, hMem, hFound⟩
            exact ⟨contents, bags, rfl, hParse, bag, hMem, found, hFound⟩

theorem exists_mapM_openEntry_iff {entries : List SafeContent} :
    (∃ opened, entries.mapM (openEntry env password) = .ok opened) ↔ AllOpen env password entries := by
  unfold AllOpen
  induction entries with
  | nil => simp
  | cons entry rest ih =>
      rw [List.forall_mem_cons, ← ih]
      simp only [List.mapM_cons, Except.bind_eq_ok_iff, Except.pure_eq_ok', Except.ok.injEq]
      constructor
      · rintro ⟨_, opened, hEntry, others, hRest, -⟩
        exact ⟨⟨opened, hEntry⟩, others, hRest⟩
      · rintro ⟨⟨opened, hEntry⟩, others, hRest⟩
        exact ⟨_, opened, hEntry, others, hRest, rfl⟩

/-- The contents of the entries that open are searched as the entries themselves. -/
theorem flatMap_items_of_mapM {entries : List SafeContent} {opened : List (Option Octets)}
    (h : entries.mapM (openEntry env password) = .ok opened) :
    opened.reduceOption.flatMap (itemsOf (parseBags env) step) =
      entries.flatMap (entryItems env password step) := by
  rw [Except.mapM_eq_ok_iff] at h
  induction h with
  | nil => rfl
  | @cons entry found _ _ hEntry _ ih =>
      rw [List.flatMap_cons, ← ih, entryItems, hEntry]
      cases found with
      | none => rw [List.reduceOption_cons_of_none]; rfl
      | some contents => rw [List.reduceOption_cons_of_some, List.flatMap_cons]

/-- An extraction succeeds exactly when all entries open, and something is found
before anything fails. -/
theorem exists_extractFirst_iff {missing : P12Error} {data : Octets} {entries : List SafeContent}
    (hSafe : authenticatedSafe env data password = .ok entries) :
    (∃ found, extractFirst env step missing data password = .ok found) ↔
      AllOpen env password entries ∧ (∃ entry ∈ entries, Holds env password step entry) ∧
        FailuresBehind env password step entries := by
  have hItems : (∃ entry ∈ entries, Holds env password step entry) ↔
      ∃ found, .ok (some found) ∈ entries.flatMap (entryItems env password step) := by
    simp only [holds_iff, List.mem_flatMap]
    constructor
    · rintro ⟨entry, hMem, found, hFound⟩
      exact ⟨found, entry, hMem, hFound⟩
    · rintro ⟨found, entry, hMem, hFound⟩
      exact ⟨entry, hMem, found, hFound⟩
  rw [hItems, FailuresBehind, ← exists_findSomeM?_id_iff, ← exists_mapM_openEntry_iff]
  simp only [extractFirst, openSafeContents, hSafe, Except.ok_bind', Except.bind_eq_ok_iff,
    Except.pure_eq_ok', Except.ok.injEq, orError_eq_ok_iff, findSomeM?_containers]
  constructor
  · rintro ⟨found, allContents, ⟨opened, hOpened, rfl⟩, _, hFind, rfl⟩
    rw [flatMap_items_of_mapM hOpened] at hFind
    exact ⟨⟨opened, hOpened⟩, found, hFind⟩
  · rintro ⟨⟨opened, hOpened⟩, found, hFind⟩
    refine ⟨found, opened.reduceOption, ⟨opened, hOpened, rfl⟩, some found, ?_, rfl⟩
    rw [flatMap_items_of_mapM hOpened]
    exact hFind

/-- Whatever else its entries are, a file with a key in a readable one gives a key,
and one with a leaf certificate in a readable one a certificate. -/
def EntriesIndependent (env : P12Externals) (data : Octets) (password : String) : Prop :=
  ∀ entries : List SafeContent, authenticatedSafe env data password = .ok entries →
    ((∃ entry ∈ entries, Holds env password (keyOfBag env password) entry) →
        ∃ key : Octets, extractPrivateKeyFromP12 env data password = .ok key) ∧
      ((∃ entry ∈ entries, Holds env password (leafOfBag env) entry) →
        ∃ der : Octets, extractLeafCertificateFromP12 env data password = .ok der)

/-- The entries of a file are independent exactly when, for what it does hold, all of
them open and every failure stands behind a bag that succeeds. -/
theorem entriesIndependent_iff (env : P12Externals) (data : Octets) (password : String) :
    EntriesIndependent env data password ↔
      ∀ entries : List SafeContent, authenticatedSafe env data password = .ok entries →
        ((∃ entry ∈ entries, Holds env password (keyOfBag env password) entry) →
            AllOpen env password entries ∧
              FailuresBehind env password (keyOfBag env password) entries) ∧
          ((∃ entry ∈ entries, Holds env password (leafOfBag env) entry) →
            AllOpen env password entries ∧ FailuresBehind env password (leafOfBag env) entries) := by
  unfold EntriesIndependent
  refine forall₂_congr fun entries hSafe => ?_
  rw [extractPrivateKeyFromP12_eq, extractLeafCertificateFromP12_eq, exists_extractFirst_iff hSafe,
    exists_extractFirst_iff hSafe]
  refine and_congr (forall_congr' fun hKey => ?_) (forall_congr' fun hLeaf => ?_)
  · rw [and_iff_right hKey]
  · rw [and_iff_right hLeaf]

end Extraction

section Samples

/-! A file whose first entry, with its certificates, is encrypted as older programs do. -/

def pbeWithSha1And40BitRc2Cbc : PbeAlgorithm := ⟨[1, 2, 840, 113549, 1, 12, 1, 6], .other⟩

def encryptedDataOidDer : Octets :=
  [0x06, 0x09, 0x2A, 0x86, 0x48, 0x86, 0xF7, 0x0D, 0x01, 0x07, 0x06]

def keyBagOidDer : Octets :=
  [0x06, 0x0B, 0x2A, 0x86, 0x48, 0x86, 0xF7, 0x0D, 0x01, 0x0C, 0x0A, 0x01, 0x01]

/-- The private key of an Ed25519 key. -/
def keyTlv : Tlv :=
  let info := tlv [0x02] [0] ++ tlv [0x30] [0x06, 0x03, 0x2B, 0x65, 0x70] ++
    tlv [0x04] (tlv [0x04] (List.replicate 32 0x42))
  ⟨⟨0x10, true, .universal⟩, info, tlv [0x30] info⟩

def keyContents : Octets := tlv [0x30] (tlv [0x30] (keyBagOidDer ++ tlv [0xA0] keyTlv.fullData))

/-- Two blocks of RC2. -/
def certCiphertext : Octets := List.replicate 16 0xA5

/-- The algorithm, with a salt and 2048 iterations. -/
def rc2AlgorithmDer : Octets :=
  tlv [0x30] ([0x06, 0x0A, 0x2A, 0x86, 0x48, 0x86, 0xF7, 0x0D, 0x01, 0x0C, 0x01, 0x06] ++
    tlv [0x30] (tlv [0x04] [1, 2, 3, 4, 5, 6, 7, 8] ++ tlv [0x02] [0x08, 0x00]))

def legacyAuthSafe : Octets :=
  let certEntry := tlv [0x30] (encryptedDataOidDer ++ tlv [0xA0] (tlv [0x30] (tlv [0x02] [0] ++
    tlv [0x30] (dataOidDer ++ rc2AlgorithmDer ++ tlv [0x80] certCiphertext))))
  let keyEntry := tlv [0x30] (dataOidDer ++ tlv [0xA0] (tlv [0x04] keyContents))
  tlv [0x30] (certEntry ++ keyEntry)

def legacyP12 : Octets :=
  tlv [0x30] (tlv [0x02] [3] ++
    tlv [0x30] (dataOidDer ++ tlv [0xA0] (tlv [0x04] legacyAuthSafe)))

def legacyEntries : List SafeContent :=
  [.encryptedData pbeWithSha1And40BitRc2Cbc (some certCiphertext), .data (some keyContents)]

def legacyExternals : P12Externals where
  toCmsExternals :=
    { cmsExternals nestedMessage nestedContentInfo with
      displayOid := fun oid => ".".intercalate (oid.map toString) }
  parsePfx data :=
    if data = legacyP12 then .ok ⟨3, .data (some legacyAuthSafe), none⟩ else .error ""
  parseAuthenticatedSafe bytes := if bytes = legacyAuthSafe then .ok legacyEntries else .error ""
  parseSafeContents contents :=
    if contents = keyContents then .ok [.keyBag keyTlv] else .error ""
  parseBasicConstraints _ := .error ""
  duplicateExtension _ := []
  deriveKeyUtf8 _ _ _ _ _ := .error ""
  deriveKey _ _ _ _ _ := []
  verifyHmac _ _ _ _ := .error ""

/-- The key stands in the clear, and the entry before it hides it. -/
theorem entriesIndependent_fails : ¬ EntriesIndependent legacyExternals legacyP12 "" := by
  intro hIndependent
  have hKey : Holds legacyExternals "" (keyOfBag legacyExternals "") (.data (some keyContents)) :=
    ⟨keyContents, [.keyBag keyTlv], rfl, by decide +kernel, _, List.mem_cons_self, _, rfl⟩
  obtain ⟨key, hOk⟩ :=
    (hIndependent legacyEntries (by decide +kernel)).1 ⟨_, by simp [legacyEntries], hKey⟩
  have hFails : extractPrivateKeyFromP12 legacyExternals legacyP12 "" =
      .error (.other
        "Unsupported PBE scheme: 1.2.840.113549.1.12.1.6 (only PBES2 supported)") := by
    decide +kernel
  rw [hFails] at hOk
  cases hOk

end Samples

end Smime.Pkcs12
