import CandyRuntime.Lib.Bytes
import CandyRuntime.Lib.Proc

/-!
# The identity bundle

`replace_identity_bundle`, which puts a renewed device certificate in place, and `atomic_bytes`, which
writes each of its files. Any step of a write can fail or be the last one of the process; only the
rename changes what is found under the name, and the directory is synced after it. The temporary
files are left out, as nothing reads them again.
-/

namespace CandyRuntime.CloudSync.Identity

open Lib Lib.Proc

/-- The steps of `atomic_bytes`. -/
inductive AtomicStep where
  | ensureDirectory
  | create
  | inspectParent
  | setOwner
  | write
  | sync
  | setMode
  | rename
  | syncDirectory
deriving DecidableEq, Repr

/-- What happens to a step. -/
inductive Fate where
  | works
  | fails
  | killed
deriving DecidableEq, Repr

/-- The error and what it was wrapped in. -/
inductive IdentityError where
  | read (name : String)
  | atomic (step : AtomicStep)
  | rollbackFailed (error rollbackError : IdentityError)
  | oldIdentityRestored (error : IdentityError)
deriving DecidableEq, Repr

/-- The identity directory. -/
abbrev Directory := String → Option Bytes

abbrev Files := Proc Directory IdentityError

def put (name : String) (bytes : Bytes) (d : Directory) : Directory :=
  fun other => if other = name then some bytes else d other

/-- A file and its content. -/
abbrev Entry := String × Bytes

/-- How the reads, the replacements and the writes of a rollback go. -/
structure Host where
  reads : String → Bool
  replaces : ℕ → AtomicStep → Fate
  restores : ℕ → AtomicStep → Fate

/-! ## One file -/

/-- One step of `atomic_bytes`. -/
def takeStep (fates : AtomicStep → Fate) (step : AtomicStep) : Files Unit := fun d =>
  match fates step with
  | .works => (.ok (), d)
  | .fails => (.err (.atomic step), d)
  | .killed => (.crash, d)

def takeSteps (fates : AtomicStep → Fate) : List AtomicStep → Files Unit
  | [] => pure ()
  | step :: rest => do
    takeStep fates step
    takeSteps fates rest

/-- `atomic_bytes`. -/
def atomicBytes (fates : AtomicStep → Fate) (name : String) (bytes : Bytes) : Files Unit := do
  takeSteps fates [.ensureDirectory, .create, .inspectParent, .setOwner, .write, .sync, .setMode,
    .rename]
  modify (put name bytes)
  takeStep fates .syncDirectory

/-- `read_bounded` with the limit of the bundle. -/
def readBounded (E : Host) (name : String) : Files Bytes := do
  ensure (E.reads name = true) (.read name)
  let bytes ← okOr ((← get) name) (.read name)
  ensure (bytes ≠ [] ∧ bytes.length ≤ 1024 * 1024) (.read name)
  return bytes

/-! ## The bundle -/

/-- The contents before the replacement. -/
def readPrevious (E : Host) : List Entry → Files (List Entry)
  | [] => pure []
  | (name, _) :: rest => do
    let contents ← readBounded E name
    let previous ← readPrevious E rest
    return (name, contents) :: previous

/-- The rollback: every file is written, and the last error is kept. -/
def restore (E : Host) : ℕ → List Entry → Option IdentityError → Files (Option IdentityError)
  | _, [], rollbackError => pure rollbackError
  | turn, (name, contents) :: rest, rollbackError => do
    let failed ← errorOf (atomicBytes (E.restores turn) name contents)
    restore E (turn + 1) rest (failed <|> rollbackError)

/-- The loop over the replacements. -/
def replaceFrom (E : Host) (previous : List Entry) : ℕ → List Entry → Files Unit
  | _, [] => pure ()
  | index, (name, bytes) :: rest => do
    match ← errorOf (atomicBytes (E.replaces index) name bytes) with
    | none => replaceFrom E previous (index + 1) rest
    | some error =>
      match ← restore E 0 (previous.take index).reverse none with
      | some rollbackError => fail (.rollbackFailed error rollbackError)
      | none => fail (.oldIdentityRestored error)

/-- `replace_identity_bundle`. -/
def replaceIdentityBundle (E : Host) (replacements : List Entry) : Files Unit := do
  let previous ← readPrevious E replacements
  replaceFrom E previous 0 replacements

/-- The replacements of `install_renewed_device_identity`. -/
def renewedBundle (certificateDer leafPem certificateChainPem mtlsIdentity renewedIdentity : Bytes) :
    List Entry :=
  [("device-cert.der", certificateDer), ("device-cert.pem", leafPem),
    ("device-chain.pem", certificateChainPem), ("device-mtls.pem", mtlsIdentity),
    -- the identity document is the commit marker of the transaction
    ("device-identity-v1.json", renewedIdentity)]

/-! ## The next renewal -/

/-- `CERTIFICATE_RENEWAL_WINDOW_SECONDS`. -/
def certificateRenewalWindowSeconds : ℤ := 3 * 24 * 60 * 60

/-- `certificate_renewal_due`, with both times in nanoseconds. -/
def certificateRenewalDue (expiresAt now : ℤ) : Bool :=
  (expiresAt - now).tdiv 1000000000 ≤ certificateRenewalWindowSeconds

end CandyRuntime.CloudSync.Identity
