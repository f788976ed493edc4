import CandyRuntime.CloudSync.Grant
import Mathlib.Data.PNat.Basic

/-!
# The upgrade worker of the Cloud synchronizer

`upgrade.rs` and the shell script `candy-cloud-sync-handoff`. A run of the worker takes one job
from Cloud, keeps it in a journal while the installer works, and submits a terminal receipt before
the journal goes away. A runtime job on OpenWrt replaces the worker itself: the worker commits a
marker and schedules the helper script, which restarts the service and leaves completion or
failure evidence; the receipt is submitted by a later run. The helper works at the same time as
the worker, so every operation of the worker is preceded by some moves of the helper.

The catalog, the installer and the digests of the installed files are what the environment says
they are. The clock is past the epoch.
-/

namespace CandyRuntime.CloudSync.Upgrade

open Lib Lib.Proc NetdProto NetdV2

/-! ## Data -/

/-- `Target`. -/
structure Target where
  component : String
  currentVersion : String
  version : String
  versionKey : String
  digest : String
deriving DecidableEq, Repr

/-- `Job`, as far as the worker looks at it. -/
structure Job where
  id : Uuid
  deviceId : Uuid
  deviceKeyId : Uuid
  target : Target
deriving DecidableEq, Repr

/-- The phases of a journal. -/
inductive Phase where
  | prepared
  | executing
  | succeeded
  | failed
deriving DecidableEq, Repr

def Phase.text : Phase → String
  | .prepared => "prepared"
  | .executing => "executing"
  | .succeeded => "succeeded"
  | .failed => "failed"

/-- `Journal`. -/
structure Journal where
  job : Job
  phase : Phase
  errorCode : Option String
  failurePhase : Option String
  errorDetail : Option String
deriving DecidableEq, Repr

/-- `RuntimeHandoffMarker`. -/
structure RuntimeHandoffMarker where
  schemaVersion : ℕ
  jobId : Uuid
  version : String
  syncBinarySha256 : String
  syncLoopSha256 : String
  requestedAt : ℕ
deriving DecidableEq, Repr

/-- `RuntimeHandoffFailure`. -/
structure RuntimeHandoffFailure where
  schemaVersion : ℕ
  state : String
  phase : String
  errorCode : String
  version : String
  updatedAt : ℕ
deriving DecidableEq, Repr

/-- `UpgradeOutcome`. -/
inductive UpgradeOutcome where
  | continue
  | restartRequired
deriving DecidableEq, Repr

/-- `completed_upgrade_outcome`. -/
def completedUpgradeOutcome (component : String) (phase : Phase) : UpgradeOutcome :=
  if component = "runtime" ∧ phase = .succeeded then .restartRequired else .continue

/-- A text of these many characters at most, all of them letters, digits or one of `._+-`. -/
def isToken (limit : ℕ) (value : String) : Bool :=
  value.length ≠ 0 && value.length ≤ limit
    && value.toList.all fun c => c.isAlphanum || c = '.' || c = '_' || c = '+' || c = '-'

/-- `token`. -/
def token (value : String) : Bool := isToken 80 value

/-- The body of a receipt. -/
structure Receipt where
  id : Uuid
  state : String
  phase : String
  errorCode : Option String
  errorDetail : Option String
deriving DecidableEq, Repr

/-- `receipt_body`. -/
def receiptBody (journal : Journal) (state : String) : Receipt where
  id := journal.job.id
  state
  phase := journal.failurePhase.getD journal.phase.text
  errorCode := journal.errorCode
  errorDetail := journal.errorDetail

/-- The results of `cloud_failure_phase`. -/
inductive FailurePhase where
  | rolledBack
  | healthCheck
  | prepared
  | verifying
  | installing
  | executing
deriving DecidableEq, Repr

def FailurePhase.text : FailurePhase → String
  | .rolledBack => "rolled_back"
  | .healthCheck => "health_check"
  | .prepared => "prepared"
  | .verifying => "verifying"
  | .installing => "installing"
  | .executing => "executing"

/-- `UpgradeFailure`. -/
structure UpgradeFailure where
  phase : FailurePhase
  errorCode : String
  detail : String
deriving DecidableEq, Repr

/-! ## The node -/

/-- The files of the worker and of the helper. -/
structure Disk where
  journal : Option Journal
  marker : Option RuntimeHandoffMarker
  completed : Option RuntimeHandoffMarker
  failure : Option RuntimeHandoffFailure
deriving DecidableEq, Repr

/-- How far the helper that has the lock is. From its second stage on it goes by the marker it has
read. -/
inductive Helper where
  | starting (job : Uuid)
  | loaded (marker : RuntimeHandoffMarker)
  | cleared (marker : RuntimeHandoffMarker)
  | restarted (marker : RuntimeHandoffMarker)
  | published (marker : RuntimeHandoffMarker)
deriving DecidableEq, Repr

/-- The job whose marker the helper was started for, or has read. -/
def Helper.job : Helper → Uuid
  | .starting job => job
  | .loaded marker | .cleared marker | .restarted marker | .published marker => marker.jobId

/-- The version the helper writes into failure evidence. -/
def Helper.version : Helper → String
  | .starting _ => "unknown"
  | .loaded marker | .cleared marker | .restarted marker | .published marker => marker.version

/-- The helper with the lock, and those that have been started and do not have it. -/
structure Helpers where
  holder : Option Helper
  waiting : List Uuid
deriving DecidableEq, Repr

/-- What is seen of a run of the node. -/
inductive Event where
  | offered (job : Job)
  | journaled (journal : Journal)
  | removed (journal : Journal)
  | installs (job : Uuid)
  | installed (job : Uuid)
  | submitted (receipt : Receipt) (running : Option String) (disk : Disk)
  | acknowledged (receipt : Receipt)
  | marked (marker : RuntimeHandoffMarker) (disk : Disk) (helpers : Helpers)
  | recorded (job : Uuid) (failure : RuntimeHandoffFailure)
  | completed (marker : RuntimeHandoffMarker)
  | ended (result : Except String UpgradeOutcome)

/-- The codes of `fail_handoff`. -/
inductive HandoffCode where
  | lockFailed
  | markerInvalid
  | jsonfilterMissing
  | staleCompletionCleanupFailed
  | completionConflict
  | binaryInvalid
  | loopInvalid
  | binaryChanged
  | loopChanged
  | serviceMissing
  | serviceRestartFailed
  | artifactChangedAfterRestart
  | completionWriteFailed
deriving DecidableEq, Repr

def HandoffCode.text : HandoffCode → String
  | .lockFailed => "handoff_lock_failed"
  | .markerInvalid => "handoff_marker_invalid"
  | .jsonfilterMissing => "handoff_jsonfilter_missing"
  | .staleCompletionCleanupFailed => "handoff_stale_completion_cleanup_failed"
  | .completionConflict => "handoff_completion_conflict"
  | .binaryInvalid => "handoff_binary_invalid"
  | .loopInvalid => "handoff_loop_invalid"
  | .binaryChanged => "handoff_binary_changed"
  | .loopChanged => "handoff_loop_changed"
  | .serviceMissing => "handoff_service_missing"
  | .serviceRestartFailed => "handoff_service_restart_failed"
  | .artifactChangedAfterRestart => "handoff_artifact_changed_after_restart"
  | .completionWriteFailed => "handoff_completion_write_failed"

/-- The moves of the helpers. -/
inductive Move where
  /-- The first one that waits asks for the lock. -/
  | enter
  /-- The first one that waits finds the lock half taken. -/
  | contend (now : ℕ+)
  /-- The marker is read. -/
  | load (now : ℕ+)
  /-- The completion evidence is compared with the marker. -/
  | compare (now : ℕ+)
  /-- The installed files are checked and the service is restarted. -/
  | restart (binary loop : String) (running : Bool) (now : ℕ+)
  /-- The marker is copied to the completion evidence. -/
  | publish (now : ℕ+)
  /-- The failure evidence is removed. -/
  | clear
  /-- The helper gives up. -/
  | abort (code : HandoffCode) (now : ℕ+)
  /-- The helper is killed. -/
  | die
deriving DecidableEq, Repr

/-- How the submission of a receipt ends. -/
inductive Reply where
  | acknowledged
  | lost
  | killed
deriving DecidableEq, Repr

/-- How the command that starts the helper ends. The last two may have started it. -/
inductive Scheduled where
  | done
  | failed (started : Bool)
  | killed (started : Bool)
deriving DecidableEq, Repr

/-- What the environment does around one operation of the worker. -/
structure Moment where
  moves : List Move
  now : ℕ+
  reads : Bool
  write : Write
  reply : Reply
  scheduled : Scheduled
  binary : Option String
  loop : Option String

/-- The node. What its environment will do is in `moments`; the trace has the latest event
first. -/
structure Node where
  disk : Disk
  helpers : Helpers
  moments : ℕ → Moment
  trace : List Event

/-! ## Changes of the files -/

namespace Node

def logs (w : Node) (event : Event) : Node := { w with trace := event :: w.trace }

/-- The journal has replaced its file. -/
def journals (w : Node) (journal : Journal) : Node :=
  { w with disk := { w.disk with journal := some journal } }.logs (.journaled journal)

/-- The file of the journal is gone. -/
def removes (w : Node) (journal : Journal) : Node :=
  { w with disk := { w.disk with journal := none } }.logs (.removed journal)

/-- The marker has been written. -/
def marks (w : Node) (marker : RuntimeHandoffMarker) : Node :=
  { w with disk := { w.disk with marker := some marker } }.logs (.marked marker w.disk w.helpers)

/-- Failure evidence has been written. -/
def records (w : Node) (job : Uuid) (failure : RuntimeHandoffFailure) : Node :=
  { w with disk := { w.disk with failure := some failure } }.logs (.recorded job failure)

def dropsMarker (w : Node) : Node := { w with disk := { w.disk with marker := none } }

def dropsCompleted (w : Node) : Node := { w with disk := { w.disk with completed := none } }

def dropsFailure (w : Node) : Node := { w with disk := { w.disk with failure := none } }

end Node

/-! ## The helper -/

/-- `valid_token` of the helper. -/
def validToken (value : String) : Bool := isToken 128 value

namespace Node

/-- `fail_handoff`: the evidence is written and the helper ends. -/
def failHandoff (w : Node) (job : Uuid) (code : HandoffCode) (version : String) (now : ℕ+) : Node :=
  let failure : RuntimeHandoffFailure := {
    schemaVersion := 1
    state := "failed"
    phase := "runtime_handoff"
    errorCode := code.text
    version := if validToken version then version else "unknown"
    updatedAt := now }
  w.records job failure

/-- The helper with the lock goes on to another stage, or ends. -/
def holds (w : Node) (holder : Option Helper) : Node :=
  { w with helpers := { w.helpers with holder } }

/-- The helper with the lock ends with failure evidence. -/
def fails (w : Node) (h : Helper) (code : HandoffCode) (version : String) (now : ℕ+) : Node :=
  (w.failHandoff h.job code version now).holds none

/-- The checks of the helper on the marker. -/
def loads (w : Node) (h : Helper) (now : ℕ+) : Node :=
  match w.disk.marker with
  | none => w.fails h .markerInvalid "unknown" now
  | some marker =>
    if marker.requestedAt ≠ 0 ∧ marker.schemaVersion = 1 ∧ validToken marker.version
        ∧ isHex marker.syncBinarySha256 64 ∧ isHex marker.syncLoopSha256 64 then
      w.holds (some (.loaded marker))
    else w.fails (.loaded marker) .markerInvalid marker.version now

/-- `cmp -s` reads the marker again. Evidence of another version is removed. -/
def compares (w : Node) (marker : RuntimeHandoffMarker) (now : ℕ+) : Node :=
  match w.disk.completed with
  | none => w.holds (some (.cleared marker))
  | some completed =>
    if w.disk.marker = some completed then
      w.dropsFailure.holds none
    else if completed.schemaVersion = 1 ∧ validToken completed.version
        ∧ completed.version ≠ marker.version then
      w.dropsCompleted.holds (some (.cleared marker))
    else w.fails (.loaded marker) .completionConflict marker.version now

/-- The restart, between two checks of the installed files. -/
def restarts (w : Node) (marker : RuntimeHandoffMarker) (binary loop : String) (running : Bool)
    (now : ℕ+) : Node :=
  if binary ≠ marker.syncBinarySha256 then
    w.fails (.cleared marker) .binaryChanged marker.version now
  else if loop ≠ marker.syncLoopSha256 then
    w.fails (.cleared marker) .loopChanged marker.version now
  else if !running then w.fails (.cleared marker) .serviceRestartFailed marker.version now
  else w.holds (some (.restarted marker))

/-- `cp "$MARKER"`: the marker that is there now. -/
def publishes (w : Node) (marker : RuntimeHandoffMarker) (now : ℕ+) : Node :=
  match w.disk.marker with
  | none => w.fails (.restarted marker) .completionWriteFailed marker.version now
  | some current =>
    ({ w with disk := { w.disk with completed := some current } }.logs (.completed current)).holds
      (some (.published marker))

/-- One move of the helpers; a move that does not fit the stage does nothing. -/
def moves (w : Node) : Move → Node
  | .enter =>
    match w.helpers.waiting, w.helpers.holder with
    | job :: waiting, none => { w with helpers := ⟨some (.starting job), waiting⟩ }
    | _ :: waiting, holder => { w with helpers := ⟨holder, waiting⟩ }
    | [], _ => w
  | .contend now =>
    match w.helpers.waiting with
    | job :: waiting =>
      { w with helpers := { w.helpers with waiting } }.failHandoff job .lockFailed "unknown" now
    | [] => w
  | .load now =>
    match w.helpers.holder with
    | some (.starting job) => w.loads (.starting job) now
    | _ => w
  | .compare now =>
    match w.helpers.holder with
    | some (.loaded marker) => w.compares marker now
    | _ => w
  | .restart binary loop running now =>
    match w.helpers.holder with
    | some (.cleared marker) => w.restarts marker binary loop running now
    | _ => w
  | .publish now =>
    match w.helpers.holder with
    | some (.restarted marker) => w.publishes marker now
    | _ => w
  | .clear =>
    match w.helpers.holder with
    | some (.published _) => w.dropsFailure.holds none
    | _ => w
  | .abort code now =>
    match w.helpers.holder with
    | some h => w.fails h code h.version now
    | none => w
  | .die => w.holds none

end Node

/-! ## Operations of the worker -/

/-- A step of the worker. -/
abbrev Upg := Proc Node String

/-- The helpers have moved, and the next operation of the worker meets its circumstances. -/
def moment : Upg Moment := fun w =>
  (.ok (w.moments 0),
    (w.moments 0).moves.foldl Node.moves { w with moments := fun n => w.moments (n + 1) })

/-- A durable operation on the files. -/
def writes (error : String) (f : Node → Node) : Upg Unit := do
  let m ← moment
  durable m.write error f

/-- A read that finds its files readable. -/
def reads (error : String) : Upg Node := do
  let m ← moment
  ensure (m.reads = true) error
  get

/-- The process is killed. -/
def killed {α : Type} : Upg α := fun w => (.crash, w)

def log (event : Node → Event) : Upg Unit := modify fun w => w.logs (event w)

def writeJournal (journal : Journal) : Upg Unit :=
  writes "replace atomic state file" (·.journals journal)

/-- `remove_file` of the journal. -/
def removeJournal (journal : Journal) : Upg Unit := writes "remove journal" (·.removes journal)

def removeMarker : Upg Unit := writes "remove marker" Node.dropsMarker

def removeCompleted : Upg Unit := writes "remove completion" Node.dropsCompleted

def removeFailure : Upg Unit := writes "remove failure" Node.dropsFailure

/-- The circumstances of one run of the worker: its identity and its executable, the answers of
Cloud and of the catalog, and how the installer ends. `changed` is what a run reports if the
catalog has another target than the job. -/
structure Round where
  ready : Bool
  deviceId : Uuid
  deviceKeyId : Uuid
  running : Option String
  offer : Option (Option Job)
  candidate : Option Target
  install : Except UpgradeFailure Unit
  changed : UpgradeFailure
  installKilled : Bool

/-- `receipt`. -/
def receipt (r : Round) (journal : Journal) (state : String) : Upg Unit := do
  let m ← moment
  log fun w => .submitted (receiptBody journal state) r.running w.disk
  match m.reply with
  | .acknowledged => log fun _ => .acknowledged (receiptBody journal state)
  | .lost => fail "receipt"
  | .killed => killed

/-! ## The handoff -/

/-- `runtime_handoff_marker`. -/
def runtimeHandoffMarker (journal : Journal) : Upg RuntimeHandoffMarker := do
  let m ← moment
  let binary ← okOr m.binary "runtime_handoff_artifact_unsafe"
  let loop ← okOr m.loop "runtime_handoff_artifact_unsafe"
  let marker : RuntimeHandoffMarker := {
    schemaVersion := 1
    jobId := journal.job.id
    version := journal.job.target.version
    syncBinarySha256 := binary
    syncLoopSha256 := loop
    requestedAt := m.now }
  let w ← reads "read marker"
  match w.disk.marker with
  | none => return marker
  | some committed =>
    ensure (committed.schemaVersion = marker.schemaVersion ∧ committed.jobId = marker.jobId
        ∧ committed.version = marker.version
        ∧ committed.syncBinarySha256 = marker.syncBinarySha256
        ∧ committed.syncLoopSha256 = marker.syncLoopSha256 ∧ committed.requestedAt ≠ 0)
      "runtime_handoff_marker_conflict"
    return committed

/-- What `validate_runtime_handoff_marker` asks for. -/
def RuntimeHandoffMarker.isValid (marker : RuntimeHandoffMarker) : Bool :=
  marker.schemaVersion = 1 && token marker.version && isHex marker.syncBinarySha256 64
    && isHex marker.syncLoopSha256 64 && marker.requestedAt ≠ 0

/-- `ensure_runtime_handoff_marker`. -/
def ensureRuntimeHandoffMarker (marker : RuntimeHandoffMarker) : Upg Unit := do
  ensure (marker.isValid = true) "runtime_handoff_marker_invalid"
  let w ← reads "read marker"
  match w.disk.marker with
  | some committed => ensure (committed = marker) "runtime_handoff_marker_conflict"
  | none =>
    writes "replace atomic state file" (·.marks marker)

/-- `read_runtime_handoff_completion`. -/
def readRuntimeHandoffCompletion (marker : RuntimeHandoffMarker) : Upg Bool := do
  let w ← reads "read completion"
  match w.disk.completed with
  | none => return false
  | some completed =>
    if completed ≠ marker then
      if completed.schemaVersion = marker.schemaVersion ∧ token completed.version
          ∧ completed.version ≠ marker.version then do
        removeCompleted
        return false
      else fail "runtime_handoff_completion_conflict"
    else return true

/-- What `read_runtime_handoff_failure` asks for. -/
def RuntimeHandoffFailure.isValid (failure : RuntimeHandoffFailure) : Bool :=
  failure.schemaVersion = 1 && failure.state = "failed" && failure.phase = "runtime_handoff"
    && token failure.errorCode && token failure.version && failure.updatedAt ≠ 0

/-- `read_runtime_handoff_failure`. -/
def readRuntimeHandoffFailure (marker : RuntimeHandoffMarker) :
    Upg (Option RuntimeHandoffFailure) := do
  let w ← reads "read failure"
  match w.disk.failure with
  | none => return none
  | some failure => do
    ensure (failure.isValid = true) "runtime_handoff_failure_invalid"
    if failure.version ≠ marker.version then do
      removeFailure
      return none
    else return some failure

/-- `record_runtime_handoff_failure`. -/
def recordRuntimeHandoffFailure (marker : RuntimeHandoffMarker) (errorCode : String) :
    Upg Unit := do
  let m ← moment
  let failure : RuntimeHandoffFailure := {
    schemaVersion := 1
    state := "failed"
    phase := "runtime_handoff"
    errorCode
    version := marker.version
    updatedAt := m.now }
  writes "replace atomic state file" (·.records marker.jobId failure)

/-- `runtime_handoff_timed_out`. -/
def runtimeHandoffTimedOut (marker : RuntimeHandoffMarker) (now : ℕ) : Bool :=
  5 * 60 ≤ now - marker.requestedAt

/-- The init script has started a helper for the marker that is there. -/
def Node.starts (w : Node) : Node :=
  match w.disk.marker with
  | some marker => { w with
      helpers := { w.helpers with waiting := w.helpers.waiting ++ [marker.jobId] } }
  | none => w

/-- `schedule_openwrt_runtime_handoff`: without a marker the init script refuses. -/
def scheduleOpenwrtRuntimeHandoff : Upg Unit := do
  let m ← moment
  let w ← get
  ensure (w.disk.marker.isSome = true) "runtime_handoff_schedule_failed"
  match m.scheduled with
  | .done => modify Node.starts
  | .failed started => do
    when (started = true) (modify Node.starts)
    fail "runtime_handoff_schedule_failed"
  | .killed started => do
    when (started = true) (modify Node.starts)
    killed

/-- `schedule_committed_runtime_handoff`. -/
def scheduleCommittedRuntimeHandoff (marker : RuntimeHandoffMarker) : Upg Unit :=
  handle scheduleOpenwrtRuntimeHandoff fun error => do
    recordRuntimeHandoffFailure marker "handoff_schedule_failed"
    fail error

/-- `begin_runtime_handoff`. -/
def beginRuntimeHandoff (marker : RuntimeHandoffMarker) : Upg UpgradeOutcome := do
  ensureRuntimeHandoffMarker marker
  let w ← get
  ensure (w.disk.journal.isSome = true) "runtime_handoff_journal_missing"
  scheduleCommittedRuntimeHandoff marker
  return .continue

/-- The evidence is removed file by file. -/
def removeEvidence : Upg Unit := do
  removeMarker
  removeCompleted
  removeFailure

/-- `finalize_terminal_journal`. -/
def finalizeTerminalJournal (r : Round) (journal : Journal) : Upg UpgradeOutcome := do
  receipt r journal journal.phase.text
  removeJournal journal
  return completedUpgradeOutcome journal.job.target.component journal.phase

/-- `finalize_completed_runtime_handoff`. -/
def finalizeCompletedRuntimeHandoff (r : Round) (journal : Journal) : Upg UpgradeOutcome := do
  receipt r journal "succeeded"
  removeJournal journal
  removeEvidence
  return .continue

/-- The journal of a runtime that was installed and not handed over. -/
def Journal.handoffFailed (journal : Journal) (marker : RuntimeHandoffMarker)
    (failure : RuntimeHandoffFailure) : Journal :=
  { journal with
    phase := .failed
    failurePhase := some "runtime_handoff"
    errorCode := some failure.errorCode
    errorDetail := some ("Runtime " ++ marker.version
      ++ " installed but the full Cloud sync service handoff failed") }

/-- `finalize_failed_runtime_handoff`. -/
def finalizeFailedRuntimeHandoff (r : Round) (journal : Journal) (marker : RuntimeHandoffMarker)
    (failure : RuntimeHandoffFailure) : Upg Unit := do
  let journal := journal.handoffFailed marker failure
  writeJournal journal
  receipt r journal "failed"
  removeJournal journal

/-- The part of `finish_terminal_upgrade` after the failure evidence was read a first time. -/
def settleHandoff (r : Round) (journal : Journal) (marker : RuntimeHandoffMarker) :
    Upg UpgradeOutcome := do
  let failure ← readRuntimeHandoffFailure marker
  let m ← moment
  when (failure = none ∧ runtimeHandoffTimedOut marker m.now)
    (recordRuntimeHandoffFailure marker "handoff_timeout")
  let failure ← readRuntimeHandoffFailure marker
  match failure with
  | some failure => do
    finalizeFailedRuntimeHandoff r journal marker failure
    scheduleCommittedRuntimeHandoff marker
    return .continue
  | none => beginRuntimeHandoff marker

/-- The job replaces the worker itself. -/
def Journal.handsOff (openwrt : Bool) (journal : Journal) : Bool :=
  openwrt && journal.phase = .succeeded && journal.job.target.component = "runtime"

/-- `finish_terminal_upgrade`. -/
def finishTerminalUpgrade (openwrt : Bool) (r : Round) (journal : Journal) :
    Upg UpgradeOutcome :=
  if journal.handsOff openwrt then do
    let marker ← runtimeHandoffMarker journal
    ensureRuntimeHandoffMarker marker
    let completed ← readRuntimeHandoffCompletion marker
    if completed then do
      let running ← okOr r.running "runtime_handoff_artifact_unsafe"
      if running ≠ marker.syncBinarySha256 then do
        scheduleCommittedRuntimeHandoff marker
        return .continue
      else finalizeCompletedRuntimeHandoff r journal
    else settleHandoff r journal marker
  else finalizeTerminalJournal r journal

/-! ## A run of the worker -/

/-- The journal once the installer is through. -/
def Journal.afterInstall (journal : Journal) : Except UpgradeFailure Unit → Journal
  | .ok _ => { journal with phase := .succeeded }
  | .error failure => { journal with
      phase := .failed
      failurePhase := some failure.phase.text
      errorCode := some failure.errorCode
      errorDetail := some failure.detail }

/-- `install`, for a target that the catalog still has. -/
def install (r : Round) (job : Job) (target : Target) : Upg (Except UpgradeFailure Unit) :=
  if target ≠ job.target then return .error r.changed
  else do
    let _ ← moment
    log fun _ => .installs job.id
    if r.installKilled then killed
    else do
      match r.install with
      | .ok _ => log fun _ => .installed job.id
      | .error _ => pure ()
      return r.install

/-- The part of `run` that asks Cloud for a job. -/
def pollJob (openwrt : Bool) (r : Round) : Upg UpgradeOutcome := do
  let _ ← moment
  let offer ← okOr r.offer "upgrade poll failed"
  match offer with
  | none => return .continue
  | some job => do
    log fun _ => .offered job
    ensure (job.deviceId = r.deviceId ∧ job.deviceKeyId = r.deviceKeyId) "upgrade_identity_mismatch"
    let target ← okOr r.candidate "target_not_in_signed_catalog"
    let _ ← reads "reset execution log"
    let journal : Journal := ⟨job, .prepared, none, none, none⟩
    writeJournal journal
    receipt r journal "running"
    let journal := { journal with phase := .executing }
    writeJournal journal
    let result ← install r job target
    let journal := journal.afterInstall result
    writeJournal journal
    finishTerminalUpgrade openwrt r journal

/-- The part of `run` for a marker without a terminal journal. -/
def recoverHandoff (r : Round) (marker : RuntimeHandoffMarker) : Upg UpgradeOutcome := do
  ensure (marker.isValid = true) "runtime_handoff_marker_invalid"
  let completed ← readRuntimeHandoffCompletion marker
  if completed then do
    let running ← okOr r.running "runtime_handoff_artifact_unsafe"
    if running = marker.syncBinarySha256 then do
      removeEvidence
      return .continue
    else do
      scheduleCommittedRuntimeHandoff marker
      return .continue
  else do
    scheduleCommittedRuntimeHandoff marker
    return .continue

/-- The part of `run` without a terminal journal. -/
def runWithoutTerminal (openwrt : Bool) (r : Round) : Upg UpgradeOutcome := do
  let w ← reads "read marker"
  match w.disk.marker with
  | some marker => if openwrt then recoverHandoff r marker else pollJob openwrt r
  | none => pollJob openwrt r

/-- A journal that was left executing has failed. -/
def settleInterrupted (journal : Journal) : Upg Journal :=
  if journal.phase = .executing then do
    let journal := { journal with
      phase := .failed
      errorCode := some "upgrade_interrupted_verify_required" }
    writeJournal journal
    return journal
  else return journal

/-- `run`. -/
def run (openwrt : Bool) (r : Round) : Upg UpgradeOutcome := do
  ensure (r.ready = true) "upgrade_requires_root"
  let w ← reads "read journal"
  match w.disk.journal with
  | some journal => do
    ensure (journal.job.deviceId = r.deviceId ∧ journal.job.deviceKeyId = r.deviceKeyId)
      "upgrade_journal_identity_changed"
    let journal ← settleInterrupted journal
    if journal.phase = .succeeded ∨ journal.phase = .failed then
      finishTerminalUpgrade openwrt r journal
    else runWithoutTerminal openwrt r
  | none => runWithoutTerminal openwrt r

/-- One run; a worker that is killed in it does not report anything. -/
def Node.runs (openwrt : Bool) (w : Node) (r : Round) : Node :=
  match run openwrt r w with
  | (.ok outcome, w') => { w' with trace := .ended (.ok outcome) :: w'.trace }
  | (.err e, w') => { w' with trace := .ended (.error e) :: w'.trace }
  | (.crash, w') => w'

/-- The node before its first run. -/
def Node.start (moments : ℕ → Moment) : Node where
  disk := ⟨none, none, none, none⟩
  helpers := ⟨none, []⟩
  moments
  trace := []

/-- A sequence of runs. -/
def Node.rounds (openwrt : Bool) (rs : List Round) (w : Node) : Node :=
  rs.foldl (Node.runs openwrt) w

end CandyRuntime.CloudSync.Upgrade
