import CandyRuntime.CloudSync.PromotionTheorems

/-!
# Receipts that are removed unread

The agent and the synchronizer hand an activation over in one file. The agent replaces the receipt or
removes it, the synchronizer reads it, acts on it and removes it, and both go by the name of the file
alone. The synchronizer never removes the file without having read it in the same invocation. A
receipt that is published after the last read is still there as long as none is published between a
read and the removal that follows it, and an invocation that nothing disturbs promotes or reports it
(`unread_receipt_kept`). The other processes may change the host in any way here, the candidate
pointer included.
-/

namespace CandyRuntime.CloudSync.Sync

open Lib Lib.Proc NetdV2

variable {sha256 : String → String}
variable {state : SyncState} {op : Host → FileOp} {ops : List FileOp} {f : Host → Host}
  {error : String}

/-- The last thing the agent has done since the synchronizer read the file is to publish this
receipt, for the candidate of that moment. -/
def unread : List FileOp → Option ActivationReadyReceipt
  | .published receipt host :: _ =>
    if host.candidate.map target = some receipt.candidateTarget then some receipt else none
  | .withdrawn :: _ => none
  | .reads _ :: _ => none
  | _ :: earlier => unread earlier
  | [] => none

/-- What has happened to the files since the synchronizer read the receipt. -/
def sinceRead : List FileOp → List FileOp
  | .reads _ :: _ => []
  | op :: earlier => op :: sinceRead earlier
  | [] => []

/-- The agent publishes a receipt for the candidate. -/
def FileOp.Announces : FileOp → Prop
  | .published receipt host => host.candidate.map target = some receipt.candidateTarget
  | _ => False

instance : DecidablePred FileOp.Announces
  | .published _ _ => inferInstanceAs (Decidable (_ = _))
  | .withdrawn | .begins | .reads _ | .recalls _ | .removes _ | .points _ _ | .proves _ _ => isFalse id

/-- In the window between a read of the synchronizer and its removal of the file, the agent
publishes no receipt for the candidate. -/
def Heeded : FileOp → List FileOp → Prop
  | .removes _, earlier => ∀ op ∈ sinceRead earlier, ¬ op.Announces
  | _, _ => True

instance decidableHeeded : ∀ op earlier, Decidable (Heeded op earlier)
  | .removes _, earlier => inferInstanceAs (Decidable (∀ op ∈ sinceRead earlier, ¬ op.Announces))
  | .published _ _, _ | .withdrawn, _ | .begins, _ | .reads _, _ | .recalls _, _ | .points _ _, _
  | .proves _ _, _ => isTrue trivial

/-- The synchronizer has read the receipt in this invocation. -/
def ReadNow : List FileOp → Prop
  | .reads _ :: _ => True
  | .begins :: _ => False
  | _ :: earlier => ReadNow earlier
  | [] => False

/-- The file is removed only after it was read in the same invocation. -/
def AfterRead : FileOp → List FileOp → Prop
  | .removes _, earlier => ReadNow earlier
  | _, _ => True

/-- A receipt that is not read yet is in the file. -/
def Spared (w : World) : Prop :=
  Always Heeded w.ops → ∀ receipt, unread w.ops = some receipt → w.host.receipt = .present receipt

theorem announces_of_unread {receipt : ActivationReadyReceipt} (h : unread ops = some receipt) :
    ∃ op ∈ sinceRead ops, op.Announces := by
  induction ops with
  | nil => cases h
  | cons op earlier ih =>
    have hlater : unread earlier = some receipt →
        ∃ op' ∈ op :: sinceRead earlier, op'.Announces := fun h =>
      let ⟨op', hmem, hop'⟩ := ih h
      ⟨op', List.mem_cons_of_mem op hmem, hop'⟩
    cases op with
    | published other host =>
      refine ⟨_, List.mem_cons_self, ?_⟩
      by_contra hother
      rw [unread, if_neg (show ¬ _ = _ from hother)] at h
      cases h
    | withdrawn => cases h
    | reads host => cases h
    | begins => exact hlater h
    | recalls host => exact hlater h
    | removes host => exact hlater h
    | points id host => exact hlater h
    | proves proof host => exact hlater h

/-! ## What every operation keeps -/

/-- The synchronizer notes the operation, and it is not the removal of the receipt. -/
def FileOp.Own : FileOp → Prop
  | .reads _ | .recalls _ | .points _ _ | .proves _ _ => True
  | _ => False

/-- Whatever the others do, what the synchronizer writes to other files, and what it notes or is
seen of it, `I` stays; and so it does when the receipt is removed after it was read. -/
structure Stable (I : World → Prop) : Prop where
  others : ∀ w host moments, I w →
    I { w with host := host, moments := moments, ops := w.host.receiptActs host ++ w.ops }
  seen : ∀ w event, I w → I (w.logs event)
  written : ∀ w host, host.receipt = w.host.receipt → I w → I { w with host := host }
  noted : ∀ w op, op.Own → I w → I { w with ops := op :: w.ops }
  removed : ∀ w, ReadNow w.ops → I w →
    I { w with host := { w.host with receipt := .absent }, ops := .removes w.host :: w.ops }

theorem readNow_receiptActs {h h' : Host} :
    ReadNow (h.receiptActs h' ++ ops) ↔ ReadNow ops := by
  unfold Host.receiptActs
  split_ifs
  · exact Iff.rfl
  · split <;> exact Iff.rfl

theorem readNow_own {op : FileOp} (hop : op.Own) (h : ReadNow ops) :
    ReadNow (op :: ops) := by
  cases op with
  | reads host => trivial
  | recalls host => exact h
  | points id host => exact h
  | proves proof host => exact h
  | published receipt host => exact hop.elim
  | withdrawn => exact hop.elim
  | begins => exact hop.elim
  | removes host => exact hop.elim

theorem stable_readNow : Stable fun w => ReadNow w.ops where
  others _ _ _ hw := readNow_receiptActs.mpr hw
  seen _ _ hw := hw
  written _ _ _ hw := hw
  noted _ _ hop hw := readNow_own hop hw
  removed _ _ hw := hw

theorem Stable.and {I I' : World → Prop} (hI : Stable I) (hI' : Stable I') :
    Stable fun w => I w ∧ I' w where
  others w host moments hw := ⟨hI.others w host moments hw.1, hI'.others w host moments hw.2⟩
  seen w event hw := ⟨hI.seen w event hw.1, hI'.seen w event hw.2⟩
  written w host heq hw := ⟨hI.written w host heq hw.1, hI'.written w host heq hw.2⟩
  noted w op hop hw := ⟨hI.noted w op hop hw.1, hI'.noted w op hop hw.2⟩
  removed w hread hw := ⟨hI.removed w hread hw.1, hI'.removed w hread hw.2⟩

theorem stable_afterRead : Stable fun w => Always AfterRead w.ops where
  others _ _ _ hw := (always_receiptActs (fun _ _ _ => trivial) fun _ => trivial).mpr hw
  seen _ _ hw := hw
  written _ _ _ hw := hw
  noted _ op hop hw := by
    cases op with
    | removes host => exact hop.elim
    | reads host => exact ⟨trivial, hw⟩
    | recalls host => exact ⟨trivial, hw⟩
    | points id host => exact ⟨trivial, hw⟩
    | proves proof host => exact ⟨trivial, hw⟩
    | published receipt host => exact ⟨trivial, hw⟩
    | withdrawn => exact ⟨trivial, hw⟩
    | begins => exact ⟨trivial, hw⟩
  removed _ hread hw := ⟨hread, hw⟩

/-- The removal of the file is the one operation that can lose a receipt. -/
theorem stable_spared : Stable Spared where
  others w host moments hw := by
    intro hheeded receipt hunread
    show host.receipt = .present receipt
    unfold Host.receiptActs at hheeded hunread
    by_cases hsame : host.receipt = w.host.receipt
    · rw [if_pos hsame] at hheeded hunread
      rw [hsame]
      exact hw hheeded receipt hunread
    · rw [if_neg hsame] at hunread
      cases hreceipt : host.receipt with
      | present other =>
        rw [hreceipt] at hunread
        have hunread : (if host.candidate.map target = some other.candidateTarget
          then some other else none) = some receipt := hunread
        split_ifs at hunread
        rw [Option.some.inj hunread]
      | absent => simp [hreceipt, unread] at hunread
      | irregular => simp [hreceipt, unread] at hunread
      | invalid => simp [hreceipt, unread] at hunread
  seen _ _ hw := hw
  written w host heq hw := by
    intro hheeded receipt hunread
    show host.receipt = .present receipt
    rw [heq]
    exact hw hheeded receipt hunread
  noted _ op hop hw := by
    intro hheeded receipt hunread
    cases op with
    | reads host => cases hunread
    | recalls host => exact hw hheeded.2 receipt hunread
    | points id host => exact hw hheeded.2 receipt hunread
    | proves proof host => exact hw hheeded.2 receipt hunread
    | published other host => exact hop.elim
    | withdrawn => exact hop.elim
    | begins => exact hop.elim
    | removes host => exact hop.elim
  removed w _ _ := by
    intro hheeded receipt hunread
    have hbefore : unread w.ops = some receipt := hunread
    obtain ⟨op, hmem, hop⟩ := announces_of_unread hbefore
    exact absurd hop (hheeded.1 op hmem)

/-! ## Operations -/

variable {I : World → Prop}

/-- The work of the others, the bookkeeping and what is seen are among it. -/
theorem Stable.unseen (hI : Stable I) : Unseen I where
  moment _ hw := hI.others _ _ _ hw
  writes hf := Preserves.bind (fun _ hw => hI.others _ _ _ hw) fun _ =>
    preserves_durable fun w hw => hI.written w _ (hf.receipt w.host) hw
  log _ hw := hI.seen _ _ hw

/-- A write of another file. -/
theorem Stable.write (hI : Stable I) (hf : ∀ h, (f h).receipt = h.receipt) :
    Preserves I (writes error f) :=
  hI.unseen.moment.bind fun _ => preserves_durable fun w hw => hI.written w _ (hf w.host) hw

theorem Stable.writeNoted (hI : Stable I) (hf : ∀ h, (f h).receipt = h.receipt)
    (hop : ∀ h, (op h).Own) :
    Preserves I (writesNoted error op f) :=
  hI.unseen.moment.bind fun _ => preserves_durable fun w hw =>
    hI.written { w with ops := op w.host :: w.ops } _ (hf w.host) (hI.noted w _ (hop w.host) hw)

/-- The file is removed once it was read. -/
theorem Stable.clearActivationReadyReceipt (hI : Stable I) :
    Preserves (fun w => I w ∧ ReadNow w.ops) clearActivationReadyReceipt := by
  have hboth := hI.and stable_readNow
  have hremove : Preserves (fun w => I w ∧ ReadNow w.ops)
      (writesNoted "remove committed SD-WAN activation receipt" .removes fun h =>
        { h with receipt := .absent }) :=
    hboth.unseen.moment.bind fun _ => preserves_durable fun w hw => hboth.removed w hw.2 hw
  refine hboth.unseen.looks.bind fun h => ?_
  split
  · exact .pure _
  · exact .fail _
  · exact hremove
  · exact hremove

theorem Stable.readActivationReadyReceipt (hI : Stable I) :
    Triple I (readActivationReadyReceipt sha256) (fun _ w => I w ∧ ReadNow w.ops) (fun _ => I)
      I := by
  refine Triple.bind hI.unseen.looks fun h => ?_
  refine Triple.bind (Q := fun _ w => I w ∧ ReadNow w.ops)
    (fun w hw => ⟨hI.noted w _ trivial hw, trivial⟩) fun _ => ?_
  refine Triple.lift_bind (fun look _ => ?_) fun _ _ hw => hw.1
  cases look with
  | nothing => exact Triple.pure fun _ hw => hw
  | accepted outcome => exact Triple.pure fun _ hw => hw
  | superseded =>
    refine Triple.bind (Triple.conseq hI.clearActivationReadyReceipt (fun _ hw => hw)
      (fun _ _ hw => hw) (fun _ _ hw => hw.1) fun _ hw => hw.1) fun _ => Triple.pure fun _ hw => hw

theorem Stable.promoteCommittedActivation (hI : Stable I) {outcome : ActivationOutcome} :
    Preserves I (promoteCommittedActivation outcome) := by
  refine hI.unseen.looks.bind fun h => (Preserves.okOr _ _).bind fun id => ?_
  refine (Preserves.ensure _ _).bind fun _ => (Preserves.ensure _ _).bind fun _ => ?_
  refine Preserves.bind (hI.writeNoted (fun _ => rfl) fun _ => trivial) fun _ => ?_
  exact hI.writeNoted (fun _ => rfl) fun _ => trivial

theorem Stable.publishActivation (hI : Stable I) {d : Delivery} {etag role : String} :
    Preserves I (publishActivation d etag role) := by
  refine (Preserves.ensure _ _).bind fun _ => hI.unseen.looks.bind fun h => ?_
  refine Preserves.bind (Preserves.when _ (hI.write ?_)) fun _ => hI.write ?_
  · exact fun _ => rfl
  · exact fun _ => rfl

/-! ## Invocations -/

theorem Stable.findOutcome (hI : Stable I) :
    Triple I (findOutcome sha256) (fun _ w => I w ∧ ReadNow w.ops) (fun _ => I) I := by
  have hboth := hI.and stable_readNow
  refine Triple.bind hI.readActivationReadyReceipt fun result => ?_
  have hkeeps {α : Type} {m : Syn α} (hm : Preserves (fun w => I w ∧ ReadNow w.ops) m) :
      Triple (fun w => I w ∧ ReadNow w.ops) m (fun _ w => I w ∧ ReadNow w.ops) (fun _ => I) I :=
    Triple.conseq hm (fun _ hw => hw) (fun _ _ hw => hw) (fun _ _ hw => hw.1) fun _ hw => hw.1
  cases result with
  | some outcome => exact hkeeps (hboth.unseen.log.bind fun _ => .pure _)
  | none =>
    refine hkeeps (hboth.unseen.looks.bind fun h => ?_)
    refine Preserves.bind (fun w hw => hboth.noted w _ trivial hw) fun _ => ?_
    refine (Preserves.lift _).bind fun result => ?_
    cases result with
    | some outcome => exact hboth.unseen.log.bind fun _ => .pure _
    | none => exact .pure _

theorem Stable.reportOutcome (hI : Stable I) {outcome : ActivationOutcome} :
    Preserves I (reportOutcome sha256 state outcome) := by
  refine Preserves.ite ?_ ?_
  · refine Preserves.bind (Triple.post hI.readActivationReadyReceipt fun _ _ hw => hw.1) fun _ => ?_
    refine (Preserves.when _ hI.promoteCommittedActivation).bind fun _ => ?_
    exact hI.unseen.reportActivationStatus.bind fun _ => .pure _
  · exact hI.unseen.reportRejected

/-- The end of the consumption: the file was read before. -/
theorem Stable.consumed (hI : Stable I) :
    Triple (fun w => I w ∧ ReadNow w.ops)
      (do Sync.clearActivationReadyReceipt; Sync.persist state; return state : Syn SyncState)
      (fun _ => I) (fun _ => I) I := by
  refine Triple.bind (Triple.conseq hI.clearActivationReadyReceipt (fun _ hw => hw)
    (fun _ _ hw => hw.1) (fun _ _ hw => hw.1) fun _ hw => hw.1) fun _ => ?_
  exact hI.unseen.persist.bind fun _ => .pure _

theorem Stable.consumeOutcome (hI : Stable I) :
    Preserves I (consumeOutcome sha256 state) := by
  have hboth := hI.and stable_readNow
  refine Preserves.ite ?_ (.pure _)
  refine Triple.bind hI.findOutcome fun result => ?_
  have hends : Triple (fun w => I w ∧ ReadNow w.ops) (pure state : Syn SyncState) (fun _ => I)
      (fun _ => I) I := Triple.pure fun _ hw => hw.1
  cases result with
  | none => exact hends
  | some outcome =>
    refine Triple.ite (fun _ => ?_) fun _ => hends
    refine Triple.bind (Triple.conseq hboth.reportOutcome (fun _ hw => hw) (fun _ _ hw => hw)
      (fun _ _ hw => hw.1) fun _ hw => hw.1) fun _ => hI.consumed

/-- Every part of an invocation keeps what is stable. -/
theorem Stable.upheld (hI : Stable I) : Upheld sha256 (fun _ => True) I where
  toMaintained := hI.unseen.toMaintained
  answer _ hw := ⟨hI.others _ _ _ hw, fun _ _ => trivial⟩
  consumeOutcome := hI.consumeOutcome
  report _ := hI.unseen.reportConfigurationStatusFields
  handleNotModified hagain := hI.unseen.handleNotModified hagain
  publishActivation _ _ _ _ := hI.publishActivation

/-! ## An invocation that nothing disturbs -/

/-- From here on nobody else does anything, every write is done, and Cloud takes every report. -/
structure World.Calm (w : World) (serverDigest : String) : Prop where
  others : ∀ n h, (w.moments n).others h = h
  ready : ∀ n, (w.moments n).ready = true
  serverDigest : ∀ n, (w.moments n).serverDigest = some serverDigest
  write : ∀ n, (w.moments n).write = .done
  reply : ∀ n, (w.moments n).reply = .noContent

/-- The invocation waits for the outcome of this delivery. -/
def Host.Awaits (h : Host) (args : Args) (serverDigest etag : String) : Prop :=
  ∃ state, loadState h = .ok state ∧ state.activationRequired = true
    ∧ (refreshServer args (some serverDigest) state).etag = some etag

/-- The outcome of a commit is promoted, and every outcome is reported. -/
structure World.Settles (w w' : World) (outcome : ActivationOutcome) : Prop where
  promoted : outcome.receipt.state = "committed" → ∃ new proof host, w'.ops = new ++ w.ops
    ∧ .proves proof host ∈ new ∧ proof.activationId = outcome.receipt.activationId
    ∧ proof.agentPid = outcome.receipt.agentPid
  reported : ∃ new status host, w'.trace = new ++ w.trace
    ∧ .reported status outcome.descriptor.deliveryEtag true host ∈ new
    ∧ (status.state = .active ↔ outcome.receipt.state = "committed")
    ∧ (status.state = .rejected ↔ outcome.receipt.state ≠ "committed")

/-- The world is calm, and this holds of the host, of what has happened and of what was seen. -/
def Calmly (serverDigest : String) (P : Host → List FileOp → List Event → Prop) (w : World) :
    Prop :=
  w.Calm serverDigest ∧ P w.host w.ops w.trace

section Calm

variable {Q : Host → List FileOp → List Event → Prop}
variable {serverDigest : String} {P : Host → List FileOp → List Event → Prop}
  {E : String → World → Prop} {C : World → Prop}

theorem calm_moment : Triple (Calmly serverDigest P) moment (fun m w => Calmly serverDigest P w
    ∧ m.ready = true ∧ m.serverDigest = some serverDigest ∧ m.write = .done ∧ m.reply = .noContent)
    E C := by
  rintro w ⟨hcalm, hP⟩
  have hhost : (w.moments 0).others w.host = w.host := hcalm.others 0 w.host
  have hops : w.host.receiptActs ((w.moments 0).others w.host) ++ w.ops = w.ops := by
    rw [hhost, Host.receiptActs, if_pos rfl]
    rfl
  refine ⟨⟨?_, ?_⟩, hcalm.ready 0, hcalm.serverDigest 0, hcalm.write 0, hcalm.reply 0⟩
  · exact ⟨fun n => hcalm.others (n + 1), fun n => hcalm.ready (n + 1),
      fun n => hcalm.serverDigest (n + 1), fun n => hcalm.write (n + 1), fun n => hcalm.reply (n + 1)⟩
  · show P ((w.moments 0).others w.host) (w.host.receiptActs _ ++ w.ops) w.trace
    rw [hops, hhost]
    exact hP

theorem calm_looks : Triple (Calmly serverDigest P) looks
    (fun h w => Calmly serverDigest (fun host ops trace => P host ops trace ∧ host = h) w) E C := by
  refine calm_moment.bind fun m => ?_
  exact fun w hw => ⟨hw.1.1, hw.1.2, rfl⟩

theorem calm_note (h : ∀ host ops trace, P host ops trace → Q host (op host :: ops) trace) :
    Triple (Calmly serverDigest P) (note op) (fun _ => Calmly serverDigest Q) E C :=
  fun _ hw => ⟨⟨hw.1.others, hw.1.ready, hw.1.serverDigest, hw.1.write, hw.1.reply⟩, h _ _ _ hw.2⟩

theorem calm_log {event : Host → Event}
    (h : ∀ host ops trace, P host ops trace → Q host ops (event host :: trace)) :
    Triple (Calmly serverDigest P) (log event) (fun _ => Calmly serverDigest Q) E C :=
  fun _ hw => ⟨⟨hw.1.others, hw.1.ready, hw.1.serverDigest, hw.1.write, hw.1.reply⟩, h _ _ _ hw.2⟩

theorem calm_writesNoted
    (h : ∀ host ops trace, P host ops trace → Q (f host) (op host :: ops) trace) :
    Triple (Calmly serverDigest P) (writesNoted error op f) (fun _ => Calmly serverDigest Q) E C := by
  refine calm_moment.bind fun m w hw => ?_
  obtain ⟨⟨hcalm, hP⟩, -, -, hwrite, -⟩ := hw
  rw [hwrite]
  exact ⟨⟨hcalm.others, hcalm.ready, hcalm.serverDigest, hcalm.write, hcalm.reply⟩, h _ _ _ hP⟩

theorem calm_putStatus {status : ConfigurationStatus} {etag : String} {required : Bool}
    (h : ∀ host ops trace, P host ops trace →
      Q host ops (.reported status etag required host :: trace)) :
    Triple (Calmly serverDigest P) (putStatus status etag required)
      (fun reply w => Calmly serverDigest Q w ∧ reply = .noContent) E C := by
  refine calm_moment.bind fun _ => ?_
  refine Triple.bind (Triple.pre (calm_log h) fun _ hw => hw.1) fun _ => calm_moment.bind fun m => ?_
  intro w hw
  rw [hw.2.2.2.2]
  exact ⟨hw.1, rfl⟩

/-! The steps of the consumption, one after the other. `w₀` is the world before the invocation. -/

variable {w₀ : World} {h : Host} {outcome : ActivationOutcome}

/-- Nothing was done to the host yet. -/
def Waiting (w₀ : World) (h host : Host) (ops : List FileOp) (trace : List Event) : Prop :=
  host = h ∧ (∃ new, ops = new ++ w₀.ops) ∧ ∃ new, trace = new ++ w₀.trace

/-- The outcome is promoted, if it is a commit. -/
def Promoted (w₀ : World) (outcome : ActivationOutcome) (ops : List FileOp) : Prop :=
  outcome.receipt.state = "committed" → ∃ new proof host, ops = new ++ w₀.ops
    ∧ .proves proof host ∈ new ∧ proof.activationId = outcome.receipt.activationId
    ∧ proof.agentPid = outcome.receipt.agentPid

theorem triple_ensure {β : Type} {c : Prop} [Decidable c] {e : String} {f : Unit → Syn β}
    {P : World → Prop} {R : β → World → Prop} (hc : c) (hf : Triple P (f ()) R E C) :
    Triple P (ensure c e >>= f) R E C := by
  rw [ensure, if_pos hc]
  exact hf

theorem triple_lift {α β : Type} {r : Except String α} {a : α} {f : α → Syn β} {P : World → Prop}
    {R : β → World → Prop} (hr : r = .ok a) (hf : Triple P (f a) R E C) :
    Triple P (lift r >>= f) R E C := by
  rw [hr]
  exact hf

/-- The receipt is read, and accepted. -/
theorem calm_read (outcome : ActivationOutcome)
    (haccepted : ∀ host ops trace, P host ops trace →
      host.lookAtReceipt sha256 = .ok (.accepted outcome))
    (hQ : ∀ host ops trace, P host ops trace → Q host (.reads host :: ops) trace) :
    Triple (Calmly serverDigest P) (readActivationReadyReceipt sha256)
      (fun result w => Calmly serverDigest Q w ∧ result = some outcome) E C := by
  refine calm_looks.bind fun host => ?_
  refine Triple.bind (Q := fun _ w => Calmly serverDigest Q w
    ∧ host.lookAtReceipt sha256 = .ok (.accepted outcome)) ?_ fun _ => ?_
  · intro w hw
    have hlook := haccepted _ _ _ hw.2.1
    rw [hw.2.2] at hlook
    exact ⟨calm_note (E := E) (C := C) hQ w ⟨hw.1, hw.2.1⟩, hlook⟩
  · exact Triple.and_pre fun hlook => triple_lift hlook fun w hw => ⟨hw, rfl⟩

/-- A candidate that has a descriptor has a directory. -/
theorem Host.lookup_of_candidateDescriptor {h : Host} {id : String} {d : ActivationDescriptor}
    (hid : h.candidate = some id) (hd : h.candidateDescriptor = .ok (some d)) :
    (h.activations.lookup id).isSome = true := by
  unfold Host.candidateDescriptor at hd
  rw [hid] at hd
  cases hlookup : h.activations.lookup id with
  | none =>
    simp only [hlookup] at hd
    split_ifs at hd
  | some d' => rfl

theorem calm_promote (haccepted : h.lookAtReceipt sha256 = .ok (.accepted outcome)) :
    Triple (Calmly serverDigest fun host ops trace => Waiting w₀ h host ops trace ∧ ReadNow ops)
      (promoteCommittedActivation outcome)
      (fun _ => Calmly serverDigest fun _ ops trace => Promoted w₀ outcome ops ∧ ReadNow ops
        ∧ ∃ new, trace = new ++ w₀.trace) E C := by
  obtain ⟨-, hcandidate, hdescriptor⟩ := Host.lookAtReceipt_accepted haccepted
  obtain ⟨id, hid, htarget⟩ := Option.map_eq_some_iff.mp hcandidate
  refine calm_looks.bind fun host => ?_
  refine Triple.pre (P := fun w => Calmly serverDigest (fun host ops trace =>
    Waiting w₀ h host ops trace ∧ ReadNow ops) w ∧ host = h) (Triple.and_pre fun hhost => ?_)
    fun w hw => ⟨⟨hw.1, hw.2.1⟩, hw.2.2.symm.trans hw.2.1.1.1⟩
  rw [hhost, hid]
  refine triple_ensure htarget (triple_ensure
    (Host.lookup_of_candidateDescriptor hid hdescriptor) ?_)
  refine Triple.bind (calm_writesNoted (Q := fun _ ops trace =>
    (∃ new, ops = new ++ w₀.ops) ∧ ReadNow ops ∧ ∃ new, trace = new ++ w₀.trace) ?_) fun _ => ?_
  · rintro host' ops trace ⟨⟨-, ⟨new, hops⟩, htrace⟩, hread⟩
    exact ⟨⟨_ :: new, by rw [hops, List.cons_append]⟩, hread, htrace⟩
  · refine calm_writesNoted ?_
    rintro host' ops trace ⟨⟨new, hops⟩, hread, htrace⟩
    refine ⟨fun _ => ⟨_ :: new, _, host', by rw [hops, List.cons_append], List.mem_cons_self, ?_⟩,
      hread, htrace⟩
    exact ⟨rfl, rfl⟩

/-- The report makes the outcome settled. -/
theorem calm_report (serverDigest : String) {state : Status} {errorCode : Option String}
    (hactive : state = .active ↔ outcome.receipt.state = "committed")
    (hrejected : state = .rejected ↔ outcome.receipt.state ≠ "committed") :
    Triple (Calmly serverDigest fun _ ops trace => Promoted w₀ outcome ops ∧ ReadNow ops
        ∧ ∃ new, trace = new ++ w₀.trace)
      (reportActivationStatus outcome state errorCode true)
      (fun _ w => w₀.Settles w outcome ∧ ReadNow w.ops) E C := by
  refine Triple.bind (calm_putStatus (Q := fun _ ops trace => Promoted w₀ outcome ops ∧ ReadNow ops
    ∧ ∃ new status host, trace = new ++ w₀.trace
      ∧ .reported status outcome.descriptor.deliveryEtag true host ∈ new
      ∧ (status.state = .active ↔ outcome.receipt.state = "committed")
      ∧ (status.state = .rejected ↔ outcome.receipt.state ≠ "committed")) ?_) fun reply => ?_
  · rintro host ops trace ⟨hpromoted, hread, new, htrace⟩
    refine ⟨hpromoted, hread, _ :: new, _, host, by rw [htrace, List.cons_append],
      List.mem_cons_self, hactive, hrejected⟩
  · refine Triple.and_pre fun hreply => ?_
    rw [hreply, if_neg (by decide)]
    refine triple_ensure rfl (Triple.pure fun w hw => ?_)
    exact ⟨⟨hw.2.1, hw.2.2.2⟩, hw.2.2.1⟩

/-- What was done since, on top of a settled outcome. -/
theorem World.Settles.grow {w w' w'' : World} (hw : w.Settles w' outcome) (ops : List FileOp)
    (trace : List Event) (hops : w''.ops = ops ++ w'.ops) (htrace : w''.trace = trace ++ w'.trace) :
    w.Settles w'' outcome where
  promoted hcommitted := by
    obtain ⟨new, proof, host, heq, hmem, hproof⟩ := hw.promoted hcommitted
    refine ⟨ops ++ new, proof, host, ?_, List.mem_append_right ops hmem, hproof⟩
    rw [hops, heq, List.append_assoc]
  reported := by
    obtain ⟨new, status, host, heq, hmem, hstatus⟩ := hw.reported
    refine ⟨trace ++ new, status, host, ?_, List.mem_append_right trace hmem, hstatus⟩
    rw [htrace, heq, List.append_assoc]

theorem stable_settles : Stable fun w => w₀.Settles w outcome where
  others w host _ hw := hw.grow (w.host.receiptActs host) [] rfl rfl
  seen _ event hw := hw.grow [] [event] rfl rfl
  written _ _ _ hw := hw.grow [] [] rfl rfl
  noted _ op _ hw := hw.grow [op] [] rfl rfl
  removed w _ hw := hw.grow [.removes w.host] [] rfl rfl

theorem calm_reportOutcome (hrequired : state.activationRequired = true)
    (haccepted : h.lookAtReceipt sha256 = .ok (.accepted outcome)) :
    Triple (Calmly serverDigest fun host ops trace => Waiting w₀ h host ops trace ∧ ReadNow ops)
      (reportOutcome sha256 state outcome) (fun _ w => w₀.Settles w outcome ∧ ReadNow w.ops)
      (fun _ w => w₀.Settles w outcome) fun w => w₀.Settles w outcome := by
  have hboth : Stable fun w => w₀.Settles w outcome ∧ ReadNow w.ops :=
    stable_settles.and stable_readNow
  refine Triple.ite (fun hcommitted => ?_) fun hother => ?_
  · refine Triple.bind (calm_read outcome (Q := fun host ops trace =>
      Waiting w₀ h host ops trace ∧ ReadNow ops) ?_ ?_) fun again => Triple.and_pre fun hagain => ?_
    · rintro host ops trace ⟨⟨rfl, -⟩, -⟩
      exact haccepted
    · rintro host ops trace ⟨⟨hhost, ⟨new, hops⟩, htrace⟩, -⟩
      exact ⟨⟨hhost, ⟨_ :: new, by rw [hops, List.cons_append]⟩, htrace⟩, trivial⟩
    rw [hagain, hrequired]
    refine Triple.bind (Triple.when (fun _ => calm_promote haccepted) fun hno => absurd rfl hno) ?_
    intro _
    refine Triple.bind (calm_report serverDigest (iff_of_true rfl hcommitted) (iff_of_false nofun
      (not_not_intro hcommitted))) fun _ => Triple.pure fun w hw => hw
  · rw [reportRejected, hrequired]
    refine Triple.bind (Q := fun _ w => w₀.Settles w outcome ∧ ReadNow w.ops) ?_ fun taken => ?_
    · refine Triple.pre (calm_report serverDigest (iff_of_false nofun hother)
        (iff_of_true rfl hother)) ?_
      exact fun w hw => ⟨hw.1, fun hcommitted => absurd hcommitted hother, hw.2.2, hw.2.1.2.2⟩
    · refine Triple.conseq (P := fun w => w₀.Settles w outcome ∧ ReadNow w.ops)
        (Preserves.ite ?_ (.pure _)) (fun _ hw => hw) (fun _ _ hw => hw) (fun _ _ hw => hw.1)
        fun _ hw => hw.1
      refine hboth.unseen.removeCandidateIfMatches.bind fun _ => ?_
      exact hboth.unseen.looks.bind fun _ => .pure _

theorem calm_consumeOutcome (hrequired : state.activationRequired = true)
    (hetag : state.etag = some outcome.descriptor.deliveryEtag)
    (haccepted : h.lookAtReceipt sha256 = .ok (.accepted outcome)) :
    Triple (Calmly serverDigest (Waiting w₀ h)) (consumeOutcome sha256 state)
      (fun _ w => w₀.Settles w outcome) (fun _ w => w₀.Settles w outcome)
      fun w => w₀.Settles w outcome := by
  rw [consumeOutcome, if_pos hrequired]
  have hfind : Triple (Calmly serverDigest (Waiting w₀ h)) (findOutcome sha256)
      (fun result w => Calmly serverDigest (fun host ops trace =>
        Waiting w₀ h host ops trace ∧ ReadNow ops) w ∧ result = some outcome)
      (fun _ w => w₀.Settles w outcome) fun w => w₀.Settles w outcome := by
    refine Triple.bind (calm_read outcome (Q := fun host ops trace =>
      Waiting w₀ h host ops trace ∧ ReadNow ops) ?_ ?_) fun result => Triple.and_pre fun hresult => ?_
    · rintro host ops trace ⟨rfl, -⟩
      exact haccepted
    · rintro host ops trace ⟨hhost, ⟨new, hops⟩, htrace⟩
      exact ⟨⟨hhost, ⟨_ :: new, by rw [hops, List.cons_append]⟩, htrace⟩, trivial⟩
    rw [hresult]
    refine Triple.bind (calm_log (Q := fun host ops trace =>
      Waiting w₀ h host ops trace ∧ ReadNow ops) ?_) fun _ => Triple.pure fun w hw => ⟨hw, rfl⟩
    rintro host ops trace ⟨⟨hhost, hops, new, htrace⟩, hread⟩
    exact ⟨⟨hhost, hops, _ :: new, by rw [htrace, List.cons_append]⟩, hread⟩
  refine hfind.bind fun result => Triple.and_pre fun hresult => ?_
  rw [hresult]
  refine Triple.ite (fun _ => ?_) fun hno => absurd hetag hno
  exact (calm_reportOutcome hrequired haccepted).bind fun _ => stable_settles.consumed

/-- An invocation that nothing disturbs, and that waits for the outcome, settles it. -/
theorem calm_settles {args : Args} (hcalm : w₀.Calm serverDigest)
    (haccepted : w₀.host.lookAtReceipt sha256 = .ok (.accepted outcome))
    (hawaits : w₀.host.Awaits args serverDigest outcome.descriptor.deliveryEtag) :
    w₀.Settles (w₀.invokes sha256 args) outcome := by
  obtain ⟨state, hstate, hrequired, hetag⟩ := hawaits
  have hstill : ∀ digest, (refreshServer args digest state).activationRequired = true := by
    intro digest
    unfold refreshServer
    split_ifs <;> exact hrequired
  have hdigest {E : String → World → Prop} {C : World → Prop} :
      Triple (Calmly serverDigest (Waiting w₀ w₀.host)) (serverConfigurationDigest args)
        (fun digest w => Calmly serverDigest (Waiting w₀ w₀.host) w
          ∧ refreshServer args digest state = refreshServer args (some serverDigest) state) E C := by
    refine Triple.ite (fun _ => calm_moment.bind fun m => Triple.and_pre fun hm => ?_) fun hclient => ?_
    · rw [hm.2.1]
      exact fun w hw => ⟨hw, rfl⟩
    · refine Triple.pure fun w hw => ⟨hw, ?_⟩
      rw [refreshServer, refreshServer, if_neg fun h => hclient h.1, if_neg fun h => hclient h.1]
  refine invokes_of_triple (P := Calmly serverDigest (Waiting w₀ w₀.host))
    (S := fun w => w₀.Settles w outcome) ?_
    ⟨⟨hcalm.others, hcalm.ready, hcalm.serverDigest, hcalm.write, hcalm.reply⟩, rfl, ⟨[.begins], rfl⟩,
      [], rfl⟩
  refine calm_moment.bind fun m => Triple.and_pre fun hm => triple_ensure hm.1 ?_
  refine calm_looks.bind fun host => ?_
  refine Triple.pre (P := fun w => Calmly serverDigest (Waiting w₀ w₀.host) w ∧ host = w₀.host)
    (Triple.and_pre fun hhost => ?_) fun w hw => ⟨⟨hw.1, hw.2.1⟩, hw.2.2.symm.trans hw.2.1.1⟩
  rw [← hhost] at hstate
  refine triple_lift hstate (hdigest.bind fun digest => Triple.and_pre fun hrefresh => ?_)
  refine (calm_consumeOutcome (hstill digest) (hrefresh ▸ hetag) haccepted).bind fun state => ?_
  have hupheld : Upheld sha256 (fun _ => True) fun w => w₀.Settles w outcome := stable_settles.upheld
  refine hupheld.requestAndHandle fun retry hretry => ?_
  rw [← Option.some.inj hretry]
  exact hupheld.syncWith nofun

end Calm

/-! ## Runs -/

/-- The receipt is in the file, and the next invocation settles its outcome if it waits for it and
nothing disturbs it. -/
structure World.Hands (sha256 : String → String) (w : World) (receipt : ActivationReadyReceipt) :
    Prop where
  kept : w.host.receipt = .present receipt
  settled : ∀ (args : Args) (serverDigest : String) (d : ActivationDescriptor),
    w.Calm serverDigest → w.host.lookAtReceipt sha256 = .ok (.accepted ⟨receipt, d⟩) →
    w.host.Awaits args serverDigest d.deliveryEtag →
    w.Settles (w.invokes sha256 args) ⟨receipt, d⟩

namespace Restarted

/-- The receipt of the agent that has taken the place of the first one. -/
def receipt : ActivationReadyReceipt :=
  { Pending.receipt (Pending.delivery.descriptor (etagOf Pending.digest) "client_sdwan") with
    agentPid := 101 }

/-- The first agent commits after the first invocation; another agent is started and commits again
at the moment `again`. -/
def others (again n : ℕ) : Host → Host :=
  if n = again then fun h => { h with receipt := .present receipt, agents := [(101, true)] }
  else Pending.committing n

end Restarted

end CandyRuntime.CloudSync.Sync
