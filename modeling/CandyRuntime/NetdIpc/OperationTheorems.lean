import CandyRuntime.NetdIpc.ClientTheorems

/-!
# The client's side of its operations

What an operation leaves in the client, whatever the daemon does: its phase and the generation
it speaks for. Only `suspend`, `resume` and `rollback` move the phase, and only the two ways to
declare a replacement move the generation; an operation that fails moves neither.
-/

namespace CandyRuntime.NetdIpc

open Lib Lib.Proc NetdProto NetdV1

variable {β α : Type} {J : JournalFormat β}
variable {operation : NetdOperation} {declaration : PrepareDeclaration}

/-- The client is in this phase and speaks for this generation. -/
def At (phase : ClientPhase) (generation : UInt64) (p : Parties β) : Prop :=
  p.client.phase = phase ∧ p.client.owner.generation = generation

/-- `m` takes the client to another phase and generation if it succeeds, and leaves it where it is
otherwise. -/
def Moves (m : Cl β α) (phase : ClientPhase → ClientPhase) (generation : UInt64 → UInt64) : Prop :=
  ∀ ph g, Triple (At ph g) m (fun _ => At (phase ph) (generation g)) (fun _ => At ph g)
    (fun _ => True)

/-- `m` leaves the client where it is, however it ends. -/
def Stays (m : Cl β α) : Prop := ∀ phase generation, Preserves (At phase generation) m

theorem stays_of_preserves {m : Cl β α}
    (hm : ∀ P : ClientPhase → LeaseOwner → Prop,
      Preserves (fun p => P p.client.phase p.client.owner) m) : Stays m :=
  fun phase generation => hm fun ph o => ph = phase ∧ o.generation = generation

theorem Stays.moves {m : Cl β α} (hm : Stays m) : Moves m id id := by
  intro phase generation p hp
  exact wp_mono (hm phase generation p hp) (fun _ _ h => h) (fun _ _ h => h) fun _ _ => trivial

/-! ## One exchange -/

theorem preserves_answer {c : Circumstances} {request : NetdRequest} (P : NetdClient → Prop) :
    Preserves (fun p => P p.client) (answer J c request) := by
  intro p hp
  rw [wp_answer]
  refine ⟨fun _ => hp, fun s _ => ?_⟩
  unfold wp
  split
  · exact hp
  · exact hp
  · exact hp

theorem preserves_deliver {request : NetdRequest} (P : NetdClient → Prop) :
    Preserves (fun p => P p.client) (deliver J request) := by
  have hnext : Preserves (fun p => P p.client) (nextDelivery : Cl β Delivery) := fun _ hp => hp
  refine hnext.bind fun delivery => ?_
  cases delivery with
  | requestLost e => exact .fail e
  | replyLost c e =>
    exact (Preserves.lift _).bind fun _ => (preserves_answer P).bind fun _ => .fail e
  | replied c =>
    exact (Preserves.lift _).bind fun _ => (preserves_answer P).bind fun _ => .okOr _ _

/-- An exchange counts its request and changes nothing else of the client. -/
theorem preserves_exchange (P : ClientPhase → LeaseOwner → Prop) :
    Preserves (fun p => P p.client.phase p.client.owner) (exchange J operation) := by
  refine Preserves.get.bind fun p₀ => (Preserves.okOr _ _).bind fun requestId => ?_
  refine (preserves_deliver fun c => P c.phase c.owner).bind fun response => ?_
  have hcount : Preserves (fun p => P p.client.phase p.client.owner)
      (modify fun p => { p with client := { p.client with
        nextRequestId := checkedSucc requestId } } : Cl β Unit) := fun _ hp => hp
  refine hcount.bind fun _ => (Preserves.ensure _ _).bind fun _ => ?_
  split
  · exact .fail _
  · exact .pure _

theorem preserves_exchangeGeneration {generation : ResponseBody → Option UInt64}
    (P : ClientPhase → LeaseOwner → Prop) :
    Preserves (fun p => P p.client.phase p.client.owner)
      (exchangeGeneration J operation generation) := by
  refine (preserves_exchange P).bind fun answered => (Preserves.ensure _ _).bind fun _ => ?_
  refine (Preserves.okOr _ _).bind fun g => Preserves.get.bind fun p => ?_
  exact (Preserves.ensure _ _).bind fun _ => .pure _

theorem stays_requestIn {phases : List ClientPhase} :
    Stays (requestIn J phases operation) := by
  refine stays_of_preserves fun P => ?_
  refine Preserves.get.bind fun p => (Preserves.ensure _ _).bind fun _ => ?_
  exact preserves_exchangeGeneration P

/-! ## The operations -/

/-- An operation that ends with a new phase. -/
theorem moves_of_setPhase {m : Cl β UInt64} (hm : Stays m) (phase : ClientPhase) :
    Moves (do let generation ← m; setPhase phase; return generation) (fun _ => phase) id := by
  intro ph g
  refine Triple.bind (hm.moves ph g) fun x => ?_
  intro p hp
  exact ⟨rfl, hp.2⟩

theorem moves_suspend : Moves (suspend J) (fun _ => .suspended) id :=
  moves_of_setPhase stays_requestIn _

theorem moves_resume : Moves (resume J) (fun _ => .active) id :=
  moves_of_setPhase stays_requestIn _

theorem moves_rollback : Moves (rollback J) (fun _ => .stopped) id :=
  moves_of_setPhase stays_requestIn _

theorem stays_updatePolicy :
    Stays (updatePolicy J declaration) := stays_requestIn

theorem stays_setFailedPrefixes {prefixes : List Ipv4Prefix} :
    Stays (setFailedPrefixes J prefixes) := stays_requestIn

theorem stays_commitReplacement : Stays (commitReplacement J) := stays_requestIn

theorem stays_drainOld {now : UInt64} : Stays (drainOld J now) := stays_requestIn

/-- An exchange under another owner. -/
theorem triple_withOwner {generation : ResponseBody → Option UInt64} {former g d : UInt64}
    {phase : ClientPhase} {recover : IpcError → Cl β UInt64}
    (hrecover : ∀ e, Triple (At phase g) (recover e) (fun _ => At phase g)
      (fun _ => At phase former) fun _ => True) :
    Triple (fun p => p.client.phase = phase)
      (do setOwner g d
          handle (exchangeGeneration J operation generation) recover)
      (fun _ => At phase g) (fun _ => At phase former) (fun _ => True) := by
  refine Triple.bind (Q := fun _ => At phase g) (fun p hp => ⟨hp, rfl⟩) fun _ => ?_
  have hexchange : Stays (exchangeGeneration J operation generation) :=
    stays_of_preserves fun P => preserves_exchangeGeneration P
  exact Triple.handle (hexchange.moves phase g) hrecover

/-- The owner of before is taken back. -/
theorem triple_restoreOwner {α : Type} {owner : LeaseOwner} {e : IpcError} {phase : ClientPhase}
    {g : UInt64} {Q : α → Parties β → Prop} :
    Triple (At phase g) (do setOwner owner.generation owner.leaseDeadlineMonoMs; fail e) Q
      (fun _ => At phase owner.generation) (fun _ => True) :=
  fun _ hp => ⟨hp.1, rfl⟩

theorem stays_renewLease {deadline : UInt64} : Stays (renewLease J deadline) := by
  intro phase generation p hp
  -- the owner is changed in its deadline only
  have howner : ∀ d, Preserves (At phase generation) (setOwner generation d : Cl β Unit) :=
    fun d q hq => ⟨hq.1, rfl⟩
  have hexchange : Stays (exchangeGeneration J .leaseRenew (generationOf .leaseRenew)) :=
    stays_of_preserves fun P => preserves_exchangeGeneration P
  rw [renewLease, wp_bind, wp_get, wp_bind, wp_ensure]
  refine ⟨fun _ => ?_, fun _ => hp⟩
  rw [hp.2]
  refine (howner _).bind (fun _ => ?_) p hp
  exact (hexchange phase generation).handle fun e => (howner _).bind fun _ => .fail e

theorem moves_prepareReplacementWithOwner {g deadline : UInt64} :
    Moves (prepareReplacementWithOwner J declaration g deadline) id fun _ => g := by
  intro phase generation p hp
  rw [prepareReplacementWithOwner, wp_bind, wp_get, wp_bind, wp_ensure]
  refine ⟨fun _ => ?_, fun _ => hp⟩
  rw [← hp.2]
  exact triple_withOwner (fun e => triple_restoreOwner) p hp.1

theorem moves_reconfigureWithOwner {g deadline : UInt64} :
    Moves (reconfigureWithOwner J declaration g deadline) id fun _ => g := by
  intro phase generation p hp
  rw [reconfigureWithOwner, wp_bind, wp_get, wp_bind, wp_ensure]
  refine ⟨fun _ => ?_, fun _ => hp⟩
  rw [wp_bind, wp_ensure]
  refine ⟨fun _ => ?_, fun _ => hp⟩
  rw [← hp.2]
  refine triple_withOwner (fun e => ?_) p hp.1
  -- the answer to `Status` decides whether the new owner stays
  have hstatus : Stays (exchange J .status) :=
    stays_of_preserves fun P => preserves_exchange P
  refine Triple.attempt_bind (hstatus.moves phase g) (fun observed => ?_) fun e' => ?_
  · exact Triple.ite (fun _ => Triple.pure fun _ h => h) fun _ => triple_restoreOwner
  · exact Triple.ite (fun _ => Triple.pure fun _ h => h) fun _ => triple_restoreOwner

end CandyRuntime.NetdIpc
