import CandyRuntime.Tunio.DeedTheorems
import CandyRuntime.Tunio.PacketControl

/-!
# The record of the packet endpoint

The endpoint keeps the binding of the owner, and the manager the highest epoch it has applied. They
change at different times: the manager when it applies an attachment, the endpoint when it reads the
acknowledgement. They agree in every idle state of a run in which no deadline comes between the two
(`record_agrees`).
-/

namespace CandyRuntime.Tunio

open Lib Lib.Proc NetdProto NetdV2

variable {α : Type} {w : World}

/-! ## The manager without owner transactions -/

/-- The bridge of these bindings, with no transaction that would keep a second owner. -/
structure Bridge.Serves (b : Bridge) (origin : PacketPortBinding) : Prop where
  infrastructure : b.infrastructure = origin
  retained : b.retained = none
  generation : b.highestPolicyGeneration = origin.policyGeneration

/-- The bridge serves the same bindings and has applied nothing new. -/
structure Bridge.Level (b b' : Bridge) : Prop where
  infrastructure : b'.infrastructure = b.infrastructure
  retained : b.retained = none → b'.retained = none
  generation : b'.highestPolicyGeneration = b.highestPolicyGeneration
  epoch : b'.highestOwnerEpoch = b.highestOwnerEpoch

namespace Bridge

variable {b b' : Bridge} {origin : PacketPortBinding}

theorem Level.refl (b : Bridge) : b.Level b := ⟨rfl, id, rfl, rfl⟩

theorem Serves.level (h : b.Serves origin) (hlevel : b.Level b') : b'.Serves origin := by
  refine ⟨?_, hlevel.retained h.retained, ?_⟩
  · rw [hlevel.infrastructure, h.infrastructure]
  · rw [hlevel.generation, h.generation]

theorem forceRetained_level : b.Level b.forceRetained := ⟨rfl, fun _ => rfl, rfl, rfl⟩

theorem endPending_level (phase : OwnerTransactionPhase) : b.Level (b.endPending phase) := by
  unfold endPending
  split
  · exact .refl b
  · exact ⟨rfl, id, rfl, rfl⟩

theorem happens_level (h : Happening) : b.Level (b.happens h) := by
  cases h with
  | ownerExpired now =>
    unfold happens
    dsimp only
    split_ifs
    · exact ⟨rfl, id, rfl, rfl⟩
    · exact .refl b
  | ownerFailed => exact ⟨rfl, id, rfl, rfl⟩
  | retainedExpired now =>
    unfold happens
    dsimp only
    split_ifs
    · exact forceRetained_level
    · exact .refl b
  | retainedFailed =>
    unfold happens
    dsimp only
    split_ifs
    · exact forceRetained_level
    · exact .refl b
  | pendingExpired now =>
    unfold happens
    dsimp only
    split_ifs
    · exact endPending_level _
    · exact .refl b
  | pendingFailed => exact endPending_level _

theorem revoke_level (ownerEpoch : ℕ) : b.Level (b.revoke ownerEpoch).2 := by
  unfold revoke
  split_ifs
  · exact .refl b
  · exact ⟨rfl, fun _ => rfl, rfl, rfl⟩
  · exact ⟨rfl, id, rfl, rfl⟩

/-- An attachment is refused, or it is the highest epoch from now on. -/
theorem attach_level_or (circumstance : Circumstance) {port : PacketPortBinding}
    (hport : port.policyGeneration = origin.policyGeneration) (hserves : b.Serves origin)
    (authDeadline : ℕ) (authorization : AuthorizationCheck) :
    ((b.attach circumstance port authDeadline authorization).1 ≠ .ok ()
        ∧ b.Level (b.attach circumstance port authDeadline authorization).2)
      ∨ ((b.attach circumstance port authDeadline authorization).1 = .ok ()
        ∧ (b.attach circumstance port authDeadline authorization).2.Serves origin
        ∧ (b.attach circumstance port authDeadline authorization).2.highestOwnerEpoch
          = port.ownerEpoch) := by
  unfold attach
  split_ifs
  · exact .inl ⟨nofun, .refl b⟩
  · exact .inl ⟨nofun, .refl b⟩
  · exact .inl ⟨nofun, .refl b⟩
  · exact .inl ⟨nofun, .refl b⟩
  · exact .inr ⟨rfl, ⟨hserves.infrastructure, hserves.retained, hport⟩, rfl⟩

end Bridge

theorem World.background_level (w : World) (event : Background) :
    (w.background event).controller = w.controller ∧ (w.background event).origin = w.origin
      ∧ w.bridge.Level (w.background event).bridge := by
  cases event with
  | happening h => exact ⟨rfl, rfl, Bridge.happens_level h⟩
  | guardRevokes lost =>
    unfold World.background World.guardRevokes
    dsimp only
    split
    next seen _ =>
      have hlevel := Bridge.revoke_level (b := w.bridge) seen.binding.ownerEpoch
      split
      next bridge heq =>
        rw [heq] at hlevel
        exact ⟨rfl, rfl, hlevel⟩
      next bridge heq =>
        rw [heq] at hlevel
        exact ⟨rfl, rfl, hlevel⟩
    next => exact ⟨rfl, rfl, .refl _⟩

/-! ## The programs of the endpoint -/

/-- What the update asks of the manager is what its request asks for. -/
inductive Asks (request : PacketControlRequest) (current : PacketPortBinding) :
    OwnerChange → Prop where
  | attach (hop : request.operation = .attach) (authDeadline : ℕ)
      (authorization : AuthorizationCheck) :
      Asks request current (.attach request.binding authDeadline authorization)
  | revoke (hop : request.operation = .revoke) (hbinding : request.binding = current) :
      Asks request current (.revoke request.binding.ownerEpoch)

section Programs

variable {E : ℕ → Moment} {w₀ : World}

/-- The program only reads. -/
def Reads {α : Type} (w₀ : World) (m : Srv α) (Q : α → Prop) : Prop :=
  Triple (fun w => w = { w₀ with clock := w.clock }) m
    (fun a w => w = { w₀ with clock := w.clock } ∧ Q a) (fun _ w => w = { w₀ with clock := w.clock })
    fun _ => False

theorem Reads.bind {α β : Type} {m : Srv α} {f : α → Srv β} {Q : α → Prop} {R : β → Prop}
    (hm : Reads w₀ m Q) (hf : ∀ a, Q a → Reads w₀ (f a) R) : Reads w₀ (m >>= f) R :=
  Triple.bind hm fun a => Triple.and_pre fun ha => hf a ha

theorem Reads.pure {a : α} {Q : α → Prop} (ha : Q a) :
    Reads w₀ (Pure.pure a : Srv α) Q :=
  Triple.pure fun _ hw => ⟨hw, ha⟩

theorem Reads.ensure_bind {β : Type} {c : Prop} [Decidable c] {e : String} {f : Unit → Srv β}
    {R : β → Prop} (hf : c → Reads w₀ (f ()) R) : Reads w₀ (ensure c e >>= f) R :=
  Triple.ensure_bind hf fun _ hw => hw

theorem reads_reading (f : Moment → Option α) (e : String) :
    Reads w₀ (reading E f e) fun _ => True := by
  intro w hw
  unfold wp reading
  dsimp only
  cases f (E w.clock) with
  | some a =>
    refine ⟨?_, trivial⟩
    rw [hw]
  | none =>
    show ({ w with clock := w.clock + 1 } : World) = _
    rw [hw]

theorem reads_packetPort (binding : PacketPortBinding) :
    Reads w₀ (packetPort E binding) fun port => port = binding := by
  unfold packetPort
  refine Reads.bind (m := fileWorks E _) (reads_reading _ _) fun _ _ => ?_
  exact Reads.ensure_bind fun _ => Reads.pure rfl

theorem reads_packetChange (request : PacketControlRequest) (descriptors : ℕ) (origin : Origin)
    (state : Controller) :
    Reads w₀ (packetChange E request descriptors origin state) fun change =>
      ∀ c, change = some c → Asks request state.binding c := by
  unfold packetChange
  split
  next => exact Reads.ensure_bind fun _ => Reads.pure nofun
  next hop =>
    refine Reads.ensure_bind fun _ => ?_
    refine Reads.bind (Q := fun _ => True) ?_ fun deadline _ => ?_
    · unfold reboundDeadline
      refine Reads.ensure_bind fun _ => ?_
      refine Reads.bind (m := instantNow E) (reads_reading _ _) fun _ _ => ?_
      refine Reads.bind (m := wallNow E) (reads_reading _ _) fun _ _ => ?_
      refine Reads.ensure_bind fun _ => ?_
      refine Reads.bind (m := instantNow E) (reads_reading _ _) fun _ _ => ?_
      exact Reads.ensure_bind fun _ => Reads.pure trivial
    · refine Reads.bind (reads_packetPort request.binding) fun port hport => ?_
      refine Reads.bind (Q := fun _ => True) ?_ fun check _ => ?_
      · unfold bootstrapCheck
        refine Reads.bind (m := monotonicMs E) (reads_reading _ _) fun _ _ => ?_
        refine Reads.bind (m := wallNow E) (reads_reading _ _) fun _ _ => ?_
        refine Reads.bind (m := instantNow E) (reads_reading _ _) fun _ _ => ?_
        exact Reads.ensure_bind fun _ => Reads.pure trivial
      · refine Reads.pure fun c hc => ?_
        obtain rfl := Option.some.inj hc
        rw [hport]
        exact .attach hop _ _
  next hop =>
    refine Reads.ensure_bind fun hsame => Reads.pure fun c hc => ?_
    obtain rfl := Option.some.inj hc
    exact .revoke hop hsame.2

/-- A request that reaches the manager is of the first binding but for its epoch, and asks for what
it says. -/
theorem reads_packetAdmission (request : PacketControlRequest) (peer : ProcessIdentity)
    (descriptors : ℕ) :
    Reads w₀ (packetAdmission E request peer descriptors) fun change =>
      fixedBindingMatches request.binding w₀.origin.binding = true
        ∧ ∀ c, change = some c → Asks request w₀.controller.binding c := by
  unfold packetAdmission
  have hstate : Reads w₀ controllerState fun state => state = w₀.controller := by
    intro w hw
    exact ⟨hw, by rw [hw]⟩
  have hget : Reads w₀ (get : Srv World) fun world => world.origin = w₀.origin := by
    intro w hw
    exact ⟨hw, by rw [hw]⟩
  refine hstate.bind fun state hstate => hget.bind fun world horigin => ?_
  refine Reads.bind (m := processIsCurrent E peer) (reads_reading _ _) fun _ _ => ?_
  refine Reads.ensure_bind fun _ => Reads.ensure_bind fun hfixed => Reads.ensure_bind fun _ => ?_
  refine Reads.ensure_bind fun _ => ?_
  rw [hstate]
  refine Reads.bind (reads_packetChange _ _ _ _) fun change hchange => ?_
  rw [horigin] at hfixed
  cases change with
  | none => exact Reads.pure ⟨hfixed, nofun⟩
  | some change =>
    refine Reads.bind (m := processIsCurrent E peer) (reads_reading _ _) fun _ _ => ?_
    exact Reads.ensure_bind fun _ => Reads.pure ⟨hfixed, hchange⟩

/-- The program keeps the binding, the manager and what the bootstrap left. -/
def Kept (w₀ w : World) : Prop :=
  w.controller.binding = w₀.controller.binding ∧ w.bridge = w₀.bridge ∧ w.origin = w₀.origin

theorem kept_reading (f : Moment → Option α) (e : String) :
    Preserves (Kept w₀) (reading E f e) := by
  intro w hw
  unfold wp reading
  dsimp only
  cases f (E w.clock) with
  | some a => exact hw
  | none => exact hw

theorem kept_publish : Preserves (Kept w₀) (publish E) := by
  unfold publish fileWorks
  exact kept_reading _ _

theorem kept_controllerState : Preserves (Kept w₀) controllerState := fun _ hw => hw

theorem kept_modifyController {f : Controller → Controller} (hf : ∀ c, (f c).binding = c.binding) :
    Preserves (Kept w₀) (modifyController f) := by
  intro w hw
  exact ⟨(hf w.controller).trans hw.1, hw.2⟩

theorem kept_controlRequest (request : ControlRequest) (peer : ProcessIdentity) :
    Preserves (Kept w₀) (controlRequest E request peer) := by
  unfold controlRequest
  refine kept_controllerState.bind fun state => ?_
  split
  · split
    · exact .pure _
    · refine .ite (.pure _) (.ite (.pure _) ?_)
      unfold takeover
      refine kept_controllerState.bind fun state => ?_
      refine Preserves.bind (m := processIsCurrent E _) (kept_reading _ _) fun current => ?_
      refine .ite (.pure _) (.ite ?_ (.pure _))
      refine Preserves.bind (kept_modifyController ?_) fun _ => ?_
      · exact fun _ => rfl
      · refine kept_publish.attempt.bind fun result => ?_
        cases result with
        | ok _ => exact .pure _
        | error _ =>
          refine Preserves.bind (kept_modifyController ?_) fun _ => .pure _
          exact fun _ => rfl
    · exact .pure _
  · exact .pure _

theorem kept_register : Preserves (Kept w₀) (register E) := by
  unfold register
  refine kept_controllerState.bind fun state => ?_
  refine Preserves.bind (m := processIsCurrent E _) (kept_reading _ _) fun current => ?_
  refine (Preserves.ensure _ _).bind fun _ => ?_
  refine Preserves.bind (kept_modifyController ?_) fun _ => kept_publish
  exact fun _ => rfl

theorem kept_after {m : Srv α} (h : Preserves (Kept w) m) :
    Kept w (after m w) := by
  have hwp := h w ⟨rfl, rfl, rfl⟩
  unfold wp at hwp
  unfold after
  split at hwp
  next heq => rw [heq]; exact hwp
  next heq => rw [heq]; exact hwp
  next heq => rw [heq]; exact hwp

end Programs

/-! ## The parties -/

namespace Parties

/-- The updates the manager has not answered, in their order. -/
def updates (p : Parties) : List OwnerUpdate := p.taken.toList ++ p.queue

/-- The epoch of the record once the endpoint has read what it is sent. -/
def recorded (p : Parties) : ℕ :=
  match p.awaiting with
  | some a =>
    if a.request.operation = .attach ∧ a.answer = some (.ok ()) then a.request.binding.ownerEpoch
    else p.world.controller.binding.ownerEpoch
  | none => p.world.controller.binding.ownerEpoch

/-- The request that waits is one of the first binding, and its update asks for what it says. -/
structure Waits (p : Parties) (a : Awaiting) : Prop where
  ticket : a.ticket < p.tickets
  fixed : fixedBindingMatches a.request.binding p.world.origin.binding = true
  asks : ∀ u ∈ p.updates, u.ticket = a.ticket →
    Asks a.request p.world.controller.binding u.change ∧ a.answer = none
  revokes : a.request.operation ≠ .attach → a.request.binding = p.world.controller.binding

/-- What the updates of the endpoint look like. -/
def Sent (origin : PacketPortBinding) (u : OwnerUpdate) : Prop :=
  (∃ port authDeadline authorization, u.change = .attach port authDeadline authorization
      ∧ port.policyGeneration = origin.policyGeneration)
    ∨ ∃ ownerEpoch, u.change = .revoke ownerEpoch

/-- The invariant of the two parties. -/
structure Inv (p : Parties) : Prop where
  serves : p.world.bridge.Serves p.world.origin.binding
  fixed : fixedBindingMatches p.world.controller.binding p.world.origin.binding = true
  tickets : ∀ u ∈ p.updates, u.ticket < p.tickets
  distinct : p.updates.Pairwise fun u v => u.ticket ≠ v.ticket
  sent : ∀ u ∈ p.updates, Sent p.world.origin.binding u
  waits : ∀ a, p.awaiting = some a → p.Waits a
  record : p.world.bridge.highestOwnerEpoch = p.recorded

/-- The step does not come between the manager and the endpoint: no deadline passes on an attachment
that the manager has applied, and the manager applies none that was given up. -/
def Timely (p : Parties) : PartyLabel → Prop
  | .polls true => ∀ a, p.awaiting = some a → a.request.operation = .attach →
    a.answer ≠ some (.ok ())
  | .applies circumstance => ∀ u, p.taken = some u → p.awaits u = false →
    ∀ port authDeadline authorization, u.change = .attach port authDeadline authorization →
    (p.world.bridge.apply circumstance u.change).1 ≠ .ok ()
  | _ => True

/-- All steps of a run are timely. -/
def AllTimely (E : ℕ → Moment) : Parties → List PartyLabel → Prop
  | _, [] => True
  | p, label :: labels => p.Timely label ∧ AllTimely E (p.step E label) labels

variable {E : ℕ → Moment} {p : Parties}

/-! ### Steps that leave the record alone -/

/-- A step of the world that applies nothing and keeps the binding. -/
theorem Inv.world (h : p.Inv) (hlevel : p.world.bridge.Level w.bridge)
    (horigin : w.origin = p.world.origin)
    (hbinding : w.controller.binding = p.world.controller.binding) :
    Inv { p with world := w } where
  serves := by
    show w.bridge.Serves w.origin.binding
    rw [horigin]
    exact h.serves.level hlevel
  fixed := by
    show fixedBindingMatches w.controller.binding w.origin.binding = true
    rw [horigin, hbinding]
    exact h.fixed
  tickets := h.tickets
  distinct := h.distinct
  sent := by
    show ∀ u ∈ p.updates, Sent w.origin.binding u
    rw [horigin]
    exact h.sent
  waits := by
    intro a ha
    obtain ⟨hticket, hfixed, hasks, hrevokes⟩ := h.waits a ha
    refine ⟨hticket, ?_, ?_, ?_⟩
    · show fixedBindingMatches a.request.binding w.origin.binding = true
      rw [horigin]
      exact hfixed
    · show ∀ u ∈ p.updates, u.ticket = a.ticket →
        Asks a.request w.controller.binding u.change ∧ a.answer = none
      rw [hbinding]
      exact hasks
    · show a.request.operation ≠ .attach → a.request.binding = w.controller.binding
      rw [hbinding]
      exact hrevokes
  record := by
    have hrecorded : ({ p with world := w } : Parties).recorded = p.recorded := by
      unfold recorded
      simp only [hbinding]
    rw [hrecorded, ← h.record]
    exact hlevel.epoch

theorem Inv.kept (h : p.Inv) (hkept : Kept p.world w) : Inv { p with world := w } := by
  refine h.world ?_ hkept.2.2 hkept.1
  rw [hkept.2.1]
  exact .refl _

/-- The manager may drop updates. -/
theorem Inv.drops (h : p.Inv) {q : Parties} (hworld : q.world = p.world)
    (hawaiting : q.awaiting = p.awaiting) (htickets : q.tickets = p.tickets)
    (hupdates : q.updates.Sublist p.updates) : q.Inv where
  serves := by
    rw [hworld]
    exact h.serves
  fixed := by
    rw [hworld]
    exact h.fixed
  tickets := by
    intro u hu
    rw [htickets]
    exact h.tickets u (hupdates.subset hu)
  distinct := h.distinct.sublist hupdates
  sent := by
    intro u hu
    rw [hworld]
    exact h.sent u (hupdates.subset hu)
  waits := by
    intro a ha
    rw [hawaiting] at ha
    obtain ⟨hticket, hfixed, hasks, hrevokes⟩ := h.waits a ha
    refine ⟨by rw [htickets]; exact hticket, by rw [hworld]; exact hfixed, fun u hu => ?_, ?_⟩
    · rw [hworld]
      exact hasks u (hupdates.subset hu)
    · rw [hworld]
      exact hrevokes
  record := by
    have hrecorded : q.recorded = p.recorded := by
      unfold recorded
      rw [hawaiting, hworld]
    rw [hrecorded, hworld]
    exact h.record

theorem Inv.takes (h : p.Inv) : p.takes.Inv := by
  unfold Parties.takes
  split
  next u rest htaken hqueue =>
    refine h.drops rfl rfl rfl ?_
    show (List.Sublist ((if p.awaits u then some u else none).toList ++ rest)
      (p.taken.toList ++ p.queue))
    rw [htaken, hqueue]
    split_ifs
    · exact .refl _
    · exact List.sublist_cons_self u rest
  next => exact h

theorem Inv.stops (h : p.Inv) : p.stops.Inv := by
  unfold Parties.stops
  split_ifs with htaken
  · exact h
  · refine h.drops rfl rfl rfl ?_
    show List.Sublist (p.taken.toList ++ []) (p.taken.toList ++ p.queue)
    exact List.Sublist.append (.refl _) (List.nil_sublist _)

theorem Inv.locked (h : p.Inv) {f : World → World} (hf : Kept p.world (f p.world)) :
    (p.locked f).Inv := by
  unfold Parties.locked
  split_ifs
  · exact h
  · exact h.kept hf

/-! ### The endpoint -/

/-- The endpoint is free again. -/
theorem Inv.answers (h : p.Inv) (horigin : w.origin = p.world.origin)
    (hbridge : w.bridge = p.world.bridge)
    (hfixed : fixedBindingMatches w.controller.binding p.world.origin.binding = true)
    (hrecord : p.world.bridge.highestOwnerEpoch = w.controller.binding.ownerEpoch)
    (request : PacketControlRequest) (accepted : Bool) :
    (p.answers w request accepted).Inv where
  serves := by
    show w.bridge.Serves w.origin.binding
    rw [horigin, hbridge]
    exact h.serves
  fixed := by
    show fixedBindingMatches w.controller.binding w.origin.binding = true
    rw [horigin]
    exact hfixed
  tickets := h.tickets
  distinct := h.distinct
  sent := by
    show ∀ u ∈ p.updates, Sent w.origin.binding u
    rw [horigin]
    exact h.sent
  waits := nofun
  record := by
    show w.bridge.highestOwnerEpoch = w.controller.binding.ownerEpoch
    rw [hbridge]
    exact hrecord

theorem recorded_of_none (h : p.awaiting = none) :
    p.recorded = p.world.controller.binding.ownerEpoch := by
  unfold recorded
  rw [h]

/-- The update of a new request joins the queue. -/
theorem Inv.sends (h : p.Inv) (hnone : p.awaiting = none) {request : PacketControlRequest}
    {change : OwnerChange} (clock : ℕ)
    (hfixed : fixedBindingMatches request.binding p.world.origin.binding = true)
    (hasks : Asks request p.world.controller.binding change) :
    Inv { p with
      world := { p.world with clock }
      awaiting := some ⟨p.tickets, request, none⟩
      queue := p.queue ++ [⟨p.tickets, change⟩]
      tickets := p.tickets + 1 } := by
  have hrecord := h.record
  rw [recorded_of_none hnone] at hrecord
  have hupdates : ∀ u ∈ p.taken.toList ++ (p.queue ++ [⟨p.tickets, change⟩]),
      u ∈ p.updates ∨ u = ⟨p.tickets, change⟩ := by
    intro u hu
    unfold updates
    rw [← List.append_assoc, List.mem_append, List.mem_singleton] at hu
    exact hu
  refine ⟨h.serves, h.fixed, ?_, ?_, ?_, ?_, ?_⟩
  · intro u hu
    show u.ticket < p.tickets + 1
    rcases hupdates u hu with hold | rfl
    · exact Nat.lt_succ_of_lt (h.tickets u hold)
    · exact Nat.lt_succ_self _
  · show List.Pairwise (fun u v => u.ticket ≠ v.ticket)
      (p.taken.toList ++ (p.queue ++ [⟨p.tickets, change⟩]))
    rw [← List.append_assoc, List.pairwise_append]
    refine ⟨h.distinct, List.pairwise_singleton _ _, fun u hu v hv => ?_⟩
    rw [List.mem_singleton.mp hv]
    exact Nat.ne_of_lt (h.tickets u hu)
  · intro u hu
    rcases hupdates u hu with hold | rfl
    · exact h.sent u hold
    · cases hasks with
      | attach _ authDeadline authorization =>
        refine .inl ⟨request.binding, authDeadline, authorization, rfl, ?_⟩
        unfold fixedBindingMatches at hfixed
        rw [Bool.and_eq_true, decide_eq_true_eq] at hfixed
        exact hfixed.2
      | revoke _ _ => exact .inr ⟨_, rfl⟩
  · intro a ha
    obtain rfl := Option.some.inj ha
    refine ⟨Nat.lt_succ_self _, hfixed, fun u hu hticket => ?_, fun hop => ?_⟩
    · rcases hupdates u hu with hold | rfl
      · exact absurd hticket (Nat.ne_of_lt (h.tickets u hold))
      · exact ⟨hasks, rfl⟩
    · cases hasks with
      | attach hattach _ _ => exact absurd hattach hop
      | revoke _ hbinding => exact hbinding
  · show p.world.bridge.highestOwnerEpoch
      = if request.operation = .attach ∧ none = some (Except.ok ()) then request.binding.ownerEpoch
        else p.world.controller.binding.ownerEpoch
    rw [if_neg nofun]
    exact hrecord

/-- The endpoint takes a request while nobody waits. -/
theorem Inv.accepts (h : p.Inv) (request : PacketControlRequest) (peer : ProcessIdentity)
    (descriptors : ℕ) (unavailable : Bool) :
    (p.accepts E request peer descriptors unavailable).Inv := by
  unfold Parties.accepts
  by_cases hwaiting : p.awaiting.isSome = true
  · rw [if_pos hwaiting]
    exact h
  rw [if_neg hwaiting]
  have hnone : p.awaiting = none := by simpa using hwaiting
  have hrecord := h.record
  rw [recorded_of_none hnone] at hrecord
  have hanswers : ∀ clock accepted, (p.answers { p.world with clock } request accepted).Inv := by
    intro clock accepted
    exact h.answers (w := { p.world with clock }) rfl rfl h.fixed hrecord request accepted
  have hadmission := reads_packetAdmission (E := E) request peer descriptors
    p.world rfl
  unfold wp at hadmission
  cases hresult : packetAdmission E request peer descriptors p.world with
  | mk outcome w =>
    rw [hresult] at hadmission
    cases outcome with
    | ok change =>
      obtain ⟨hw, hfixed, hasks⟩ := hadmission
      rw [hw]
      cases change with
      | none => exact hanswers w.clock true
      | some change =>
        show Inv (if _ then _ else _)
        split_ifs
        · exact hanswers w.clock false
        · exact h.sends hnone w.clock hfixed (hasks change rfl)
    | err e =>
      rw [show w = { p.world with clock := w.clock } from hadmission]
      exact hanswers w.clock false
    | crash => exact absurd hadmission id

/-- A committed request is the record, whether or not it is published. -/
theorem packetCommit_eq (request : PacketControlRequest) (w : World) :
    ∃ w', (packetCommit E request w).2 = w' ∧ w'.origin = w.origin ∧ w'.bridge = w.bridge
      ∧ w'.controller.binding = request.binding := by
  refine ⟨_, rfl, ?_⟩
  unfold packetCommit publish fileWorks reading modifyController Proc.modify
  simp only [Bind.bind, Proc.bind]
  split
  · exact ⟨rfl, rfl, rfl⟩
  · exact ⟨rfl, rfl, rfl⟩

/-- The endpoint reads the acknowledgement, or gives up. -/
theorem Inv.polls (h : p.Inv) (late : Bool) (htimely : p.Timely (.polls late)) :
    (p.polls E late).Inv := by
  unfold Parties.polls
  cases hawaiting : p.awaiting with
  | none => exact h
  | some a =>
    have hwaits := h.waits a hawaiting
    have hrecord := h.record
    unfold recorded at hrecord
    rw [hawaiting] at hrecord
    -- Without an applied attachment, the record is what the manager has.
    have hgives : ¬ (a.request.operation = .attach ∧ a.answer = some (.ok ())) →
        (p.answers p.world a.request false).Inv := by
      intro hnot
      simp only [if_neg hnot] at hrecord
      exact h.answers rfl rfl h.fixed hrecord a.request false
    dsimp only
    by_cases hlate : late = true
    · rw [if_pos hlate]
      refine hgives fun happlied => ?_
      rw [hlate] at htimely
      exact htimely a hawaiting happlied.1 happlied.2
    rw [if_neg hlate]
    cases hanswer : a.answer with
    | none =>
      dsimp only
      split_ifs
      · exact h
      · refine hgives fun happlied => ?_
        rw [hanswer] at happlied
        exact absurd happlied.2 nofun
    | some result =>
      cases result with
      | error e =>
        refine hgives fun happlied => ?_
        rw [hanswer] at happlied
        exact absurd happlied.2 nofun
      | ok _ =>
        obtain ⟨w, hw, horigin, hbridge, hbinding⟩ := packetCommit_eq (E := E) a.request p.world
        have hfixed : fixedBindingMatches w.controller.binding p.world.origin.binding = true := by
          rw [hbinding]
          exact hwaits.fixed
        have hepoch : p.world.bridge.highestOwnerEpoch = w.controller.binding.ownerEpoch := by
          rw [hrecord, hbinding]
          dsimp only
          by_cases hop : a.request.operation = .attach
          · rw [if_pos ⟨hop, hanswer⟩]
          · rw [if_neg fun happlied => hop happlied.1, ← hwaits.revokes hop]
        have hanswers := fun accepted => h.answers horigin hbridge hfixed hepoch a.request accepted
        rw [← hw] at hanswers
        dsimp only
        split
        next heq =>
          rw [heq] at hanswers
          exact hanswers true
        next heq =>
          rw [heq] at hanswers
          exact hanswers false

/-! ### The manager -/

/-- What the manager does with one update, and what it leaves. -/
theorem apply_sent {b : Bridge} {origin : PacketPortBinding} (hserves : b.Serves origin)
    {u : OwnerUpdate} (hsent : Sent origin u) (circumstance : Circumstance) :
    (b.apply circumstance u.change).2.Serves origin
      ∧ (b.Level (b.apply circumstance u.change).2
          ∧ (∀ port authDeadline authorization, u.change = .attach port authDeadline authorization →
            (b.apply circumstance u.change).1 ≠ .ok ())
        ∨ ∃ port authDeadline authorization, u.change = .attach port authDeadline authorization
          ∧ (b.apply circumstance u.change).1 = .ok ()
          ∧ (b.apply circumstance u.change).2.highestOwnerEpoch = port.ownerEpoch) := by
  rcases hsent with ⟨port, authDeadline, authorization, hchange, hgeneration⟩ | ⟨ownerEpoch, hchange⟩
  · rw [hchange]
    rcases Bridge.attach_level_or circumstance hgeneration hserves authDeadline authorization with
      ⟨hrefused, hlevel⟩ | ⟨hok, hserves', hepoch⟩
    · exact ⟨hserves.level hlevel, .inl ⟨hlevel, fun _ _ _ _ => hrefused⟩⟩
    · exact ⟨hserves', .inr ⟨port, authDeadline, authorization, rfl, hok, hepoch⟩⟩
  · rw [hchange]
    have hlevel : b.Level (b.apply circumstance (.revoke ownerEpoch)).2 :=
      Bridge.revoke_level ownerEpoch
    exact ⟨hserves.level hlevel, .inl ⟨hlevel, nofun⟩⟩

/-- The manager answers, or has nobody to answer to. -/
theorem Inv.applies (h : p.Inv) (circumstance : Circumstance)
    (htimely : p.Timely (.applies circumstance)) : (p.applies circumstance).Inv := by
  unfold Parties.applies
  cases htaken : p.taken with
  | none => exact h
  | some u =>
    have hupdates : p.updates = u :: p.queue := by
      unfold updates
      rw [htaken]
      rfl
    have hmem : u ∈ p.updates := by
      rw [hupdates]
      exact List.mem_cons_self
    have hqueue : ∀ v ∈ p.queue, v ∈ p.updates := by
      intro v hv
      rw [hupdates]
      exact List.mem_cons_of_mem u hv
    have hothers : ∀ v ∈ p.queue, v.ticket ≠ u.ticket := by
      have hdistinct := h.distinct
      rw [hupdates, List.pairwise_cons] at hdistinct
      exact fun v hv => (hdistinct.1 v hv).symm
    obtain ⟨hserves, heffect⟩ := apply_sent h.serves (h.sent u hmem) circumstance
    refine ⟨hserves, h.fixed, fun v hv => h.tickets v (hqueue v hv), ?_,
      fun v hv => h.sent v (hqueue v hv), ?_, ?_⟩
    · have hdistinct := h.distinct
      rw [hupdates, List.pairwise_cons] at hdistinct
      exact hdistinct.2
    · intro a ha
      obtain ⟨a', ha', rfl⟩ := Option.map_eq_some_iff.mp ha
      obtain ⟨hticket, hfixed, hasks, hrevokes⟩ := h.waits a' ha'
      split_ifs with hsame
      · exact ⟨hticket, hfixed, fun v hv hv' => absurd (hv'.trans hsame) (hothers v hv), hrevokes⟩
      · exact ⟨hticket, hfixed, fun v hv => hasks v (hqueue v hv), hrevokes⟩
    · have hrecord := h.record
      unfold recorded at hrecord ⊢
      dsimp only
      cases hawaiting : p.awaiting with
      | none =>
        rw [hawaiting] at hrecord
        rcases heffect with ⟨hlevel, _⟩ | ⟨port, authDeadline, authorization, hchange, hok, _⟩
        · rw [hlevel.epoch]
          exact hrecord
        · have hlost : p.awaits u = false := by
            unfold awaits
            rw [hawaiting]
            rfl
          exact absurd hok (htimely u htaken hlost _ _ _ hchange)
      | some a =>
        rw [hawaiting] at hrecord
        dsimp only [Option.map_some] at hrecord ⊢
        by_cases hsame : a.ticket = u.ticket
        · obtain ⟨hasks, hnone⟩ := (h.waits a hawaiting).asks u hmem hsame.symm
          rw [if_neg (by rw [hnone]; exact fun hnot => absurd hnot.2 nofun)] at hrecord
          simp only [if_pos hsame]
          rcases heffect with ⟨hlevel, hrefused⟩ | ⟨port, authDeadline, authorization, hchange, hok,
            hepoch⟩
          · rw [hlevel.epoch, hrecord, if_neg]
            rintro ⟨hop, hanswer⟩
            generalize hchange : u.change = change at hasks
            cases hasks with
            | attach _ authDeadline authorization =>
              exact hrefused _ _ _ hchange (Option.some.inj hanswer)
            | revoke hrevoke _ =>
              rw [hrevoke] at hop
              cases hop
          · rw [hchange] at hasks
            cases hasks with
            | attach hop _ _ =>
              rw [if_pos ⟨hop, congrArg some hok⟩]
              exact hepoch
        · simp only [if_neg hsame]
          rcases heffect with ⟨hlevel, _⟩ | ⟨port, authDeadline, authorization, hchange, hok, _⟩
          · rw [hlevel.epoch]
            exact hrecord
          · have hlost : p.awaits u = false := by
              unfold awaits
              rw [hawaiting]
              simpa using hsame
            exact absurd hok (htimely u htaken hlost _ _ _ hchange)

/-! ### Runs -/

theorem guardLooks_kept (w : World) (clock : Clock) : Kept w (w.guardLooks clock) := by
  unfold World.guardLooks
  split_ifs
  · exact ⟨rfl, rfl, rfl⟩
  · exact ⟨rfl, rfl, rfl⟩

theorem guardClears_kept (w : World) (missed : Bool) : Kept w (w.guardClears missed) := by
  unfold World.guardClears
  split
  · split_ifs
    · exact ⟨rfl, rfl, rfl⟩
    · exact ⟨rfl, rfl, rfl⟩
  · split_ifs
    · exact ⟨rfl, rfl, rfl⟩
    · exact ⟨rfl, rfl, rfl⟩
  · exact ⟨rfl, rfl, rfl⟩

theorem Inv.step (h : p.Inv) (label : PartyLabel) (htimely : p.Timely label) :
    (p.step E label).Inv := by
  cases label with
  | accepts request peer descriptors unavailable => exact h.accepts request peer descriptors unavailable
  | polls late => exact h.polls late htimely
  | takes => exact h.takes
  | applies circumstance => exact h.applies circumstance htimely
  | stops => exact h.stops
  | control request peer => exact h.locked (kept_after (kept_controlRequest request peer))
  | register => exact h.locked (kept_after kept_register)
  | background event =>
    obtain ⟨hcontroller, horigin, hlevel⟩ := p.world.background_level event
    exact h.world hlevel horigin (congrArg (·.binding) hcontroller)
  | guardLooks clock => exact h.locked (guardLooks_kept _ clock)
  | guardClears missed => exact h.kept (guardClears_kept _ _)

theorem Inv.run (h : p.Inv) (labels : List PartyLabel) (htimely : p.AllTimely E labels) :
    (p.run E labels).Inv := by
  induction labels generalizing p with
  | nil => exact h
  | cons label labels ih => exact ih (h.step label htimely.1) htimely.2

theorem fixedBindingMatches_self (binding : PacketPortBinding) :
    fixedBindingMatches binding binding = true := by
  unfold fixedBindingMatches infrastructureMatches
  simp

theorem inv_start (origin : Origin) (process controller : ProcessIdentity) (tokenSha256 : String) :
    (start origin process controller tokenSha256).Inv where
  serves := ⟨rfl, rfl, rfl⟩
  fixed := fixedBindingMatches_self _
  tickets := nofun
  distinct := .nil
  sent := nofun
  waits := nofun
  record := rfl

/-- The record of the endpoint agrees with the manager: it has the highest epoch that the manager has
applied, a probe reports it, and the manager does not take an attachment with the next epoch for a
stale one. -/
structure Agrees (E : ℕ → Moment) (p : Parties) : Prop where
  record : p.world.controller.binding.ownerEpoch = p.world.bridge.highestOwnerEpoch
  probe : ∀ request peer descriptors unavailable, request.operation = .probe →
    ∃ reply, (p.accepts E request peer descriptors unavailable).reply = some reply
      ∧ reply.nonce = request.nonce
      ∧ reply.currentBinding.ownerEpoch = p.world.bridge.highestOwnerEpoch
  retry : ∀ (circumstance : Circumstance) (binding : PacketPortBinding) authDeadline authorization,
    fixedBindingMatches binding p.world.origin.binding = true →
    binding.ownerEpoch = p.world.controller.binding.ownerEpoch + 1 →
    circumstance.cleanupBusy = false → circumstance.clock.instant < authDeadline →
    authorized authorization circumstance.clock = true →
    (p.world.bridge.attach circumstance binding authDeadline authorization).1 = .ok ()

/-- A probe is answered at once, with the binding of the record. -/
theorem accepts_probe (hnone : p.awaiting = none) {request : PacketControlRequest}
    (hprobe : request.operation = .probe) (peer : ProcessIdentity) (descriptors : ℕ)
    (unavailable : Bool) :
    ∃ reply, (p.accepts E request peer descriptors unavailable).reply = some reply
      ∧ reply.nonce = request.nonce ∧ reply.currentBinding = p.world.controller.binding := by
  have hadmission := reads_packetAdmission (E := E) request peer descriptors
    p.world rfl
  unfold wp at hadmission
  unfold Parties.accepts
  rw [if_neg (by rw [hnone]; exact nofun)]
  cases hresult : packetAdmission E request peer descriptors p.world with
  | mk outcome w =>
    rw [hresult] at hadmission
    cases outcome with
    | ok change =>
      obtain ⟨hw, _, hasks⟩ := hadmission
      cases change with
      | none =>
        refine ⟨_, rfl, rfl, ?_⟩
        rw [hw]
        rfl
      | some change =>
        cases hasks change rfl with
        | attach hop _ _ =>
          rw [hprobe] at hop
          cases hop
        | revoke hop _ =>
          rw [hprobe] at hop
          cases hop
    | err e =>
      refine ⟨_, rfl, rfl, ?_⟩
      rw [show w = { p.world with clock := w.clock } from hadmission]
      rfl
    | crash => exact absurd hadmission id

/-- The manager takes the next epoch. -/
theorem attach_next {b : Bridge} {origin binding : PacketPortBinding} (hserves : b.Serves origin)
    (hfixed : fixedBindingMatches binding origin = true)
    (hepoch : b.highestOwnerEpoch < binding.ownerEpoch) {circumstance : Circumstance}
    {authDeadline : ℕ} {authorization : AuthorizationCheck}
    (hcleanup : circumstance.cleanupBusy = false)
    (hdeadline : circumstance.clock.instant < authDeadline)
    (hauthorized : authorized authorization circumstance.clock = true) :
    (b.attach circumstance binding authDeadline authorization).1 = .ok () := by
  unfold fixedBindingMatches at hfixed
  rw [Bool.and_eq_true, decide_eq_true_eq] at hfixed
  have hgeneration : ¬ binding.policyGeneration < b.highestPolicyGeneration := by
    rw [hserves.generation, hfixed.2]
    exact Nat.lt_irrefl _
  have hdeadline : ¬ authDeadline ≤ circumstance.clock.instant := Nat.not_le.mpr hdeadline
  have hepoch : ¬ binding.ownerEpoch ≤ b.highestOwnerEpoch := Nat.not_le.mpr hepoch
  unfold Bridge.attach
  rw [hserves.infrastructure, hfixed.1, hcleanup, hserves.retained, hauthorized]
  simp [hgeneration, hdeadline, hepoch]

end Parties

/-- In every run whose steps are timely, the record of the endpoint agrees with the manager in every
idle state. -/
theorem record_agrees (E : ℕ → Moment) (origin : Origin) (process controller : ProcessIdentity)
    (tokenSha256 : String) (labels : List PartyLabel)
    (htimely : (Parties.start origin process controller tokenSha256).AllTimely E labels)
    (hidle : ((Parties.start origin process controller tokenSha256).run E labels).Idle) :
    ((Parties.start origin process controller tokenSha256).run E labels).Agrees E := by
  have hinv := (Parties.inv_start origin process controller tokenSha256).run labels htimely
  generalize (Parties.start origin process controller tokenSha256).run E labels = p at hinv hidle
  have hrecord := hinv.record
  rw [Parties.recorded_of_none hidle.1] at hrecord
  refine ⟨hrecord.symm, ?_, ?_⟩
  · intro request peer descriptors unavailable hprobe
    obtain ⟨reply, hreply, hnonce, hbinding⟩ := Parties.accepts_probe (E := E) hidle.1 hprobe peer
      descriptors unavailable
    refine ⟨reply, hreply, hnonce, ?_⟩
    rw [hbinding, hrecord]
  · intro circumstance binding authDeadline authorization hfixed hepoch
    refine Parties.attach_next hinv.serves hfixed ?_
    omega

namespace Rebind

/-! ### A rebind

The endpoint serves a worker of epoch 1 and gets an attachment for a worker of epoch 2. -/

def process : ProcessIdentity := ⟨100, 5⟩

def controller : ProcessIdentity := ⟨200, 6⟩

/-- The binding of this epoch. -/
def binding (ownerEpoch : ℕ) : PacketPortBinding where
  infrastructureId := Vector.replicate 16 1
  routingDomainId := Vector.replicate 16 2
  infrastructureGeneration := 3
  ioEpoch := 4
  ownerEpoch
  policyGeneration := 7

def origin : Origin where
  binding := binding 1
  deadlineUnix := 1000
  deadline := 900000000000
  authorization := []
  bootstrapCap := none

def clock : Clock := ⟨0, some 0, some 100000000000⟩

/-- Everything works, at one instant. -/
def moments : ℕ → Moment := fun _ => {
  clock
  bootId := none
  current := fun _ => true
  confirmed := fun _ => some true
  works := true
  before := []
  fate := .answered
  circumstance := ⟨clock, false, false, none⟩ }

def request (operation : PacketControlOperation) : PacketControlRequest where
  schemaVersion := 1
  process := process
  controller := controller
  controllerEpoch := 1
  tokenSha256 := "a"
  nonce := "00000000000000000000000000000000"
  operation
  binding := binding 2
  authDeadlineUnix := 900

def start : Parties := .start origin process controller "a"

/-- The attachment is asked for, and taken by the manager. -/
def asked : List PartyLabel :=
  [.register, .accepts (request .attach) controller 1 false, .polls false, .takes]

def circumstance : Circumstance := ⟨clock, false, false, none⟩

/-- The endpoint reads the acknowledgement in time. -/
def acknowledged : List PartyLabel := asked ++ [.applies circumstance, .polls false]

theorem acknowledged_timely : start.AllTimely moments acknowledged := by
  refine ⟨trivial, trivial, trivial, trivial, ?_, trivial, trivial⟩
  intro u htaken hlost
  have hawaits : (start.run moments asked).taken.all (start.run moments asked).awaits = true := by
    decide
  rw [show (start.run moments asked).taken = some u from htaken] at hawaits
  exact absurd (hlost.symm.trans hawaits) (by decide)

/-- The deadline passes while the manager is at work. -/
def givenUp : List PartyLabel := asked ++ [.polls true, .applies circumstance]

end Rebind

/-- After an attachment that is acknowledged in time, the record has its epoch. -/
theorem acknowledged_record_agrees :
    (Rebind.start.run Rebind.moments Rebind.acknowledged).Agrees Rebind.moments
      ∧ (Rebind.start.run Rebind.moments Rebind.acknowledged).world.controller.binding
        = Rebind.binding 2 :=
  ⟨record_agrees Rebind.moments Rebind.origin Rebind.process Rebind.controller "a"
    Rebind.acknowledged Rebind.acknowledged_timely (by decide), by decide⟩

/-- The endpoint gives up an attachment that the manager then applies. Both are idle, the record has
epoch 1, and the manager takes epoch 2 for a stale one. -/
theorem given_up_record_differs :
    ¬ ∀ (E : ℕ → Moment) (origin : Origin) (process controller : ProcessIdentity)
      (tokenSha256 : String) (labels : List PartyLabel),
      ((Parties.start origin process controller tokenSha256).run E labels).Idle →
      ((Parties.start origin process controller tokenSha256).run E labels).Agrees E := by
  intro h
  have hrecord := (h Rebind.moments Rebind.origin Rebind.process Rebind.controller "a"
    Rebind.givenUp (by decide)).record
  revert hrecord
  decide

end CandyRuntime.Tunio
