import CandyRuntime.NetdIpc.Client
import CandyRuntime.NetdProto.SessionTheorems
import CandyRuntime.NetdV1.ServiceTheorems

/-!
# When the client's word for a reconfiguration can be trusted

`reconfigure_with_owner` takes a `Reconfigure` that came back with an error for committed when
`Status` reports a suspended session of the new generation. The generation in that report is
the one of the request, so every suspended daemon gives it. The client is misled exactly when
the daemon is suspended, answers `Status`, and has refused the `Reconfigure` or never seen it.
-/

namespace CandyRuntime.NetdIpc

open Lib Lib.Proc NetdProto NetdV1

variable {β : Type} {J : JournalFormat β} {s : NetdService β} {request : NetdRequest}
  {peer : PeerCredentials} {env : Surroundings} {p p' : Parties β}
  {declaration : PrepareDeclaration} {generation leaseDeadlineMonoMs : UInt64}

/-! ## The daemon -/

/-- The daemon retains the generation and the declaration. -/
def Accepted (s : NetdService β) (generation : UInt64) (declaration : PrepareDeclaration) : Prop :=
  (∃ o, s.session.owner = some o ∧ o.generation = generation)
    ∧ s.session.declaration = some declaration

/-- The same session and the same peers. -/
structure SameSession (s s' : NetdService β) : Prop where
  session : s'.session = s.session
  allowedUid : s'.allowedUid = s.allowedUid
  allowedGid : s'.allowedGid = s.allowedGid

theorem SameSession.authorises {s' : NetdService β} (h : SameSession s s') :
    s'.authorises request peer = s.authorises request peer := by
  unfold NetdService.authorises
  rw [h.allowedUid, h.allowedGid]

/-- `Status` is answered from the request and the session. -/
theorem process_status (hop : request.operation = .status) :
    process J env request peer s = (.ok
      { requestId := request.requestId
        body := if s.authorises request peer then
            .status s.session.phase request.owner.generation
          else .error .unauthorizedPeer }, s) := by
  change (if (!s.authorises request peer) = true then _ else _ : Svc β NetdResponse) s = _
  by_cases hauth : s.authorises request peer = true
  · rw [if_neg (by simp [hauth]), if_pos hop, if_pos hauth]
    rfl
  · rw [if_pos (by simpa using hauth), if_neg hauth]
    rfl

/-- `Reconfigure` is refused and the session is as before, or it is accepted by session and
transaction. -/
theorem process_reconfigure (J : JournalFormat β) (env : Surroundings) (peer : PeerCredentials)
    (s : NetdService β) (hop : request.operation = .reconfigure declaration) :
    wp (process J env request peer)
      (fun response s' => response.requestId = request.requestId
        ∧ ((response.body.isError = true ∧ SameSession s s')
          ∨ (response.body = .reconfigured request.owner.generation
            ∧ s.session.apply request = .ok s'.session)))
      (fun _ _ => False) (fun _ => True) s := by
  have hsame : SameSession s s := ⟨rfl, rfl, rfl⟩
  rw [process, wp_bind, wp_get, wp_ite]
  refine ⟨fun _ => ⟨rfl, Or.inl ⟨rfl, hsame⟩⟩, fun _ => ?_⟩
  rw [wp_ite]
  refine ⟨fun hstatus => by simp [hop] at hstatus, fun _ => ?_⟩
  cases happly : s.session.apply request with
  | error e => exact ⟨rfl, Or.inl ⟨rfl, hsame⟩⟩
  | ok next =>
    dsimp only
    rw [wp_bind]
    simp only [serve, hop]
    rw [carryOut, wp_bind, wp_network]
    refine wp_mono (Q := fun _ _ => True) (E := fun _ _ => True) (C := fun _ => True) ?_ ?_ ?_
      (fun _ hc => hc)
    · unfold wp
      split <;> trivial
    · intro _ n _
      exact ⟨rfl, Or.inr ⟨rfl, rfl⟩⟩
    · intro e n _
      exact ⟨rfl, Or.inl ⟨rfl, rfl, rfl, rfl⟩⟩

/-! ## The exchanges -/

theorem wp_nextDelivery {Q : Delivery → Parties β → Prop} {E : IpcError → Parties β → Prop}
    {C : Parties β → Prop} :
    wp nextDelivery Q E C p
      ↔ Q (p.deliveries 0) { p with deliveries := fun n => p.deliveries (n + 1) } := Iff.rfl

theorem wp_answer {c : Circumstances} {Q : Option NetdResponse → Parties β → Prop}
    {E : IpcError → Parties β → Prop} {C : Parties β → Prop} :
    wp (answer J c request) Q E C p
      ↔ (p.daemon = none → Q none p) ∧ ∀ s, p.daemon = some s →
        wp (process J c.env request p.peer)
          (fun response s' => Q (some response) { p with daemon := some s' })
          (fun _ s' => Q none { p with daemon := some s' })
          (fun s' => Q none { p with daemon := restart J s' }) (meeting s c) := by
  unfold answer wp
  cases hd : p.daemon with
  | none => simp [hd]
  | some s =>
    rcases hp : process J c.env request p.peer (meeting s c) with ⟨response | e | _, s'⟩ <;>
      simp [hd, hp]

/-- The request of the client for an operation. -/
def clientRequest (p : Parties β) (requestId : UInt64) (operation : NetdOperation) : NetdRequest :=
  { requestId, owner := p.client.owner, operation }

/-- The daemons of two moments have the same session, or there is none. -/
def SameDaemon (p p' : Parties β) : Prop :=
  (p.daemon = none ∧ p'.daemon = none)
    ∨ ∃ s s', p.daemon = some s ∧ p'.daemon = some s' ∧ SameSession s s'

theorem sameDaemon_of_eq (h : p'.daemon = p.daemon) : SameDaemon p p' := by
  unfold SameDaemon
  rw [h]
  cases p.daemon with
  | none => exact Or.inl ⟨rfl, rfl⟩
  | some s => exact Or.inr ⟨s, s, rfl, rfl, rfl, rfl, rfl⟩

/-- `Status` can be sent, is answered, and reports a suspended session. -/
def SeesSuspended (p : Parties β) : Prop :=
  ∃ s requestId c frame, p.daemon = some s ∧ p.client.nextRequestId = some requestId
    ∧ p.deliveries 0 = .replied c ∧ (clientRequest p requestId .status).encode = .ok frame
    ∧ s.authorises (clientRequest p requestId .status) p.peer = true
    ∧ s.session.phase = .suspended

/-- The answer to a `Status` comes from the request and the session. -/
theorem wp_answer_status {c : Circumstances} {Q : Option NetdResponse → Parties β → Prop}
    {E : IpcError → Parties β → Prop} {C : Parties β → Prop} (hop : request.operation = .status) :
    wp (answer J c request) Q E C p
      ↔ (p.daemon = none → Q none p) ∧ ∀ s, p.daemon = some s → Q (some
        { requestId := request.requestId
          body := if s.authorises request p.peer then
              .status s.session.phase request.owner.generation
            else .error .unauthorizedPeer }) { p with daemon := some (meeting s c) } := by
  rw [wp_answer]
  unfold wp
  simp only [process_status hop]
  exact Iff.rfl

/-- The `Status` exchange after a failed `Reconfigure`: what it shows is the phase alone. -/
theorem wp_exchange_status :
    wp (attempt (exchange J .status))
      (fun observed p' => (suspendedAt p.client.owner.generation observed = true ↔ SeesSuspended p)
        ∧ p'.client.owner = p.client.owner ∧ SameDaemon p p')
      (fun _ _ => False) (fun _ => False) p := by
  have hblind : ∀ (e : IpcError) (p' : Parties β), ¬ SeesSuspended p →
      p'.client.owner = p.client.owner → SameDaemon p p' →
      (suspendedAt p.client.owner.generation (.error e) = true ↔ SeesSuspended p)
        ∧ p'.client.owner = p.client.owner ∧ SameDaemon p p' := by
    intro e p' hnot howner hdaemon
    exact ⟨⟨fun h => by simp [suspendedAt] at h, fun h => absurd h hnot⟩, howner, hdaemon⟩
  have hmeeting : ∀ (s : NetdService β) (c : Circumstances), SameSession s (meeting s c) :=
    fun _ _ => ⟨rfl, rfl, rfl⟩
  rw [wp_attempt, exchange, wp_bind, wp_get, wp_bind, wp_okOr]
  refine ⟨fun requestId hid => ?_, fun hid => ?_⟩
  swap
  · refine hblind _ _ ?_ rfl (sameDaemon_of_eq rfl)
    rintro ⟨_, _, _, _, -, hid', -⟩
    simp [hid] at hid'
  rw [wp_bind, deliver, wp_bind, wp_nextDelivery]
  cases hdelivery : p.deliveries 0 with
  | requestLost e =>
    refine hblind e _ ?_ rfl (sameDaemon_of_eq rfl)
    rintro ⟨_, _, _, _, -, -, hreplied, -⟩
    simp [hdelivery] at hreplied
  | replyLost c e =>
    have hnot : ¬ SeesSuspended p := by
      rintro ⟨_, _, _, _, -, -, hreplied, -⟩
      simp [hdelivery] at hreplied
    dsimp only
    rw [wp_bind, wp_lift]
    refine ⟨fun _ _ => ?_, fun e' _ => hblind e' _ hnot rfl (sameDaemon_of_eq rfl)⟩
    rw [wp_bind, wp_answer_status rfl]
    refine ⟨fun _ => hblind e _ hnot rfl (sameDaemon_of_eq rfl), fun s hs => ?_⟩
    exact hblind e _ hnot rfl (Or.inr ⟨s, _, hs, rfl, hmeeting s c⟩)
  | replied c =>
    dsimp only
    rw [wp_bind, wp_lift]
    refine ⟨fun frame hframe => ?_, fun e' herror => ?_⟩
    swap
    · refine hblind e' _ ?_ rfl (sameDaemon_of_eq rfl)
      rintro ⟨_, requestId', _, frame, -, hid', -, hframe, -⟩
      obtain rfl : requestId = requestId' := Option.some_inj.mp (hid.symm.trans hid')
      change (clientRequest p requestId .status).encode.mapError IpcError.protocol = _ at herror
      simp [hframe, Except.mapError] at herror
    rw [wp_bind, wp_answer_status rfl]
    refine ⟨fun hnone => ?_, fun s hs => ?_⟩
    · refine hblind .io _ ?_ rfl (sameDaemon_of_eq rfl)
      rintro ⟨_, _, _, _, hsome, -⟩
      exact absurd (hnone.symm.trans hsome) (by simp)
    have hencodes : (clientRequest p requestId .status).encode = .ok frame := by
      rw [clientRequest]
      cases henc : (NetdRequest.mk requestId p.client.owner .status).encode with
      | error e' => simp [henc, Except.mapError] at hframe
      | ok f => simpa [henc, Except.mapError] using hframe
    rw [wp_okOr_some, wp_bind, wp_modify, wp_bind, wp_ensure]
    refine ⟨fun _ => ?_, fun hne => absurd rfl hne⟩
    by_cases hauth : s.authorises (clientRequest p requestId .status) p.peer = true
    · rw [clientRequest] at hauth
      rw [if_pos hauth]
      refine ⟨?_, rfl, Or.inr ⟨s, _, hs, rfl, hmeeting s c⟩⟩
      constructor
      · intro hsuspended
        have hphase : s.session.phase = .suspended := by
          cases hp : s.session.phase <;> simp_all [suspendedAt]
        exact ⟨s, requestId, c, frame, hs, hid, hdelivery, hencodes, hauth, hphase⟩
      · rintro ⟨s', _, _, _, hs', -, -, -, -, hphase⟩
        obtain rfl : s = s' := Option.some_inj.mp (hs.symm.trans hs')
        simp [suspendedAt, hphase, attached]
    · have hauth' := hauth
      rw [clientRequest] at hauth'
      rw [if_neg hauth']
      refine hblind _ _ ?_ rfl (Or.inr ⟨s, _, hs, rfl, hmeeting s c⟩)
      rintro ⟨s', requestId', _, _, hs', hid', -, -, hauth'', -⟩
      obtain rfl : s = s' := Option.some_inj.mp (hs.symm.trans hs')
      obtain rfl : requestId = requestId' := Option.some_inj.mp (hid.symm.trans hid')
      exact hauth hauth''

/-- What the daemon meets, if the request gets there. -/
def Delivery.circumstances : Delivery → Option Circumstances
  | .requestLost _ => none
  | .replyLost c _ | .replied c => some c

/-- The daemon refuses the request. -/
def RefusedBy (J : JournalFormat β) (p : Parties β) (c : Circumstances) (request : NetdRequest) :
    Prop :=
  ∃ s response s', p.daemon = some s
    ∧ process J c.env request p.peer (meeting s c) = (.ok response, s')
    ∧ response.body.isError = true

/-- A suspended daemon is there. -/
def Suspended (p : Parties β) : Prop := ∃ s, p.daemon = some s ∧ s.session.phase = .suspended

/-- The sessions the daemon can have. -/
def Established (p : Parties β) : Prop := ∀ s, p.daemon = some s → SessionReachable s.session

/-- The daemon's side of a `Reconfigure`: a refusal that changes nothing, the new generation and
declaration, or a connection that is closed without an answer. -/
inductive Answered (J : JournalFormat β) (declaration : PrepareDeclaration) (p : Parties β)
    (c : Circumstances) (request : NetdRequest) : Option NetdResponse → Parties β → Prop where
  | refused (p' : Parties β) (code : ErrorCode) (hrefused : RefusedBy J p c request)
      (hdaemon : SameDaemon p p') :
      Answered J declaration p c request
        (some { requestId := request.requestId, body := .error code }) p'
  | accepted (p' : Parties β) (s' : NetdService β) (hrefused : ¬ RefusedBy J p c request)
      (hdaemon : p'.daemon = some s')
      (haccepted : Accepted s' request.owner.generation declaration) :
      Answered J declaration p c request
        (some { requestId := request.requestId, body := .reconfigured request.owner.generation })
        p'
  | closed (p' : Parties β) (hrefused : ¬ RefusedBy J p c request) (hdaemon : ¬ Suspended p') :
      Answered J declaration p c request none p'

theorem wp_answer_reconfigure {c : Circumstances}
    (hop : request.operation = .reconfigure declaration) (hestablished : Established p) :
    wp (answer J c request)
      (fun response p' => Answered J declaration p c request response p' ∧ p'.client = p.client
        ∧ p'.peer = p.peer ∧ p'.deliveries = p.deliveries)
      (fun _ _ => False) (fun _ => False) p := by
  rw [wp_answer]
  refine ⟨fun hnone => ⟨.closed p ?_ ?_, rfl, rfl, rfl⟩, fun s hs => ?_⟩
  · rintro ⟨s, _, _, hs, -⟩
    simp [hnone] at hs
  · rintro ⟨s, hs, -⟩
    simp [hnone] at hs
  have hspec := process_reconfigure J c.env p.peer (meeting s c) hop
  have hdecided : ∀ {response : NetdResponse} {s' : NetdService β},
      process J c.env request p.peer (meeting s c) = (.ok response, s') →
      RefusedBy J p c request → response.body.isError = true := by
    rintro response s' hp ⟨s₁, response', s₁', hs₁, hp', herror⟩
    obtain rfl : s = s₁ := Option.some_inj.mp (hs.symm.trans hs₁)
    rw [hp] at hp'
    cases hp'
    exact herror
  unfold wp at hspec ⊢
  rcases hp : process J c.env request p.peer (meeting s c) with ⟨response | e | _, s'⟩
  · rw [hp] at hspec
    obtain ⟨hid, ⟨herror, hsame⟩ | ⟨hbody, happly⟩⟩ := hspec
    · refine ⟨?_, rfl, rfl, rfl⟩
      rcases response with ⟨requestId, body⟩
      rcases body with _ | _ | _ | _ | _ | _ | _ | _ | _ | _ | _ | _ | code <;>
        simp only [ResponseBody.isError, Bool.false_eq_true] at herror
      obtain rfl : requestId = request.requestId := hid
      exact .refused _ code ⟨s, _, s', hs, hp, rfl⟩
        (Or.inr ⟨s, s', hs, rfl, hsame.session, hsame.allowedUid, hsame.allowedGid⟩)
    · refine ⟨?_, rfl, rfl, rfl⟩
      rcases response with ⟨requestId, body⟩
      obtain rfl : requestId = request.requestId := hid
      obtain rfl : body = .reconfigured request.owner.generation := hbody
      refine .accepted _ s' (fun hrefused => ?_) rfl
        (retained_of_apply_reconfigure (hestablished s hs) hop happly)
      simpa [ResponseBody.isError] using hdecided hp hrefused
  · rw [hp] at hspec
    exact hspec.elim
  · refine ⟨.closed _ ?_ ?_, rfl, rfl, rfl⟩
    · rintro ⟨s₁, _, _, hs₁, hp', -⟩
      obtain rfl : s = s₁ := Option.some_inj.mp (hs.symm.trans hs₁)
      simp [hp] at hp'
    · rintro ⟨s₁, hs₁, hphase⟩
      dsimp only at hs₁
      unfold restart at hs₁
      split at hs₁
      · rw [← Option.some_inj.mp hs₁] at hphase
        simp [NetdSession.new] at hphase
      · simp at hs₁

/-- The request never reaches the daemon. -/
def Unsent (delivery : Delivery) (request : NetdRequest) : Prop :=
  delivery.circumstances = none ∨ ∀ frame, request.encode ≠ .ok frame

/-- The daemon gets the request and refuses it. -/
def Rejected (J : JournalFormat β) (p : Parties β) (request : NetdRequest) : Prop :=
  ∃ c frame, (p.deliveries 0).circumstances = some c ∧ request.encode = .ok frame
    ∧ RefusedBy J p c request

/-- The request id of the next exchange. -/
def idAfter (delivery : Delivery) (requestId : UInt64) : Option UInt64 :=
  match delivery with
  | .replied _ => checkedSucc requestId
  | _ => some requestId

/-- The parties after a `Reconfigure` that came back with an error. -/
inductive Unconfirmed (J : JournalFormat β) (declaration : PrepareDeclaration) (p : Parties β)
    (requestId : UInt64) (p' : Parties β) : Prop where
  | unsent (hunsent : Unsent (p.deliveries 0) (clientRequest p requestId (.reconfigure declaration)))
      (hclient : p'.client = p.client) (hdaemon : p'.daemon = p.daemon)
  | rejected (hrejected : Rejected J p (clientRequest p requestId (.reconfigure declaration)))
      (hid : p'.client.nextRequestId = idAfter (p.deliveries 0) requestId)
      (hdaemon : SameDaemon p p')
  | handled (hsent : ¬ Unsent (p.deliveries 0) (clientRequest p requestId (.reconfigure declaration)))
      (hrejected : ¬ Rejected J p (clientRequest p requestId (.reconfigure declaration)))
      (hdaemon : (∃ s', p'.daemon = some s' ∧ Accepted s' p.client.owner.generation declaration)
        ∨ ¬ Suspended p')

theorem encode_of_mapError {frame : Bytes}
    (h : request.encode.mapError IpcError.protocol = .ok frame) : request.encode = .ok frame := by
  cases henc : request.encode with
  | error e => simp [henc, Except.mapError] at h
  | ok f => simpa [henc, Except.mapError] using h

/-- The `Reconfigure` exchange: it returns when the daemon has accepted the request. -/
theorem wp_exchangeGeneration_reconfigure {requestId : UInt64}
    (hid : p.client.nextRequestId = some requestId) (hestablished : Established p) :
    wp (exchangeGeneration J (.reconfigure declaration) reconfiguredGeneration)
      (fun g p' => g = p.client.owner.generation
        ∧ (∃ s', p'.daemon = some s' ∧ Accepted s' p.client.owner.generation declaration)
        ∧ ¬ Unsent (p.deliveries 0) (clientRequest p requestId (.reconfigure declaration))
        ∧ ¬ Rejected J p (clientRequest p requestId (.reconfigure declaration)))
      (fun _ p' => Unconfirmed J declaration p requestId p' ∧ p'.client.owner = p.client.owner
        ∧ p'.peer = p.peer ∧ p'.deliveries = fun n => p.deliveries (n + 1))
      (fun _ => False) p := by
  have hunencoded : ∀ e : IpcError,
      (clientRequest p requestId (.reconfigure declaration)).encode.mapError IpcError.protocol
        = .error e →
      Unsent (p.deliveries 0) (clientRequest p requestId (.reconfigure declaration)) := by
    intro e herror
    refine Or.inr fun frame hframe => ?_
    simp [hframe, Except.mapError] at herror
  have hsent : ∀ {c : Circumstances} {frame : Bytes}, (p.deliveries 0).circumstances = some c →
      (clientRequest p requestId (.reconfigure declaration)).encode = .ok frame →
      ¬ Unsent (p.deliveries 0) (clientRequest p requestId (.reconfigure declaration)) := by
    rintro c frame hc hframe (hnone | hnot)
    · simp [hc] at hnone
    · exact hnot frame hframe
  have hrejected : ∀ {c : Circumstances}, (p.deliveries 0).circumstances = some c →
      ¬ RefusedBy J p c (clientRequest p requestId (.reconfigure declaration)) →
      ¬ Rejected J p (clientRequest p requestId (.reconfigure declaration)) := by
    rintro c hc hnot ⟨c', frame, hc', -, hrefused⟩
    obtain rfl : c = c' := Option.some_inj.mp (hc.symm.trans hc')
    exact hnot hrefused
  rw [exchangeGeneration, wp_bind, exchange, wp_bind, wp_get, wp_bind, hid, wp_okOr_some, wp_bind,
    deliver, wp_bind, wp_nextDelivery]
  cases hdelivery : p.deliveries 0 with
  | requestLost e =>
    exact ⟨.unsent (Or.inl (by rw [hdelivery]; rfl)) rfl rfl, rfl, rfl, rfl⟩
  | replyLost c e =>
    have hc : (p.deliveries 0).circumstances = some c := by rw [hdelivery]; rfl
    dsimp only
    rw [wp_bind, wp_lift]
    refine ⟨fun frame hframe => ?_, fun e' herror => ?_⟩
    swap
    · exact ⟨.unsent (hunencoded e' herror) rfl rfl, rfl, rfl, rfl⟩
    have hframe := encode_of_mapError hframe
    rw [wp_bind]
    refine wp_mono (wp_answer_reconfigure rfl hestablished) ?_ (fun _ _ hf => hf.elim)
      (fun _ hf => hf)
    rintro response p₁ ⟨hanswer, hclient, hpeer, hdeliveries⟩
    refine ⟨?_, by rw [hclient], hpeer, hdeliveries⟩
    cases hanswer with
    | refused _ code hrefused hdaemon =>
      refine .rejected ⟨c, frame, hc, hframe, hrefused⟩ ?_ hdaemon
      rw [hclient, hdelivery]
      exact hid
    | accepted _ s' hrefused hdaemon haccepted =>
      exact .handled (hsent hc hframe) (hrejected hc hrefused) (Or.inl ⟨s', hdaemon, haccepted⟩)
    | closed _ hrefused hdaemon =>
      exact .handled (hsent hc hframe) (hrejected hc hrefused) (Or.inr hdaemon)
  | replied c =>
    have hc : (p.deliveries 0).circumstances = some c := by rw [hdelivery]; rfl
    dsimp only
    rw [wp_bind, wp_lift]
    refine ⟨fun frame hframe => ?_, fun e' herror => ?_⟩
    swap
    · exact ⟨.unsent (hunencoded e' herror) rfl rfl, rfl, rfl, rfl⟩
    have hframe := encode_of_mapError hframe
    rw [wp_bind]
    refine wp_mono (wp_answer_reconfigure rfl hestablished) ?_ (fun _ _ hf => hf.elim)
      (fun _ hf => hf)
    rintro response p₁ ⟨hanswer, hclient, hpeer, hdeliveries⟩
    cases hanswer with
    | refused _ code hrefused hdaemon =>
      rw [wp_okOr_some, wp_bind, wp_modify, wp_bind, wp_ensure]
      refine ⟨fun _ => ?_, fun hne => absurd rfl hne⟩
      refine ⟨.rejected ⟨c, frame, hc, hframe, hrefused⟩ ?_ hdaemon, ?_, hpeer, hdeliveries⟩
      · rw [hdelivery]
        rfl
      · change p₁.client.owner = _
        rw [hclient]
    | accepted _ s' hrefused hdaemon haccepted =>
      rw [wp_okOr_some, wp_bind, wp_modify, wp_bind, wp_ensure]
      refine ⟨fun _ => ?_, fun hne => absurd rfl hne⟩
      dsimp only
      rw [wp_pure, wp_bind, wp_ensure]
      refine ⟨fun _ => ?_, fun hne => absurd rfl hne⟩
      rw [wp_bind, reconfiguredGeneration, wp_okOr_some, wp_bind, wp_get, wp_bind, wp_ensure]
      refine ⟨fun _ => ?_, fun hne => ?_⟩
      · rw [← hdelivery]
        exact ⟨rfl, ⟨s', hdaemon, haccepted⟩, hsent hc hframe, hrejected hc hrefused⟩
      · refine absurd ?_ hne
        change p.client.owner.generation = p₁.client.owner.generation
        rw [hclient]
    | closed _ hrefused hdaemon =>
      rw [wp_okOr_none]
      refine ⟨?_, by rw [hclient], hpeer, hdeliveries⟩
      exact .handled (hsent hc hframe) (hrejected hc hrefused) (Or.inr hdaemon)

/-! ## The commitment -/

section Commitment

variable (J) (p) (declaration) (generation leaseDeadlineMonoMs)

/-- The owner `reconfigure_with_owner` acts for. -/
def newOwner : LeaseOwner := { p.client.owner with generation, leaseDeadlineMonoMs }

/-- The `Reconfigure` it sends. -/
def reconfigureRequest (requestId : UInt64) : NetdRequest :=
  { requestId, owner := newOwner p generation leaseDeadlineMonoMs
    operation := .reconfigure declaration }

/-- The `Status` it sends when that fails. -/
def statusRequest (requestId : UInt64) : NetdRequest :=
  { requestId, owner := newOwner p generation leaseDeadlineMonoMs, operation := .status }

/-- The daemon has refused the `Reconfigure`. -/
def RejectedReconfigure : Prop :=
  ∃ requestId, p.client.nextRequestId = some requestId
    ∧ Rejected J p (reconfigureRequest p declaration generation leaseDeadlineMonoMs requestId)

/-- The daemon retains what the `Reconfigure` asks for. -/
def AcceptedBy : Prop := ∃ s, p.daemon = some s ∧ Accepted s generation declaration

/-- What `reconfigure_with_owner` should mean: with success the daemon retains the generation and
the declaration, and after a refusal the client reports an error and keeps its generation. -/
def NoFalseCommit : Prop :=
  ∀ result p', reconfigureWithOwner J declaration generation leaseDeadlineMonoMs p = (result, p') →
    (result = .ok generation → AcceptedBy p' declaration generation)
    ∧ (RejectedReconfigure J p declaration generation leaseDeadlineMonoMs →
      (∃ e, result = .err e) ∧ p'.client.owner.generation = p.client.owner.generation)

/-- `Status` is sent under the given id, reaches the daemon and its answer comes back. -/
def StatusAnswered (s : NetdService β) (statusId : UInt64) : Prop :=
  (∃ c, p.deliveries 1 = .replied c)
    ∧ (∃ frame, (statusRequest p generation leaseDeadlineMonoMs statusId).encode = .ok frame)
    ∧ s.authorises (statusRequest p generation leaseDeadlineMonoMs statusId) p.peer = true

/-- A suspended daemon that answers `Status` has refused the `Reconfigure`, or has not got it and
does not retain what it asks for. -/
def Misled : Prop :=
  generation ≠ 0 ∧ leaseDeadlineMonoMs ≠ 0 ∧ ∃ s requestId, p.daemon = some s
    ∧ s.session.phase = .suspended ∧ p.client.nextRequestId = some requestId
    ∧ ((Unsent (p.deliveries 0)
          (reconfigureRequest p declaration generation leaseDeadlineMonoMs requestId)
        ∧ ¬ Accepted s generation declaration
        ∧ StatusAnswered p generation leaseDeadlineMonoMs s requestId)
      ∨ (Rejected J p (reconfigureRequest p declaration generation leaseDeadlineMonoMs requestId)
        ∧ ∃ statusId, idAfter (p.deliveries 0) requestId = some statusId
          ∧ StatusAnswered p generation leaseDeadlineMonoMs s statusId))

end Commitment

theorem not_rejected_of_unsent (h : Unsent (p.deliveries 0) request) : ¬ Rejected J p request := by
  rintro ⟨c, frame, hc, hframe, -⟩
  rcases h with hnone | hnot
  · simp [hc] at hnone
  · exact hnot frame hframe

/-- What `Status` shows after the first exchange, in terms of the start. -/
theorem seesSuspended_iff {p₂ : Parties β}
    (howner : p₂.client.owner = newOwner p generation leaseDeadlineMonoMs)
    (hpeer : p₂.peer = p.peer) (hdeliveries : p₂.deliveries = fun n => p.deliveries (n + 1)) :
    SeesSuspended p₂ ↔ ∃ s statusId, p₂.daemon = some s ∧ s.session.phase = .suspended
      ∧ p₂.client.nextRequestId = some statusId
      ∧ StatusAnswered p generation leaseDeadlineMonoMs s statusId := by
  unfold SeesSuspended StatusAnswered statusRequest clientRequest
  rw [howner, hpeer, hdeliveries]
  constructor
  · rintro ⟨s, statusId, c, frame, hs, hid, hc, hframe, hauth, hphase⟩
    exact ⟨s, statusId, hs, hphase, hid, ⟨c, hc⟩, ⟨frame, hframe⟩, hauth⟩
  · rintro ⟨s, statusId, hs, hphase, hid, ⟨c, hc⟩, ⟨frame, hframe⟩, hauth⟩
    exact ⟨s, statusId, c, frame, hs, hid, hc, hframe, hauth, hphase⟩

theorem SameSession.statusAnswered {s' : NetdService β} {statusId : UInt64}
    (h : SameSession s s') :
    StatusAnswered p generation leaseDeadlineMonoMs s' statusId
      ↔ StatusAnswered p generation leaseDeadlineMonoMs s statusId := by
  unfold StatusAnswered
  rw [h.authorises]

theorem SameDaemon.acceptedBy (h : SameDaemon p p') :
    AcceptedBy p' declaration generation ↔ AcceptedBy p declaration generation := by
  unfold AcceptedBy
  rcases h with ⟨hnone, hnone'⟩ | ⟨s, s', hs, hs', hsame⟩
  · simp [hnone, hnone']
  · simp [hs, hs', Accepted, hsame.session]

/-- The second half of `reconfigure_with_owner`: success when the daemon is seen suspended, and
otherwise the error with the former owner. -/
theorem wp_settle {p₂ : Parties β} {e : IpcError} {former : LeaseOwner}
    (hgeneration : p₂.client.owner.generation = generation) :
    wp (do
        let observed ← attempt (exchange J .status)
        if suspendedAt generation observed then return generation
        else
          setOwner former.generation former.leaseDeadlineMonoMs
          fail e)
      (fun g p' => g = generation ∧ SeesSuspended p₂ ∧ SameDaemon p₂ p')
      (fun _ p' => ¬ SeesSuspended p₂ ∧ p'.client.owner.generation = former.generation)
      (fun _ => False) p₂ := by
  subst hgeneration
  rw [wp_bind]
  refine wp_mono wp_exchange_status ?_ (fun _ _ hf => hf.elim) (fun _ hf => hf)
  rintro observed p' ⟨hsees, -, hdaemon⟩
  rw [wp_ite]
  refine ⟨fun hyes => ⟨rfl, hsees.mp hyes, hdaemon⟩, fun hno => ?_⟩
  exact ⟨fun h => hno (hsees.mpr h), rfl⟩

/-- The whole of `reconfigure_with_owner`: it succeeds with the daemon's consent or because it
is misled, and every error restores the owner. -/
theorem wp_reconfigureWithOwner (J : JournalFormat β) (declaration : PrepareDeclaration)
    (generation leaseDeadlineMonoMs : UInt64)
    (hphase : p.client.phase = .suspended ∨ p.client.phase = .active)
    (hestablished : Established p) :
    wp (reconfigureWithOwner J declaration generation leaseDeadlineMonoMs)
      (fun g p' => g = generation
        ∧ ((¬ Misled J p declaration generation leaseDeadlineMonoMs
            ∧ AcceptedBy p' declaration generation
            ∧ ¬ RejectedReconfigure J p declaration generation leaseDeadlineMonoMs)
          ∨ (Misled J p declaration generation leaseDeadlineMonoMs
            ∧ (RejectedReconfigure J p declaration generation leaseDeadlineMonoMs
              ∨ ¬ AcceptedBy p' declaration generation))))
      (fun _ p' => ¬ Misled J p declaration generation leaseDeadlineMonoMs
        ∧ p'.client.owner.generation = p.client.owner.generation)
      (fun _ => False) p := by
  rw [reconfigureWithOwner, wp_bind, wp_get, wp_bind, wp_ensure]
  refine ⟨fun _ => ?_, fun hnot => absurd hphase hnot⟩
  rw [wp_bind, wp_ensure]
  refine ⟨fun hnonzero => ?_, fun hzero => ?_⟩
  swap
  · exact ⟨fun hmisled => hzero ⟨hmisled.1, hmisled.2.1⟩, rfl⟩
  rw [wp_bind, setOwner, wp_modify, wp_handle]
  cases hid : p.client.nextRequestId with
  | none =>
    rw [exchangeGeneration, wp_bind, exchange, wp_bind, wp_get, wp_bind, hid, wp_okOr_none]
    refine wp_mono (wp_settle rfl) ?_ ?_ (fun _ hf => hf)
    · rintro g p₃ ⟨-, ⟨_, _, _, _, -, hid', -⟩, -⟩
      simp [hid] at hid'
    · rintro e p₃ ⟨-, hrestored⟩
      refine ⟨?_, hrestored⟩
      rintro ⟨-, -, _, _, -, -, hid', -⟩
      simp [hid] at hid'
  | some requestId =>
    -- a request that was sent and not refused misleads nobody
    have hclear : ¬ Unsent (p.deliveries 0)
          (reconfigureRequest p declaration generation leaseDeadlineMonoMs requestId) →
        ¬ Rejected J p
          (reconfigureRequest p declaration generation leaseDeadlineMonoMs requestId) →
        ¬ Misled J p declaration generation leaseDeadlineMonoMs
          ∧ ¬ RejectedReconfigure J p declaration generation leaseDeadlineMonoMs := by
      intro hsent hnot
      constructor
      · rintro ⟨-, -, s, id', -, -, hid', ⟨hunsent, -⟩ | ⟨hrejected, -⟩⟩
        · obtain rfl : requestId = id' := Option.some_inj.mp (hid.symm.trans hid')
          exact hsent hunsent
        · obtain rfl : requestId = id' := Option.some_inj.mp (hid.symm.trans hid')
          exact hnot hrejected
      · rintro ⟨id', hid', hrejected⟩
        obtain rfl : requestId = id' := Option.some_inj.mp (hid.symm.trans hid')
        exact hnot hrejected
    refine wp_mono (wp_exchangeGeneration_reconfigure hid hestablished) ?_ ?_ (fun _ hf => hf)
    · rintro g p₂ ⟨hg, haccepted, hsent, hnot⟩
      obtain ⟨hmisled, hrejected⟩ := hclear hsent hnot
      exact ⟨hg, Or.inl ⟨hmisled, haccepted, hrejected⟩⟩
    · rintro e p₂ ⟨hcase, howner, hpeer, hdeliveries⟩
      have hsees := seesSuspended_iff (p := p) howner hpeer hdeliveries
      refine wp_mono (wp_settle (by rw [howner])) ?_ ?_ (fun _ hf => hf)
      · rintro g p₃ ⟨hg, hsuspended, hdaemon⟩
        refine ⟨hg, ?_⟩
        obtain ⟨s, statusId, hs, hphase', hid', hanswered⟩ := hsees.mp hsuspended
        cases hcase with
        | unsent hunsent hclient hsame =>
          have hs : p.daemon = some s := hsame.symm.trans hs
          have hnot := not_rejected_of_unsent (J := J) hunsent
          rw [hclient] at hid'
          obtain rfl : requestId = statusId := Option.some_inj.mp (hid.symm.trans hid')
          by_cases haccepted : Accepted s generation declaration
          · -- the daemon retained the request before it was made
            refine Or.inl ⟨?_, hdaemon.acceptedBy.mpr ⟨s, hsame.trans hs, haccepted⟩, ?_⟩
            · rintro ⟨-, -, s', id', hs', -, hid'', ⟨-, hrefuses, -⟩ | ⟨hrejected, -⟩⟩
              · obtain rfl : s = s' := Option.some_inj.mp (hs.symm.trans hs')
                exact hrefuses haccepted
              · obtain rfl : requestId = id' := Option.some_inj.mp (hid.symm.trans hid'')
                exact hnot hrejected
            · rintro ⟨id', hid'', hrejected⟩
              obtain rfl : requestId = id' := Option.some_inj.mp (hid.symm.trans hid'')
              exact hnot hrejected
          · refine Or.inr ⟨⟨hnonzero.1, hnonzero.2, s, requestId, hs, hphase', hid,
              Or.inl ⟨hunsent, haccepted, hanswered⟩⟩, Or.inr fun hby => ?_⟩
            obtain ⟨s', hs', haccepted'⟩ := hdaemon.acceptedBy.mp hby
            obtain rfl : s = s' := Option.some_inj.mp ((hsame.trans hs).symm.trans hs')
            exact haccepted haccepted'
        | rejected hrejected hidAfter hsame =>
          rcases hsame with ⟨-, hnone⟩ | ⟨s₀, s₂, hs₀, hs₂, hsession⟩
          · simp [hs] at hnone
          obtain rfl : s = s₂ := Option.some_inj.mp (hs.symm.trans hs₂)
          rw [hsession.session] at hphase'
          refine Or.inr ⟨⟨hnonzero.1, hnonzero.2, s₀, requestId, hs₀, hphase', hid,
            Or.inr ⟨hrejected, statusId, hidAfter.symm.trans hid', ?_⟩⟩,
            Or.inl ⟨requestId, hid, hrejected⟩⟩
          exact hsession.statusAnswered.mp hanswered
        | handled hsent hnot hend =>
          obtain ⟨hmisled, hrejected⟩ := hclear hsent hnot
          rcases hend with haccepted | hother
          · exact Or.inl ⟨hmisled, hdaemon.acceptedBy.mpr haccepted, hrejected⟩
          · exact absurd ⟨s, hs, hphase'⟩ hother
      · rintro e p₃ ⟨hblind, hrestored⟩
        refine ⟨?_, hrestored⟩
        rintro ⟨-, -, s, id', hs, hphase', hid', hor⟩
        obtain rfl : requestId = id' := Option.some_inj.mp (hid.symm.trans hid')
        apply hblind
        rw [hsees]
        cases hcase with
        | unsent hunsent hclient hsame =>
          rcases hor with ⟨-, -, hanswered⟩ | ⟨hrejected, -⟩
          · exact ⟨s, requestId, hsame.trans hs, hphase', by rw [hclient]; exact hid, hanswered⟩
          · exact absurd hrejected (not_rejected_of_unsent hunsent)
        | rejected hrejected hidAfter hsame =>
          rcases hor with ⟨hunsent, -⟩ | ⟨-, statusId, hstatusId, hanswered⟩
          · exact absurd hrejected (not_rejected_of_unsent hunsent)
          rcases hsame with ⟨hnone, -⟩ | ⟨s₀, s₂, hs₀, hs₂, hsession⟩
          · exact absurd (hnone.symm.trans hs) (by simp)
          obtain rfl : s = s₀ := Option.some_inj.mp (hs.symm.trans hs₀)
          refine ⟨s₂, statusId, hs₂, ?_, hidAfter.trans hstatusId, ?_⟩
          · rw [hsession.session]
            exact hphase'
          · exact hsession.statusAnswered.mpr hanswered
        | handled hsent hnot hend =>
          rcases hor with ⟨hunsent, -⟩ | ⟨hrejected, -⟩
          · exact absurd hunsent hsent
          · exact absurd hrejected hnot

/-- The client can be trusted exactly when it is not misled. -/
theorem noFalseCommit_iff (hphase : p.client.phase = .suspended ∨ p.client.phase = .active)
    (hestablished : Established p) :
    NoFalseCommit J p declaration generation leaseDeadlineMonoMs
      ↔ ¬ Misled J p declaration generation leaseDeadlineMonoMs := by
  have hspec := wp_reconfigureWithOwner J declaration generation leaseDeadlineMonoMs hphase
    hestablished
  unfold wp at hspec
  unfold NoFalseCommit
  rcases hrun : reconfigureWithOwner J declaration generation leaseDeadlineMonoMs p with
    ⟨g | e | _, p₃⟩
  · rw [hrun] at hspec
    obtain ⟨rfl, hcase⟩ := hspec
    constructor
    · intro hno hmisled
      rcases hcase with ⟨hnot, -⟩ | ⟨-, hrejected | hby⟩
      · exact hnot hmisled
      · obtain ⟨⟨e, he⟩, -⟩ := (hno _ _ rfl).2 hrejected
        simp at he
      · exact hby ((hno _ _ rfl).1 rfl)
    · intro hnot result p' heq
      cases heq
      rcases hcase with ⟨-, haccepted, hrejected⟩ | ⟨hmisled, -⟩
      · exact ⟨fun _ => haccepted, fun h => absurd h hrejected⟩
      · exact absurd hmisled hnot
  · rw [hrun] at hspec
    obtain ⟨hnot, hrestored⟩ := hspec
    refine ⟨fun _ => hnot, fun _ result p' heq => ?_⟩
    cases heq
    exact ⟨fun h => by simp at h, fun _ => ⟨⟨e, rfl⟩, hrestored⟩⟩
  · rw [hrun] at hspec
    exact hspec.elim

namespace Sample

open NetdV1.Sample

/-- A suspended daemon. -/
def daemon : NetdService TransactionRecord :=
  service [.prepare NetdV1.Sample.declaration, .commit, .suspend]

def circumstances : Circumstances := { env := NetdV1.Sample.env, fates := .allOk, readings }

/-- Its client, with the way the first exchange goes; the second is answered. -/
def parties (first : Delivery) : Parties TransactionRecord :=
  { client := { owner, nextRequestId := some 4, phase := .suspended }
    peer := NetdV1.Sample.peer
    daemon := some daemon
    deliveries := fun n => if n = 0 then first else .replied circumstances }

theorem established (first : Delivery) : Established (parties first) := by
  intro s hs
  obtain rfl : daemon = s := Option.some_inj.mp hs
  have hprepare : NetdSession.apply .new (NetdV1.Sample.request (.prepare NetdV1.Sample.declaration))
      = .ok (service [.prepare NetdV1.Sample.declaration]).session := by decide
  have hcommit : NetdSession.apply (service [.prepare NetdV1.Sample.declaration]).session
      (NetdV1.Sample.request .commit)
      = .ok (service [.prepare NetdV1.Sample.declaration, .commit]).session := by decide
  have hsuspend : NetdSession.apply
      (service [.prepare NetdV1.Sample.declaration, .commit]).session
      (NetdV1.Sample.request .suspend) = .ok daemon.session := by decide
  exact ((Relation.ReflTransGen.refl.tail ⟨_, hprepare⟩).tail ⟨_, hcommit⟩).tail ⟨_, hsuspend⟩

end Sample

/-- A `Reconfigure` that the daemon answers is reported truly. -/
theorem noFalseCommit_of_replied :
    NoFalseCommit exactFormat (Sample.parties (.replied Sample.circumstances))
      NetdV1.Sample.widened 4 200 := by
  refine (noFalseCommit_iff (Or.inl rfl) (Sample.established _)).mpr ?_
  have hprocess : (process exactFormat NetdV1.Sample.env (reconfigureRequest
      (Sample.parties (.replied Sample.circumstances)) NetdV1.Sample.widened 4 200 4)
      NetdV1.Sample.peer (meeting Sample.daemon Sample.circumstances)).1
      = .ok { requestId := 4, body := .reconfigured 4 } := by decide +kernel
  have hencodes : (reconfigureRequest (Sample.parties (.replied Sample.circumstances))
      NetdV1.Sample.widened 4 200 4).encode.isOk = true := by decide +kernel
  rintro ⟨-, -, s, requestId, -, -, hid, ⟨hnone | hnot, -⟩ | ⟨⟨c, frame, hc, -, hrefused⟩, -⟩⟩
  · simp [Sample.parties, Delivery.circumstances] at hnone
  · obtain rfl : (4 : UInt64) = requestId := Option.some_inj.mp hid
    cases hframe : (reconfigureRequest (Sample.parties (.replied Sample.circumstances))
        NetdV1.Sample.widened 4 200 4).encode with
    | error e => simp [hframe, Except.isOk, Except.toBool] at hencodes
    | ok frame => exact hnot frame hframe
  · obtain rfl : (4 : UInt64) = requestId := Option.some_inj.mp hid
    obtain rfl : Sample.circumstances = c := Option.some_inj.mp hc
    obtain ⟨s', response, s₁, hs', hrun, herror⟩ := hrefused
    obtain rfl : Sample.daemon = s' := Option.some_inj.mp hs'
    change process exactFormat NetdV1.Sample.env _ NetdV1.Sample.peer _ = _ at hrun
    rw [hrun] at hprocess
    obtain rfl : response = _ := Outcome.ok.inj hprocess
    simp [ResponseBody.isError] at herror

/-- A `Reconfigure` that never left the client is reported as committed. -/
theorem noFalseCommit_fails :
    ¬ NoFalseCommit exactFormat (Sample.parties (.requestLost .io)) NetdV1.Sample.widened 4 200 := by
  intro h
  have hresult : (reconfigureWithOwner exactFormat NetdV1.Sample.widened 4 200
      (Sample.parties (.requestLost .io))).1 = .ok 4 := by decide +kernel
  have hretained : (reconfigureWithOwner exactFormat NetdV1.Sample.widened 4 200
      (Sample.parties (.requestLost .io))).2.daemon.map (fun s => s.session.owner.map (·.generation))
      = some (some 3) := by decide +kernel
  obtain ⟨result, p', hrun⟩ : ∃ result p', reconfigureWithOwner exactFormat NetdV1.Sample.widened 4
      200 (Sample.parties (.requestLost .io)) = (result, p') := ⟨_, _, rfl⟩
  rw [hrun] at hresult hretained
  obtain ⟨s', hs', ⟨o, ho, hgeneration⟩, -⟩ := (h result p' hrun).1 hresult
  rw [hs', Option.map_some, ho, Option.map_some, hgeneration] at hretained
  simp at hretained

end CandyRuntime.NetdIpc
