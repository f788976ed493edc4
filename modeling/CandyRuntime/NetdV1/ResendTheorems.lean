import CandyRuntime.NetdProto.RepeatTheorems
import CandyRuntime.NetdV1.RepeatTheorems

/-!
# A request to the service that is sent twice

The answer to a request is lost, and the client sends the request under another number. The
session takes most requests again (`resent`), but the answer also needs the network transaction.
Six operations find the record they have left and are answered the same (`process_resent`). A
replacement that was staged is refused, although the session takes it (`process_staged_refused`).
-/

namespace CandyRuntime.NetdV1

open Lib Lib.Proc NetdProto

variable {β : Type} {J : JournalFormat β} {env env' : Surroundings} {request : NetdRequest}
  {s s' t t' : NetdService β} {peer : PeerCredentials} {r : TransactionRecord} {o : LeaseOwner}
  {response : NetdResponse} {requestId : UInt64}

/-- The operations that find in the record what they have left there. -/
def leavesItself : NetdOperation → Bool
  | .prepare _ | .commit | .leaseRenew | .withdrawPrefixes _ | .policyUpdate _
  | .reconfigure _ => true
  | _ => false

/-- The request would replace the active declaration, beside which nothing is staged yet. -/
def StagesRequest (request : NetdRequest) (record : Option TransactionRecord) : Prop :=
  ∃ declaration r, request.operation = .reconfigure declaration ∧ record = some r
    ∧ StagesReplacement declaration r

/-- What an accepted request leaves in the record, by operation. -/
def LeftBy (J : JournalFormat β) (request : NetdRequest) (r : TransactionRecord) : Prop :=
  let owner := request.owner
  match request.operation with
  | .prepare declaration => PreparedAs owner declaration r
  | .commit => CommittedAs owner r
  | .leaseRenew =>
    renewedBy owner r = r ∧ CanStore J r ∧ ensureStagedOwner r owner = .ok ()
  | .withdrawPrefixes prefixes => CanStore J r ∧ FailedAs owner prefixes r
  | .policyUpdate declaration => PolicyAs owner declaration r
  | .reconfigure declaration => ReconfiguredAs J owner declaration r
  | _ => False

theorem repeats_of_leavesItself {operation : NetdOperation}
    (h : leavesItself operation = true) : operation.repeats = true := by
  cases operation with
  | mtuUpdate | suspend | resume | drain => exact absurd h Bool.false_ne_true
  | _ => rfl

/-! ## What the first request leaves -/

/-- Without a record there is nothing to renew, update or reconfigure. -/
def NeedsRecord {α : Type} (m : Tx β α) : Prop :=
  Yields (fun w => w.record = none) m fun _ _ => False

theorem needsRecord_current {α : Type} {k : TransactionRecord → Tx β α} :
    NeedsRecord (current >>= k) := by
  intro w hw
  rw [wp_bind, current, wp_bind, wp_get, hw, wp_okOr_none]
  trivial

theorem needsRecord_lift {α γ : Type} {result : Except NetworkError γ} {k : γ → Tx β α}
    (hk : ∀ a, NeedsRecord (k a)) : NeedsRecord (lift result >>= k) :=
  Yields.lift_bind fun a _ => hk a

/-- An operation that needs a record has found the one it started with. -/
theorem record_of_returned {m : Tx β Unit} {w w' : NetworkTransaction β}
    {P : TransactionRecord → TransactionRecord → Prop} (hneeds : NeedsRecord m)
    (hfinds : ∀ r, Yields (Holding r) m fun _ w => ∃ r', Holding r' w ∧ P r r')
    (hrun : m w = (.ok (), w')) :
    ∃ r r', w.record = some r ∧ w'.record = some r' ∧ P r r' := by
  cases hrecord : w.record with
  | none => exact (hneeds.of_eq hrecord hrun).elim
  | some r =>
    obtain ⟨r', hr', hP⟩ := (hfinds r).of_eq hrecord hrun
    exact ⟨r, r', rfl, hr', hP⟩

theorem leftBy_of_conduct {w w' : NetworkTransaction β}
    (hleaves : leavesItself request.operation = true) (hstages : ¬ StagesRequest request w.record)
    (hrun : conduct J env request w = (.ok (), w')) :
    ∃ r, w'.record = some r ∧ LeftBy J request r := by
  unfold conduct at hrun
  unfold LeftBy
  cases hop : request.operation with
  | prepare declaration =>
    simp only [hop] at hrun
    exact finds_prepare.of_eq trivial hrun
  | commit =>
    simp only [hop] at hrun
    obtain ⟨_, r', _, hr', hleft⟩ := record_of_returned (P := fun _ => CommittedAs request.owner)
      needsRecord_current (fun _ => finds_commitWithDrain) hrun
    exact ⟨r', hr', hleft⟩
  | leaseRenew =>
    simp only [hop] at hrun
    obtain ⟨_, r', _, hr', hleft⟩ := record_of_returned
      (P := fun _ r' => renewedBy request.owner r' = r' ∧ CanStore J r'
        ∧ ensureStagedOwner r' request.owner = .ok ())
      needsRecord_current
      (fun r => finds_renewLease.post fun _ w hw => ⟨_, hw.1, rfl, hw.2.1, hw.2.2⟩) hrun
    exact ⟨r', hr', hleft⟩
  | withdrawPrefixes prefixes =>
    simp only [hop] at hrun
    obtain ⟨_, r', _, hr', hleft⟩ := record_of_returned
      (P := fun _ r' => CanStore J r' ∧ FailedAs request.owner prefixes r')
      needsRecord_current (fun _ => finds_setFailedPrefixes) hrun
    exact ⟨r', hr', hleft⟩
  | policyUpdate declaration =>
    simp only [hop] at hrun
    obtain ⟨_, r', _, hr', hleft⟩ := record_of_returned
      (P := fun _ => PolicyAs request.owner declaration)
      (needsRecord_lift fun _ => needsRecord_current) (fun _ => finds_updatePolicy) hrun
    exact ⟨r', hr', hleft⟩
  | reconfigure declaration =>
    simp only [hop] at hrun
    obtain ⟨r, r', hr, hr', hleft⟩ := record_of_returned
      (needsRecord_lift fun _ => needsRecord_current) (fun _ => finds_reconfigure) hrun
    rcases hleft with ⟨hstaged, _⟩ | ⟨_, hleft⟩
    · exact (hstages ⟨declaration, r, hop, hr, hstaged⟩).elim
    · exact ⟨r', hr', hleft⟩
  | _ =>
    rw [hop] at hleaves
    exact absurd hleaves Bool.false_ne_true

/-! ## What the second one finds -/

theorem conduct_again {w : NetworkTransaction β} (hleft : LeftBy J request r)
    (hrecord : w.record = some r) (hfair : Untroubled w) :
    ∃ w', conduct J env request w = (.ok (), w') ∧ w'.record = some r := by
  have hdelivers : Delivers (ReadyAt r) (conduct J env request) fun _ => ReadyAt r := by
    unfold LeftBy at hleft
    unfold conduct
    cases hop : request.operation with
    | prepare declaration =>
      simp only [hop] at hleft
      exact delivers_prepare hleft
    | commit =>
      simp only [hop] at hleft
      exact delivers_commitWithDrain hleft
    | leaseRenew =>
      simp only [hop] at hleft
      obtain ⟨hsame, hstored, howner⟩ := hleft
      -- the deadline is in the record already
      have hrenew := delivers_renewLease (by rw [hsame]; exact hstored) howner
      rw [hsame] at hrenew
      exact hrenew
    | withdrawPrefixes prefixes =>
      simp only [hop] at hleft
      exact delivers_setFailedPrefixes hleft.2 hleft.1
    | policyUpdate declaration =>
      simp only [hop] at hleft
      exact delivers_updatePolicy hleft
    | reconfigure declaration =>
      simp only [hop] at hleft
      exact delivers_reconfigure hleft
    | _ =>
      simp only [hop] at hleft
  obtain ⟨⟨⟩, w', hrun, hw'⟩ := hdelivers.eq ⟨hrecord, hfair⟩
  exact ⟨w', hrun, hw'.1⟩

/-! ## The service -/

/-- The service that is asked again: the session and the record are as they were. -/
structure AskedAgain (s t : NetdService β) : Prop where
  uid : t.allowedUid = s.allowedUid
  gid : t.allowedGid = s.allowedGid
  session : t.session = s.session
  record : t.network.record = s.network.record

theorem authorises_numbered {next : NetdSession} {tun : Bool} {n : NetworkTransaction β}
    (hauth : s.authorises request peer = true)
    (ht : AskedAgain { s with session := next, tun, network := n } t) :
    t.authorises (request.numbered requestId) peer = true := by
  unfold NetdService.authorises at hauth ⊢
  rw [ht.uid, ht.gid]
  exact hauth

/-- A request is answered once more as it was, in whatever the service has done since, as long as
nothing fails. -/
theorem process_resent (hreach : SessionReachable s.session)
    (h : process J env request peer s = (.ok response, s'))
    (hok : response.body.isError = false) (hleaves : leavesItself request.operation = true)
    (hstages : ¬ StagesRequest request s.network.record) (ht : AskedAgain s' t)
    (hfair : Untroubled t.network)
    (hready : request.operation.isPrepare = true → TunnelReady env' t) (hid : requestId ≠ 0) :
    ∃ t', process J env' (request.numbered requestId) peer t
        = (.ok { response with requestId }, t')
      ∧ t'.session = t.session ∧ t'.network.record = t.network.record := by
  have hop : request.operation ≠ .status := by
    intro hstatus
    rw [hstatus] at hleaves
    exact Bool.false_ne_true hleaves
  have hrepeats : request.operation.repeats = true := repeats_of_leavesItself hleaves
  obtain ⟨hauth, rfl, next, n, tun, happly, hconduct, rfl⟩ := process_accepted h hok hop
  obtain ⟨r, hr, hleft⟩ := leftBy_of_conduct hleaves hstages hconduct
  have happly' : t.session.apply (request.numbered requestId) = .ok t.session := by
    rw [ht.session]
    exact (resent hreach happly hid).1 hrepeats
  have hrecord : t.network.record = some r := by rw [ht.record, hr]
  have hauth' : t.authorises (request.numbered requestId) peer = true :=
    authorises_numbered hauth ht
  have hconduct' : ∃ n', conduct J env' (request.numbered requestId) t.network = (.ok (), n')
      ∧ n'.record = some r := conduct_again hleft hrecord hfair
  obtain ⟨n', hagain, hr'⟩ := hconduct'
  obtain ⟨tun', hprocess⟩ := process_of_accepted hauth' hop hready happly' hagain
  exact ⟨_, hprocess, rfl, by rw [hrecord]; exact hr'⟩

namespace Sample

/-- The service after these requests, before one that nothing disturbs. -/
def rested (operations : List NetdOperation) : NetdService TransactionRecord :=
  (service operations).facing .allOk readings

end Sample

/-- The answer to a commitment is lost, and half a minute later it is sent once more. -/
theorem process_resent_commit :
    (Sample.rested [.prepare Sample.declaration, .commit]).session.phase = .active
      ∧ ∃ t', process exactFormat { Sample.env with nowMonoMs := 30000 }
          ((Sample.request .commit).numbered 2) Sample.peer
          (Sample.rested [.prepare Sample.declaration, .commit])
          = (.ok ⟨2, .committed 3⟩, t')
        ∧ t'.session = (Sample.rested [.prepare Sample.declaration, .commit]).session
        ∧ t'.network.record
          = (Sample.rested [.prepare Sample.declaration, .commit]).network.record := by
  have hreach : SessionReachable (Sample.rested [.prepare Sample.declaration]).session :=
    Relation.ReflTransGen.single ⟨Sample.request (.prepare Sample.declaration), by decide⟩
  have hstages : ¬ StagesRequest (Sample.request .commit)
      (Sample.rested [.prepare Sample.declaration]).network.record := by
    rintro ⟨_, _, hop, _⟩
    cases hop
  refine ⟨by decide, ?_⟩
  have hfirst : process exactFormat Sample.env (Sample.request .commit) Sample.peer
      (Sample.rested [.prepare Sample.declaration])
        = (.ok ⟨1, .committed 3⟩, Sample.service [.prepare Sample.declaration, .commit]) :=
    Prod.ext (by decide) rfl
  exact process_resent hreach hfirst rfl rfl hstages ⟨rfl, rfl, rfl, rfl⟩ (fun _ => ⟨rfl, rfl⟩)
    (fun hprepare => by cases hprepare) (by decide)

/-! ## A staged replacement -/

/-- A transaction that is prepared refuses to be reconfigured, and nothing has happened. -/
theorem reconfigure_refused {declaration : PrepareDeclaration} {w : NetworkTransaction β}
    (hrecord : w.record = some r) (hphase : r.phase = .prepared) :
    ∃ e, reconfigure J o declaration w = (.err e, w) := by
  have hwp : wp (reconfigure J o declaration) (fun _ _ => False) (fun _ w' => w' = w)
      (fun _ => False) w := by
    unfold reconfigure
    rw [wp_bind, wp_lift]
    refine ⟨fun _ _ => ?_, fun _ _ => rfl⟩
    rw [wp_bind, wp_current hrecord, wp_bind, wp_lift]
    refine ⟨fun _ _ => ?_, fun _ _ => rfl⟩
    rw [if_neg (by simp [hphase]), wp_bind, wp_ensure]
    exact ⟨fun hsuspended => by simp [hphase] at hsuspended, fun _ => rfl⟩
  unfold wp at hwp
  split at hwp
  · exact hwp.elim
  · next e w' heq => exact ⟨e, by rw [heq, hwp]⟩
  · exact hwp.elim

/-- What the service answers when the transaction refuses a reconfiguration. -/
theorem process_reconfigure_refused {declaration : PrepareDeclaration} {next : NetdSession}
    {e : NetworkError} (hop : request.operation = .reconfigure declaration)
    (hauth : s.authorises request peer = true) (happly : s.session.apply request = .ok next)
    (hrefused : reconfigure J request.owner declaration s.network = (.err e, s.network)) :
    process J env request peer s
      = (.ok ⟨request.requestId, .error (networkErrorCode e)⟩, s) := by
  have hserve : serve J env request s = (.ok (.error (networkErrorCode e)), s) := by
    have hnetwork : network (reconfigure J request.owner declaration) s = (.ok (.error e), s) := by
      unfold network
      rw [hrefused]
    simp only [serve, hop, carryOut]
    rw [bind_of_ok hnetwork]
    rfl
  have hget : (get : Svc β (NetdService β)) s = (.ok s, s) := rfl
  unfold process
  rw [bind_of_ok hget, if_neg (by simp [hauth]), if_neg (by simp [hop])]
  simp only [happly]
  rw [bind_of_ok hserve]
  rfl

/-- A replacement was staged, and the answer is lost: sent once more, the session takes the request
and the transaction does not, whatever happens. The service stays as it is. -/
theorem process_staged_refused (hreach : SessionReachable s.session)
    (h : process J env request peer s = (.ok response, s'))
    (hok : response.body.isError = false) (hstages : StagesRequest request s.network.record)
    (ht : AskedAgain s' t) (hid : requestId ≠ 0) :
    t.session.apply (request.numbered requestId) = .ok t.session
      ∧ ∃ code, process J env' (request.numbered requestId) peer t
        = (.ok ⟨requestId, .error code⟩, t) := by
  obtain ⟨declaration, r, hop, hr, hstaged⟩ := hstages
  obtain ⟨hauth, rfl, next, n, tun, happly, hconduct, rfl⟩ :=
    process_accepted h hok (by simp [hop])
  have happly' : t.session.apply (request.numbered requestId) = .ok t.session := by
    rw [ht.session]
    exact (resent hreach happly hid).1 (by rw [hop]; rfl)
  have hphase : ∃ r', n.record = some r' ∧ r'.phase = .prepared := by
    simp only [conduct, hop] at hconduct
    obtain ⟨r', hr', ⟨_, hprepared⟩ | ⟨hno, _⟩⟩ := finds_reconfigure.of_eq hr hconduct
    · exact ⟨r', hr', hprepared⟩
    · exact absurd hstaged hno
  obtain ⟨r', hr', hprepared⟩ := hphase
  have hrecord : t.network.record = some r' := by rw [ht.record, hr']
  have hauth' : t.authorises (request.numbered requestId) peer = true :=
    authorises_numbered hauth ht
  have hrefused : ∃ e, reconfigure J request.owner declaration t.network = (.err e, t.network) :=
    reconfigure_refused hrecord hprepared
  obtain ⟨e, hrefused⟩ := hrefused
  exact ⟨happly', networkErrorCode e, process_reconfigure_refused hop hauth' happly' hrefused⟩

/-- The answer to a staged replacement is lost: the client cannot find out that it succeeded. -/
theorem process_staged_refused_sent :
    (Sample.service [.prepare Sample.declaration, .commit,
        .reconfigure Sample.replacement]).session.phase = .prepared
      ∧ ∃ code, process exactFormat Sample.env
          ((Sample.request (.reconfigure Sample.replacement)).numbered 2) Sample.peer
          (Sample.rested [.prepare Sample.declaration, .commit, .reconfigure Sample.replacement])
        = (.ok ⟨2, .error code⟩,
          Sample.rested [.prepare Sample.declaration, .commit,
            .reconfigure Sample.replacement]) := by
  have hprepared : SessionReachable (Sample.service [.prepare Sample.declaration]).session :=
    Relation.ReflTransGen.single ⟨Sample.request (.prepare Sample.declaration), by decide⟩
  have hreach : SessionReachable (Sample.rested [.prepare Sample.declaration, .commit]).session :=
    hprepared.tail ⟨Sample.request .commit, by decide⟩
  have hstages : StagesRequest (Sample.request (.reconfigure Sample.replacement))
      (Sample.rested [.prepare Sample.declaration, .commit]).network.record :=
    ⟨_, (Sample.rested [.prepare Sample.declaration, .commit]).network.record.get (by decide), rfl,
      by decide, by decide, by decide, by decide⟩
  refine ⟨by decide, ?_⟩
  have hfirst : process exactFormat Sample.env (Sample.request (.reconfigure Sample.replacement))
      Sample.peer (Sample.rested [.prepare Sample.declaration, .commit])
        = (.ok ⟨1, .reconfigured 3⟩, Sample.service [.prepare Sample.declaration, .commit,
          .reconfigure Sample.replacement]) :=
    Prod.ext (by decide) rfl
  exact (process_staged_refused hreach hfirst rfl hstages ⟨rfl, rfl, rfl, rfl⟩ (by decide)).2

end CandyRuntime.NetdV1
