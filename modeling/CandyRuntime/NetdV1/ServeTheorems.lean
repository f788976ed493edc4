import CandyRuntime.NetdV1.ServiceTheorems

/-!
# What a request asks of the network transaction

Every request but `Status` is one operation of the network transaction (`conduct`), and its
answer is fixed in advance (`answerTo`). `process` succeeds exactly if the peer may speak, the
session advances, and this operation succeeds.
-/

namespace CandyRuntime.NetdV1

open Lib Lib.Proc NetdProto

variable {β : Type}

/-- The operation of the network transaction behind a request. -/
def conduct (J : JournalFormat β) (env : Surroundings) (request : NetdRequest) : Tx β Unit :=
  let owner := request.owner
  match request.operation with
  | .prepare declaration => prepare J owner declaration
  | .commit => commitWithDrain J owner env.nowMonoMs (min defaultDrainTimeoutMs maxDrainTimeoutMs)
  | .rollback => rollback J owner
  | .status => pure ()
  | .leaseRenew => renewLease J owner
  | .mtuUpdate mtu => updateMtu J owner mtu
  | .suspend => suspend J owner
  | .reconfigure declaration => reconfigure J owner declaration
  | .policyUpdate declaration => updatePolicy J owner declaration
  | .resume => resume J owner
  | .drain now => drainOld J owner now
  | .withdrawPrefixes prefixes => setFailedPrefixes J owner prefixes

/-- The answer to a request that is carried out. -/
def answerTo (request : NetdRequest) : ResponseBody :=
  let generation := request.owner.generation
  match request.operation with
  | .prepare _ => .prepared generation true
  | .commit => .committed generation
  | .rollback => .rolledBack generation
  | .status => .status .stopped generation
  | .leaseRenew => .leaseRenewed generation
  | .mtuUpdate mtu => .mtuUpdated generation mtu
  | .suspend => .suspended generation
  | .reconfigure _ => .reconfigured generation
  | .policyUpdate _ => .policyUpdated generation
  | .resume => .resumed generation
  | .drain _ => .drained generation
  | .withdrawPrefixes prefixes => .prefixesWithdrawn generation (UInt64.ofNat prefixes.length)

variable {J : JournalFormat β} {env : Surroundings} {request : NetdRequest} {s s' : NetdService β}
  {peer : PeerCredentials}

/-! ## One operation -/

/-- The answer and the service after an operation of the transaction that ended with `result`. -/
def Conducted (s : NetdService β) (body : ResponseBody)
    (result : Outcome NetworkError Unit × NetworkTransaction β) :
    Except ErrorCode ResponseBody → NetdService β → Prop
  | .ok answer, s' => result.1 = .ok () ∧ answer = body
      ∧ ∃ tun, s' = { s with tun, network := result.2 }
  | .error _, s' => result.1 ≠ .ok () ∧ ∃ tun, s' = { s with tun, network := result.2 }

theorem conducted_network {m : Tx β Unit} {body : ResponseBody}
    {k : Except NetworkError Unit → Svc β (Except ErrorCode ResponseBody)} (tun : Bool)
    (hok : ∀ n, m s.network = (.ok (), n) →
      wp (k (.ok ())) (Conducted s body (m s.network)) (fun _ _ => False)
        (fun _ => (m s.network).1 ≠ .ok ()) { s with tun, network := n })
    (herr : ∀ e n, m s.network = (.err e, n) →
      wp (k (.error e)) (Conducted s body (m s.network)) (fun _ _ => False)
        (fun _ => (m s.network).1 ≠ .ok ()) { s with tun, network := n }) :
    wp (network m >>= k) (Conducted s body (m s.network)) (fun _ _ => False)
      (fun _ => (m s.network).1 ≠ .ok ()) { s with tun } := by
  rw [wp_bind, wp_network]
  show wp m _ _ _ s.network
  rcases hrun : m s.network with ⟨_ | e | _, n⟩
  · rw [wp, hrun]
    rw [hrun] at hok
    exact hok n rfl
  · rw [wp, hrun]
    rw [hrun] at herr
    exact herr e n rfl
  · rw [wp, hrun]
    exact fun h => by cases h

theorem conducted_carryOut {m : Tx β Unit} {body : ResponseBody} :
    wp (carryOut m body) (Conducted s body (m s.network)) (fun _ _ => False)
      (fun _ => (m s.network).1 ≠ .ok ()) s := by
  refine conducted_network s.tun (fun n hrun => ?_) fun e n hrun => ?_
  · rw [hrun]
    exact ⟨rfl, rfl, s.tun, rfl⟩
  · rw [hrun]
    exact ⟨by simp, s.tun, rfl⟩

/-- The tunnel can be handed out: it is there or can be created, and can be duplicated. -/
def TunnelReady (env : Surroundings) (s : NetdService β) : Prop :=
  (s.tun = true ∨ env.tunCreated = true) ∧ env.duplicated = true

theorem serve_conducted (hop : request.operation ≠ .status)
    (hready : request.operation.isPrepare = true → TunnelReady env s) :
    wp (serve J env request)
      (Conducted s (answerTo request) (conduct J env request s.network))
      (fun _ _ => False) (fun _ => (conduct J env request s.network).1 ≠ .ok ()) s := by
  unfold serve conduct answerTo
  cases hcase : request.operation with
  | status => exact absurd hcase hop
  | prepare declaration =>
    obtain ⟨htun, hduplicated⟩ := hready (by rw [hcase]; rfl)
    have hcreated : ¬ (s.tun = false ∧ env.tunCreated = false) := by
      intro hnone
      simp [hnone.1, hnone.2] at htun
    dsimp only [servePrepare]
    rw [wp_bind, wp_get, if_neg hcreated, wp_bind, wp_modify]
    refine conducted_network true (fun n hrun => ?_) fun e n hrun => ?_
    · dsimp only
      rw [hrun, if_pos hduplicated]
      exact ⟨rfl, rfl, true, rfl⟩
    · rw [hrun]
      exact ⟨by simp, false, rfl⟩
  | commit =>
    dsimp only
    rw [wp_bind]
    refine wp_mono conducted_carryOut (fun result s' hs' => ?_) (fun _ _ h => h) fun _ h => h
    cases result with
    | error code =>
      obtain ⟨hfails, tun, rfl⟩ := hs'
      exact ⟨hfails, false, rfl⟩
    | ok body => exact hs'
  | rollback =>
    dsimp only
    rw [wp_bind]
    refine wp_mono conducted_carryOut (fun result s' hs' => ?_) (fun _ _ h => h) fun _ h => h
    cases result with
    | error code => exact hs'
    | ok body =>
      obtain ⟨hworks, hbody, tun, rfl⟩ := hs'
      exact ⟨hworks, hbody, false, rfl⟩
  | leaseRenew => exact conducted_carryOut
  | mtuUpdate mtu => exact conducted_carryOut
  | suspend => exact conducted_carryOut
  | reconfigure declaration => exact conducted_carryOut
  | policyUpdate declaration => exact conducted_carryOut
  | resume => exact conducted_carryOut
  | drain now => exact conducted_carryOut
  | withdrawPrefixes prefixes => exact conducted_carryOut

/-- A tunnel that is not ready is no answer. -/
theorem serve_unready (hprepare : request.operation.isPrepare = true)
    (hready : ¬ TunnelReady env s) :
    wp (serve J env request) (fun result _ => ∃ code, result = .error code) (fun _ _ => True)
      (fun _ => True) s := by
  unfold serve
  cases hcase : request.operation with
  | prepare declaration =>
    dsimp only [servePrepare]
    rw [wp_bind, wp_get, wp_ite]
    refine ⟨fun _ => ⟨_, rfl⟩, fun hcreated => ?_⟩
    have hduplicated : ¬ env.duplicated = true := by
      intro hduplicated
      refine hready ⟨?_, hduplicated⟩
      by_contra hno
      exact hcreated (by simpa using hno)
    rw [wp_bind, wp_modify, wp_bind, wp_network]
    unfold wp
    split
    · simp only [hduplicated]
      exact ⟨_, rfl⟩
    · exact ⟨_, rfl⟩
    · trivial
  | _ => simp [hcase, NetdOperation.isPrepare] at hprepare

/-! ## The request -/

/-- A request is carried out in exactly one way. -/
theorem process_accepted {response : NetdResponse}
    (h : process J env request peer s = (.ok response, s')) (hok : response.body.isError = false)
    (hop : request.operation ≠ .status) :
    s.authorises request peer = true ∧ response = ⟨request.requestId, answerTo request⟩
      ∧ ∃ next n tun, s.session.apply request = .ok next
        ∧ conduct J env request s.network = (.ok (), n)
        ∧ s' = { s with session := next, tun, network := n } := by
  have hwp : wp (process J env request peer)
      (fun response s' => response.body.isError = false → s.authorises request peer = true
        ∧ response = ⟨request.requestId, answerTo request⟩
        ∧ ∃ next n tun, s.session.apply request = .ok next
          ∧ conduct J env request s.network = (.ok (), n)
          ∧ s' = { s with session := next, tun, network := n })
      (fun _ _ => True) (fun _ => True) s := by
    rw [process, wp_bind, wp_get, wp_ite]
    refine ⟨fun _ herror => by simp [ResponseBody.isError] at herror, fun hauth => ?_⟩
    have hauth' : s.authorises request peer = true := by simpa using hauth
    rw [if_neg hop]
    cases happly : s.session.apply request with
    | error e => exact fun herror => by simp [ResponseBody.isError] at herror
    | ok next =>
      dsimp only
      rw [wp_bind]
      by_cases hready : request.operation.isPrepare = true → TunnelReady env s
      · refine wp_mono (serve_conducted hop hready) (fun result s' hs' => ?_)
          (fun _ _ _ => trivial) fun _ _ => trivial
        cases result with
        | error code => exact fun herror => by simp [ResponseBody.isError] at herror
        | ok body =>
          obtain ⟨hworks, rfl, tun, rfl⟩ := hs'
          exact fun _ => ⟨hauth', rfl, next, _, tun, rfl, Prod.ext hworks rfl, rfl⟩
      · obtain ⟨hprepare, hunready⟩ := Classical.not_imp.mp hready
        refine wp_mono (serve_unready hprepare hunready) (fun result s' hs' => ?_)
          (fun _ _ _ => trivial) fun _ _ => trivial
        obtain ⟨code, rfl⟩ := hs'
        exact fun herror => by simp [ResponseBody.isError] at herror
  rw [wp, h] at hwp
  exact hwp hok

theorem process_of_accepted {next : NetdSession} {n : NetworkTransaction β}
    (hauth : s.authorises request peer = true) (hop : request.operation ≠ .status)
    (hready : request.operation.isPrepare = true → TunnelReady env s)
    (happly : s.session.apply request = .ok next)
    (hrun : conduct J env request s.network = (.ok (), n)) :
    ∃ tun, process J env request peer s
      = (.ok ⟨request.requestId, answerTo request⟩, { s with session := next, tun, network := n }) := by
  have hwp : wp (process J env request peer)
      (fun response s' => response = ⟨request.requestId, answerTo request⟩
        ∧ ∃ tun, s' = { s with session := next, tun, network := n })
      (fun _ _ => False) (fun _ => False) s := by
    rw [process, wp_bind, wp_get, if_neg (by simp [hauth]), if_neg hop]
    simp only [happly]
    rw [wp_bind]
    have hconducted := serve_conducted (J := J) hop hready
    rw [hrun] at hconducted
    refine wp_mono hconducted (fun result s' hs' => ?_) (fun _ _ h => h) fun _ h => h rfl
    cases result with
    | error code => exact absurd rfl hs'.1
    | ok body =>
      obtain ⟨_, rfl, tun, rfl⟩ := hs'
      exact ⟨rfl, tun, rfl⟩
  unfold wp at hwp
  rcases hprocess : process J env request peer s with ⟨response | e | _, s'⟩
  · rw [hprocess] at hwp
    obtain ⟨rfl, tun, rfl⟩ := hwp
    exact ⟨tun, rfl⟩
  · rw [hprocess] at hwp
    exact hwp.elim
  · rw [hprocess] at hwp
    exact hwp.elim

end CandyRuntime.NetdV1
