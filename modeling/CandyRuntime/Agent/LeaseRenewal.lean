import CandyRuntime.NetdV2.Process

/-!
# The lease renewals of a supervised owner

The supervision loops of `experimental_tunio.rs` keep one `ForwardOwner` in memory and renew its
lease at netd. The new deadline is written into that owner before the request is sent, and the
result of the exchange only decides when the next renewal is due. The requests and replies can be
lost, and netd can refuse a renewal; between them it recovers on its own.
-/

namespace CandyRuntime.Agent

open Lib Lib.Proc NetdProto NetdV2

/-- The instance and the process in whose name `InfrastructureClient` sends. -/
structure Requester where
  instanceId : InstanceId
  peer : PeerCredentials
deriving DecidableEq, Repr

def Requester.request (q : Requester) (requestId : ℕ) (operation : Operation) : Request where
  requestId
  callerInstanceId := q.instanceId
  callerPid := q.peer.pid
  operation

/-- The owner of a renewal at the time `monoMs` of the agent. -/
def renewedOwner (owner : ForwardOwner) (monoMs : ℕ) : ForwardOwner :=
  { owner with leaseDeadlineMonoMs := min (monoMs + 30000) owner.authDeadlineMonoMs }

/-- The owner the agent holds, and netd. -/
structure Supervision where
  owner : ForwardOwner
  netd : InfrastructureService

/-- A renewal that was tried: when, and whether netd has carried it out. -/
structure Attempt where
  monoMs : ℕ
  carriedOut : Bool
deriving DecidableEq, Repr

variable (E : Surroundings) (q : Requester)

/-- The renewals of an owner, from a start. Whether the reply of a handled request arrives makes no
difference to either side. -/
inductive Renewing (start : Supervision) : List Attempt → Supervision → Prop
  | start : Renewing start [] start
  | requestLost {attempts : List Attempt} {s : Supervision} (monoMs : ℕ)
      (h : Renewing start attempts s) :
      Renewing start (attempts ++ [⟨monoMs, false⟩])
        { s with owner := renewedOwner s.owner monoMs }
  | handled {attempts : List Attempt} {s : Supervision} {netd : InfrastructureService}
      {result : Except InfrastructureError (Body × Bool)} (monoMs requestId now : ℕ)
      (h : Renewing start attempts s)
      (hrun : attempt (process E (q.request requestId
        (.forwardLeaseRenew (renewedOwner s.owner monoMs))) q.peer now) s.netd
        = (.ok result, netd)) :
      Renewing start (attempts ++ [⟨monoMs, result.isOk⟩])
        { owner := renewedOwner s.owner monoMs, netd }
  | recovered {attempts : List Attempt} {s : Supervision} {netd : InfrastructureService}
      {result : Except InfrastructureError Bool} (now : ℕ) (h : Renewing start attempts s)
      (hrun : attempt (recoverExpired E now) s.netd = (.ok result, netd)) :
      Renewing start attempts { s with netd }

/-- The deadline after some renewals of the owner. -/
def deadlineAfter (owner : ForwardOwner) (attempts : List Attempt) : ℕ :=
  attempts.foldl (fun _ a => (renewedOwner owner a.monoMs).leaseDeadlineMonoMs)
    owner.leaseDeadlineMonoMs

end CandyRuntime.Agent
