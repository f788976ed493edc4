import CandyRuntime.Tunio.Authority

/-!
# The clock fields of an authority envelope

The agent fixes the cap of a signed authority on the boot clock in `run_with_plan`, and builds the
envelope for TUNIO there or, for a make-before-break handoff, in `run_mbb_transaction`. Moments are
nanoseconds of the boot clock. The wall clock advances at the same rate, ahead by `offset`.
-/

namespace CandyRuntime.Agent.Renewal

open Tunio

/-- `authority_control::monotonic_ms`, of TUNIO. -/
def bootMs (t : ℕ) : ℕ := t / 1000000

/-- `monotonic_ms`, of the agent: `/proc/uptime` has two decimals. The product is exact here; that of
the floats can be truncated to a millisecond less. -/
def uptimeMs (t : ℕ) : ℕ := t / 10000000 * 10

-- how far the wall clock is ahead of the boot clock
variable (offset : ℕ)

/-- `unix_time`. -/
def unixSeconds (t : ℕ) : ℕ := (offset + t) / 1000000000

/-- `authorization_clock_sample`; the wall clock is in nanoseconds. -/
def authorizationClockSample (expiryUnix verifiedMonoMs verifiedWall : ℕ) :
    Except String (ℕ × ℕ) :=
  let remaining := expiryUnix * 1000000000 - verifiedWall
  if remaining = 0 then .error "new signed authority expired"
  else if 3600 * 1000000000 < remaining then
    .error "experimental detached authority is limited to one hour"
  else
    let cap := verifiedMonoMs + remaining / 1000000
    if cap < 2 ^ 64 then .ok (verifiedWall / 1000000000, cap)
    else .error "authority deadline overflow"

/-- What `run_with_plan` has fixed before it spawns a worker. -/
structure Verified where
  effectiveExpiryUnix : ℕ
  signedMinExpiryUnix : ℕ
  verifiedAtUnix : ℕ
  verifiedAtMonoMs : ℕ
  cap : ℕ
deriving DecidableEq, Repr

/-- `run_with_plan` up to the cap. The expiry is that of `compile_verified_plan`; `caps` are the
deadlines under which the same signed authority is already in use. The boot clock is read at `mono`
and the wall clock at `wall`; the cap is compared with the agent's clock at `check`. -/
def verify (plannedExpiry signedExpiry : ℕ) (caps : List ℕ) (mono wall check : ℕ) :
    Except String Verified := do
  let expiry := min plannedExpiry signedExpiry
  let now := bootMs mono
  let (verifiedAtUnix, cap) ← authorizationClockSample expiry now (offset + wall)
  let cap := caps.foldl min cap
  if cap ≤ uptimeMs check then throw "original pair recovery authorization expired"
  return {
    effectiveExpiryUnix := expiry
    signedMinExpiryUnix := signedExpiry
    verifiedAtUnix
    verifiedAtMonoMs := now
    cap }

/-- The envelope of `run_with_plan`; `base` has the fields that are no clocks. -/
def Verified.envelope (v : Verified) (base : AuthorityEnvelope) : AuthorityEnvelope :=
  { base with
    signedMinExpiryUnix := v.signedMinExpiryUnix
    effectiveExpiryUnix := v.effectiveExpiryUnix
    verifiedAtUnix := v.verifiedAtUnix
    verifiedAtMonoMs := v.verifiedAtMonoMs
    effectiveDeadlineMonoMs := v.cap }

/-- The envelope of `run_mbb_transaction`: both clocks are read again, the boot clock at `mono` and
the wall clock at `wall`. -/
def Verified.mbbEnvelope (v : Verified) (base : AuthorityEnvelope) (reservationCap mono wall : ℕ) :
    Except String AuthorityEnvelope :=
  let now := uptimeMs mono
  let verifiedAtUnix := unixSeconds offset wall
  if reservationCap ≤ now then .error "code=mbb_original_prepare_expired"
  else .ok { base with
    signedMinExpiryUnix := v.signedMinExpiryUnix
    effectiveExpiryUnix := v.effectiveExpiryUnix
    verifiedAtUnix
    verifiedAtMonoMs := now
    effectiveDeadlineMonoMs := v.cap }

end CandyRuntime.Agent.Renewal
