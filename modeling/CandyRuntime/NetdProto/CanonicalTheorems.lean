import CandyRuntime.NetdProto.CodecTheorems
import CandyRuntime.NetdProto.ResponseCodec

/-!
# The netd wire format is canonical

The other direction of the round trip: a reader that succeeds was run in front of the bytes
its writer emits. Together with the first direction, `encode` and `decode` are inverse to each
other on the frames `decode` accepts, for requests and for responses.
-/

namespace CandyRuntime.NetdProto

open Lib

variable {r : NetdResponse} {b : Bytes} {v : ℕ}

namespace Reader

/-! ## Programs that have succeeded -/

variable {input rest : Bytes}
variable {α β : Type}

theorem run_bind_eq_ok {m : Reader α} {f : α → Reader β} {b : β}
    (h : (m >>= f).run input = .ok (b, rest)) :
    ∃ a mid, m.run input = .ok (a, mid) ∧ (f a).run mid = .ok (b, rest) := by
  rw [StateT.run_bind] at h
  cases hm : m.run input with
  | error e =>
    rw [hm] at h
    exact absurd h (by simp [bind, Except.bind])
  | ok result =>
    rw [hm] at h
    exact ⟨result.1, result.2, rfl, h⟩

theorem run_pure_eq_ok {a b : α} (h : (pure a : Reader α).run input = .ok (b, rest)) :
    a = b ∧ input = rest := by
  change Except.ok (a, input) = Except.ok (b, rest) at h
  simpa using h

theorem run_lift_eq_ok {e : Except NetdProtocolError α} {a : α}
    (h : (liftM e : Reader α).run input = .ok (a, rest)) : e = .ok a ∧ input = rest := by
  cases e with
  | error e => exact absurd h (by simp [liftM, monadLift, MonadLift.monadLift, StateT.lift,
      StateT.run, bind, Except.bind])
  | ok a' =>
    obtain ⟨rfl, rfl⟩ := run_pure_eq_ok (a := a') h
    exact ⟨rfl, rfl⟩

theorem run_throw_ne_ok {e : NetdProtocolError} {a : α} :
    (throw e : Reader α).run input ≠ .ok (a, rest) := by
  intro h
  exact absurd h (by simp [throw, throwThe, MonadExceptOf.throw, StateT.lift, StateT.run,
    bind, Except.bind])

/-- Whatever the reader accepts, its writer emits. -/
def Reflects (m : Reader α) (write : α → Bytes) : Prop :=
  ∀ ⦃input a rest⦄, m.run input = .ok (a, rest) → input = write a ++ rest

/-! ## Numbers -/

theorem varint_eq_ok (h : varint.run input = .ok (v, rest)) :
    input = encodeVarint v ++ rest ∧ v < 2 ^ 64 := by
  apply decodeVarint_eq_some
  change varint input = _ at h
  rw [varint] at h
  split at h
  · rename_i value rest' heq
    obtain ⟨rfl, rfl⟩ : value = v ∧ rest' = rest := by simpa using h
    exact heq
  · exact absurd h (by simp)

theorem reflects_word : Reflects word (fun v => encodeVarint v.toNat) := by
  intro input a rest h
  obtain ⟨v, mid, hv, h⟩ := run_bind_eq_ok h
  obtain ⟨rfl, rfl⟩ := run_pure_eq_ok h
  obtain ⟨hinput, hlt⟩ := varint_eq_ok hv
  have hnat : (UInt64.ofNat v).toNat = v := by
    rw [UInt64.toNat_ofNat']
    exact Nat.mod_eq_of_lt hlt
  simp only [hnat]
  exact hinput

theorem reflects_fixed (n : ℕ) : Reflects (fixed n) (fun v => v.toList) := by
  intro input a rest h
  change fixed n input = _ at h
  rw [fixed] at h
  split at h
  · simp only [Except.ok.injEq, Prod.mk.injEq] at h
    rw [← h.1, ← h.2]
    simp [Vector.toList]
  · exact absurd h (by simp)

theorem reflects_address : Reflects address (fun a => toBE 4 a.toNat) := by
  intro input a rest h
  obtain ⟨octets, mid, hfixed, h⟩ := run_bind_eq_ok h
  obtain ⟨rfl, rfl⟩ := run_pure_eq_ok h
  have hlen : octets.toList.length = 4 := by simp
  have hlt := fromBE_lt octets.toList
  have hback := toBE_fromBE octets.toList
  rw [hlen] at hlt hback
  have hnat : (UInt32.ofNat (fromBE octets.toList)).toNat = fromBE octets.toList := by
    rw [UInt32.toNat_ofNat']
    exact Nat.mod_eq_of_lt hlt
  simp only [hnat, hback]
  exact reflects_fixed 4 hfixed

theorem below_eq_ok {bound v : ℕ} {e : NetdProtocolError}
    (h : (below bound e).run input = .ok (v, rest)) :
    input = encodeVarint v ++ rest ∧ v < bound := by
  obtain ⟨w, mid, hw, h⟩ := run_bind_eq_ok h
  split at h
  · rename_i hlt
    obtain ⟨rfl, rfl⟩ := run_pure_eq_ok h
    exact ⟨(varint_eq_ok hw).1, hlt⟩
  · exact absurd h run_throw_ne_ok

theorem reflects_count (min max : ℕ) : Reflects (count min max) encodeVarint := by
  intro input v rest h
  obtain ⟨w, mid, hw, h⟩ := run_bind_eq_ok h
  split at h
  · obtain ⟨rfl, rfl⟩ := run_pure_eq_ok h
    exact (varint_eq_ok hw).1
  · exact absurd h run_throw_ne_ok

theorem reflects_boolean : Reflects boolean encodeFlag := by
  intro input flag rest h
  obtain ⟨w, mid, hw, h⟩ := run_bind_eq_ok h
  have hinput := (varint_eq_ok hw).1
  split at h
  · obtain ⟨rfl, rfl⟩ := run_pure_eq_ok h
    exact hinput
  · obtain ⟨rfl, rfl⟩ := run_pure_eq_ok h
    exact hinput
  · exact absurd h run_throw_ne_ok

/-! ## Prefixes and lists -/

theorem new_eq_ok {network : UInt32} {prefixLen : UInt8} {p : Ipv4Prefix}
    (h : Ipv4Prefix.new network prefixLen = .ok p) : p = { network, prefixLen } := by
  unfold Ipv4Prefix.new at h
  split at h
  · exact absurd h (by simp)
  · split at h
    · exact absurd h (by simp)
    · exact (Except.ok.inj h).symm

theorem reflects_ipv4Prefix : Reflects ipv4Prefix encodePrefix := by
  intro input p rest h
  obtain ⟨network, mid, hnetwork, h⟩ := run_bind_eq_ok h
  obtain ⟨len, mid', hlen, h⟩ := run_bind_eq_ok h
  obtain ⟨hnew, rfl⟩ := run_lift_eq_ok h
  obtain ⟨hmid, hlt⟩ := below_eq_ok hlen
  have hnat : (UInt8.ofNat len).toNat = len := by
    rw [UInt8.toNat_ofNat']
    omega
  rw [reflects_address hnetwork, hmid, new_eq_ok hnew, encodePrefix, hnat, List.append_assoc]

/-- A counted list: as many entries as were asked for, one after the other. -/
theorem repeated_eq_ok {read : Reader α} {write : α → Bytes} (hread : Reflects read write) {n : ℕ}
    {values : List α} (h : (repeated read n).run input = .ok (values, rest)) :
    input = values.flatMap write ++ rest ∧ values.length = n := by
  induction n generalizing input values with
  | zero =>
    obtain ⟨rfl, rfl⟩ := run_pure_eq_ok h
    exact ⟨rfl, rfl⟩
  | succ n ih =>
    obtain ⟨value, mid, hvalue, h⟩ := run_bind_eq_ok h
    obtain ⟨tail, mid', htail, h⟩ := run_bind_eq_ok h
    obtain ⟨rfl, rfl⟩ := run_pure_eq_ok h
    obtain ⟨hmid, hlength⟩ := ih htail
    rw [hread hvalue, hmid, List.flatMap_cons, List.append_assoc, List.length_cons, hlength]
    exact ⟨rfl, rfl⟩

theorem RouteKind.tryFrom_eq_ok {kind : RouteKind} (h : RouteKind.tryFrom v = .ok kind) :
    v = kind.code := by
  unfold RouteKind.tryFrom at h
  split at h <;> first | (cases h; rfl) | exact absurd h (by simp)

theorem UnderlayKind.tryFrom_eq_ok {kind : UnderlayKind} (h : UnderlayKind.tryFrom v = .ok kind) :
    v = kind.code := by
  unfold UnderlayKind.tryFrom at h
  split at h <;> first | (cases h; rfl) | exact absurd h (by simp)

theorem reflects_route : Reflects route encodeRoute := by
  intro input r rest h
  obtain ⟨p, mid, hp, h⟩ := run_bind_eq_ok h
  obtain ⟨v, mid', hv, h⟩ := run_bind_eq_ok h
  obtain ⟨kind, mid'', hlift, h⟩ := run_bind_eq_ok h
  obtain ⟨hkind, rfl⟩ := run_lift_eq_ok hlift
  obtain ⟨rfl, rfl⟩ := run_pure_eq_ok h
  rw [reflects_ipv4Prefix hp, (varint_eq_ok hv).1, RouteKind.tryFrom_eq_ok hkind, encodeRoute,
    List.append_assoc]

theorem reflects_exclusion : Reflects exclusion encodeExclusion := by
  intro input e rest h
  obtain ⟨p, mid, hp, h⟩ := run_bind_eq_ok h
  obtain ⟨v, mid', hv, h⟩ := run_bind_eq_ok h
  obtain ⟨kind, mid'', hlift, h⟩ := run_bind_eq_ok h
  obtain ⟨hkind, rfl⟩ := run_lift_eq_ok hlift
  obtain ⟨rfl, rfl⟩ := run_pure_eq_ok h
  rw [reflects_ipv4Prefix hp, (varint_eq_ok hv).1, UnderlayKind.tryFrom_eq_ok hkind,
    encodeExclusion, List.append_assoc]

theorem reflects_firewall : Reflects firewall encodeFirewall := by
  intro input f rest h
  obtain ⟨allowForward, mid, h1, h⟩ := run_bind_eq_ok h
  obtain ⟨clampTcpMss, mid', h2, h⟩ := run_bind_eq_ok h
  obtain ⟨requireIpv4Forwarding, mid'', h3, h⟩ := run_bind_eq_ok h
  obtain ⟨manageRpFilter, mid''', h4, h⟩ := run_bind_eq_ok h
  obtain ⟨rfl, rfl⟩ := run_pure_eq_ok h
  rw [reflects_boolean h1, reflects_boolean h2, reflects_boolean h3, reflects_boolean h4,
    encodeFirewall]
  simp only [List.append_assoc]

/-! ## Requests -/

theorem reflects_declaration : Reflects declaration encodeDeclaration := by
  intro input d rest h
  obtain ⟨tableId, mid₁, htable, h⟩ := run_bind_eq_ok h
  obtain ⟨overlay, mid₂, hoverlay, h⟩ := run_bind_eq_ok h
  obtain ⟨mtu, mid₃, hmtu, h⟩ := run_bind_eq_ok h
  obtain ⟨routeCount, mid₄, hrouteCount, h⟩ := run_bind_eq_ok h
  obtain ⟨routes, mid₅, hroutes, h⟩ := run_bind_eq_ok h
  obtain ⟨exclusionCount, mid₆, hexclusionCount, h⟩ := run_bind_eq_ok h
  obtain ⟨exclusions, mid₇, hexclusions, h⟩ := run_bind_eq_ok h
  obtain ⟨firewall, mid₈, hfirewall, h⟩ := run_bind_eq_ok h
  obtain ⟨_, mid₉, hvalidate, h⟩ := run_bind_eq_ok h
  obtain ⟨_, rfl⟩ := run_lift_eq_ok hvalidate
  obtain ⟨rfl, rfl⟩ := run_pure_eq_ok h
  obtain ⟨htable, htable'⟩ := below_eq_ok htable
  obtain ⟨hmtu, hmtu'⟩ := below_eq_ok hmtu
  obtain ⟨hroutes, hrouteLength⟩ := repeated_eq_ok reflects_route hroutes
  obtain ⟨hexclusions, hexclusionLength⟩ := repeated_eq_ok reflects_exclusion hexclusions
  have htableNat : (UInt32.ofNat tableId).toNat = tableId := by
    rw [UInt32.toNat_ofNat']
    exact Nat.mod_eq_of_lt htable'
  have hmtuNat : (UInt16.ofNat mtu).toNat = mtu := by
    rw [UInt16.toNat_ofNat']
    exact Nat.mod_eq_of_lt hmtu'
  rw [htable, reflects_address hoverlay, hmtu, reflects_count 1 maxRoutes hrouteCount, hroutes,
    reflects_count 1 maxExclusions hexclusionCount, hexclusions, reflects_firewall hfirewall,
    encodeDeclaration, hrouteLength, hexclusionLength, htableNat, hmtuNat]
  simp only [List.append_assoc]

theorem reflects_owner : Reflects owner encodeOwner := by
  intro input o rest h
  obtain ⟨instanceId, mid₁, hid, h⟩ := run_bind_eq_ok h
  obtain ⟨pid, mid₂, hpid, h⟩ := run_bind_eq_ok h
  obtain ⟨generation, mid₃, hgeneration, h⟩ := run_bind_eq_ok h
  obtain ⟨deadline, mid₄, hdeadline, h⟩ := run_bind_eq_ok h
  obtain ⟨rfl, rfl⟩ := run_pure_eq_ok h
  obtain ⟨hpid, hpid'⟩ := below_eq_ok hpid
  obtain ⟨hgeneration, hgeneration'⟩ := varint_eq_ok hgeneration
  obtain ⟨hdeadline, hdeadline'⟩ := varint_eq_ok hdeadline
  have hpidNat : (UInt32.ofNat pid).toNat = pid := by
    rw [UInt32.toNat_ofNat']
    exact Nat.mod_eq_of_lt hpid'
  have hgenerationNat : (UInt64.ofNat generation).toNat = generation := by
    rw [UInt64.toNat_ofNat']
    exact Nat.mod_eq_of_lt hgeneration'
  have hdeadlineNat : (UInt64.ofNat deadline).toNat = deadline := by
    rw [UInt64.toNat_ofNat']
    exact Nat.mod_eq_of_lt hdeadline'
  rw [reflects_fixed 16 hid, hpid, hgeneration, hdeadline, encodeOwner, hpidNat, hgenerationNat,
    hdeadlineNat]
  simp only [List.append_assoc]

/-- The operation of a tag carries that tag, and its lists keep to the bound `encode` checks. -/
theorem operation_eq_ok {tag : ℕ} {op : NetdOperation}
    (h : (operation tag).run input = .ok (op, rest)) :
    op.tag = tag ∧ input = encodeOperation op ++ rest ∧ op.Bounded := by
  unfold operation at h
  split at h
  · obtain ⟨d, mid, hd, h⟩ := run_bind_eq_ok h
    obtain ⟨rfl, rfl⟩ := run_pure_eq_ok h
    exact ⟨rfl, reflects_declaration hd, trivial⟩
  · obtain ⟨rfl, rfl⟩ := run_pure_eq_ok h
    exact ⟨rfl, rfl, trivial⟩
  · obtain ⟨rfl, rfl⟩ := run_pure_eq_ok h
    exact ⟨rfl, rfl, trivial⟩
  · obtain ⟨rfl, rfl⟩ := run_pure_eq_ok h
    exact ⟨rfl, rfl, trivial⟩
  · obtain ⟨rfl, rfl⟩ := run_pure_eq_ok h
    exact ⟨rfl, rfl, trivial⟩
  · obtain ⟨mtu, mid, hmtu, h⟩ := run_bind_eq_ok h
    obtain ⟨rfl, rfl⟩ := run_pure_eq_ok h
    obtain ⟨hinput, hlt⟩ := below_eq_ok hmtu
    have hnat : (UInt16.ofNat mtu).toNat = mtu := by
      rw [UInt16.toNat_ofNat']
      exact Nat.mod_eq_of_lt hlt
    refine ⟨rfl, ?_, trivial⟩
    rw [encodeOperation, hnat]
    exact hinput
  · obtain ⟨rfl, rfl⟩ := run_pure_eq_ok h
    exact ⟨rfl, rfl, trivial⟩
  · obtain ⟨d, mid, hd, h⟩ := run_bind_eq_ok h
    obtain ⟨rfl, rfl⟩ := run_pure_eq_ok h
    exact ⟨rfl, reflects_declaration hd, trivial⟩
  · obtain ⟨rfl, rfl⟩ := run_pure_eq_ok h
    exact ⟨rfl, rfl, trivial⟩
  · obtain ⟨now, mid, hnow, h⟩ := run_bind_eq_ok h
    obtain ⟨rfl, rfl⟩ := run_pure_eq_ok h
    obtain ⟨hinput, hlt⟩ := varint_eq_ok hnow
    have hnat : (UInt64.ofNat now).toNat = now := by
      rw [UInt64.toNat_ofNat']
      exact Nat.mod_eq_of_lt hlt
    refine ⟨rfl, ?_, trivial⟩
    rw [encodeOperation, hnat]
    exact hinput
  · obtain ⟨length, mid, hlength, h⟩ := run_bind_eq_ok h
    split at h
    · obtain ⟨_, _, hthrow, _⟩ := run_bind_eq_ok h
      exact absurd hthrow run_throw_ne_ok
    · rename_i hbound
      obtain ⟨prefixes, mid', hprefixes, h⟩ := run_bind_eq_ok h
      obtain ⟨rfl, rfl⟩ := run_pure_eq_ok h
      obtain ⟨hmid, hcount⟩ := repeated_eq_ok reflects_ipv4Prefix hprefixes
      refine ⟨rfl, ?_, ?_⟩
      · rw [(varint_eq_ok hlength).1, hmid, encodeOperation, hcount, List.append_assoc]
      · change prefixes.length ≤ maxRoutes
        omega
  · obtain ⟨d, mid, hd, h⟩ := run_bind_eq_ok h
    obtain ⟨rfl, rfl⟩ := run_pure_eq_ok h
    exact ⟨rfl, reflects_declaration hd, trivial⟩
  · exact absurd h run_throw_ne_ok

/-- `finish` succeeds at the end of the input only. -/
theorem finish_eq_ok (h : finish.run input = .ok ((), rest)) :
    input = [] ∧ rest = [] := by
  change finish input = _ at h
  cases input with
  | nil => exact ⟨rfl, by simpa [finish] using h.symm⟩
  | cons b input => exact absurd h (by simp [finish])

end Reader

namespace NetdRequest

/-- What the reader of a request has consumed is the frame of the request. -/
theorem read_eq_ok {b rest : Bytes} {r : NetdRequest} (h : read.run b = .ok (r, rest)) :
    b = r.frame ∧ r.operation.Bounded := by
  obtain ⟨version, mid₁, hversion, h⟩ := Reader.run_bind_eq_ok h
  split at h
  · obtain ⟨_, _, hthrow, _⟩ := Reader.run_bind_eq_ok h
    exact absurd hthrow Reader.run_throw_ne_ok
  · rename_i hsame
    obtain ⟨tag, mid₂, htag, h⟩ := Reader.run_bind_eq_ok h
    obtain ⟨requestId, mid₃, hid, h⟩ := Reader.run_bind_eq_ok h
    obtain ⟨owner, mid₄, howner, h⟩ := Reader.run_bind_eq_ok h
    obtain ⟨operation, mid₅, hoperation, h⟩ := Reader.run_bind_eq_ok h
    obtain ⟨_, mid₆, hfinish, h⟩ := Reader.run_bind_eq_ok h
    obtain ⟨rfl, rfl⟩ := Reader.run_pure_eq_ok h
    obtain ⟨hid, hlt⟩ := Reader.varint_eq_ok hid
    obtain ⟨htagged, hmid, hbounded⟩ := Reader.operation_eq_ok hoperation
    have hnat : (UInt64.ofNat requestId).toNat = requestId := by
      rw [UInt64.toNat_ofNat']
      exact Nat.mod_eq_of_lt hlt
    refine ⟨?_, hbounded⟩
    rw [(Reader.varint_eq_ok hversion).1, (Reader.varint_eq_ok htag).1, hid,
      Reader.reflects_owner howner, hmid, (Reader.finish_eq_ok hfinish).1, frame, htagged, hnat,
      List.append_nil, not_ne_iff.mp hsame]

/-- What `decode` has read and checked when it returns a request. -/
theorem decode_eq_ok {r : NetdRequest} (h : decode b = .ok r) :
    ensureFrame b = .ok () ∧ (∃ rest, read.run b = .ok (r, rest)) ∧ r.validate = .ok () := by
  unfold decode at h
  obtain ⟨⟨⟩, hframe, h⟩ := bind_eq_ok h
  obtain ⟨⟨value, rest⟩, hread, h⟩ := bind_eq_ok h
  obtain ⟨⟨⟩, hvalidate, h⟩ := bind_eq_ok h
  cases h
  exact ⟨hframe, ⟨rest, hread⟩, hvalidate⟩

/-- A request that passes its own checks and whose frame fits is encoded as that frame. -/
theorem encode_of_frame {r : NetdRequest} (hvalidate : r.validate = .ok ())
    (hbounded : r.operation.Bounded) (hframe : ensureFrame r.frame = .ok ()) :
    r.encode = .ok r.frame := by
  unfold encode
  rw [hvalidate]
  cases hop : r.operation with
  | withdrawPrefixes prefixes =>
    rw [hop] at hbounded
    have hlength : refuseIf (decide (maxRoutes < prefixes.length)) NetdProtocolError.invalidRequest
        = .ok () := by
      rw [refuseIf_eq_ok, decide_eq_false_iff_not]
      exact Nat.not_lt.mpr hbounded
    change (do
      refuseIf (decide (maxRoutes < prefixes.length)) NetdProtocolError.invalidRequest
      ensureFrame r.frame
      return r.frame) = _
    rw [hlength, hframe]
    rfl
  | _ =>
    change (do ensureFrame r.frame; return r.frame) = _
    rw [hframe]
    rfl

/-- A frame that `decode` accepted is what `encode` returns for the decoded request. -/
theorem encode_decode {r : NetdRequest} (h : decode b = .ok r) : r.encode = .ok b := by
  obtain ⟨hframe, ⟨rest, hread⟩, hvalidate⟩ := decode_eq_ok h
  obtain ⟨hb, hbounded⟩ := read_eq_ok hread
  rw [hb] at hframe ⊢
  exact encode_of_frame hvalidate hbounded hframe

end NetdRequest

/-! ## Responses -/

namespace Reader

theorem run_word (v : UInt64) (rest : Bytes) :
    word.run (encodeVarint v.toNat ++ rest) = .ok (v, rest) := by
  rw [word, run_bind_ok (run_varint v.toNat_lt rest), UInt64.ofNat_toNat]
  rfl

theorem ErrorCode.tryFrom_eq_ok {code : ErrorCode} (h : ErrorCode.tryFrom v = .ok code) :
    v = code.code := by
  unfold ErrorCode.tryFrom at h
  split at h <;> first | (cases h; rfl) | exact absurd h (by simp)

theorem SessionPhase.tryFrom_eq_ok {phase : SessionPhase} (h : SessionPhase.tryFrom v = .ok phase) :
    v = phase.code := by
  unfold SessionPhase.tryFrom at h
  split at h <;> first | (cases h; rfl) | exact absurd h (by simp)

/-- A body that is a generation alone. -/
theorem run_word_return (f : UInt64 → ResponseBody) (v : UInt64) (rest : Bytes) :
    (do return f (← word) : Reader ResponseBody).run (encodeVarint v.toNat ++ rest)
      = .ok (f v, rest) := by
  rw [run_bind_ok (run_word v rest)]
  rfl

theorem run_body (body : ResponseBody) (rest : Bytes) :
    (Reader.body body.tag).run (encodeBody body ++ rest) = .ok (body, rest) := by
  cases body with
  | prepared generation attached =>
    rw [ResponseBody.tag, Reader.body, encodeBody, List.append_assoc,
      run_bind_ok (run_word _ _), run_bind_ok (run_boolean _ _)]
    rfl
  | committed generation => exact run_word_return .committed generation rest
  | rolledBack generation => exact run_word_return .rolledBack generation rest
  | status phase generation =>
    have hphase : phase.code < 2 ^ 64 := by cases phase <;> norm_num [SessionPhase.code]
    rw [ResponseBody.tag, Reader.body, encodeBody, List.append_assoc,
      run_bind_ok (run_varint hphase _), run_lift_ok (a := phase) (by cases phase <;> rfl),
      run_bind_ok (run_word _ _)]
    rfl
  | leaseRenewed generation => exact run_word_return .leaseRenewed generation rest
  | mtuUpdated generation mtu =>
    rw [ResponseBody.tag, Reader.body, encodeBody, List.append_assoc,
      run_bind_ok (run_word _ _), run_bind_ok (run_below mtu.toNat_lt (by norm_num) _),
      UInt16.ofNat_toNat]
    rfl
  | suspended generation => exact run_word_return .suspended generation rest
  | reconfigured generation => exact run_word_return .reconfigured generation rest
  | resumed generation => exact run_word_return .resumed generation rest
  | drained generation => exact run_word_return .drained generation rest
  | prefixesWithdrawn generation count =>
    rw [ResponseBody.tag, Reader.body, encodeBody, List.append_assoc,
      run_bind_ok (run_word _ _), run_bind_ok (run_word _ _)]
    rfl
  | policyUpdated generation => exact run_word_return .policyUpdated generation rest
  | error code =>
    have hcode : code.code < 2 ^ 64 := by cases code <;> norm_num [ErrorCode.code]
    rw [ResponseBody.tag, Reader.body, encodeBody, run_bind_ok (run_varint hcode _),
      run_lift_ok (a := code) (by cases code <;> rfl)]
    rfl

/-- A body that is a generation alone was read from it. -/
theorem word_return_eq_ok {f : UInt64 → ResponseBody} {body : ResponseBody}
    (h : (do return f (← word) : Reader ResponseBody).run input = .ok (body, rest)) :
    ∃ v, body = f v ∧ input = encodeVarint v.toNat ++ rest := by
  obtain ⟨v, mid, hv, h⟩ := run_bind_eq_ok h
  obtain ⟨rfl, rfl⟩ := run_pure_eq_ok h
  exact ⟨v, rfl, reflects_word hv⟩

theorem body_eq_ok {tag : ℕ} {body : ResponseBody}
    (h : (Reader.body tag).run input = .ok (body, rest)) :
    body.tag = tag ∧ input = encodeBody body ++ rest := by
  unfold Reader.body at h
  split at h
  · obtain ⟨generation, mid, hgeneration, h⟩ := run_bind_eq_ok h
    obtain ⟨attached, mid', hattached, h⟩ := run_bind_eq_ok h
    obtain ⟨rfl, rfl⟩ := run_pure_eq_ok h
    refine ⟨rfl, ?_⟩
    rw [reflects_word hgeneration, reflects_boolean hattached, encodeBody, List.append_assoc]
  · obtain ⟨v, rfl, rfl⟩ := word_return_eq_ok h
    exact ⟨rfl, rfl⟩
  · obtain ⟨v, rfl, rfl⟩ := word_return_eq_ok h
    exact ⟨rfl, rfl⟩
  · obtain ⟨v, mid, hv, h⟩ := run_bind_eq_ok h
    obtain ⟨phase, mid', hlift, h⟩ := run_bind_eq_ok h
    obtain ⟨hphase, rfl⟩ := run_lift_eq_ok hlift
    obtain ⟨generation, mid'', hgeneration, h⟩ := run_bind_eq_ok h
    obtain ⟨rfl, rfl⟩ := run_pure_eq_ok h
    refine ⟨rfl, ?_⟩
    rw [(varint_eq_ok hv).1, SessionPhase.tryFrom_eq_ok hphase, reflects_word hgeneration,
      encodeBody, List.append_assoc]
  · obtain ⟨v, rfl, rfl⟩ := word_return_eq_ok h
    exact ⟨rfl, rfl⟩
  · obtain ⟨v, mid, hv, h⟩ := run_bind_eq_ok h
    obtain ⟨code, mid', hlift, h⟩ := run_bind_eq_ok h
    obtain ⟨hcode, rfl⟩ := run_lift_eq_ok hlift
    obtain ⟨rfl, rfl⟩ := run_pure_eq_ok h
    refine ⟨rfl, ?_⟩
    rw [(varint_eq_ok hv).1, ErrorCode.tryFrom_eq_ok hcode, encodeBody]
  · obtain ⟨generation, mid, hgeneration, h⟩ := run_bind_eq_ok h
    obtain ⟨mtu, mid', hmtu, h⟩ := run_bind_eq_ok h
    obtain ⟨rfl, rfl⟩ := run_pure_eq_ok h
    obtain ⟨hmid, hlt⟩ := below_eq_ok hmtu
    have hnat : (UInt16.ofNat mtu).toNat = mtu := by
      rw [UInt16.toNat_ofNat']
      exact Nat.mod_eq_of_lt hlt
    refine ⟨rfl, ?_⟩
    rw [reflects_word hgeneration, hmid, encodeBody, hnat, List.append_assoc]
  · obtain ⟨v, rfl, rfl⟩ := word_return_eq_ok h
    exact ⟨rfl, rfl⟩
  · obtain ⟨v, rfl, rfl⟩ := word_return_eq_ok h
    exact ⟨rfl, rfl⟩
  · obtain ⟨v, rfl, rfl⟩ := word_return_eq_ok h
    exact ⟨rfl, rfl⟩
  · obtain ⟨v, rfl, rfl⟩ := word_return_eq_ok h
    exact ⟨rfl, rfl⟩
  · obtain ⟨generation, mid, hgeneration, h⟩ := run_bind_eq_ok h
    obtain ⟨count, mid', hcount, h⟩ := run_bind_eq_ok h
    obtain ⟨rfl, rfl⟩ := run_pure_eq_ok h
    refine ⟨rfl, ?_⟩
    rw [reflects_word hgeneration, reflects_word hcount, encodeBody, List.append_assoc]
  · obtain ⟨v, rfl, rfl⟩ := word_return_eq_ok h
    exact ⟨rfl, rfl⟩
  · exact absurd h run_throw_ne_ok

end Reader

namespace NetdResponse

/-- What `encode` has checked when it returns a frame. -/
theorem encode_eq_ok (h : r.encode = .ok b) :
    ensureFrame r.frame = .ok () ∧ b = r.frame := by
  unfold encode at h
  obtain ⟨⟨⟩, _, h⟩ := bind_eq_ok h
  obtain ⟨⟨⟩, _, h⟩ := bind_eq_ok h
  obtain ⟨⟨⟩, hframe, h⟩ := bind_eq_ok h
  cases h
  exact ⟨hframe, rfl⟩

theorem run_read (r : NetdResponse) : read.run r.frame = .ok (r, []) := by
  have htag : r.body.tag < 2 ^ 64 := by cases r.body <;> norm_num [ResponseBody.tag]
  have hbody := Reader.run_body r.body []
  rw [List.append_nil] at hbody
  rw [read, frame, Reader.run_bind_ok (Reader.run_varint (by norm_num [netdProtocolVersion]) _),
    if_neg (by simp)]
  change (Reader.varint >>= _).run _ = _
  rw [Reader.run_bind_ok (Reader.run_varint htag _), Reader.run_bind_ok (Reader.run_word _ _),
    Reader.run_bind_ok hbody]
  rfl

theorem decode_encode (h : r.encode = .ok b) : decode b = .ok r := by
  obtain ⟨hframe, rfl⟩ := encode_eq_ok h
  rw [decode, hframe]
  change (read.run r.frame >>= _) = _
  rw [run_read r]
  change (r.encode >>= _) = _
  rw [h]
  rfl

theorem read_eq_ok {b rest : Bytes} (h : read.run b = .ok (r, rest)) :
    b = r.frame := by
  obtain ⟨version, mid₁, hversion, h⟩ := Reader.run_bind_eq_ok h
  split at h
  · obtain ⟨_, _, hthrow, _⟩ := Reader.run_bind_eq_ok h
    exact absurd hthrow Reader.run_throw_ne_ok
  · rename_i hsame
    obtain ⟨tag, mid₂, htag, h⟩ := Reader.run_bind_eq_ok h
    obtain ⟨requestId, mid₃, hid, h⟩ := Reader.run_bind_eq_ok h
    obtain ⟨body, mid₄, hbody, h⟩ := Reader.run_bind_eq_ok h
    obtain ⟨_, mid₅, hfinish, h⟩ := Reader.run_bind_eq_ok h
    obtain ⟨rfl, rfl⟩ := Reader.run_pure_eq_ok h
    obtain ⟨htagged, hmid⟩ := Reader.body_eq_ok hbody
    rw [(Reader.varint_eq_ok hversion).1, (Reader.varint_eq_ok htag).1,
      Reader.reflects_word hid, hmid, (Reader.finish_eq_ok hfinish).1, frame, htagged,
      List.append_nil, not_ne_iff.mp hsame]

theorem encode_decode (h : decode b = .ok r) : r.encode = .ok b := by
  unfold decode at h
  obtain ⟨⟨⟩, _, h⟩ := bind_eq_ok h
  obtain ⟨⟨value, rest⟩, hread, h⟩ := bind_eq_ok h
  obtain ⟨b', hencode, h⟩ := bind_eq_ok h
  cases h
  rw [hencode, (encode_eq_ok hencode).2, read_eq_ok hread]

end NetdResponse

/-- The wire formats are bijections between what can be encoded and the frames that are
accepted: for requests whose prefixes were built by `Ipv4Prefix::new`, and for all responses. -/
theorem encode_eq_ok_iff_decode_eq_ok :
    (∀ (r : NetdRequest) (b : Bytes), r.operation.Canonical → r.encode = .ok b →
        NetdRequest.decode b = .ok r)
      ∧ (∀ (r : NetdRequest) (b : Bytes), NetdRequest.decode b = .ok r → r.encode = .ok b)
      ∧ ∀ (r : NetdResponse) (b : Bytes), r.encode = .ok b ↔ NetdResponse.decode b = .ok r :=
  ⟨fun _ _ hc h => NetdRequest.decode_encode hc h, fun _ _ h => NetdRequest.encode_decode h,
    fun _ _ => ⟨NetdResponse.decode_encode, NetdResponse.encode_decode⟩⟩

namespace Sample

/-- The commit of the generation 300. -/
def commitRequest : NetdRequest where
  requestId := 1
  owner := { instanceId := Vector.replicate 16 1, pid := 7, generation := 300,
             leaseDeadlineMonoMs := 9 }
  operation := .commit

/-- Its frame: the generation takes two bytes. -/
def commitFrame : Bytes := [1, 2, 1] ++ List.replicate 16 1 ++ [7, 0xac, 2, 9]

end Sample

open Sample in
theorem decode_commitFrame : commitRequest.encode = .ok commitFrame
    ∧ NetdRequest.decode commitFrame = .ok commitRequest := by
  have hframe : commitRequest.frame = commitFrame := by
    have h300 : encodeVarint 300 = [0xac, 2] := by
      rw [encodeVarint, if_neg (by norm_num), encodeVarint_of_lt (by norm_num)]
      rfl
    simp only [NetdRequest.frame, commitRequest, encodeOwner, encodeOperation, netdProtocolVersion,
      NetdOperation.tag]
    rw [encodeVarint_of_lt (by norm_num), encodeVarint_of_lt (by norm_num),
      encodeVarint_of_lt (by decide), encodeVarint_of_lt (by decide)]
    rw [show (300 : UInt64).toNat = 300 from rfl, h300, encodeVarint_of_lt (by decide)]
    rfl
  have hencode : commitRequest.encode = .ok commitFrame := by
    rw [← hframe]
    refine NetdRequest.encode_of_frame (by decide) trivial ?_
    rw [hframe]
    rfl
  exact ⟨hencode, encode_eq_ok_iff_decode_eq_ok.1 _ _ trivial hencode⟩

end CandyRuntime.NetdProto
