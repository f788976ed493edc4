import CandyRuntime.NetdProto.Codec

/-!
# Reading back what `NetdRequest::encode` wrote

One lemma per reader: run in front of the bytes its writer emits, it returns the written
value and leaves what follows. `NetdRequest.decode_encode` assembles them. The only
assumption on a request is that its prefixes were built by `Ipv4Prefix::new`, which is what
the reader of a prefix calls.
-/

namespace CandyRuntime.NetdProto

open Lib

variable {r : NetdRequest} {d : PrepareDeclaration} {b : Bytes}

namespace Reader

/-- A reader that succeeds hands its value and the unread input to the next one. -/
theorem run_bind_ok {α β : Type} {m : Reader α} {f : α → Reader β} {input rest : Bytes} {a : α}
    (h : m.run input = .ok (a, rest)) : (m >>= f).run input = (f a).run rest := by
  rw [StateT.run_bind, h]
  rfl

theorem run_lift_ok {α β : Type} {e : Except NetdProtocolError α} {f : α → Reader β}
    {input : Bytes} {a : α} (h : e = .ok a) :
    ((liftM e : Reader α) >>= f).run input = (f a).run input := by
  subst h
  rfl

theorem run_varint {v : ℕ} (hv : v < 2 ^ 64) (rest : Bytes) :
    varint.run (encodeVarint v ++ rest) = .ok (v, rest) := by
  change varint (encodeVarint v ++ rest) = _
  rw [varint, decodeVarint_encodeVarint hv]

theorem run_fixed {n : ℕ} (v : Vector UInt8 n) (rest : Bytes) :
    (fixed n).run (v.toList ++ rest) = .ok (v, rest) := by
  have hlen : n ≤ (v.toList ++ rest).length := by simp
  change fixed n (v.toList ++ rest) = _
  rw [fixed, dif_pos hlen]
  congr 2
  · apply Vector.toList_inj.mp
    simp [Vector.toList]
  · simp

theorem run_address (a : UInt32) (rest : Bytes) :
    address.run (toBE 4 a.toNat ++ rest) = .ok (a, rest) := by
  have ha : a.toNat < 256 ^ 4 := a.toNat_lt
  have hv := run_fixed (⟨(toBE 4 a.toNat).toArray, by simp⟩ : Vector UInt8 4) rest
  simp only [Vector.toList] at hv
  rw [address, run_bind_ok hv]
  simp [Vector.toList, fromBE_toBE ha]
  rfl

theorem run_below {v bound : ℕ} {e : NetdProtocolError} (hv : v < bound) (hb : bound ≤ 2 ^ 64)
    (rest : Bytes) : (below bound e).run (encodeVarint v ++ rest) = .ok (v, rest) := by
  rw [below, run_bind_ok (run_varint (by omega) rest), if_pos hv]
  rfl

theorem run_count {v min max : ℕ} (hmin : min ≤ v) (hmax : v ≤ max) (hb : max < 2 ^ 64)
    (rest : Bytes) : (count min max).run (encodeVarint v ++ rest) = .ok (v, rest) := by
  rw [count, run_bind_ok (run_varint (by omega) rest), if_pos ⟨hmin, hmax⟩]
  rfl

theorem run_boolean (flag : Bool) (rest : Bytes) :
    boolean.run (encodeFlag flag ++ rest) = .ok (flag, rest) := by
  rw [boolean, encodeFlag, run_bind_ok (run_varint (by cases flag <;> norm_num) rest)]
  cases flag <;> rfl

theorem run_ipv4Prefix {p : Ipv4Prefix} (hp : p.Canonical) (rest : Bytes) :
    ipv4Prefix.run (encodePrefix p ++ rest) = .ok (p, rest) := by
  have hlen : p.prefixLen.toNat < 256 := p.prefixLen.toNat_lt
  rw [ipv4Prefix, encodePrefix, List.append_assoc, run_bind_ok (run_address _ _),
    run_bind_ok (run_below hlen (by norm_num) rest), UInt8.ofNat_toNat]
  rw [Ipv4Prefix.Canonical] at hp
  rw [hp]
  rfl

/-- A list is read back when each of its entries is. -/
theorem run_repeated {α : Type} {read : Reader α} {write : α → Bytes} (values : List α)
    (h : ∀ a ∈ values, ∀ rest, read.run (write a ++ rest) = .ok (a, rest)) (rest : Bytes) :
    (repeated read values.length).run (values.flatMap write ++ rest) = .ok (values, rest) := by
  induction values with
  | nil => rfl
  | cons a values ih =>
    have htail := ih fun b hb => h b (List.mem_cons_of_mem a hb)
    rw [List.length_cons, repeated, List.flatMap_cons, List.append_assoc,
      run_bind_ok (h a List.mem_cons_self _), run_bind_ok htail]
    rfl

theorem run_route {r : RouteDeclaration} (hr : r.ipv4Prefix.Canonical) (rest : Bytes) :
    route.run (encodeRoute r ++ rest) = .ok (r, rest) := by
  have hkind : r.kind.code < 2 ^ 64 := by cases r.kind <;> norm_num [RouteKind.code]
  rw [route, encodeRoute, List.append_assoc, run_bind_ok (run_ipv4Prefix hr _),
    run_bind_ok (run_varint hkind rest), run_lift_ok (a := r.kind) (by cases r.kind <;> rfl)]
  rfl

theorem run_exclusion {e : UnderlayExclusion} (he : e.ipv4Prefix.Canonical) (rest : Bytes) :
    exclusion.run (encodeExclusion e ++ rest) = .ok (e, rest) := by
  have hkind : e.kind.code < 2 ^ 64 := by cases e.kind <;> norm_num [UnderlayKind.code]
  rw [exclusion, encodeExclusion, List.append_assoc, run_bind_ok (run_ipv4Prefix he _),
    run_bind_ok (run_varint hkind rest), run_lift_ok (a := e.kind) (by cases e.kind <;> rfl)]
  rfl

theorem run_firewall (f : FirewallPolicy) (rest : Bytes) :
    firewall.run (encodeFirewall f ++ rest) = .ok (f, rest) := by
  rw [firewall, encodeFirewall, List.append_assoc, List.append_assoc, List.append_assoc,
    run_bind_ok (run_boolean _ _), run_bind_ok (run_boolean _ _), run_bind_ok (run_boolean _ _),
    run_bind_ok (run_boolean _ _)]
  rfl

/-- What validation promises about the lengths of a declaration's lists. -/
theorem lengths_of_validate (h : d.validate = .ok ()) :
    (1 ≤ d.routes.length ∧ d.routes.length ≤ maxRoutes)
      ∧ 1 ≤ d.exclusions.length ∧ d.exclusions.length ≤ maxExclusions := by
  unfold PrepareDeclaration.validate at h
  rcases hc : refuseIf _ NetdProtocolError.invalidDeclaration with e | u
  · rw [hc] at h
    exact absurd h (by simp [bind, Except.bind])
  · rw [refuseIf_eq_ok] at hc
    simp only [Bool.or_eq_false_iff, decide_eq_false_iff_not, List.isEmpty_eq_false_iff] at hc
    have hroutes := List.length_pos_iff.mpr hc.1.1.1.2
    have hexclusions := List.length_pos_iff.mpr hc.1.2
    omega

theorem run_declaration (hd : d.validate = .ok ()) (hc : d.Canonical) (rest : Bytes) :
    declaration.run (encodeDeclaration d ++ rest) = .ok (d, rest) := by
  have htable : d.tableId.toNat < 2 ^ 32 := d.tableId.toNat_lt
  have hmtu : d.effectiveMtu.toNat < 2 ^ 16 := d.effectiveMtu.toNat_lt
  obtain ⟨⟨hr1, hr2⟩, he1, he2⟩ := lengths_of_validate hd
  have hroutes := fun r hr => run_route (hc.1 r hr)
  have hexclusions := fun e he => run_exclusion (hc.2 e he)
  rw [declaration, encodeDeclaration]
  simp only [List.append_assoc]
  rw [run_bind_ok (run_below htable (by norm_num) _), run_bind_ok (run_address _ _),
    run_bind_ok (run_below hmtu (by norm_num) _),
    run_bind_ok (run_count hr1 hr2 (by norm_num [maxRoutes]) _),
    run_bind_ok (run_repeated d.routes hroutes _),
    run_bind_ok (run_count he1 he2 (by norm_num [maxExclusions]) _),
    run_bind_ok (run_repeated d.exclusions hexclusions _), run_bind_ok (run_firewall _ _)]
  simp only [UInt32.ofNat_toNat, UInt16.ofNat_toNat]
  rw [run_lift_ok hd]
  rfl

theorem run_owner (o : LeaseOwner) (rest : Bytes) :
    owner.run (encodeOwner o ++ rest) = .ok (o, rest) := by
  have hpid : o.pid.toNat < 2 ^ 32 := o.pid.toNat_lt
  rw [owner, encodeOwner]
  simp only [List.append_assoc]
  rw [run_bind_ok (run_fixed _ _), run_bind_ok (run_below hpid (by norm_num) _),
    run_bind_ok (run_varint o.generation.toNat_lt _),
    run_bind_ok (run_varint o.leaseDeadlineMonoMs.toNat_lt _)]
  simp only [UInt32.ofNat_toNat, UInt64.ofNat_toNat]
  rfl

end Reader

/-- Every prefix the operation carries was built by `Ipv4Prefix::new`. -/
def NetdOperation.Canonical : NetdOperation → Prop
  | .prepare d | .reconfigure d | .policyUpdate d => d.Canonical
  | .withdrawPrefixes prefixes => ∀ p ∈ prefixes, p.Canonical
  | _ => True

/-- The list bound `NetdRequest::encode` checks. -/
def NetdOperation.Bounded : NetdOperation → Prop
  | .withdrawPrefixes prefixes => prefixes.length ≤ maxRoutes
  | _ => True

namespace Reader

theorem run_operation {op : NetdOperation} (hv : op.validate = .ok ()) (hc : op.Canonical)
    (hb : op.Bounded) (rest : Bytes) :
    (operation op.tag).run (encodeOperation op ++ rest) = .ok (op, rest) := by
  cases op with
  | prepare d =>
    change (declaration >>= fun d => (return .prepare d : Reader NetdOperation)).run _ = _
    rw [encodeOperation, run_bind_ok (run_declaration hv hc rest)]
    rfl
  | reconfigure d =>
    change (declaration >>= fun d => (return .reconfigure d : Reader NetdOperation)).run _ = _
    rw [encodeOperation, run_bind_ok (run_declaration hv hc rest)]
    rfl
  | policyUpdate d =>
    change (declaration >>= fun d => (return .policyUpdate d : Reader NetdOperation)).run _ = _
    rw [encodeOperation, run_bind_ok (run_declaration hv hc rest)]
    rfl
  | mtuUpdate mtu =>
    change (below (2 ^ 16) _ >>= fun v =>
      (return .mtuUpdate (UInt16.ofNat v) : Reader NetdOperation)).run _ = _
    rw [encodeOperation, run_bind_ok (run_below mtu.toNat_lt (by norm_num) rest),
      UInt16.ofNat_toNat]
    rfl
  | drain now =>
    change (varint >>= fun v => (return .drain (UInt64.ofNat v) : Reader NetdOperation)).run _ = _
    rw [encodeOperation, run_bind_ok (run_varint now.toNat_lt rest), UInt64.ofNat_toNat]
    rfl
  | withdrawPrefixes prefixes =>
    have hlen : prefixes.length ≤ maxRoutes := hb
    have hread := run_repeated prefixes (fun p hp => run_ipv4Prefix (hc p hp)) rest
    have hcount : prefixes.length < 2 ^ 64 := by unfold maxRoutes at hlen; omega
    rw [NetdOperation.tag, operation, encodeOperation, List.append_assoc,
      run_bind_ok (run_varint hcount _), if_neg (by omega)]
    change (repeated ipv4Prefix prefixes.length >>= fun ps =>
      (return .withdrawPrefixes ps : Reader NetdOperation)).run _ = _
    rw [run_bind_ok hread]
    rfl
  | commit => rfl
  | rollback => rfl
  | status => rfl
  | leaseRenew => rfl
  | suspend => rfl
  | resume => rfl

end Reader

namespace NetdRequest

/-- The parts of a request that passes validation. -/
theorem operation_validate (h : r.validate = .ok ()) :
    r.owner.validate = .ok () ∧ r.operation.validate = .ok () := by
  unfold validate at h
  cases hid : refuseIf (r.requestId == 0) NetdProtocolError.invalidRequest with
  | error e => simp [hid, bind, Except.bind] at h
  | ok u =>
    cases ho : r.owner.validate with
    | error e => simp [hid, ho, bind, Except.bind] at h
    | ok u' => exact ⟨rfl, by simpa [hid, ho, bind, Except.bind] using h⟩

/-- What `encode` has checked when it returns a frame. -/
theorem encode_eq_ok (h : r.encode = .ok b) :
    r.validate = .ok () ∧ r.operation.Bounded ∧ ensureFrame r.frame = .ok () ∧ b = r.frame := by
  unfold encode at h
  rcases hv : r.validate with e | u
  · simp [hv, bind, Except.bind] at h
  · rcases hf : ensureFrame r.frame with e | u'
    · cases hop : r.operation <;> simp [hv, hf, hop, bind, Except.bind, refuseIf] at h
      split at h <;> simp at h
    · refine ⟨rfl, ?_, rfl, ?_⟩
      · cases hop : r.operation <;> simp only [NetdOperation.Bounded]
        by_contra hlen
        simp [hv, hop, bind, Except.bind, refuseIf, Nat.lt_of_not_le hlen] at h
      · cases hop : r.operation <;>
          simp [hv, hf, hop, bind, Except.bind, refuseIf, pure, Except.pure] at h
        all_goals first | exact h.symm | (split at h <;> simp_all)

/-- Ten bytes are enough for a 64-bit varint. -/
theorem length_encodeVarint_le_ten {v : ℕ} (h : v < 2 ^ 64) : (encodeVarint v).length ≤ 10 :=
  length_encodeVarint_le (by omega)

theorem length_flatMap_le {α : Type} {f : α → Bytes} {bound : ℕ} (values : List α)
    (h : ∀ a ∈ values, (f a).length ≤ bound) :
    (values.flatMap f).length ≤ values.length * bound := by
  induction values with
  | nil => simp
  | cons a values ih =>
    have ha := h a List.mem_cons_self
    have hrest := ih fun b hb => h b (List.mem_cons_of_mem a hb)
    rw [List.flatMap_cons, List.length_append, List.length_cons, Nat.add_mul, Nat.one_mul]
    omega

/-- An entry of a route or exclusion list: a prefix and a kind. -/
theorem length_entry_le (p : Ipv4Prefix) {kind : ℕ} (h : kind < 2 ^ 64) :
    (encodePrefix p ++ encodeVarint kind).length ≤ 24 := by
  have hlen := length_encodeVarint_le_ten (Nat.lt_trans p.prefixLen.toNat_lt (by norm_num))
  have hkind := length_encodeVarint_le_ten h
  simp only [encodePrefix, List.length_append, length_toBE]
  omega

/-- A valid declaration fits into a frame, with room for the rest of the request. -/
theorem length_encodeDeclaration_le (h : d.validate = .ok ()) :
    (encodeDeclaration d).length ≤ 1600000 := by
  obtain ⟨⟨-, hroutes⟩, -, hexclusions⟩ := Reader.lengths_of_validate h
  unfold maxRoutes at hroutes
  unfold maxExclusions at hexclusions
  have htable := length_encodeVarint_le_ten (Nat.lt_trans d.tableId.toNat_lt (by norm_num))
  have hmtu := length_encodeVarint_le_ten (Nat.lt_trans d.effectiveMtu.toNat_lt (by norm_num))
  have hcount : (encodeVarint d.routes.length).length ≤ 10 :=
    length_encodeVarint_le_ten (by omega)
  have hcount' : (encodeVarint d.exclusions.length).length ≤ 10 :=
    length_encodeVarint_le_ten (by omega)
  have hrouteList : (d.routes.flatMap encodeRoute).length ≤ d.routes.length * 24 :=
    length_flatMap_le d.routes fun r _ =>
      length_entry_le _ (by cases r.kind <;> norm_num [RouteKind.code])
  have hexclusionList : (d.exclusions.flatMap encodeExclusion).length ≤ d.exclusions.length * 24 :=
    length_flatMap_le d.exclusions fun e _ =>
      length_entry_le _ (by cases e.kind <;> norm_num [UnderlayKind.code])
  have hflag : ∀ flag, (encodeFlag flag).length = 1 := by
    intro flag
    rw [encodeFlag, encodeVarint_of_lt (by cases flag <;> norm_num)]
    rfl
  simp only [encodeDeclaration, encodeFirewall, List.length_append, length_toBE, hflag]
  omega

theorem length_encodeOwner_le (o : LeaseOwner) : (encodeOwner o).length ≤ 46 := by
  have hpid := length_encodeVarint_le_ten (Nat.lt_trans o.pid.toNat_lt (by norm_num))
  have hgeneration := length_encodeVarint_le_ten o.generation.toNat_lt
  have hdeadline := length_encodeVarint_le_ten o.leaseDeadlineMonoMs.toNat_lt
  simp only [encodeOwner, List.length_append, Vector.length_toList]
  omega

/-- A valid request is encoded, unless its operation alone nearly fills a frame. -/
theorem encode_of_length (hv : r.validate = .ok ()) (hb : r.operation.Bounded)
    (hlength : (encodeOperation r.operation).length ≤ 1600000) :
    r.encode = .ok r.frame ∧ r.frame.length ≤ maxNetdFrameLen := by
  have howner := length_encodeOwner_le r.owner
  have hid := length_encodeVarint_le_ten r.requestId.toNat_lt
  have hversion : (encodeVarint netdProtocolVersion).length ≤ 10 :=
    length_encodeVarint_le_ten (by norm_num [netdProtocolVersion])
  have htag : (encodeVarint r.operation.tag).length ≤ 10 :=
    length_encodeVarint_le_ten (by cases r.operation <;> norm_num [NetdOperation.tag])
  have hlength : r.frame.length ≤ maxNetdFrameLen := by
    unfold maxNetdFrameLen
    simp only [frame, List.length_append]
    omega
  have hpos : r.frame ≠ [] := by
    have := length_encodeVarint_pos netdProtocolVersion
    rw [← List.length_pos_iff, frame, List.length_append]
    omega
  have hframe : ensureFrame r.frame = .ok () := by
    rw [ensureFrame, refuseIf_eq_ok]
    simp only [Bool.or_eq_false_iff, List.isEmpty_eq_false_iff, decide_eq_false_iff_not]
    exact ⟨hpos, by omega⟩
  have hrest : (do ensureFrame r.frame; return r.frame) = .ok r.frame := by
    rw [hframe]
    rfl
  refine ⟨?_, hlength⟩
  unfold encode
  rw [hv]
  cases hop : r.operation with
  | withdrawPrefixes prefixes =>
    -- only here `encode` checks a length of its own
    rw [hop] at hb
    have hmax : (refuseIf (decide (maxRoutes < prefixes.length)) NetdProtocolError.invalidRequest
        : Except NetdProtocolError Unit) = .ok () := by
      rw [refuseIf_eq_ok, decide_eq_false_iff_not]
      exact Nat.not_lt.mpr hb
    have hrest' : (do
        refuseIf (decide (maxRoutes < prefixes.length)) NetdProtocolError.invalidRequest
        ensureFrame r.frame
        return r.frame) = .ok r.frame := by
      rw [hmax]
      exact hrest
    exact hrest'
  | prepare d => exact hrest
  | commit => exact hrest
  | rollback => exact hrest
  | status => exact hrest
  | leaseRenew => exact hrest
  | mtuUpdate mtu => exact hrest
  | suspend => exact hrest
  | reconfigure d => exact hrest
  | resume => exact hrest
  | drain now => exact hrest
  | policyUpdate d => exact hrest

/-- The operation carries this declaration. -/
def Declares (operation : NetdOperation) (d : PrepareDeclaration) : Prop :=
  operation = .prepare d ∨ operation = .reconfigure d ∨ operation = .policyUpdate d

/-- A valid request with a declaration is never too long to be encoded. -/
theorem encode_of_validate (hop : Declares r.operation d) (hv : r.validate = .ok ()) :
    r.encode = .ok r.frame := by
  have hoperation := (operation_validate hv).2
  have hd : d.validate = .ok () := by
    rcases hop with hop | hop | hop
    · simpa [hop, NetdOperation.validate] using hoperation
    · simpa [hop, NetdOperation.validate] using hoperation
    · simpa [hop, NetdOperation.validate] using hoperation
  have hdeclaration := length_encodeDeclaration_le hd
  rcases hop with hop | hop | hop
  · exact (encode_of_length hv (by rw [hop]; trivial) (by rw [hop]; exact hdeclaration)).1
  · exact (encode_of_length hv (by rw [hop]; trivial) (by rw [hop]; exact hdeclaration)).1
  · exact (encode_of_length hv (by rw [hop]; trivial) (by rw [hop]; exact hdeclaration)).1

/-- What `decode` has checked when it returns a request. -/
theorem validate_of_decode (h : decode b = .ok r) :
    r.validate = .ok () := by
  unfold decode at h
  cases hf : ensureFrame b with
  | error e => simp [hf, bind, Except.bind] at h
  | ok u =>
    rcases hread : NetdRequest.read.run b with e | ⟨value, rest⟩
    · simp [hf, hread, bind, Except.bind] at h
    · cases hv : value.validate with
      | error e => simp [hf, hread, hv, bind, Except.bind] at h
      | ok u' =>
        obtain rfl : value = r := by
          simpa [hf, hread, hv, bind, Except.bind, pure, Except.pure] using h
        exact hv

theorem run_read (hv : r.validate = .ok ()) (hc : r.operation.Canonical)
    (hb : r.operation.Bounded) : read.run r.frame = .ok (r, []) := by
  have htag : r.operation.tag < 2 ^ 64 := by cases r.operation <;> norm_num [NetdOperation.tag]
  have hop := Reader.run_operation (operation_validate hv).2 hc hb []
  rw [List.append_nil] at hop
  rw [read, frame, Reader.run_bind_ok (Reader.run_varint (by norm_num [netdProtocolVersion]) _),
    if_neg (by simp)]
  change (Reader.varint >>= _).run _ = _
  rw [Reader.run_bind_ok (Reader.run_varint htag _),
    Reader.run_bind_ok (Reader.run_varint r.requestId.toNat_lt _),
    Reader.run_bind_ok (Reader.run_owner _ _), Reader.run_bind_ok hop, UInt64.ofNat_toNat]
  rfl

/-- **Round trip.** A frame that `encode` returned is decoded to the encoded request. -/
theorem decode_encode (hc : r.operation.Canonical) (h : r.encode = .ok b) : decode b = .ok r := by
  obtain ⟨hv, hb, hf, rfl⟩ := encode_eq_ok h
  rw [decode, hf]
  change (read.run r.frame >>= _) = _
  rw [run_read hv hc hb]
  change (r.validate >>= _) = _
  rw [hv]
  rfl

end NetdRequest

end CandyRuntime.NetdProto
