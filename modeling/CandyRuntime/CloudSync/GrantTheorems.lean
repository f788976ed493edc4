import CandyRuntime.CloudSync.Grant
import CandyRuntime.Lib.Success

/-!
# The grant store over whole runs

A state that has reached the disk passes the checks of `load_state` again. The states of one
subject follow one another by `Turn`: the completed sequence grows, or it stays with the same
active grant, until a denial ends the subject for good. From these two facts come the results on
request ids, on what is re-sent and on what a revoked subject can still return.
-/

namespace CandyRuntime.CloudSync

open Lib Lib.Proc NetdProto NetdV2

variable {sha256 : Bytes → String}
variable {response : GrantIssueResponse} {pending : PendingIssuance} {state : GrantState}
  {id : String}

/-! ## Digests -/

theorem isLowerHex_toNat {c : Char} (h : isLowerHex c = true) : c.toNat < 256 := by
  unfold isLowerHex at h
  simp only [Bool.or_eq_true, Bool.and_eq_true, decide_eq_true_eq] at h
  rcases h with ⟨_, hle⟩ | ⟨_, hle⟩
  · have hnat : c.toNat ≤ '9'.toNat := hle
    exact lt_of_le_of_lt hnat (by decide)
  · have hnat : c.toNat ≤ 'f'.toNat := hle
    exact lt_of_le_of_lt hnat (by decide)

/-- Hexadecimal texts with the same bytes are the same. -/
theorem asciiBytes_injective {a b : String} {m n : ℕ} (ha : isHex a m = true)
    (hb : isHex b n = true) (h : asciiBytes a = asciiBytes b) : a = b := by
  simp only [isHex, Bool.and_eq_true, List.all_eq_true] at ha hb
  apply String.toList_inj.mp
  unfold asciiBytes at h
  replace ha := ha.2
  replace hb := hb.2
  generalize a.toList = as at *
  generalize b.toList = bs at *
  induction as generalizing bs with
  | nil => simpa using h.symm
  | cons x as ih =>
    cases bs with
    | nil => cases h
    | cons y bs =>
      simp only [List.map_cons, List.cons.injEq] at h
      have hx := isLowerHex_toNat (ha x List.mem_cons_self)
      have hy := isLowerHex_toNat (hb y List.mem_cons_self)
      have hnat := congrArg UInt8.toNat h.1
      rw [UInt8.toNat_ofNat', UInt8.toNat_ofNat', Nat.mod_eq_of_lt hx, Nat.mod_eq_of_lt hy] at hnat
      have hsame : x = y := Char.toNat_inj.mp hnat
      rw [hsame, ih (fun c hc => ha c (List.mem_cons_of_mem _ hc)) bs
        (fun c hc => hb c (List.mem_cons_of_mem _ hc)) h.2]

theorem length_asciiBytes (a : String) : (asciiBytes a).length = a.length := by
  rw [asciiBytes, List.length_map, String.length_toList]

/-- The digested bytes determine the subject and the sequence. -/
theorem domainBytes_injective {domain : String} {s s' : GrantSubject} {q q' : Option ℕ}
    (hs : s.isValid = true) (hs' : s'.isValid = true)
    (h : s.domainBytes domain q = s'.domainBytes domain q') :
    s = s' ∧ (q.map (toBE 8)).getD [] = (q'.map (toBE 8)).getD [] := by
  simp only [GrantSubject.isValid, Bool.and_eq_true] at hs hs'
  have hlength : s.projectionContentHash.length = s'.projectionContentHash.length := by
    have h₁ := hs.2
    have h₂ := hs'.2
    simp only [isHex, Bool.and_eq_true, beq_iff_eq] at h₁ h₂
    rw [h₁.1, h₂.1]
  unfold GrantSubject.domainBytes at h
  -- The parts have fixed lengths, so they are taken off one by one from the left.
  obtain ⟨h, hsequence⟩ := List.append_inj h (by simp [length_asciiBytes, hlength])
  obtain ⟨h, hhash⟩ := List.append_inj h (by simp)
  obtain ⟨h, hgeneration⟩ := List.append_inj h (by simp)
  obtain ⟨h, hprojection⟩ := List.append_inj h (by simp)
  obtain ⟨h, hkey⟩ := List.append_inj h (by simp)
  obtain ⟨h, hdevice⟩ := List.append_inj h (by simp)
  obtain ⟨h, htenant⟩ := List.append_inj h (by simp)
  obtain ⟨_, hpool⟩ := List.append_inj h (by simp)
  have hbound (g : UInt64) : g.toNat < 256 ^ 8 := g.toNat_lt
  refine ⟨?_, hsequence⟩
  cases s
  cases s'
  simp only [GrantSubject.mk.injEq]
  exact ⟨Vector.toList_inj.mp hpool, Vector.toList_inj.mp htenant, Vector.toList_inj.mp hdevice,
    Vector.toList_inj.mp hkey, Vector.toList_inj.mp hprojection,
    UInt64.toNat_inj.mp (toBE_inj (hbound _) (hbound _) hgeneration),
    asciiBytes_injective hs.2 hs'.2 hhash⟩

section

variable [Base64]

/-! ## Valid states -/

section Valid

variable {s : GrantSubject} {st : GrantState} {g : CachedGrant} {p : PendingIssuance}

omit [Base64] in
theorem requestId_eq_ok {n : ℕ} (h : s.requestId sha256 n = .ok id) :
    s.isValid = true ∧ n ≠ 0
      ∧ id = "sdwan-v2-" ++ sha256 (s.domainBytes "candy/sdwan-grant-request-v2" (some n)) := by
  unfold GrantSubject.requestId at h
  obtain ⟨_, hvalid, h⟩ := bind_eq_ok h
  unfold GrantSubject.validate at hvalid
  split at hvalid
  · next hs =>
    split at h
    · cases h
    · next hn =>
      cases h
      exact ⟨hs, hn, rfl⟩
  · cases hvalid

theorem cachedGrant_validateFor_eq_ok (h : g.validateFor sha256 s = .ok ()) :
    g.sequence ≠ 0 ∧ s.requestId sha256 g.sequence = .ok g.requestId := by
  unfold CachedGrant.validateFor at h
  dsimp only at h
  split at h
  · cases h
  next hsequence =>
  obtain ⟨expected, hexpected, h⟩ := bind_eq_ok h
  refine ⟨hsequence, ?_⟩
  split at h
  · cases h
  next hchecks =>
  simp only [Bool.or_eq_true, not_or, decide_eq_true_eq, not_not] at hchecks
  rw [hexpected, hchecks.1.1.1.1]

theorem validateFor_eq_ok (h : st.validateFor sha256 s = .ok ()) :
    s.isValid = true ∧ st.belongsTo s = true ∧ st.checkActive sha256 s = .ok ()
      ∧ st.checkPending sha256 s = .ok ()
      ∧ ¬ (st.revokedAtUnix.isSome = true ∧ st.active.isSome = true) := by
  unfold GrantState.validateFor at h
  obtain ⟨_, hvalid, h⟩ := bind_eq_ok h
  unfold GrantSubject.validate at hvalid
  split at hvalid
  · next hs =>
    split at h
    · cases h
    next hbelongs =>
    obtain ⟨_, hactive, h⟩ := bind_eq_ok h
    obtain ⟨_, hpending, h⟩ := bind_eq_ok h
    split at h
    · cases h
    next hrevoked =>
    simp only [Bool.not_eq_true', Bool.not_eq_false, Bool.and_eq_true] at hbelongs hrevoked
    exact ⟨hs, hbelongs, hactive, hpending, hrevoked⟩
  · cases hvalid

/-- The active grant of a valid state is the one of the completed sequence. -/
theorem validateFor_active (h : st.validateFor sha256 s = .ok ()) (hg : st.active = some g) :
    g.sequence = st.completedSequence ∧ g.sequence ≠ 0
      ∧ s.requestId sha256 g.sequence = .ok g.requestId := by
  obtain ⟨_, _, hactive, _⟩ := validateFor_eq_ok h
  unfold GrantState.checkActive at hactive
  rw [hg] at hactive
  dsimp only at hactive
  obtain ⟨_, hcached, hactive⟩ := bind_eq_ok hactive
  split at hactive
  · cases hactive
  next hsequence =>
  obtain ⟨hzero, hid⟩ := cachedGrant_validateFor_eq_ok hcached
  exact ⟨not_not.mp hsequence, hzero, hid⟩

/-- The pending issuance of a valid state is the next one. -/
theorem validateFor_pending (h : st.validateFor sha256 s = .ok ()) (hp : st.pending = some p) :
    p.sequence = st.completedSequence + 1 ∧ p.sequence < 2 ^ 64
      ∧ s.requestId sha256 p.sequence = .ok p.requestId := by
  obtain ⟨_, _, _, hpending, _⟩ := validateFor_eq_ok h
  unfold GrantState.checkPending at hpending
  rw [hp] at hpending
  dsimp only at hpending
  obtain ⟨_, _, hpending⟩ := bind_eq_ok hpending
  obtain ⟨next, hnext, hpending⟩ := bind_eq_ok hpending
  split at hpending
  · cases hpending
  next hsequence =>
  obtain ⟨expected, hexpected, hpending⟩ := bind_eq_ok hpending
  split at hpending
  · cases hpending
  next hchecks =>
  simp only [Bool.or_eq_true, not_or, decide_eq_true_eq, not_not] at hchecks
  rw [not_not] at hsequence
  unfold checkedSucc at hnext
  split at hnext
  · next hbound =>
    cases hnext
    rw [hexpected, hchecks.1]
    exact ⟨hsequence, hsequence ▸ hbound, rfl⟩
  · cases hnext

end Valid

/-! ## How the states of a subject follow one another -/

/-- The state `st'` can come after `st`: the subject was not revoked, and unless it is now, the
completed sequence has grown, or it is the same with the same grant. -/
structure Turn (st st' : GrantState) : Prop where
  before : st.revokedAtUnix = none
  sequence : st'.revokedAtUnix = none → st.completedSequence < st'.completedSequence
    ∨ (st.completedSequence = st'.completedSequence ∧ st.active = st'.active)

omit [Base64] in
theorem Turn.trans {st st' st'' : GrantState} (h : Turn st st') (h' : Turn st' st'') :
    Turn st st'' := by
  refine ⟨h.before, fun hnot => ?_⟩
  rcases h.sequence h'.before with hlt | ⟨hsame, hactive⟩
  · rcases h'.sequence hnot with hlt' | ⟨hsame', _⟩
    · exact .inl (hlt.trans hlt')
    · exact .inl (hsame' ▸ hlt)
  · rcases h'.sequence hnot with hlt' | ⟨hsame', hactive'⟩
    · exact .inl (hsame ▸ hlt')
    · exact .inr ⟨hsame.trans hsame', hactive.trans hactive'⟩

/-- What the order of two events says. -/
def GrantEvent.After : GrantEvent → GrantEvent → Prop
  | .stored s' st', .stored s st => s = s' → Turn st st'
  | .ended s' result, .stored s st =>
    s = s' → st.revokedAtUnix.isSome = true → result.isOk = false
  | _, _ => True

/-- The file of a subject. -/
def GrantStore.file (sha256 : Bytes → String) (w : GrantStore) (s : GrantSubject) :
    Option GrantState :=
  w.files (sha256 (s.domainBytes "candy/sdwan-grant-state-v2" none))

/-- A request for `s` with this id is backed by the latest state of `s` in the trace. -/
def Backed (s : GrantSubject) (id : String) (trace : List GrantEvent) : Prop :=
  ∃ cur p, .stored s cur ∈ trace ∧ cur.revokedAtUnix = none ∧ cur.pending = some p
    ∧ p.requestId = id ∧ ∀ st, .stored s st ∈ trace → st = cur ∨ Turn st cur

/-- The invariant of the store, for calls with the subjects in `S`. -/
structure Kept (sha256 : Bytes → String) (S : Set GrantSubject) (w : GrantStore) : Prop where
  valid : ∀ s st, .stored s st ∈ w.trace →
    s ∈ S ∧ st.validateFor sha256 s = .ok () ∧ st.completedSequence < 2 ^ 64
  absent : ∀ s ∈ S, s.isValid = true → w.file sha256 s = none → ∀ st, .stored s st ∉ w.trace
  latest : ∀ s ∈ S, s.isValid = true → ∀ cur, w.file sha256 s = some cur →
    .stored s cur ∈ w.trace ∧ ∀ st, .stored s st ∈ w.trace → st = cur ∨ Turn st cur
  orderly : w.trace.Pairwise GrantEvent.After
  backed : ∀ later s id earlier, w.trace = later ++ .asked s id :: earlier → Backed s id earlier

/-- What is digested for the subjects in `S`. -/
def digested (S : Set GrantSubject) : Set Bytes :=
  {b | ∃ s ∈ S, s.isValid = true ∧ (b = s.domainBytes "candy/sdwan-grant-state-v2" none
    ∨ ∃ n, b = s.domainBytes "candy/sdwan-grant-request-v2" (some n))}

/-- The subjects in `S` have a file each. -/
def OwnFiles (sha256 : Bytes → String) (S : Set GrantSubject) : Prop :=
  ∀ s ∈ S, s.isValid = true → ∀ s' ∈ S, s'.isValid = true →
    sha256 (s.domainBytes "candy/sdwan-grant-state-v2" none)
      = sha256 (s'.domainBytes "candy/sdwan-grant-state-v2" none) → s = s'

section Digested

variable {S : Set GrantSubject} (hsha : Set.InjOn sha256 (digested S)) {s s' : GrantSubject}

include hsha

omit [Base64] in
theorem ownFiles_of_injOn : OwnFiles sha256 S := by
  intro s hs hv s' hs' hv' h
  have hbytes := hsha ⟨s, hs, hv, .inl rfl⟩ ⟨s', hs', hv', .inl rfl⟩ h
  exact (domainBytes_injective hv hv' hbytes).1

omit [Base64] in
/-- A request id determines its subject and its sequence. -/
theorem requestId_injective {m n : ℕ} (hs : s ∈ S) (hs' : s' ∈ S) (hm : m < 2 ^ 64)
    (hn : n < 2 ^ 64) (h : s.requestId sha256 m = .ok id) (h' : s'.requestId sha256 n = .ok id) :
    s = s' ∧ m = n := by
  obtain ⟨hv, _, hid⟩ := requestId_eq_ok h
  obtain ⟨hv', _, hid'⟩ := requestId_eq_ok h'
  rw [hid] at hid'
  have hsame := String.append_right_inj "sdwan-v2-" |>.mp hid'
  have hbytes := hsha ⟨s, hs, hv, .inr ⟨m, rfl⟩⟩ ⟨s', hs', hv', .inr ⟨n, rfl⟩⟩ hsame
  obtain ⟨hsubject, hsequence⟩ := domainBytes_injective hv hv' hbytes
  refine ⟨hsubject, toBE_inj ?_ ?_ hsequence⟩
  · exact lt_of_lt_of_le hm (by norm_num)
  · exact lt_of_lt_of_le hn (by norm_num)

end Digested

section Store

variable {S : Set GrantSubject} (hfiles : OwnFiles sha256 S) {w : GrantStore}
  {s s' : GrantSubject} {st : GrantState}

include hfiles

omit [Base64] in
theorem file_stores (hs : s ∈ S) (hv : s.isValid = true) (hs' : s' ∈ S) (hv' : s'.isValid = true) :
    (w.stores (sha256 (s.domainBytes "candy/sdwan-grant-state-v2" none)) s st).file sha256 s'
      = if s' = s then some st else w.file sha256 s' := by
  unfold GrantStore.file GrantStore.stores
  dsimp only
  by_cases h : s' = s
  · rw [if_pos h, h, Function.update_self]
  · rw [if_neg h, Function.update_of_ne]
    intro hpath
    exact h (hfiles s' hs' hv' s hs hv hpath)

/-- A state of `s` reaches the disk. -/
theorem Kept.stores (hw : Kept sha256 S w) (hs : s ∈ S)
    (hvalid : st.validateFor sha256 s = .ok ()) (hbound : st.completedSequence < 2 ^ 64)
    (hturn : ∀ cur, w.file sha256 s = some cur → Turn cur st) :
    Kept sha256 S
      (w.stores (sha256 (s.domainBytes "candy/sdwan-grant-state-v2" none)) s st) := by
  have hv : s.isValid = true := (validateFor_eq_ok hvalid).1
  -- Everything stored for `s` so far comes before the new state.
  have hbefore (st' : GrantState) (hst' : .stored s st' ∈ w.trace) : Turn st' st := by
    cases hfile : w.file sha256 s with
    | none => exact absurd hst' (hw.absent s hs hv hfile st')
    | some cur =>
      rcases (hw.latest s hs hv cur hfile).2 st' hst' with rfl | hcur
      · exact hturn _ hfile
      · exact hcur.trans (hturn cur hfile)
  refine ⟨?_, ?_, ?_, ?_, ?_⟩
  · intro s' st' hst'
    rcases List.mem_cons.mp hst' with hnow | hold
    · cases hnow
      exact ⟨hs, hvalid, hbound⟩
    · exact hw.valid s' st' hold
  · intro s' hs' hv' hfile st' hst'
    rw [file_stores hfiles hs hv hs' hv'] at hfile
    split at hfile
    · cases hfile
    next hne =>
    rcases List.mem_cons.mp hst' with hnow | hold
    · cases hnow
      exact hne rfl
    · exact hw.absent s' hs' hv' hfile st' hold
  · intro s' hs' hv' cur hfile
    rw [file_stores hfiles hs hv hs' hv'] at hfile
    split at hfile
    · next heq =>
      cases hfile
      subst heq
      refine ⟨List.mem_cons_self, fun st' hst' => ?_⟩
      rcases List.mem_cons.mp hst' with hnow | hold
      · cases hnow
        exact .inl rfl
      · exact .inr (hbefore st' hold)
    · next hne =>
      obtain ⟨hin, hall⟩ := hw.latest s' hs' hv' cur hfile
      refine ⟨List.mem_cons_of_mem _ hin, fun st' hst' => ?_⟩
      rcases List.mem_cons.mp hst' with hnow | hold
      · cases hnow
        exact absurd rfl hne
      · exact hall st' hold
  · refine List.pairwise_cons.mpr ⟨fun event hevent => ?_, hw.orderly⟩
    cases event with
    | stored s' st' =>
      intro heq
      subst heq
      exact hbefore st' hevent
    | asked s' id => trivial
    | ended s' result => trivial
  · intro later s' id earlier htrace
    cases later with
    | nil => cases htrace
    | cons event later => exact hw.backed later s' id earlier (List.cons.inj htrace).2

omit hfiles

/-- A request leaves with the id of the pending issuance on the disk. -/
theorem Kept.asks (hw : Kept sha256 S w) (hs : s ∈ S) (hv : s.isValid = true)
    {p : PendingIssuance} (hfile : w.file sha256 s = some st) (hrevoked : st.revokedAtUnix = none)
    (hp : st.pending = some p) :
    Kept sha256 S { w with trace := .asked s p.requestId :: w.trace } := by
  obtain ⟨hin, hall⟩ := hw.latest s hs hv st hfile
  have hmem {s' : GrantSubject} {st' : GrantState}
      (h : .stored s' st' ∈ GrantEvent.asked s p.requestId :: w.trace) :
      .stored s' st' ∈ w.trace := by
    rcases List.mem_cons.mp h with hnow | hold
    · cases hnow
    · exact hold
  refine ⟨fun s' st' h => hw.valid s' st' (hmem h),
    fun s' hs' hv' hnone st' h => hw.absent s' hs' hv' hnone st' (hmem h), ?_, ?_, ?_⟩
  · intro s' hs' hv' cur hcur
    obtain ⟨hin', hall'⟩ := hw.latest s' hs' hv' cur hcur
    exact ⟨List.mem_cons_of_mem _ hin', fun st' h => hall' st' (hmem h)⟩
  · exact List.pairwise_cons.mpr ⟨fun event _ => by cases event <;> trivial, hw.orderly⟩
  · intro later s' id earlier htrace
    cases later with
    | nil =>
      cases htrace
      exact ⟨st, p, hin, hrevoked, hp, rfl, hall⟩
    | cons event later => exact hw.backed later s' id earlier (List.cons.inj htrace).2

/-- A call ends; only a subject that is not revoked is answered with a grant. -/
theorem Kept.ends (hw : Kept sha256 S w) {result : Except GrantError RefreshOutcome}
    (hresult : result.isOk = true → ∀ st, .stored s st ∈ w.trace → st.revokedAtUnix = none) :
    Kept sha256 S { w with trace := .ended s result :: w.trace } := by
  have hmem {s' : GrantSubject} {st' : GrantState}
      (h : .stored s' st' ∈ GrantEvent.ended s result :: w.trace) : .stored s' st' ∈ w.trace := by
    rcases List.mem_cons.mp h with hnow | hold
    · cases hnow
    · exact hold
  refine ⟨fun s' st' h => hw.valid s' st' (hmem h),
    fun s' hs' hv' hnone st' h => hw.absent s' hs' hv' hnone st' (hmem h), ?_, ?_, ?_⟩
  · intro s' hs' hv' cur hcur
    obtain ⟨hin', hall'⟩ := hw.latest s' hs' hv' cur hcur
    exact ⟨List.mem_cons_of_mem _ hin', fun st' h => hall' st' (hmem h)⟩
  · refine List.pairwise_cons.mpr ⟨fun event hevent => ?_, hw.orderly⟩
    cases event with
    | stored s' st' =>
      intro heq hrevoked
      subst heq
      by_contra hok
      rw [hresult (by simpa using hok) st' hevent] at hrevoked
      cases hrevoked
    | asked s' id => trivial
    | ended s' result => trivial
  · intro later s' id earlier htrace
    cases later with
    | nil => cases htrace
    | cons event later => exact hw.backed later s' id earlier (List.cons.inj htrace).2

end Store

/-! ## Calls -/

section Calls

variable {S : Set GrantSubject} {s : GrantSubject} {α : Type}

/-- The invariant, with this file of the subject. -/
def Holds (sha256 : Bytes → String) (S : Set GrantSubject) (s : GrantSubject)
    (file : Option GrantState) (w : GrantStore) : Prop :=
  Kept sha256 S w ∧ w.file sha256 s = file

omit [Base64] in
/-- Whatever the text of the error, the rest of the program starts in the same states. -/
theorem withFailure_bind {P : GrantStore → Prop} {m : Grt α} {β : Type} {f : α → Grt β}
    {stage code : String} {Q : α → GrantStore → Prop} {R : β → GrantStore → Prop}
    {K : GrantStore → Prop} (hm : Triple P m Q (fun _ => K) K)
    (hf : ∀ a, Triple (Q a) (f a) R (fun _ => K) K) :
    Triple P (withFailure stage code m >>= f) R (fun _ => K) K :=
  (hm.mapError fun _ _ h => h).bind hf

section Pure

variable {β : Type} {P K : GrantStore → Prop} {R : β → GrantStore → Prop} {stage code : String}

omit [Base64] in
theorem withFailure_lift {r : Except GrantError α} {f : α → Grt β}
    (hf : ∀ a, r = .ok a → Triple P (f a) R (fun _ => K) K) (he : ∀ w, P w → K w) :
    Triple P (withFailure stage code (lift r) >>= f) R (fun _ => K) K := by
  intro w hw
  simp only [withFailure, wp_bind, wp_mapError, wp_lift]
  exact ⟨fun a ha => hf a ha w hw, fun _ _ => he w hw⟩

omit [Base64] in
theorem withFailure_ensure {c : Prop} [Decidable c] {e : GrantError} {f : Unit → Grt β}
    (hf : c → Triple P (f ()) R (fun _ => K) K) (he : ∀ w, P w → K w) :
    Triple P (withFailure stage code (ensure c e) >>= f) R (fun _ => K) K := by
  intro w hw
  simp only [withFailure, wp_bind, wp_mapError, wp_ensure]
  exact ⟨fun hc => hf hc w hw, fun _ => he w hw⟩

end Pure

omit [Base64] in
theorem storageId_eq_ok {path : String} (h : s.storageId sha256 = .ok path) :
    s.isValid = true ∧ path = sha256 (s.domainBytes "candy/sdwan-grant-state-v2" none) := by
  unfold GrantSubject.storageId at h
  obtain ⟨_, hvalid, h⟩ := bind_eq_ok h
  unfold GrantSubject.validate at hvalid
  split at hvalid
  · next hv =>
    cases h
    exact ⟨hv, rfl⟩
  · cases hvalid

/-- `load_state` hands over the file as it is. -/
theorem loadState_reads {P : GrantStore → Prop} {call : RefreshCall} {file : Option GrantState} :
    Triple (fun w => P w ∧ w.file sha256 call.subject = file) (loadState sha256 call)
      (fun loaded w => (P w ∧ w.file sha256 call.subject = file) ∧ loaded = file
        ∧ call.subject.isValid = true)
      (fun _ => P) P := by
  unfold loadState
  refine .lift_bind (fun path hpath => ?_) fun _ _ hw => hw.1
  obtain ⟨hv, rfl⟩ := storageId_eq_ok hpath
  refine .ensure_bind (fun _ => ?_) fun _ hw => hw.1
  intro w hw
  rw [wp_bind, wp_get]
  have hfile := hw.2
  unfold GrantStore.file at hfile
  rw [hfile]
  cases file with
  | none => exact ⟨hw, rfl, hv⟩
  | some state =>
    have hrest : Triple (fun w => P w ∧ w.file sha256 call.subject = some state)
        (do lift (state.validateFor sha256 call.subject); return some state)
        (fun loaded w => (P w ∧ w.file sha256 call.subject = some state) ∧ loaded = some state
          ∧ call.subject.isValid = true) (fun _ => P) P := by
      refine .lift_bind (fun _ _ => ?_) fun _ _ hw => hw.1
      exact .pure fun w hw => ⟨hw, rfl, hv⟩
    exact hrest w hw

variable (hfiles : OwnFiles sha256 S) (hs : s ∈ S)

include hfiles hs

theorem storeState_holds {file : Option GrantState} {st : GrantState} {write : Write}
    (hbound : st.completedSequence < 2 ^ 64) (hturn : ∀ cur, file = some cur → Turn cur st) :
    Triple (Holds sha256 S s file) (storeState sha256 s st write)
      (fun _ w => Holds sha256 S s (some st) w ∧ st.validateFor sha256 s = .ok ())
      (fun _ => Kept sha256 S) (Kept sha256 S) := by
  unfold storeState
  refine .lift_bind (fun _ hvalid => ?_) fun _ _ hw => hw.1
  refine .lift_bind (fun path hpath => ?_) fun _ _ hw => hw.1
  obtain ⟨hv, rfl⟩ := storageId_eq_ok hpath
  have hstored (w : GrantStore) (hw : Holds sha256 S s file w) : Kept sha256 S
      (w.stores (sha256 (s.domainBytes "candy/sdwan-grant-state-v2" none)) s st) := by
    apply hw.1.stores hfiles hs hvalid hbound
    intro cur hcur
    exact hturn cur (hw.2.symm.trans hcur)
  apply Triple.durable
  · intro w hw
    refine ⟨⟨hstored w hw, ?_⟩, hvalid⟩
    rw [file_stores hfiles hs hv hs hv, if_pos rfl]
  · exact fun w hw => ⟨hstored w hw, hw.1⟩
  · exact fun w hw => ⟨hstored w hw, hw.1⟩

omit hfiles

/-- The state on the disk of a subject was stored, so it is valid. -/
theorem Holds.valid {w : GrantStore} {st : GrantState} (hw : Holds sha256 S s (some st) w)
    (hv : s.isValid = true) :
    st.validateFor sha256 s = .ok () ∧ st.completedSequence < 2 ^ 64 :=
  (hw.1.valid s st (hw.1.latest s hs hv st hw.2).1).2

/-- Nothing that was stored for the subject is revoked. -/
theorem Holds.unrevoked {w : GrantStore} {file : Option GrantState}
    (hw : Holds sha256 S s file w) (hv : s.isValid = true)
    (hfile : ∀ cur, file = some cur → cur.revokedAtUnix = none) :
    ∀ st, .stored s st ∈ w.trace → st.revokedAtUnix = none := by
  intro st hst
  cases file with
  | none => exact absurd hst (hw.1.absent s hs hv hw.2 st)
  | some cur =>
    rcases (hw.1.latest s hs hv cur hw.2).2 st hst with rfl | hturn
    · exact hfile _ rfl
    · exact hturn.before

omit hs

variable {call : RefreshCall} (hcall : call.subject ∈ S)

include hfiles hcall

theorem ensurePending_holds {file : Option GrantState}
    (hrevoked : (file.getD (.new call.subject)).revokedAtUnix = none) :
    Triple (Holds sha256 S call.subject file)
      (ensurePending sha256 call (file.getD (.new call.subject)))
      (fun state w => Holds sha256 S call.subject (some state) w ∧ state.revokedAtUnix = none)
      (fun _ => Kept sha256 S) (Kept sha256 S) := by
  unfold ensurePending
  refine .ite (fun _ => ?_) fun hpending => ?_
  · refine .lift_bind (fun sequence hsequence => ?_) fun _ _ hw => hw.1
    refine .lift_bind (fun requestId _ => ?_) fun _ _ hw => hw.1
    have hbound : (file.getD (.new call.subject)).completedSequence < 2 ^ 64 := by
      unfold checkedSucc at hsequence
      split at hsequence
      · omega
      · cases hsequence
    refine withFailure_bind (storeState_holds hfiles hcall ?_ ?_) fun _ => ?_
    · exact hbound
    · intro cur hcur
      subst hcur
      exact ⟨hrevoked, fun _ => .inr ⟨rfl, rfl⟩⟩
    · exact .pure fun w hw => ⟨hw.1, hrevoked⟩
  · cases file with
    | none => exact absurd rfl hpending
    | some cur => exact .pure fun w hw => ⟨hw, hrevoked⟩

omit hfiles in
theorem fetchGrant_holds (hv : call.subject.isValid = true)
    (hpending : state.pending = some pending) (hrevoked : state.revokedAtUnix = none) :
    Triple (Holds sha256 S call.subject (some state)) (fetchGrant call pending.requestId)
      (fun _ => Holds sha256 S call.subject (some state)) (fun _ => Kept sha256 S)
      (Kept sha256 S) := by
  intro w hw
  have hasked := hw.1.asks hcall hv hw.2 hrevoked hpending
  unfold wp fetchGrant
  dsimp only
  cases call.fetch (.new call.subject pending.requestId) with
  | killed => exact hasked
  | response response => exact ⟨hasked, hw.2⟩
  | transient error => exact ⟨hasked, hw.2⟩
  | denied error => exact ⟨hasked, hw.2⟩
  | policyResyncRequired => exact ⟨hasked, hw.2⟩

theorem acceptResponse_holds (hv : call.subject.isValid = true)
    (hpending : state.pending = some pending) (hrevoked : state.revokedAtUnix = none) :
    Triple (Holds sha256 S call.subject (some state))
      (acceptResponse sha256 call state pending response)
      (fun _ w => ∃ st, Holds sha256 S call.subject (some st) w ∧ st.revokedAtUnix = none)
      (fun _ => Kept sha256 S) (Kept sha256 S) := by
  intro w hw
  obtain ⟨hvalid, _⟩ := hw.valid hcall hv
  obtain ⟨hsequence, hbound, _⟩ := validateFor_pending hvalid hpending
  refine Triple.pre ?_ (fun _ h => h) w hw
  refine withFailure_lift (fun _ _ => ?_) fun _ hw => hw.1
  refine withFailure_ensure (fun _ => ?_) fun _ hw => hw.1
  refine withFailure_lift (fun verification _ => ?_) fun _ hw => hw.1
  refine withFailure_ensure (fun _ => ?_) fun _ hw => hw.1
  refine .okOr_bind (fun now _ => ?_) fun _ hw => hw.1
  refine .lift_bind (fun grant _ => ?_) fun _ _ hw => hw.1
  refine withFailure_bind (storeState_holds hfiles hcall hbound ?_) fun _ => ?_
  · -- The sequence that is completed is the next one.
    intro cur hcur
    cases hcur
    refine ⟨hrevoked, fun _ => .inl ?_⟩
    show state.completedSequence < pending.sequence
    omega
  · exact .pure fun w hw => ⟨_, hw.1, rfl⟩

theorem refreshWithClock_kept :
    Triple (Kept sha256 S) (refreshWithClock sha256 call)
      (fun _ w => Kept sha256 S w
        ∧ ∀ st, .stored call.subject st ∈ w.trace → st.revokedAtUnix = none)
      (fun _ => Kept sha256 S) (Kept sha256 S) := by
  intro w hw
  have hstart : Holds sha256 S call.subject (w.file sha256 call.subject) w := ⟨hw, rfl⟩
  generalize w.file sha256 call.subject = file at hstart
  refine Triple.pre ?_ (fun _ h => h) w hstart
  unfold refreshWithClock
  refine withFailure_lift (fun _ _ => ?_) fun _ hw => hw.1
  refine withFailure_bind loadState_reads fun loaded => ?_
  intro w ⟨hw, hloaded, hv⟩
  subst hloaded
  refine Triple.pre (P := Holds sha256 S call.subject loaded) ?_ (fun _ h => h) w hw
  refine .ensure_bind (fun hrevoked => ?_) fun _ hw => hw.1
  split
  · refine .pure fun w hw => ⟨hw.1, hw.unrevoked hcall hv fun cur hcur => ?_⟩
    subst hcur
    exact hrevoked
  unfold renewGrant
  refine (ensurePending_holds hfiles hcall hrevoked).bind fun state => ?_
  refine .and_pre fun hrevoked => ?_
  refine .okOr_bind (fun pending hpending => ?_) fun _ hw => hw.1
  refine (fetchGrant_holds hcall hv hpending hrevoked).bind fun fetched => ?_
  have hfinished (w : GrantStore)
      (hw : ∃ st, Holds sha256 S call.subject (some st) w ∧ st.revokedAtUnix = none) :
      Kept sha256 S w ∧ ∀ st, .stored call.subject st ∈ w.trace → st.revokedAtUnix = none := by
    obtain ⟨st, hw, hnot⟩ := hw
    refine ⟨hw.1, hw.unrevoked hcall hv fun cur hcur => ?_⟩
    cases hcur
    exact hnot
  unfold settleFetch
  cases fetched with
  | response response =>
    exact (acceptResponse_holds hfiles hcall hv hpending hrevoked).post fun _ => hfinished
  | transient error =>
    refine .okOr_bind (fun grant _ => ?_) fun _ hw => hw.1
    exact .pure fun w hw => hfinished w ⟨state, hw, hrevoked⟩
  | policyResyncRequired => exact .fail fun _ hw => hw.1
  | denied error =>
    refine withFailure_bind (storeState_holds hfiles hcall (Nat.two_pow_pos 64) ?_) fun _ => ?_
    · -- Whatever was there, the subject is revoked now.
      intro cur hcur
      cases hcur
      exact ⟨hrevoked, nofun⟩
    · exact .fail fun _ hw => hw.1.1
  | killed => exact .fail fun _ hw => hw.1

end Calls

/-! ## Runs -/

theorem refresh_kept {S : Set GrantSubject} (hfiles : OwnFiles sha256 S) {w : GrantStore}
    (hw : Kept sha256 S w) {call : RefreshCall} (hcall : call.subject ∈ S) :
    Kept sha256 S (w.refresh sha256 call) := by
  have hwp := refreshWithClock_kept hfiles hcall w hw
  unfold wp at hwp
  unfold GrantStore.refresh
  cases hrun : refreshWithClock sha256 call w with
  | mk outcome w' =>
    rw [hrun] at hwp
    cases outcome with
    | ok outcome => exact hwp.1.ends fun _ => hwp.2
    | err e => exact Kept.ends hwp nofun
    | crash => exact hwp

theorem refreshes_kept {S : Set GrantSubject} (hfiles : OwnFiles sha256 S)
    {w : GrantStore} (hw : Kept sha256 S w) {calls : List RefreshCall}
    (hcalls : ∀ call ∈ calls, call.subject ∈ S) :
    Kept sha256 S (w.refreshes sha256 calls) := by
  induction calls generalizing w with
  | nil => exact hw
  | cons call calls ih =>
    refine ih (refresh_kept hfiles hw (hcalls call List.mem_cons_self)) fun call' hcall' => ?_
    exact hcalls call' (List.mem_cons_of_mem _ hcall')

theorem empty_kept (S : Set GrantSubject) : Kept sha256 S .empty where
  valid _ _ h := absurd h List.not_mem_nil
  absent _ _ _ _ _ := List.not_mem_nil
  latest _ _ _ _ h := nomatch h
  orderly := .nil
  backed later s id earlier h := by
    cases later <;> cases h

/-! ## Rejected answers -/

/-- The active grant of a file, and the sequence that was completed with it. -/
def activeOf (file : Option GrantState) : Option CachedGrant × ℕ :=
  (file.bind (·.active), (file.map (·.completedSequence)).getD 0)

/-- The id of the request a call sends for a subject with this file. -/
def nextRequestId (sha256 : Bytes → String) (s : GrantSubject) (file : Option GrantState) :
    Except GrantError String :=
  let state := file.getD (.new s)
  match state.pending with
  | some pending => .ok pending.requestId
  | none => s.requestId sha256 (state.completedSequence + 1)

/-- Cloud asks for a resync, Core does not verify its answer, or what Core reports of it does
not fit the subject, the response or the clock. -/
def RefreshCall.Rejects (call : RefreshCall) (request : GrantIssueRequest) : Prop :=
  call.fetch request = .policyResyncRequired ∨ ∃ response, call.fetch request = .response response
    ∧ ((∃ e, call.verify response.accessGrant = .error e)
      ∨ ∃ report now e, call.verify response.accessGrant = .ok report
        ∧ call.validationNow = some now
        ∧ validateVerifiedGrant call.subject response report now = .error e)

section Rejected

variable {call : RefreshCall} {file : Option GrantState}

/-- The file of the subject has the active grant of `file`, with its sequence. -/
def Remains (sha256 : Bytes → String) (s : GrantSubject) (file : Option GrantState)
    (w : GrantStore) : Prop :=
  activeOf (w.file sha256 s) = activeOf file

theorem fromResponse_rejected {s : GrantSubject} {sequence now : ℕ} {report : VerifiedGrantReport}
    {e : GrantError} {grant : CachedGrant}
    (h : validateVerifiedGrant s response report now = .error e) :
    CachedGrant.fromResponse sha256 s sequence id response report now ≠ .ok grant := by
  intro hok
  unfold CachedGrant.fromResponse at hok
  obtain ⟨_, _, hok⟩ := bind_eq_ok hok
  obtain ⟨expected, _, hok⟩ := bind_eq_ok hok
  split at hok
  · cases hok
  obtain ⟨_, _, hok⟩ := bind_eq_ok hok
  obtain ⟨_, hverified, _⟩ := bind_eq_ok hok
  rw [h] at hverified
  cases hverified

/-- A rejected answer is an error, and nothing is stored. -/
theorem acceptResponse_rejected {P : GrantStore → Prop}
    (h : (∃ e, call.verify response.accessGrant = .error e)
      ∨ ∃ report now e, call.verify response.accessGrant = .ok report
        ∧ call.validationNow = some now
        ∧ validateVerifiedGrant call.subject response report now = .error e) :
    Triple P (acceptResponse sha256 call state pending response) (fun _ _ => False) (fun _ => P)
      P := by
  unfold acceptResponse
  refine withFailure_lift (fun _ _ => ?_) fun _ hw => hw
  refine withFailure_ensure (fun _ => ?_) fun _ hw => hw
  refine withFailure_lift (fun verification hverify => ?_) fun _ hw => hw
  refine withFailure_ensure (fun _ => ?_) fun _ hw => hw
  refine .okOr_bind (fun now hnow => ?_) fun _ hw => hw
  refine .lift_bind (fun grant hgrant => ?_) fun _ _ hw => hw
  -- A rejected answer does not come this far.
  rcases h with ⟨e, herror⟩ | ⟨report, now', e, hok, hnow', hinvalid⟩
  · rw [herror] at hverify
    cases hverify
  · rw [hok] at hverify
    rw [hnow'] at hnow
    cases hverify
    cases hnow
    exact absurd hgrant (fromResponse_rejected hinvalid)

theorem ensurePending_remains :
    Triple (fun w => w.file sha256 call.subject = file)
      (ensurePending sha256 call (file.getD (.new call.subject)))
      (fun state w => Remains sha256 call.subject file w
        ∧ ∀ p, state.pending = some p → nextRequestId sha256 call.subject file = .ok p.requestId)
      (fun _ => Remains sha256 call.subject file) (Remains sha256 call.subject file) := by
  have hrefl (w : GrantStore) (hw : w.file sha256 call.subject = file) :
      Remains sha256 call.subject file w := congrArg activeOf hw
  unfold ensurePending
  refine .ite (fun hnone => ?_) fun hsome => ?_
  · rw [Option.isNone_iff_eq_none] at hnone
    refine .lift_bind (fun sequence hsequence => ?_) fun _ w hw => hrefl w hw
    refine .lift_bind (fun requestId hid => ?_) fun _ w hw => hrefl w hw
    have hnext : nextRequestId sha256 call.subject file = .ok requestId := by
      unfold nextRequestId
      dsimp only
      rw [hnone]
      unfold checkedSucc at hsequence
      split at hsequence
      · cases hsequence
        exact hid
      · cases hsequence
    refine withFailure_bind (Q := fun _ => Remains sha256 call.subject file) ?_ fun _ => ?_
    · unfold storeState
      refine .lift_bind (fun _ _ => ?_) fun _ w hw => hrefl w hw
      refine .lift_bind (fun path hpath => ?_) fun _ w hw => hrefl w hw
      obtain ⟨_, rfl⟩ := storageId_eq_ok hpath
      have hstored (w : GrantStore) : Remains sha256 call.subject file
          (w.stores (sha256 (call.subject.domainBytes "candy/sdwan-grant-state-v2" none))
            call.subject { file.getD (.new call.subject) with
              pending := some ⟨sequence, requestId, max call.now 1⟩ }) := by
        unfold Remains GrantStore.file GrantStore.stores
        dsimp only
        rw [Function.update_self]
        cases file <;> rfl
      exact .durable (fun w _ => hstored w) (fun w hw => ⟨hstored w, hrefl w hw⟩)
        fun w hw => ⟨hstored w, hrefl w hw⟩
    · refine .pure fun w hw => ⟨hw, fun p hp => ?_⟩
      cases hp
      exact hnext
  · refine .pure fun w hw => ⟨hrefl w hw, fun p hp => ?_⟩
    unfold nextRequestId
    dsimp only
    rw [hp]

/-- An answer that is rejected leaves the active grant and its sequence as they were. -/
theorem refreshWithClock_remains
    (h : ∀ id, nextRequestId sha256 call.subject file = .ok id →
      call.Rejects (.new call.subject id)) :
    Triple (fun w => w.file sha256 call.subject = file) (refreshWithClock sha256 call)
      (fun _ => Remains sha256 call.subject file) (fun _ => Remains sha256 call.subject file)
      (Remains sha256 call.subject file) := by
  intro w hw
  have hstart : Remains sha256 call.subject file w ∧ w.file sha256 call.subject = file :=
    ⟨congrArg activeOf hw, hw⟩
  refine Triple.pre (P := fun w => Remains sha256 call.subject file w
    ∧ w.file sha256 call.subject = file) ?_ (fun _ h => h) w hstart
  unfold refreshWithClock
  refine withFailure_lift (fun _ _ => ?_) fun _ hw => hw.1
  refine withFailure_bind loadState_reads fun loaded => ?_
  intro w ⟨hw, hloaded, _⟩
  subst hloaded
  refine Triple.pre (P := fun w => Remains sha256 call.subject loaded w
    ∧ w.file sha256 call.subject = loaded) ?_ (fun _ h => h) w hw
  refine .ensure_bind (fun _ => ?_) fun _ hw => hw.1
  split
  · exact .pure fun w hw => hw.1
  unfold renewGrant
  refine (ensurePending_remains.pre fun w hw => hw.2).bind fun state => ?_
  refine .and_pre fun hnext => ?_
  refine .okOr_bind (fun pending hpending => ?_) fun _ hw => hw
  have hrejects := h _ (hnext pending hpending)
  intro w hw
  rw [wp_bind]
  unfold wp fetchGrant
  dsimp only
  -- The request is the one that is rejected.
  rcases hrejects with hresync | ⟨response, hresponse, hrejected⟩
  · rw [hresync]
    exact hw
  · rw [hresponse]
    exact ((acceptResponse_rejected hrejected).post fun _ _ hw => hw.elim) _ hw

/-- The run form of `refreshWithClock_remains`. -/
theorem refresh_remains {w : GrantStore}
    (h : ∀ id, nextRequestId sha256 call.subject (w.file sha256 call.subject) = .ok id →
      call.Rejects (.new call.subject id)) :
    activeOf ((w.refresh sha256 call).file sha256 call.subject)
      = activeOf (w.file sha256 call.subject) := by
  have hwp := refreshWithClock_remains h w rfl
  unfold wp at hwp
  unfold GrantStore.refresh
  cases hrun : refreshWithClock sha256 call w with
  | mk outcome w' =>
    rw [hrun] at hwp
    cases outcome <;> exact hwp

end Rejected

/-! ## The results -/

/-- What holds of the trace of the store. -/
structure Safe (sha256 : Bytes → String) (trace : List GrantEvent) : Prop where
  /-- A state that was stored is accepted by `load_state`. -/
  reloads : ∀ s st, .stored s st ∈ trace → ∀ (call : RefreshCall) (w : GrantStore),
    call.subject = s → call.reads = true → w.file sha256 s = some st →
      loadState sha256 call w = (.ok (some st), w)
  /-- After a denial no call returns a grant. -/
  denial : ∀ later s st earlier, trace = later ++ .stored s st :: earlier →
    st.revokedAtUnix.isSome = true → ∀ result, .ended s result ∈ later → result.isOk = false
  /-- The completed sequence does not decrease before a denial. -/
  grows : ∀ later s st earlier, trace = later ++ .stored s st :: earlier →
    ∀ st', .stored s st' ∈ later → st'.revokedAtUnix = none →
      st.completedSequence ≤ st'.completedSequence
  /-- A request id is the id of one cached grant. -/
  single : ∀ s st g s' st' g', .stored s st ∈ trace → st.active = some g →
    .stored s' st' ∈ trace → st'.active = some g' → g.requestId = g'.requestId → g = g'
  /-- A pending id is sent until its issuance is completed. -/
  resends : ∀ later s id middle st earlier,
    trace = later ++ .asked s id :: (middle ++ .stored s st :: earlier) →
    ∀ p, st.pending = some p → id = p.requestId
      ∨ ∃ st', .stored s st' ∈ middle ∧ p.sequence ≤ st'.completedSequence

section Results

variable {S : Set GrantSubject} {w : GrantStore}

/-- `load_state` of a file that is not there, or is valid. -/
theorem loadState_eq {call : RefreshCall} {w : GrantStore} (hv : call.subject.isValid = true)
    (hreads : call.reads = true)
    (hfile : ∀ st, w.file sha256 call.subject = some st →
      st.validateFor sha256 call.subject = .ok ()) :
    loadState sha256 call w = (.ok (w.file sha256 call.subject), w) := by
  have hpath : call.subject.storageId sha256
      = .ok (sha256 (call.subject.domainBytes "candy/sdwan-grant-state-v2" none)) := by
    unfold GrantSubject.storageId GrantSubject.validate
    rw [if_pos hv]
    rfl
  have hsucceeds : Succeeds (loadState sha256 call)
      (fun loaded w' => loaded = w.file sha256 call.subject ∧ w' = w) w := by
    unfold loadState
    rw [succeeds_bind, succeeds_lift]
    refine ⟨_, hpath, ?_⟩
    rw [succeeds_bind, succeeds_ensure]
    refine ⟨hreads, ?_⟩
    rw [succeeds_bind, succeeds_get]
    unfold GrantStore.file at hfile ⊢
    cases hcase : w.files (sha256 (call.subject.domainBytes "candy/sdwan-grant-state-v2" none)) with
    | none => exact ⟨rfl, rfl⟩
    | some st =>
      show Succeeds (lift (st.validateFor sha256 call.subject) >>= _) _ w
      rw [succeeds_bind, succeeds_lift]
      exact ⟨(), hfile st hcase, rfl, rfl⟩
  obtain ⟨loaded, w', heq, hloaded, hw'⟩ := (succeeds_iff _).mp hsucceeds
  rw [heq, hloaded, hw']

theorem Kept.reloads (hw : Kept sha256 S w) {s : GrantSubject} {st : GrantState}
    (hst : .stored s st ∈ w.trace) {call : RefreshCall} {w' : GrantStore}
    (hcall : call.subject = s) (hreads : call.reads = true)
    (hfile : w'.file sha256 s = some st) : loadState sha256 call w' = (.ok (some st), w') := by
  obtain ⟨_, hvalid, _⟩ := hw.valid s st hst
  obtain ⟨hv, _⟩ := validateFor_eq_ok hvalid
  subst hcall
  rw [loadState_eq hv hreads, hfile]
  intro st' hst'
  rw [hfile] at hst'
  cases hst'
  exact hvalid

omit [Base64] in
theorem Turn.le {st st' : GrantState} (h : Turn st st') (hnot : st'.revokedAtUnix = none) :
    st.completedSequence ≤ st'.completedSequence := by
  rcases h.sequence hnot with hlt | ⟨heq, _⟩
  · exact hlt.le
  · exact heq.le

/-- Of two states of one subject with the same sequence, both with a grant, the grant is one. -/
theorem Kept.same_active (hw : Kept sha256 S w) {s : GrantSubject} {st st' : GrantState}
    {g g' : CachedGrant} (hst : .stored s st ∈ w.trace) (hst' : .stored s st' ∈ w.trace)
    (hg : st.active = some g) (hg' : st'.active = some g')
    (hsequence : st.completedSequence = st'.completedSequence) : g = g' := by
  have hunrevoked {st : GrantState} {g : CachedGrant} (hst : .stored s st ∈ w.trace)
      (hg : st.active = some g) : st.revokedAtUnix = none := by
    obtain ⟨_, hvalid, _⟩ := hw.valid s st hst
    have hnot := (validateFor_eq_ok hvalid).2.2.2.2
    rw [hg] at hnot
    simpa using hnot
  have hturn {st st' : GrantState} (h : Turn st st') (hnot : st'.revokedAtUnix = none)
      (heq : st.completedSequence = st'.completedSequence) : st.active = st'.active := by
    rcases h.sequence hnot with hlt | ⟨_, hactive⟩
    · omega
    · exact hactive
  have hpairs := List.Pairwise.forall_of_forall_of_flip
    (R := fun e e' => e = e' ∨ GrantEvent.After e e' ∨ GrantEvent.After e' e)
    (fun _ _ => .inl rfl) (hw.orderly.imp fun h => .inr (.inl h))
    (hw.orderly.imp fun h => .inr (.inr h)) hst hst'
  have hactive : st.active = st'.active := by
    rcases hpairs with hsame | hafter | hafter
    · cases hsame
      rfl
    · exact (hturn (hafter rfl) (hunrevoked hst hg) hsequence.symm).symm
    · exact hturn (hafter rfl) (hunrevoked hst' hg') hsequence
  rw [hg, hg'] at hactive
  exact Option.some.inj hactive

theorem Kept.safe (hsha : Set.InjOn sha256 (digested S)) (hw : Kept sha256 S w) :
    Safe sha256 w.trace where
  reloads s st hst call w' hcall hreads hfile := hw.reloads hst hcall hreads hfile
  denial later s st earlier htrace hrevoked result hresult := by
    have horderly := hw.orderly
    rw [htrace, List.pairwise_append] at horderly
    exact horderly.2.2 _ hresult _ List.mem_cons_self rfl hrevoked
  grows later s st earlier htrace st' hst' hnot := by
    have horderly := hw.orderly
    rw [htrace, List.pairwise_append] at horderly
    exact (horderly.2.2 _ hst' _ List.mem_cons_self rfl).le hnot
  single s st g s' st' g' hst hg hst' hg' hid := by
    obtain ⟨hs, hvalid, hbound⟩ := hw.valid s st hst
    obtain ⟨hs', hvalid', hbound'⟩ := hw.valid s' st' hst'
    obtain ⟨hsequence, _, hrequest⟩ := validateFor_active hvalid hg
    obtain ⟨hsequence', _, hrequest'⟩ := validateFor_active hvalid' hg'
    rw [hsequence, hid] at hrequest
    rw [hsequence'] at hrequest'
    obtain ⟨rfl, hsame⟩ := requestId_injective hsha hs hs' hbound hbound' hrequest hrequest'
    exact hw.same_active hst hst' hg hg' hsame
  resends later s id middle st earlier htrace p hp := by
    obtain ⟨cur, q, hcur, hnot, hq, hid, hall⟩ := hw.backed later s id _ htrace
    have hst : GrantEvent.stored s st ∈ middle ++ .stored s st :: earlier :=
      List.mem_append_right _ List.mem_cons_self
    have hin {e : GrantEvent} (he : e ∈ middle ++ .stored s st :: earlier) : e ∈ w.trace := by
      rw [htrace]
      exact List.mem_append_right _ (List.mem_cons_of_mem _ he)
    obtain ⟨hp_sequence, _, hp_id⟩ := validateFor_pending (hw.valid s st (hin hst)).2.1 hp
    obtain ⟨hq_sequence, _, hq_id⟩ := validateFor_pending (hw.valid s cur (hin hcur)).2.1 hq
    have hle : st.completedSequence ≤ cur.completedSequence := by
      rcases hall st hst with rfl | hturn
      · exact le_rfl
      · exact hturn.le hnot
    rcases Nat.lt_or_eq_of_le hle with hlt | heq
    · -- The issuance was completed, and the state that completed it was stored in between.
      right
      refine ⟨cur, ?_, by omega⟩
      rcases List.mem_append.mp hcur with hmiddle | hrest
      · exact hmiddle
      exfalso
      rcases List.mem_cons.mp hrest with hsame | hearlier
      · cases hsame
        omega
      · have horderly := hw.orderly
        rw [htrace, List.pairwise_append, List.pairwise_cons, List.pairwise_append,
          List.pairwise_cons] at horderly
        have hturn : Turn cur st := horderly.2.1.2.2.1.1 _ hearlier rfl
        rcases hall st hst with rfl | hturn'
        · omega
        · have hback := hturn.le hturn'.before
          omega
    · left
      rw [hp_sequence, heq, ← hq_sequence, hq_id] at hp_id
      rw [← hid]
      exact Except.ok.inj hp_id

end Results

/-- The grant store over whole runs: any calls, with any answers, clocks, write errors and kills,
for subjects on which the digest is injective. The trace is safe, and a call whose answer is
rejected leaves the active grant of its subject and its sequence as they were. -/
theorem grant_store_safe (calls : List RefreshCall)
    (hsha : Set.InjOn sha256 (digested {s | ∃ call ∈ calls, call.subject = s})) :
    Safe sha256 (GrantStore.empty.refreshes sha256 calls).trace
      ∧ ∀ call : RefreshCall,
        (∀ id, nextRequestId sha256 call.subject
            ((GrantStore.empty.refreshes sha256 calls).file sha256 call.subject) = .ok id →
          call.Rejects (.new call.subject id)) →
        activeOf (((GrantStore.empty.refreshes sha256 calls).refresh sha256 call).file sha256
            call.subject)
          = activeOf ((GrantStore.empty.refreshes sha256 calls).file sha256 call.subject) := by
  have hkept := refreshes_kept (ownFiles_of_injOn hsha) (empty_kept _) fun call hcall => ⟨call, hcall, rfl⟩
  exact ⟨hkept.safe hsha, fun call hrejects => refresh_remains hrejects⟩

end

/-! ## A run -/

instance : Base64 := urlSafeNoPad

def oneSubject : GrantSubject where
  nodePoolId := Vector.replicate 16 9
  tenantId := Vector.replicate 16 1
  deviceId := Vector.replicate 16 2
  deviceKeyId := Vector.replicate 16 3
  projectionId := Vector.replicate 16 5
  projectionGeneration := 11
  projectionContentHash := "6666666666666666666666666666666666666666666666666666666666666666"

/-- The digests of what is hashed for `oneSubject` and its first two requests. -/
def oneDigestOr (other : String) (b : Bytes) : String :=
  if b = oneSubject.domainBytes "candy/sdwan-grant-state-v2" none then
    "24ed0d3892b767251cb07e66b6119d397ba2fe75e3996822c1a70fd95db744bc"
  else if b = oneSubject.domainBytes "candy/sdwan-grant-request-v2" (some 1) then
    "84606c7c9d1c303a9b10e0db2bc22d5790e6bbeea1510cd4d1f45f1186ce82d4"
  else if b = oneSubject.domainBytes "candy/sdwan-grant-request-v2" (some 2) then
    "130e0e729eb230f46871e1c47475cf3ad70f9d7a076967700121c7d348bbaa7f"
  else other

/-- Any other input is spelled out behind a mark. -/
def oneDigest (b : Bytes) : String :=
  oneDigestOr (String.ofList ('?' :: b.map Char.ofUInt8)) b

theorem spelled_injective {a b : Bytes}
    (h : String.ofList ('?' :: a.map Char.ofUInt8)
      = String.ofList ('?' :: b.map Char.ofUInt8)) : a = b := by
  have hlist := (List.cons.inj (String.ofList_inj.mp h)).2
  refine List.map_injective_iff.mpr (fun x y hxy => ?_) hlist
  have hnat := congrArg (fun c : Char => c.val.toNat) hxy
  change x.toUInt32.toNat = y.toUInt32.toNat at hnat
  rw [UInt8.toNat_toUInt32, UInt8.toNat_toUInt32] at hnat
  exact UInt8.toNat_inj.mp hnat

/-- Three inputs have texts of their own, all others are spelled out. -/
theorem table_injective {k₀ k₁ k₂ : Bytes} {v₀ v₁ v₂ : String} (h₀₁ : v₀ ≠ v₁) (h₀₂ : v₀ ≠ v₂)
    (h₁₂ : v₁ ≠ v₂) (h : ∀ v ∈ [v₀, v₁, v₂], v.toList.head? ≠ some '?') :
    Function.Injective fun b : Bytes => if b = k₀ then v₀ else if b = k₁ then v₁
      else if b = k₂ then v₂ else String.ofList ('?' :: b.map Char.ofUInt8) := by
  have hmark (v : String) (hv : v ∈ [v₀, v₁, v₂]) (l : List Char) :
      v ≠ String.ofList ('?' :: l) := by
    intro heq
    have hhead := h v hv
    rw [heq, String.toList_ofList] at hhead
    exact hhead rfl
  intro a b hab
  dsimp only at hab
  -- Two inputs of the table, one of them and another input, or two other inputs.
  split_ifs at hab with ha hb hb hb ha hb hb hb ha hb hb hb hb hb hb
  all_goals first
    | exact ha.trans hb.symm
    | exact absurd hab (by assumption)
    | exact absurd hab.symm (by assumption)
    | exact spelled_injective hab
    | exact absurd hab (hmark _ (by simp) _)
    | exact absurd hab.symm (hmark _ (by simp) _)

theorem oneDigest_injective : Function.Injective oneDigest :=
  table_injective (by decide) (by decide) (by decide) (by decide)

def oneResponse : GrantIssueResponse where
  grantId := Vector.replicate 16 4
  expiresAtUnix := 2000
  refreshAfterUnix := 1500
  replayed := false
  accessGrant := "b3BhcXVlIGdyYW50IHYx"

def oneReport : VerifiedGrantReport where
  schemaVersion := 1
  ok := true
  grantId := Vector.replicate 16 4
  tenantId := oneSubject.tenantId
  deviceId := oneSubject.deviceId
  deviceKeyId := oneSubject.deviceKeyId
  nodePoolId := oneSubject.nodePoolId
  servicePermission := "private.tun.connect"
  routePolicyId := oneSubject.projectionId
  routePolicyGeneration := oneSubject.projectionGeneration
  routePolicyContentHash := oneSubject.projectionContentHash
  notBeforeUnix := 900
  refreshAfterUnix := 1500
  expiresAtUnix := 2000

/-- A call for `oneSubject` in which everything works. -/
def oneCall (now validationNow : ℕ) (fetched : Fetched) : RefreshCall where
  subject := oneSubject
  now
  fetch _ := fetched
  verify _ := .ok oneReport
  validationNow := some validationNow
  reads := true
  stages := true
  cleansUp := true
  firstWrite := .done
  lastWrite := .done

/-- The first reply is lost, the second completes the issuance. -/
theorem grant_store_safe_completed :
    Safe oneDigest (GrantStore.empty.refreshes oneDigest
      [oneCall 1000 1000 (.transient (.other "response lost")),
        oneCall 1001 1001 (.response oneResponse)]).trace
    ∧ (activeOf ((GrantStore.empty.refreshes oneDigest
      [oneCall 1000 1000 (.transient (.other "response lost")),
        oneCall 1001 1001 (.response oneResponse)]).file oneDigest oneSubject)).2 = 1 :=
  ⟨(grant_store_safe _ oneDigest_injective.injOn).1, by decide +kernel⟩

end CandyRuntime.CloudSync
