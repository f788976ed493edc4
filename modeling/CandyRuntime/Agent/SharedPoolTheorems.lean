import CandyRuntime.Agent.SharedPool
import Mathlib.Data.Int.CardIntervalMod

/-!
# Whether domains are independent in a shared pool

The loop over the plans stops at the first plan that it cannot read or write. What comes before is
treated as it would be by itself, what comes after is left as it is, so the domains are independent
exactly if nothing that comes after such a plan still waits for its placement
(`keepsDomainsApart_iff`).
-/

namespace CandyRuntime.Agent.SharedPool

open Lib NetdProto

/-! ## One plan -/

theorem lookup_field {name other : String} {value : Json} {rest : List (String × Json)} :
    ((name, value) :: rest).lookup other = if other = name then some value else rest.lookup other := by
  by_cases h : other = name
  · simp [h]
  · have hbeq : (other == name) = false := beq_eq_false_iff_ne.mpr h
    simp [List.lookup_cons, hbeq, h]

theorem lookup_insertField {name other : String} {value : Json} {fields : List (String × Json)} :
    (insertField name value fields).lookup other
      = if other = name then some value else fields.lookup other := by
  induction fields with
  | nil => exact lookup_field
  | cons entry rest ih =>
    obtain ⟨first, old⟩ := entry
    unfold insertField
    by_cases hfirst : name = first
    · rw [if_pos hfirst, lookup_field, lookup_field, ← hfirst]
      by_cases h : other = name
      · rw [if_pos h, if_pos h]
      · rw [if_neg h, if_neg h, if_neg h]
    rw [if_neg hfirst]
    by_cases hlt : name < first
    · rw [if_pos hlt, lookup_field]
    rw [if_neg hlt, lookup_field, lookup_field, ih]
    by_cases hother : other = first
    · have hne : other ≠ name := fun h => hfirst (h.symm.trans hother)
      rw [if_pos hother, if_neg hne, if_pos hother]
    · rw [if_neg hother, if_neg hother]

/-- Setting the placement changes no other field. -/
theorem field_setPlacement {plan value plan' : Json} (h : setPlacement plan value = .ok plan') :
    plan'.field "placement" = value
      ∧ ∀ name ≠ "placement", plan'.field name = plan.field name := by
  cases plan with
  | obj fields =>
    obtain rfl := Except.ok.inj h
    refine ⟨by simp [Json.field, lookup_insertField], fun name hname => ?_⟩
    simp [Json.field, lookup_insertField, hname]
  | null =>
    obtain rfl := Except.ok.inj h
    refine ⟨by simp [Json.field], fun name hname => ?_⟩
    simp [Json.field, lookup_field, hname]
  | _ => cases h

theorem isPlaced_placement [Serialize SharedWorker] {config : Config}
    {revision revision' id : ℕ} {host : SharedWorker} {plan : Json}
    (hplan : plan.field "placement" = placement config revision' id host)
    (hle : revision ≤ revision') (hlt : revision' < 2 ^ 64) :
    isPlaced revision id host plan = true := by
  have hrevision : placementRevision plan = revision' := by
    unfold placementRevision
    rw [hplan]
    have hword : revision' < 18446744073709551616 := hlt
    simp [placement, Json.field, Json.asU64, List.lookup, hword]
  unfold isPlaced
  rw [hrevision, hplan]
  simp [placement, Json.field, Json.isNat, List.lookup, hle]

/-- `plan["placement"]` can be set. -/
def settable : Json → Bool
  | .obj _ => true
  | .null => true
  | _ => false

theorem settable_iff (plan value : Json) :
    settable plan = true ↔ ∃ plan', setPlacement plan value = .ok plan' := by
  cases plan <;> simp [settable, setPlacement]

section
variable [Serialize SharedWorker]
variable {p : Pass} {index : ℕ} {file file' : PlanFile} {files : List PlanFile}

namespace Pass

/-- The plan has its placement on a host, or it can get it. -/
def obtainable (p : Pass) (index : ℕ) (host : SharedWorker) (plan : Json) : Bool :=
  isPlaced p.desired.revision.toNat (workerOf p.desired.workers index) host plan
    || (settable plan && decide (placementRevision plan + 1 < 2 ^ 64) && p.writable index)

/-- The file cannot be read, or its plan cannot get its placement. -/
def fails (p : Pass) (index : ℕ) : PlanFile → Bool
  | .json plan =>
    match p.hosts (workerOf p.desired.workers index) with
    | none => false
    | some host => !p.obtainable index host.receipt.host plan
  | _ => true

/-- The plan does not have its placement yet, and can get it. -/
def waits (p : Pass) (index : ℕ) : PlanFile → Bool
  | .json plan =>
    match p.hosts (workerOf p.desired.workers index) with
    | none => false
    | some host => p.obtainable index host.receipt.host plan
      && !isPlaced p.desired.revision.toNat (workerOf p.desired.workers index) host.receipt.host plan
  | _ => false

/-- What is to become of one file, whatever the other files are: a readable plan with a host that is
up gets its placement and keeps its other fields, and every other file stays as it is. -/
structure Treated (p : Pass) (index : ℕ) (file file' : PlanFile) : Prop where
  placed : ∀ plan host, file = .json plan → p.hosts (workerOf p.desired.workers index) = some host →
    p.obtainable index host.receipt.host plan = true → ∃ plan', file' = .json plan'
      ∧ isPlaced p.desired.revision.toNat (workerOf p.desired.workers index) host.receipt.host plan'
        = true
      ∧ ∀ name ≠ "placement", plan'.field name = plan.field name
  unchanged : (∀ plan host, file = .json plan →
    p.hosts (workerOf p.desired.workers index) = some host →
    p.obtainable index host.receipt.host plan = false) → file' = file

end Pass

open Pass

theorem place_of_host (plan : Json) {host : Host}
    (hhost : p.hosts (workerOf p.desired.workers index) = some host) :
    (p.obtainable index host.receipt.host plan = true → ∃ plan', p.place index (.json plan) = .ok
        (.json plan')
      ∧ isPlaced p.desired.revision.toNat (workerOf p.desired.workers index) host.receipt.host plan'
        = true
      ∧ ∀ name ≠ "placement", plan'.field name = plan.field name)
      ∧ (p.obtainable index host.receipt.host plan = false →
        ∃ e, p.place index (.json plan) = .error e) := by
  unfold Pass.place Pass.obtainable
  simp only [hhost]
  by_cases hplaced : isPlaced p.desired.revision.toNat (workerOf p.desired.workers index)
      host.receipt.host plan = true
  · rw [if_pos hplaced, hplaced]
    exact ⟨fun _ => ⟨plan, rfl, hplaced, fun _ _ => rfl⟩, (fun h => by cases h)⟩
  rw [if_neg hplaced, Bool.eq_false_of_not_eq_true hplaced, Bool.false_or]
  by_cases hrevision : placementRevision plan + 1 < 2 ^ 64
  · have hleft : decide (2 ^ 64 ≤ placementRevision plan + 1) = false :=
      decide_eq_false (by omega)
    rw [hleft, decide_eq_true hrevision, Bool.and_true]
    have hset := settable_iff plan (placement p.config
      (max p.desired.revision.toNat (placementRevision plan + 1))
      (workerOf p.desired.workers index) host.receipt.host)
    have hword : max p.desired.revision.toNat (placementRevision plan + 1) < 2 ^ 64 := by
      have := p.desired.revision.toNat_lt
      omega
    simp only [refuseIf, Bool.false_eq_true, if_false, Bind.bind, Except.bind]
    cases hvalue : setPlacement plan (placement p.config
        (max p.desired.revision.toNat (placementRevision plan + 1))
        (workerOf p.desired.workers index) host.receipt.host) with
    | error e =>
      have hnot : settable plan = false := by
        rw [Bool.eq_false_iff]
        intro h
        obtain ⟨_, hok⟩ := hset.mp h
        rw [hvalue] at hok
        cases hok
      rw [hnot]
      exact ⟨(fun h => by cases h), fun _ => ⟨e, rfl⟩⟩
    | ok plan' =>
      rw [hset.mpr ⟨plan', hvalue⟩, Bool.true_and]
      obtain ⟨hplacement, hother⟩ := field_setPlacement hvalue
      have hplaced' := isPlaced_placement hplacement (Nat.le_max_left _ _) hword
      cases p.writable index with
      | true => exact ⟨fun _ => ⟨plan', rfl, hplaced', hother⟩, (fun h => by cases h)⟩
      | false => exact ⟨(fun h => by cases h), fun _ => ⟨_, rfl⟩⟩
  · have hfull : decide (2 ^ 64 ≤ placementRevision plan + 1) = true :=
      decide_eq_true (by omega)
    rw [hfull, decide_eq_false hrevision, Bool.and_false, Bool.false_and]
    exact ⟨(fun h => by cases h), fun _ => ⟨_, rfl⟩⟩

theorem place_ok_or_fails (p : Pass) (index : ℕ) (file : PlanFile) :
    (∃ file', p.place index file = .ok file' ∧ p.Treated index file file'
    ∧ p.fails index file = false) ∨ ((∃ e, p.place index file = .error e) ∧ p.fails index file = true) := by
  cases file with
  | missing => exact .inr ⟨⟨_, rfl⟩, rfl⟩
  | refused => exact .inr ⟨⟨_, rfl⟩, rfl⟩
  | json plan =>
    cases hhost : p.hosts (workerOf p.desired.workers index) with
    | none =>
      have hplace : p.place index (.json plan) = .ok (.json plan) := by
        unfold Pass.place
        simp only [hhost]
      refine .inl ⟨.json plan, hplace, ⟨?_, fun _ => rfl⟩, by simp only [Pass.fails, hhost]⟩
      rintro _ host _ hup _
      rw [hhost] at hup
      cases hup
    | some host =>
      obtain ⟨hok, herror⟩ := place_of_host plan hhost
      cases hobtainable : p.obtainable index host.receipt.host plan with
      | false => exact .inr ⟨herror hobtainable, by simp only [Pass.fails, hhost, hobtainable, Bool.not_false]⟩
      | true =>
        obtain ⟨plan', hplace, hplaced, hother⟩ := hok hobtainable
        refine .inl ⟨.json plan', hplace, ⟨?_, ?_⟩,
          by simp only [Pass.fails, hhost, hobtainable, Bool.not_true]⟩
        · rintro _ host' ⟨⟩ hup _
          obtain rfl := Option.some.inj (hhost.symm.trans hup)
          exact ⟨plan', rfl, hplaced, hother⟩
        · intro hnot
          have hfalse := hnot plan host rfl hhost
          rw [hobtainable] at hfalse
          cases hfalse

theorem waits_of_fails (h : p.fails index file = true) : p.waits index file = false := by
  cases file with
  | missing => rfl
  | refused => rfl
  | json plan =>
    cases hhost : p.hosts (workerOf p.desired.workers index) with
    | none => simp only [Pass.waits, hhost]
    | some host =>
      simp only [Pass.fails, hhost, Bool.not_eq_true'] at h
      simp only [Pass.waits, hhost, h, Bool.false_and]

/-- A file that is left as it is was treated, unless it waits. -/
theorem treated_self_iff : p.Treated index file file ↔ p.waits index file = false := by
  cases file with
  | missing => exact ⟨fun _ => rfl, fun _ => ⟨nofun, fun _ => rfl⟩⟩
  | refused => exact ⟨fun _ => rfl, fun _ => ⟨nofun, fun _ => rfl⟩⟩
  | json plan =>
    cases hhost : p.hosts (workerOf p.desired.workers index) with
    | none =>
      refine ⟨fun _ => by simp only [Pass.waits, hhost], fun _ => ⟨?_, fun _ => rfl⟩⟩
      intro _ host _ hup
      rw [hhost] at hup
      cases hup
    | some host =>
      simp only [Pass.waits, hhost]
      constructor
      · intro htreated
        cases hobtainable : p.obtainable index host.receipt.host plan with
        | false => rfl
        | true =>
          obtain ⟨plan', hsame, hplaced, _⟩ := htreated.placed plan host rfl hhost hobtainable
          obtain rfl := PlanFile.json.inj hsame
          rw [hplaced]
          rfl
      · intro hwaits
        refine ⟨?_, fun _ => rfl⟩
        rintro _ host' ⟨⟩ hup hobtainable
        obtain rfl := Option.some.inj (hhost.symm.trans hup)
        rw [hobtainable, Bool.true_and, Bool.not_eq_false'] at hwaits
        exact ⟨plan, rfl, hwaits, fun _ _ => rfl⟩

/-! ## The pass over the plans -/

/-- The pass stops at the position `k` behind `index`. -/
structure Stops (p : Pass) (index k : ℕ) (files files' : List PlanFile) : Prop where
  length : files'.length = files.length
  before : ∀ i < k, ∀ file, files[i]? = some file → ∃ file', files'[i]? = some file'
    ∧ p.place (index + i) file = .ok file' ∧ p.Treated (index + i) file file'
  after : ∀ i, k ≤ i → files'[i]? = files[i]?
  early : ∀ i < k, ∀ file, files[i]? = some file → p.fails (index + i) file = false
  fails : ∀ file, files[k]? = some file → p.fails (index + k) file = true

theorem stops_placeFrom (p : Pass) (index : ℕ) (files : List PlanFile) :
    ∃ k, Stops p index k files (p.placeFrom index files).2
      ∧ ((p.placeFrom index files).1 = .ok () ↔ files.length ≤ k) := by
  induction files generalizing index with
  | nil => exact ⟨0, ⟨rfl, nofun, fun _ _ => rfl, nofun, nofun⟩, iff_of_true rfl (Nat.le_refl 0)⟩
  | cons file rest ih =>
    rcases place_ok_or_fails p index file with ⟨file', hplace, htreated, hworks⟩ | ⟨⟨e, hplace⟩, hfails⟩
    · obtain ⟨k, hstops, hresult⟩ := ih (index + 1)
      simp only [Pass.placeFrom, hplace]
      have hshift : ∀ i, index + (i + 1) = index + 1 + i := by omega
      refine ⟨k + 1, ⟨?_, ?_, ?_, ?_, ?_⟩, ?_⟩
      · rw [List.length_cons, hstops.length, List.length_cons]
      · intro i hi other hother
        cases i with
        | zero =>
          obtain rfl : file = other := Option.some.inj hother
          exact ⟨file', rfl, hplace, htreated⟩
        | succ i =>
          rw [hshift i]
          exact hstops.before i (by omega) other hother
      · intro i hi
        cases i with
        | zero => omega
        | succ i => exact hstops.after i (by omega)
      · intro i hi other hother
        cases i with
        | zero =>
          obtain rfl : file = other := Option.some.inj hother
          exact hworks
        | succ i =>
          rw [hshift i]
          exact hstops.early i (by omega) other hother
      · intro other hother
        rw [hshift k]
        exact hstops.fails other hother
      · rw [hresult, List.length_cons]
        omega
    · simp only [Pass.placeFrom, hplace]
      refine ⟨0, ⟨rfl, nofun, fun _ _ => rfl, nofun, ?_⟩, ?_⟩
      · intro other hother
        obtain rfl : file = other := Option.some.inj hother
        exact hfails
      · refine iff_of_false nofun ?_
        rw [List.length_cons]
        omega

/-- Every file is treated, whatever the other files are. -/
def Independent (p : Pass) (files files' : List PlanFile) : Prop :=
  files'.length = files.length ∧ ∀ i file, files[i]? = some file →
    ∃ file', files'[i]? = some file' ∧ p.Treated i file file'

theorem independent_iff : Independent p files (p.placeFrom 0 files).2
    ↔ ∀ i j file other, files[i]? = some file → files[j]? = some other → j < i →
      p.fails j other = true → p.waits i file = false := by
  obtain ⟨k, hstops, _⟩ := stops_placeFrom p 0 files
  constructor
  · intro hindependent i j file other hfile hother hlt hfails
    -- the pass stopped at `j` or earlier
    have hk : k ≤ j := by
      by_contra hlate
      have hworks := hstops.early j (by omega) other hother
      rw [Nat.zero_add, hfails] at hworks
      cases hworks
    obtain ⟨file', hfile', htreated⟩ := hindependent.2 i file hfile
    rw [hstops.after i (by omega), hfile] at hfile'
    obtain rfl := Option.some.inj hfile'
    exact treated_self_iff.mp htreated
  · intro hundisturbed
    refine ⟨hstops.length, fun i file hfile => ?_⟩
    by_cases hi : i < k
    · obtain ⟨file', hfile', _, htreated⟩ := hstops.before i hi file hfile
      rw [Nat.zero_add] at htreated
      exact ⟨file', hfile', htreated⟩
    · refine ⟨file, (hstops.after i (by omega)).trans hfile, treated_self_iff.mpr ?_⟩
      have hlength : i < files.length := (List.getElem?_eq_some_iff.mp hfile).1
      have hstop := hstops.fails (files.get ⟨k, by omega⟩) (List.getElem?_eq_getElem (by omega))
      rw [Nat.zero_add] at hstop
      by_cases hsame : i = k
      · subst hsame
        have hsome := List.getElem?_eq_getElem hlength
        obtain rfl := Option.some.inj (hfile.symm.trans hsome)
        exact waits_of_fails hstop
      · exact hundisturbed i k file _ hfile (List.getElem?_eq_getElem (by omega)) (by omega) hstop

/-! ## The same pass again -/

theorem place_again (h : p.place index file = .ok file') : p.place index file' = .ok file' := by
  cases file with
  | missing => cases h
  | refused => cases h
  | json plan =>
    cases hhost : p.hosts (workerOf p.desired.workers index) with
    | none =>
      have hplace : p.place index (.json plan) = .ok (.json plan) := by
        unfold Pass.place
        simp only [hhost]
      obtain rfl := Except.ok.inj (hplace.symm.trans h)
      exact hplace
    | some host =>
      obtain ⟨hok, herror⟩ := place_of_host plan hhost
      cases hobtainable : p.obtainable index host.receipt.host plan with
      | false =>
        obtain ⟨e, he⟩ := herror hobtainable
        rw [he] at h
        cases h
      | true =>
        obtain ⟨plan', hplace, hplaced, _⟩ := hok hobtainable
        obtain rfl := Except.ok.inj (hplace.symm.trans h)
        unfold Pass.place
        simp only [hhost]
        rw [if_pos hplaced]

theorem placeFrom_again (p : Pass) (index : ℕ) (files : List PlanFile) :
    p.placeFrom index (p.placeFrom index files).2 = p.placeFrom index files := by
  induction files generalizing index with
  | nil => rfl
  | cons file rest ih =>
    cases hplace : p.place index file with
    | error e => simp only [Pass.placeFrom, hplace]
    | ok file' => simp only [Pass.placeFrom, hplace, place_again hplace, ih]

/-- Two passes place alike if they have the same hosts for the desired workers. -/
theorem placeFrom_congr {p' : Pass} (hconfig : p'.config = p.config)
    (hdesired : p'.desired = p.desired) (hwritable : p'.writable = p.writable)
    (hhosts : ∀ i, p'.hosts (workerOf p.desired.workers i) = p.hosts (workerOf p.desired.workers i)) :
    p'.placeFrom index files = p.placeFrom index files := by
  have hplace : ∀ i file, p'.place i file = p.place i file := by
    intro i file
    cases file with
    | missing => rfl
    | refused => rfl
    | json plan =>
      unfold Pass.place
      simp only [hdesired, hconfig, hwritable, hhosts]
  induction files generalizing index with
  | nil => rfl
  | cons file rest ih => simp only [Pass.placeFrom, hplace, ih]

end

/-! ## A reconciliation -/

section
variable [Serialize SharedWorker]
variable {m : Manager} {s : Surroundings} {files : List PlanFile} {desired : Desired}

/-- The desired state can be read, it is valid, and it is within the budget for so many plans. -/
structure Admits (m : Manager) (s : Surroundings) (plans : ℕ) (desired : Desired) : Prop where
  read : s.desired = some desired
  valid : desiredInvalid m.config desired = false
  budget : withinBudget m.config desired plans = some true

theorem reconcile_refused (h : ∀ desired, ¬ Admits m s files.length desired) :
    ∃ e, m.reconcile s files = (.error e, m, files) := by
  unfold Manager.reconcile
  cases hread : s.desired with
  | none => exact ⟨_, rfl⟩
  | some desired =>
    simp only
    cases hvalid : desiredInvalid m.config desired with
    | true => exact ⟨_, rfl⟩
    | false =>
      rw [if_neg Bool.false_ne_true]
      cases hbudget : withinBudget m.config desired files.length with
      | none => exact ⟨_, rfl⟩
      | some within =>
        cases within with
        | false => exact ⟨_, rfl⟩
        | true => exact (h desired ⟨hread, hvalid, hbudget⟩).elim

omit [Serialize SharedWorker] in
theorem config_start (m : Manager) (id : ℕ) (a : StartAnswers) :
    (m.start id a).2.config = m.config := by
  have hlaunch : ∀ (m : Manager) expected, (launch m id expected a).2.config = m.config := by
    intro m expected
    unfold launch
    cases a.slotFree <;> cases a.socketCleared <;> cases a.spawned <;> cases a.ready <;>
      cases a.recorded <;> rfl
  have hadopt : ∀ m : Manager, (adopt m id a).2.config = m.config := by
    intro m
    unfold adopt
    split_ifs
    · rfl
    split
    · rfl
    split
    · exact hlaunch m _
    · rfl
    split
    · rfl
    · exact hlaunch m _
    · split_ifs <;> rfl
  unfold Manager.start
  split
  · exact hadopt m
  split_ifs
  · rfl
  split
  · rfl
  · rfl
  · exact hadopt _

omit [Serialize SharedWorker] in
theorem config_startAll (starts : ℕ → StartAnswers) (ids : List ℕ) (m : Manager) :
    (startAll starts ids m).2.config = m.config := by
  induction ids generalizing m with
  | nil => rfl
  | cons id rest ih =>
    have hrest := ih (m.start id (starts id)).2
    rw [config_start] at hrest
    unfold startAll
    simp only
    split <;> exact hrest

theorem reconcile_admitted (h : Admits m s files.length desired) :
    (m.reconcile s files).2.2 = ((m.pass s desired).placeFrom 0 files).2
      ∧ (m.reconcile s files).2.1.config = m.config
      ∧ ((m.reconcile s files).1 = .ok () ↔ ((m.pass s desired).placeFrom 0 files).1 = .ok ()
        ∧ (startAll s.starts (desiredIds desired) m).1 = []) := by
  have hconfig := config_startAll s.starts (desiredIds desired) m
  unfold Manager.reconcile
  simp only [h.read, h.valid, h.budget, Bool.false_eq_true, if_false]
  cases hresult : ((m.pass s desired).placeFrom 0 files).1 with
  | error e => exact ⟨rfl, hconfig, nofun, nofun⟩
  | ok _ =>
    simp only
    by_cases hnone : (startAll s.starts (desiredIds desired) m).1 = []
    · rw [if_pos hnone]
      exact ⟨rfl, hconfig, fun _ => ⟨trivial, hnone⟩, fun _ => rfl⟩
    · rw [if_neg hnone]
      exact ⟨rfl, hconfig, nofun, fun hboth => absurd hboth.2 hnone⟩

omit [Serialize SharedWorker] in
/-- No host gets more plans than the budget has been checked for. -/
theorem count_workerOf_le (h : Admits m s files.length desired) (id : ℕ) :
    Nat.count (fun i => workerOf desired.workers i = id) files.length
      ≤ m.config.maxDomainsPerWorker / 2 := by
  have hworkers : 0 < desired.workers := by
    have hvalid := h.valid
    simp only [desiredInvalid, Bool.not_eq_false', Bool.and_eq_true, decide_eq_true_eq] at hvalid
    omega
  have hbudget : (files.length + desired.workers - 1) / desired.workers * 2
      ≤ m.config.maxDomainsPerWorker := by
    have hbudget := h.budget
    simp only [withinBudget, Option.bind_eq_bind, Option.bind_eq_some_iff, Option.pure_def,
      Option.some.injEq, Bool.and_eq_true, decide_eq_true_eq] at hbudget
    obtain ⟨_, _, _, _, hall⟩ := hbudget
    exact hall.2
  -- the plans of a worker have one residue
  have hresidue : Nat.count (fun i => workerOf desired.workers i = id) files.length
      ≤ Nat.count (· ≡ id - 1 [MOD desired.workers]) files.length := by
    refine Nat.count_mono_left fun i _ hi => ?_
    unfold workerOf at hi
    have hlt := Nat.mod_lt i hworkers
    show i ≡ id - 1 [MOD desired.workers]
    rw [Nat.ModEq, Nat.mod_eq_of_lt (by omega : id - 1 < desired.workers)]
    omega
  have hceil : files.length / desired.workers
      + (if (id - 1) % desired.workers < files.length % desired.workers then 1 else 0)
      ≤ (files.length + desired.workers - 1) / desired.workers := by
    have hdivision := Nat.div_add_mod files.length desired.workers
    rw [Nat.le_div_iff_mul_le hworkers, Nat.add_mul, Nat.mul_comm (files.length / _)]
    split_ifs with hrest
    · omega
    · omega
  rw [Nat.count_modEq_card _ hworkers] at hresidue
  omega

/-! ## Independence of the domains -/

/-- Behind a reconciliation the starts of another one leave the desired hosts as they were. -/
def SameHosts (m : Manager) (s s' : Surroundings) (files : List PlanFile) : Prop :=
  ∀ desired, s.desired = some desired → ∀ id ∈ desiredIds desired,
    (startAll s'.starts (desiredIds desired) (m.reconcile s files).2.1).2.hosts id
      = (startAll s.starts (desiredIds desired) m).2.hosts id

/-- A reconciliation treats domains independently: without a valid desired state it leaves all files as
they are, else every file is treated whatever the other files are and no host gets more than half of
its domains; a second reconciliation with nothing changed leaves the files as they are; and the tasks
of the agent start if nothing fails but that plans are not there yet. -/
structure KeepsDomainsApart (m : Manager) (s : Surroundings) (files : List PlanFile) : Prop where
  refused : (∀ desired, ¬ Admits m s files.length desired) → (m.reconcile s files).2.2 = files
  independent : ∀ desired, Admits m s files.length desired →
    Independent (m.pass s desired) files (m.reconcile s files).2.2
  capacity : ∀ desired, Admits m s files.length desired → ∀ id,
    Nat.count (fun i => workerOf desired.workers i = id) files.length
      ≤ m.config.maxDomainsPerWorker / 2
  idempotent : ∀ s', s'.desired = s.desired → s'.writable = s.writable → SameHosts m s s' files →
    ((m.reconcile s files).2.1.reconcile s' (m.reconcile s files).2.2).2.2
      = (m.reconcile s files).2.2
  starts : ∀ desired, Admits m s files.length desired →
    (startAll s.starts (desiredIds desired) m).1 = [] →
    (∀ i file, files[i]? = some file → file ≠ .missing → (m.pass s desired).fails i file = false) →
    runStarts (some m) s files = true

/-- Behind a file that fails no plan waits for its placement, and no file is missing when nothing else
fails. -/
def Undisturbed (m : Manager) (s : Surroundings) (files : List PlanFile) : Prop :=
  ∀ desired, Admits m s files.length desired →
    (∀ i j file other, files[i]? = some file → files[j]? = some other → j < i →
      (m.pass s desired).fails j other = true → (m.pass s desired).waits i file = false)
    ∧ ((startAll s.starts (desiredIds desired) m).1 = [] →
      (∀ i file, files[i]? = some file → file ≠ .missing →
        (m.pass s desired).fails i file = false) → PlanFile.missing ∉ files)

theorem length_placeFrom (p : Pass) (index : ℕ) (files : List PlanFile) :
    (p.placeFrom index files).2.length = files.length := by
  obtain ⟨_, hstops, _⟩ := stops_placeFrom p index files
  exact hstops.length

/-- The loop comes to its end if and only if no file fails. -/
theorem placeFrom_ok_iff (p : Pass) (files : List PlanFile) : (p.placeFrom 0 files).1 = .ok ()
    ↔ ∀ i file, files[i]? = some file → p.fails i file = false := by
  obtain ⟨k, hstops, hresult⟩ := stops_placeFrom p 0 files
  rw [hresult]
  constructor
  · intro hlength i file hfile
    have hworks := hstops.early i
      (lt_of_lt_of_le (List.getElem?_eq_some_iff.mp hfile).1 hlength) file hfile
    rwa [Nat.zero_add] at hworks
  · intro hworks
    by_contra hshort
    have hfile := List.getElem?_eq_getElem (l := files) (i := k) (by omega)
    have hstop := hstops.fails _ hfile
    rw [Nat.zero_add, hworks k _ hfile] at hstop
    cases hstop

theorem reconcile_idempotent {s' : Surroundings} (hdesired : s'.desired = s.desired)
    (hwritable : s'.writable = s.writable) (hhosts : SameHosts m s s' files) :
    ((m.reconcile s files).2.1.reconcile s' (m.reconcile s files).2.2).2.2
      = (m.reconcile s files).2.2 := by
  by_cases hadmits : ∃ desired, Admits m s files.length desired
  · obtain ⟨desired, hadmits⟩ := hadmits
    obtain ⟨hfiles, hconfig, _⟩ := reconcile_admitted hadmits
    have hlength : (m.reconcile s files).2.2.length = files.length := by
      rw [hfiles, length_placeFrom]
    have hagain : Admits (m.reconcile s files).2.1 s' (m.reconcile s files).2.2.length desired :=
      { read := hdesired.trans hadmits.read
        valid := by rw [hconfig]; exact hadmits.valid
        budget := by rw [hconfig, hlength]; exact hadmits.budget }
    have hworkers : 0 < desired.workers := by
      have hvalid := hadmits.valid
      simp only [desiredInvalid, Bool.not_eq_false', Bool.and_eq_true, decide_eq_true_eq] at hvalid
      omega
    rw [(reconcile_admitted hagain).1]
    have hsame : ∀ i, ((m.reconcile s files).2.1.pass s' desired).hosts (workerOf desired.workers i)
        = (m.pass s desired).hosts (workerOf desired.workers i) := by
      intro i
      apply hhosts desired hadmits.read
      exact List.mem_map.mpr ⟨i % desired.workers, List.mem_range.mpr (Nat.mod_lt _ hworkers), rfl⟩
    have hplaces : ((m.reconcile s files).2.1.pass s' desired).placeFrom 0 (m.reconcile s files).2.2
        = (m.pass s desired).placeFrom 0 (m.reconcile s files).2.2 :=
      placeFrom_congr hconfig rfl hwritable hsame
    rw [hplaces, hfiles, placeFrom_again]
  · rw [not_exists] at hadmits
    obtain ⟨e, hrefused⟩ := reconcile_refused hadmits
    rw [hrefused]
    have hagain : ∀ desired, ¬ Admits m s' files.length desired := by
      intro desired h
      exact hadmits desired ⟨hdesired.symm.trans h.read, h.valid, h.budget⟩
    obtain ⟨e', hrefused'⟩ := reconcile_refused hagain
    show (m.reconcile s' files).2.2 = files
    rw [hrefused']

/-- A reconciliation treats domains independently exactly if its plans are undisturbed. -/
theorem keepsDomainsApart_iff : KeepsDomainsApart m s files ↔ Undisturbed m s files := by
  constructor
  · intro hapart desired hadmits
    obtain ⟨hfiles, _, hresult⟩ := reconcile_admitted hadmits
    have hindependent := hapart.independent desired hadmits
    rw [hfiles] at hindependent
    refine ⟨independent_iff.mp hindependent, fun hstarted hpresent hmissing => ?_⟩
    have hruns := hapart.starts desired hadmits hstarted hpresent
    have hok : (m.reconcile s files).1 = .ok () := by
      unfold runStarts at hruns
      cases hvalue : (m.reconcile s files).1 with
      | ok _ => rfl
      | error e =>
        simp only [hvalue] at hruns
        cases hruns
    -- the missing file has failed
    obtain ⟨i, hi, hfile⟩ := List.getElem_of_mem hmissing
    have hsome : files[i]? = some .missing := List.getElem?_eq_some_iff.mpr ⟨hi, hfile⟩
    have hworks := (placeFrom_ok_iff _ files).mp (hresult.mp hok).1 i .missing hsome
    cases hworks
  · intro hundisturbed
    refine ⟨?_, ?_, ?_, ?_, ?_⟩
    · intro hnone
      obtain ⟨e, hrefused⟩ := reconcile_refused hnone
      rw [hrefused]
    · intro desired hadmits
      rw [(reconcile_admitted hadmits).1]
      exact independent_iff.mpr (hundisturbed desired hadmits).1
    · intro desired hadmits id
      exact count_workerOf_le hadmits id
    · intro s' hdesired hwritable hhosts
      exact reconcile_idempotent hdesired hwritable hhosts
    · intro desired hadmits hstarted hpresent
      have hmissing := (hundisturbed desired hadmits).2 hstarted hpresent
      have hworks : ∀ i file, files[i]? = some file → (m.pass s desired).fails i file = false := by
        intro i file hfile
        refine hpresent i file hfile fun hsame => hmissing ?_
        rw [← hsame]
        exact List.mem_of_getElem? hfile
      have hok := (reconcile_admitted hadmits).2.2.mpr ⟨(placeFrom_ok_iff _ files).mpr hworks, hstarted⟩
      unfold runStarts
      simp only [hok]

end

/-! ## A plan that is not published yet -/

def hostJson (host : SharedWorker) : Json :=
  .obj [("identity", .obj [("pid", .int host.identity.pid.toNat),
    ("start_ticks", .int host.identity.startTicks.toNat)]), ("socket", .str host.socket)]

instance : Serialize SharedWorker where
  json := hostJson
  injective a b h := by
    simp only [hostJson, Json.obj.injEq, List.cons.injEq, Prod.mk.injEq, Json.int.injEq, Nat.cast_inj,
      Json.str.injEq, UInt32.toNat_inj, UInt64.toNat_inj] at h
    obtain ⟨_, ⟨_, _⟩⟩ := a
    obtain ⟨_, ⟨_, _⟩⟩ := b
    simp_all

def poolConfig : Config := ⟨"/run/pool", 4, 8, 24, 25165824, 256⟩

/-- The host of the only worker. -/
def poolHost : Host := ⟨⟨⟨"/run/pool/host-1.sock", ⟨41, 1000⟩⟩, 1, 2⟩, true⟩

def poolManager : Manager where
  config := poolConfig
  hosts := fun id => if id = 1 then some poolHost else none
  retry := fun _ => none

/-- The host answers its probe. -/
def poolAnswers : StartAnswers where
  probes := fun _ => true
  exited := fun _ => some false
  now := 0
  core := some (1, 2)
  record := .absent
  executable := none
  slotFree := true
  socketCleared := true
  spawned := none
  ready := false
  gaveUpAt := 0
  recorded := false

def poolSurroundings : Surroundings where
  desired := some ⟨1, 1, 1⟩
  starts := fun _ => poolAnswers
  writable := fun _ => true
  retires := fun _ => true

/-- The plan of a domain that has no placement yet. -/
def unplacedPlan : Json := .obj [("schema_version", .int 1)]

/-- A plan of Cloud is not published yet: the plan behind it does not get its placement. -/
theorem not_keepsDomainsApart :
    ¬ KeepsDomainsApart poolManager poolSurroundings [.missing, .json unplacedPlan] := by
  intro h
  have hadmits : Admits poolManager poolSurroundings 2 ⟨1, 1, 1⟩ :=
    ⟨rfl, by decide, by decide⟩
  obtain ⟨_, hall⟩ := h.independent _ hadmits
  obtain ⟨file', hfile', htreated⟩ := hall 1 (.json unplacedPlan) rfl
  have hleft : (poolManager.reconcile poolSurroundings [.missing, .json unplacedPlan]).2.2[1]?
      = some (.json unplacedPlan) := by
    decide
  obtain rfl := Option.some.inj (hleft.symm.trans hfile')
  have hwaits := treated_self_iff.mp htreated
  have htrue : (poolManager.pass poolSurroundings ⟨1, 1, 1⟩).waits 1 (.json unplacedPlan) = true := by
    decide
  rw [htrue] at hwaits
  cases hwaits

end CandyRuntime.Agent.SharedPool
