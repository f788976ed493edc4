import CandyRuntime.NetdV1.FreshPolicyTheorems

/-!
# Make before break and a fresh installation

A replacement is staged in a table of its own, committed while the old declaration still stands,
and the old one is removed at the end. Everything that is removed should belong to the old
declaration alone, so that the host ends where a fresh installation of the replacement ends.

* `yields_reconfigure`, `yields_commit_replacement`, `yields_drainOld` : what the three operations
  do to the record and to the kernel.
* `make_before_break_ends_fresh_iff` : when the host ends there. The withdrawn prefixes stay in the
  record although the new table does not throw them, and the accept rules of the `DOCKER-USER`
  chain go with the old declaration although the new one needs them.
-/

namespace CandyRuntime.NetdV1

open Lib Lib.Proc NetdProto

/-! ## The three operations -/

/-- The record of `r` while `d` is brought up beside its declaration. -/
structure Replacing (r : TransactionRecord) (o : LeaseOwner) (d : PrepareDeclaration)
    (phase : TransactionPhase) (r' : TransactionRecord) : Prop where
  declaration : r'.declaration = r.declaration
  candidate : r'.recoveryCandidate = some d
  candidateOwner : r'.recoveryCandidateOwner = some o
  failedPrefixes : r'.failedPrefixes = r.failedPrefixes
  phase : r'.phase = phase

section Operations

variable {β : Type} {J : JournalFormat β} {K : Kernel} {r r' : TransactionRecord}
  {o o' : LeaseOwner} {d : PrepareDeclaration}

theorem neverReturns_unstageCandidate (e : NetworkError) :
    NeverReturns (unstageCandidate J d e) :=
  neverReturns_bind fun _ => neverReturns_bind fun _ => neverReturns_bind fun _ =>
    neverReturns_fail e

theorem neverReturns_commitFailed (e : NetworkError) : NeverReturns (commitFailed J d e) :=
  neverReturns_bind fun _ => neverReturns_bind fun _ => neverReturns_bind fun _ =>
    neverReturns_bind fun _ => neverReturns_fail e

theorem yields_stageReplacement :
    Yields (Finds (some r)) (stageReplacement J o d)
      (fun _ => Stands K (Beside (Replacing r o d .prepared)
        fun K' => ∃ plan, Clear d plan K ∧ K' = K.prepared d plan)) := by
  refine Yields.bind (Q := fun _ => Stands K (Beside (Replacing r o d .preparing)
      fun K' => K' = K))
    (Yields.pre (P := Stands K (Beside (fun r' => r' = r) fun K' => K' = K))
      (yields_amend_beside ?_) fun w hw => hw.beside rfl rfl) fun _ => ?_
  · rintro r' rfl
    exact ⟨rfl, rfl, rfl, rfl, rfl⟩
  refine Yields.bind (Q := fun _ => Stands K (Beside (Replacing r o d .preparing)
      fun K' => ∃ plan, Clear d plan K ∧ K' = K.prepared d plan))
    (Yields.handle ?_ neverReturns_unstageCandidate) fun _ => ?_
  · refine Yields.lift_bind fun _ _ => ?_
    refine Yields.bind (Q := fun _ => Stands K (Beside (Replacing r o d .preparing)
      fun K' => K' = K ∧ ∃ plan, Clear d plan K)) (yields_preflight_beside ?_) fun _ => ?_
    · rintro before K' rfl hperform
      obtain ⟨rfl, hfirewall, hrules, plan, hplan, hroutes⟩ := Kernel.perform_preflight hperform
      exact ⟨rfl, plan, hplan, hfirewall, hrules, hroutes⟩
    refine Yields.bind (Q := fun _ => Stands K (Beside (Replacing r o d .preparing)
      fun K' => K' = K ∧ ∃ plan, Clear d plan K)) (yields_call_beside ?_) fun _ => ?_
    · intro before K' h hperform
      rw [Kernel.perform_prepareLink hperform]
      exact h
    refine Yields.bind (Q := fun _ => Stands K (Beside (Replacing r o d .preparing)
      fun K' => ∃ plan, Clear d plan K
        ∧ K' = K.setRoutes d.tableId ((K.routes d.tableId).addRoutes plan)))
      (yields_call_beside ?_) fun _ => yields_call_beside ?_
    · rintro before K' ⟨rfl, plan, hclear⟩ hperform
      obtain ⟨plan', hplan', rfl⟩ := Kernel.perform_prepareRoutes hperform
      rw [hclear.eq hplan']
      exact ⟨plan, hclear, rfl⟩
    · rintro before K' ⟨plan, hclear, rfl⟩ hperform
      obtain ⟨plan', hplan', rfl⟩ := Kernel.perform_prepareFirewall hperform
      rw [hclear.eq hplan']
      exact ⟨plan, hclear, rfl⟩
  · exact yields_amend_beside fun r' h =>
      ⟨h.declaration, h.candidate, h.candidateOwner, h.failedPrefixes, rfl⟩

/-- A replacement is staged in another table, unless one was staged before. -/
theorem yields_reconfigure (hactive : r.phase = .active) (hne : r.declaration ≠ d) :
    Yields (Finds (some r)) (reconfigure J o d)
      (fun _ => Stands K fun m K' => r.recoveryCandidate ≠ none ∧ m = some r
        ∨ r.declaration.tableId ≠ d.tableId ∧ Beside (Replacing r o d .prepared)
          (fun K' => ∃ plan, Clear d plan K ∧ K' = K.prepared d plan) m K') := by
  refine Yields.lift_bind fun _ _ => yields_current_finds (Yields.lift_bind fun _ _ => ?_)
  rw [if_pos hactive]
  refine yields_current_finds (Yields.lift_bind fun _ _ => ?_)
  rw [if_neg hne]
  refine Yields.ensure_bind fun hdistinct => ?_
  cases hcandidate : r.recoveryCandidate with
  | none =>
    refine Yields.post yields_stageReplacement fun _ w hw => hw.mono fun m K' h => ?_
    exact .inr ⟨hdistinct.1, h⟩
  | some candidate =>
    intro w hw
    rw [wp_ensure]
    refine ⟨fun _ => hw.stands.mono fun m K' h => ?_, fun _ => trivial⟩
    exact .inl ⟨by simp, h.1⟩

/-- The commit of a staged replacement adds its rules. -/
theorem yields_commit_replacement {now timeout : UInt64} (hr : Replacing r o d .prepared r') :
    Yields (Finds (some r')) (commitWithDrain J o' now timeout)
      (fun _ => Stands K (Beside (Replacing r o d .draining)
        fun K' => ∃ plan, LinuxNetworkPlan.compile d = .ok plan
          ∧ K' = K.setRules d.tableId plan.policySelectors.toFinset)) := by
  refine yields_current_finds (Yields.lift_bind fun _ _ => ?_)
  rw [hr.phase, hr.candidate]
  dsimp only
  refine Yields.pre (P := Stands K (Beside (Replacing r o d .prepared) fun K' => K' = K)) ?_
    fun w hw => hw.beside hr rfl
  refine Yields.handle ?_ neverReturns_commitFailed
  refine Yields.bind (Q := fun _ => Stands K (Beside (Replacing r o d .prepared)
    fun K' => K' = K)) (yields_call_beside ?_) fun _ => ?_
  · intro before K' h hperform
    cases hperform
    exact h
  refine Yields.bind (yields_call_beside (S := fun K' => ∃ plan,
    LinuxNetworkPlan.compile d = .ok plan
      ∧ K' = K.setRules d.tableId plan.policySelectors.toFinset) ?_) fun _ => ?_
  · rintro before K' rfl hperform
    exact Kernel.perform_installPolicyRule hperform
  · exact yields_amend_beside fun r' h =>
      ⟨h.declaration, h.candidate, h.candidateOwner, h.failedPrefixes, rfl⟩

/-- An active record with a candidate is committed already. -/
theorem yields_commit_again {now timeout : UInt64} (hactive : r.phase = .active) :
    Yields (Finds (some r)) (commitWithDrain J o' now timeout)
      (fun _ => Stands K fun m _ => m = some r) := by
  refine yields_current_finds (Yields.lift_bind fun _ _ => ?_)
  rw [hactive]
  exact Yields.pure fun w hw => hw.stands.mono fun _ _ h => h.1

/-- Such a record cannot be drained. -/
theorem yields_drain_active {now : UInt64} {R : Unit → NetworkTransaction β → Prop}
    (hactive : r.phase = .active) (hcandidate : r.recoveryCandidate ≠ none) :
    Yields (Finds (some r)) (drainOld J o' now) R := by
  refine yields_current_finds (Yields.lift_bind fun _ _ => ?_)
  rw [if_neg fun h => hcandidate h.2, hactive]
  exact Yields.ensure_bind fun h => by cases h

/-- The kernel without what belongs to the old declaration `d`. -/
def Kernel.drained (K : Kernel) (d : PrepareDeclaration) (plan : LinuxNetworkPlan) : Kernel :=
  { (K.setRules d.tableId ∅).setFirewall d.tableId none with
    dockerUser := K.dockerUser.map removeDockerForwardCompatibility }.setRoutes d.tableId
      ((K.routes d.tableId).deleteRoutes plan)

/-- The record once the replacement has taken over. -/
structure Replaced (r : TransactionRecord) (o : LeaseOwner) (d : PrepareDeclaration)
    (r' : TransactionRecord) : Prop where
  owner : r'.owner = o
  declaration : r'.declaration = d
  failedPrefixes : r'.failedPrefixes = r.failedPrefixes

theorem yields_drainOld {now : UInt64} (hr : Replacing r o d .draining r') :
    Yields (Finds (some r')) (drainOld J o' now)
      (fun _ => Stands K (Beside (Replaced r o d) fun K' => ∃ plan,
        LinuxNetworkPlan.compileFields r.declaration = .ok plan
          ∧ K' = K.drained r.declaration plan)) := by
  refine yields_current_finds (Yields.lift_bind fun _ _ => ?_)
  rw [if_neg (by simp [hr.phase])]
  refine Yields.ensure_bind fun _ => Yields.ensure_bind fun _ => Yields.okOr_bind ?_
  intro candidate hcandidate
  rw [hr.candidate, Option.some_inj] at hcandidate
  subst candidate
  dsimp only
  rw [hr.candidateOwner, hr.declaration, Option.getD_some]
  refine Yields.pre (P := Stands K (Beside (Replacing r o d .draining) fun K' => K' = K)) ?_
    fun w hw => hw.beside hr rfl
  refine Yields.bind (Q := fun _ => Stands K (Beside (Replacing r o d .draining)
      fun K' => K' = K.setRules r.declaration.tableId ∅)) (yields_call_beside ?_) fun _ => ?_
  · rintro before K' rfl hperform
    exact Kernel.perform_removePolicyRule hperform
  refine Yields.bind (Q := fun _ => Stands K (Beside (Replacing r o d .draining)
      fun K' => K' = { (K.setRules r.declaration.tableId ∅).setFirewall r.declaration.tableId none
        with dockerUser := K.dockerUser.map removeDockerForwardCompatibility }))
    (yields_call_beside ?_) fun _ => ?_
  · rintro before K' rfl hperform
    exact Kernel.perform_removeFirewall hperform
  refine Yields.bind (yields_call_beside (S := fun K' => ∃ plan,
    LinuxNetworkPlan.compileFields r.declaration = .ok plan
      ∧ K' = K.drained r.declaration plan) ?_) fun _ => ?_
  · rintro before K' rfl hperform
    exact Kernel.perform_removeRoutes hperform
  · exact yields_amend_beside fun r' h => ⟨rfl, rfl, h.failedPrefixes⟩

end Operations

/-! ## Two ends -/

/-- Nothing of the two tables was installed on the host `f`, which has a `DOCKER-USER` chain if `h`
has one. -/
structure Host.FreshFor {β : Type} (f : Host β) (old new : UInt32) (h : Host β) : Prop where
  record : f.transaction.record = none
  routes : ∀ table, table = old ∨ table = new → f.kernel.routes table = ∅
  rules : ∀ table, table = old ∨ table = new → f.kernel.rules table = ∅
  firewall : ∀ table, table = old ∨ table = new → f.kernel.firewall table = none
  dockerUser : f.kernel.dockerUser.isSome = h.kernel.dockerUser.isSome

/-- The record and both tables of `h` are those of `f`. -/
structure Host.EndsLike {β : Type} (h : Host β) (old new : UInt32) (f : Host β) : Prop where
  record : ∃ r r', h.transaction.record = some r ∧ f.transaction.record = some r'
    ∧ r.declaration = r'.declaration ∧ r.owner = r'.owner
    ∧ r.failedPrefixes = r'.failedPrefixes
    ∧ ∀ p ∈ r.failedPrefixes, inScope r.declaration p = true
  routes : ∀ table, table = old ∨ table = new → h.kernel.routes table = f.kernel.routes table
  rules : ∀ table, table = old ∨ table = new → h.kernel.rules table = f.kernel.rules table
  firewall : ∀ table, table = old ∨ table = new → h.kernel.firewall table = f.kernel.firewall table
  dockerUser : h.kernel.dockerUser = f.kernel.dockerUser

/-- The clean-up of the declaration deletes every route of the table. -/
def CleanedUpBy (d : PrepareDeclaration) (table : RoutingTable) : Prop :=
  ∀ p, (table.lookup p = some .unicast → inScope d p = true)
    ∧ (table.lookup p = some .throw → Covers d p)

section Tables

variable {d : PrepareDeclaration} {plan : LinuxNetworkPlan} {table : RoutingTable}

theorem deleteRoutes_eq_empty_iff (hplan : LinuxNetworkPlan.compileFields d = .ok plan) :
    RoutingTable.deleteRoutes plan table = ∅ ↔ CleanedUpBy d table := by
  have hgone : ∀ p, (RoutingTable.deleteRoutes plan table).lookup p = none
      ↔ (table.lookup p = some .unicast → inScope d p = true)
        ∧ (table.lookup p = some .throw → Covers d p) := by
    intro p
    rw [RoutingTable.lookup_deleteRoutes, inScope_iff hplan, ← mem_cleanupThrowPrefixes hplan]
    rcases table.lookup p with _ | action
    · simp
    · cases action <;> simp
  constructor
  · intro hempty p
    rw [← hgone p, hempty, Finmap.lookup_empty]
  · intro hclean
    apply Finmap.ext_lookup
    intro p
    rw [Finmap.lookup_empty, hgone p]
    exact hclean p

/-- The residual routes that preflight lets pass are those of a fresh installation, unless one of
them throws a prefix that goes into the tunnel. -/
theorem addRoutes_eq_fresh_iff (hplan : LinuxNetworkPlan.compileFields d = .ok plan)
    (hconflict : table.routeConflict plan = false) :
    RoutingTable.addRoutes plan table = RoutingTable.addRoutes plan ∅
      ↔ ∀ p, inScope d p = true → table.lookup p ≠ some .throw := by
  have howned := RoutingTable.routeConflict_eq_false_iff.mp hconflict
  have hsame : ∀ p, (RoutingTable.addRoutes plan table).lookup p
        = (RoutingTable.addRoutes plan ∅).lookup p
      ↔ (inScope d p = true → table.lookup p ≠ some .throw) := by
    intro p
    have hremote := inScope_iff (p := p) hplan
    have hresidual := howned p
    rw [RoutingTable.lookup_addRoutes, RoutingTable.lookup_addRoutes, Finmap.lookup_empty,
      Option.none_or, hremote]
    generalize table.lookup p = found at hresidual ⊢
    rcases found with _ | action
    · simp
    · have howned := hresidual action rfl
      cases action with
      | unicast =>
        have hmem : p ∈ plan.remoteRoutes := by simpa [RoutingTable.isOwnedResidualRoute] using howned
        simp [hmem]
      | throw =>
        have hmem : p ∈ plan.cleanupThrowPrefixes := by
          simpa [RoutingTable.isOwnedResidualRoute] using howned
        rw [mem_cleanupThrowPrefixes hplan, covers_iff hplan] at hmem
        by_cases hp : p ∈ plan.remoteRoutes
        · simp [hp]
        · simp [hp, hmem.resolve_left hp]
  constructor
  · intro heq p
    rw [← hsame p, heq]
  · intro h
    exact Finmap.ext_lookup fun p => (hsame p).mpr (h p)

end Tables

/-! ## The whole replacement -/

section Hosts

variable {β : Type} {J : JournalFormat β} {h h₁ h₂ h₃ f f₁ f₂ : Host β} {r : TransactionRecord}
  {o o₁ o₂ o₃ : LeaseOwner} {d : PrepareDeclaration} {now₁ now₂ now₃ timeout₁ timeout₃ : UInt64}

/-- Where the three operations end, from the kernel `K`. -/
def Kernel.replaced (K : Kernel) (old new : PrepareDeclaration) (oldPlan plan : LinuxNetworkPlan) :
    Kernel :=
  ((K.prepared new plan).setRules new.tableId plan.policySelectors.toFinset).drained old oldPlan

/-- The three operations together. -/
theorem replaced_of_performs (hrecord : h.transaction.record = some r) (hactive : r.phase = .active)
    (hne : r.declaration ≠ d) (hreconfigure : h.Performs J (.reconfigure o d) h₁)
    (hcommit : h₁.Performs J (.commitWithDrain o₁ now₁ timeout₁) h₂)
    (hdrain : h₂.Performs J (.drainOld o₂ now₂) h₃) :
    r.declaration.tableId ≠ d.tableId ∧ Beside (Replaced r o d) (fun K' => ∃ oldPlan plan,
      LinuxNetworkPlan.compileFields r.declaration = .ok oldPlan ∧ Clear d plan h.kernel
        ∧ K' = h.kernel.replaced r.declaration d oldPlan plan)
      h₃.transaction.record h₃.kernel := by
  have hstaged := hreconfigure.elim hrecord (yields_reconfigure hactive hne)
  rcases hstaged with ⟨hcandidate, hrecord₁⟩ | ⟨htable, ⟨r₁, hrecord₁, hr₁⟩, plan, hclear, hK₁⟩
  · -- Nothing was staged, and the record that is left cannot be drained.
    exfalso
    have hrecord₂ := hcommit.elim hrecord₁ (yields_commit_again hactive)
    exact hdrain.elim (I := fun _ _ => False) hrecord₂ (yields_drain_active hactive hcandidate)
  · obtain ⟨⟨r₂, hrecord₂, hr₂⟩, plan₂, hplan₂, hK₂⟩ :=
      hcommit.elim hrecord₁ (yields_commit_replacement hr₁)
    obtain ⟨hr₃, oldPlan, holdPlan, hK₃⟩ := hdrain.elim hrecord₂ (yields_drainOld hr₂)
    refine ⟨htable, hr₃, oldPlan, plan, holdPlan, hclear, ?_⟩
    rw [hK₃, hK₂, hK₁, hclear.eq hplan₂]
    rfl

/-- A fresh prepare and commit. -/
theorem begun_of_performs (hrecord : f.transaction.record = none)
    (hprepare : f.Performs J (.prepare o d) f₁)
    (hcommit : f₁.Performs J (.commitWithDrain o₃ now₃ timeout₃) f₂) :
    Beside (Begun o d) (fun K' => ∃ plan, Clear d plan f.kernel
      ∧ K' = (f.kernel.prepared d plan).setRules d.tableId plan.policySelectors.toFinset)
      f₂.transaction.record f₂.kernel := by
  obtain ⟨⟨r₁, hrecord₁, hr₁, hphase⟩, plan, hclear, hK₁⟩ :=
    hprepare.elim hrecord yields_prepare
  obtain ⟨⟨r₂, hrecord₂, hr₂, -⟩, plan₂, hplan₂, hK₂⟩ :=
    hcommit.elim hrecord₁ (yields_commitWithDrain hr₁ hphase)
  refine ⟨⟨r₂, hrecord₂, hr₂⟩, plan, hclear, ?_⟩
  rw [hK₂, hK₁, hclear.eq hplan₂]

/-- The accept rules are gone at the end, where a fresh installation has put them. -/
theorem dockerUser_replaced_iff {chain chain' : Option DockerUser}
    (hsome : chain'.isSome = chain.isSome) :
    (chain.map stageDockerForwardCompatibility).map removeDockerForwardCompatibility
        = chain'.map stageDockerForwardCompatibility
      ↔ chain = none := by
  rcases chain with _ | ⟨acceptsIn, acceptsOut⟩
  · rcases chain' with _ | chain'
    · simp
    · cases hsome
  · rcases chain' with _ | ⟨acceptsIn', acceptsOut'⟩
    · cases hsome
    · simp [stageDockerForwardCompatibility, removeDockerForwardCompatibility]

/-- The replacement ends where a fresh installation ends exactly if nothing is withdrawn, there is
no `DOCKER-USER` chain, the old table holds nothing that its clean-up passes over, and no residual
route of the new table throws a prefix that goes into the tunnel. -/
theorem make_before_break_ends_fresh_iff (hrecord : h.transaction.record = some r)
    (hactive : r.phase = .active) (hne : r.declaration ≠ d)
    (hreconfigure : h.Performs J (.reconfigure o d) h₁)
    (hcommit : h₁.Performs J (.commitWithDrain o₁ now₁ timeout₁) h₂)
    (hdrain : h₂.Performs J (.drainOld o₂ now₂) h₃)
    (hfresh : f.FreshFor r.declaration.tableId d.tableId h)
    (hprepare : f.Performs J (.prepare o d) f₁)
    (hcommit' : f₁.Performs J (.commitWithDrain o₃ now₃ timeout₃) f₂) :
    h₃.EndsLike r.declaration.tableId d.tableId f₂
      ↔ r.failedPrefixes = [] ∧ h.kernel.dockerUser = none
        ∧ CleanedUpBy r.declaration (h.kernel.routes r.declaration.tableId)
        ∧ ∀ p, inScope d p = true → (h.kernel.routes d.tableId).lookup p ≠ some .throw := by
  obtain ⟨htable, ⟨r₃, hrecord₃, hr₃⟩, oldPlan, plan, holdPlan, hclear, hK₃⟩ :=
    replaced_of_performs hrecord hactive hne hreconfigure hcommit hdrain
  obtain ⟨⟨r', hrecord', hr'⟩, plan', hclear', hF₂⟩ :=
    begun_of_performs hfresh.record hprepare hcommit'
  cases hclear.eq hclear'.compile
  have hfields := LinuxNetworkPlan.compileFields_of_compile hclear.compile
  have hroute := LinuxNetworkPlan.routeTable_of_compile hclear.compile
  have hold : h₃.kernel.routes r.declaration.tableId
        = RoutingTable.deleteRoutes oldPlan (h.kernel.routes r.declaration.tableId)
      ∧ f₂.kernel.routes r.declaration.tableId = ∅ := by
    simp [hK₃, hF₂, Kernel.replaced, Kernel.drained, Kernel.prepared, htable,
      hfresh.routes _ (.inl rfl)]
  have hnew : h₃.kernel.routes d.tableId = RoutingTable.addRoutes plan (h.kernel.routes d.tableId)
      ∧ f₂.kernel.routes d.tableId = RoutingTable.addRoutes plan ∅ := by
    simp [hK₃, hF₂, Kernel.replaced, Kernel.drained, Kernel.prepared, htable.symm,
      hfresh.routes _ (.inr rfl)]
  have hrules : ∀ table, table = r.declaration.tableId ∨ table = d.tableId →
      h₃.kernel.rules table = f₂.kernel.rules table := by
    rintro table (rfl | rfl)
    · simp [hK₃, hF₂, Kernel.replaced, Kernel.drained, Kernel.prepared, htable,
        hfresh.rules _ (.inl rfl)]
    · simp [hK₃, hF₂, Kernel.replaced, Kernel.drained, Kernel.prepared, htable.symm]
  have hfirewall : ∀ table, table = r.declaration.tableId ∨ table = d.tableId →
      h₃.kernel.firewall table = f₂.kernel.firewall table := by
    rintro table (rfl | rfl)
    · simp [hK₃, hF₂, Kernel.replaced, Kernel.drained, Kernel.prepared, htable, hroute,
        hfresh.firewall _ (.inl rfl)]
    · simp [hK₃, hF₂, Kernel.replaced, Kernel.drained, Kernel.prepared, htable.symm, hroute]
  have hdocker : h₃.kernel.dockerUser = f₂.kernel.dockerUser ↔ h.kernel.dockerUser = none := by
    rw [hK₃, hF₂]
    exact dockerUser_replaced_iff hfresh.dockerUser
  constructor
  · intro hends
    obtain ⟨_, _, heq₃, heq', -, -, hfailed, -⟩ := hends.record
    rw [hrecord₃, Option.some_inj] at heq₃
    rw [hrecord', Option.some_inj] at heq'
    rw [← heq₃, ← heq', hr₃.failedPrefixes, hr'.failedPrefixes] at hfailed
    refine ⟨hfailed, hdocker.mp hends.dockerUser, ?_, ?_⟩
    · rw [← deleteRoutes_eq_empty_iff holdPlan, ← hold.1, ← hold.2]
      exact hends.routes _ (.inl rfl)
    · rw [← addRoutes_eq_fresh_iff hfields hclear.routes, ← hnew.1, ← hnew.2]
      exact hends.routes _ (.inr rfl)
  · rintro ⟨hfailed, hnone, hclean, hthrown⟩
    refine ⟨⟨r₃, r', hrecord₃, hrecord', ?_, ?_, ?_, ?_⟩, ?_, hrules, hfirewall, hdocker.mpr hnone⟩
    · rw [hr₃.declaration, hr'.declaration]
    · rw [hr₃.owner, hr'.owner]
    · rw [hr₃.failedPrefixes, hr'.failedPrefixes, hfailed]
    · rw [hr₃.failedPrefixes, hfailed]
      simp
    · rintro table (rfl | rfl)
      · rw [hold.1, hold.2, deleteRoutes_eq_empty_iff holdPlan]
        exact hclean
      · rw [hnew.1, hnew.2, addRoutes_eq_fresh_iff hfields hclear.routes]
        exact hthrown

end Hosts

/-! ## Two hosts -/

namespace Sample

/-- A host on which nothing was installed, with the given `DOCKER-USER` chain. -/
def dockerHost (chain : Option DockerUser) : Host TransactionRecord :=
  { host with kernel := { Kernel.bare with dockerUser := chain } }

/-- The owner of the next generation. -/
def successor : LeaseOwner := { owner with generation := 4 }

/-- The site is active, and its replacement is staged, committed and takes over. -/
def sited (chain : Option DockerUser) : Host TransactionRecord :=
  ((dockerHost chain).next exactFormat (.prepare owner declaration)).next exactFormat
    (.commitWithDrain owner 10 50)

def staged (chain : Option DockerUser) : Host TransactionRecord :=
  (sited chain).next exactFormat (.reconfigure successor replacement)

def committed (chain : Option DockerUser) : Host TransactionRecord :=
  (staged chain).next exactFormat (.commitWithDrain successor 20 50)

def drainedHost (chain : Option DockerUser) : Host TransactionRecord :=
  (committed chain).next exactFormat (.drainOld successor 70)

/-- The replacement on a host of its own. -/
def alone (chain : Option DockerUser) : Host TransactionRecord :=
  (dockerHost chain).next exactFormat (.prepare successor replacement)

def aloneCommitted (chain : Option DockerUser) : Host TransactionRecord :=
  (alone chain).next exactFormat (.commitWithDrain successor 20 50)

/-- Each operation of the two runs returns. -/
structure Runs (chain : Option DockerUser) : Prop where
  reconfigure : (sited chain).Performs exactFormat (.reconfigure successor replacement)
    (staged chain)
  commit : (staged chain).Performs exactFormat (.commitWithDrain successor 20 50) (committed chain)
  drain : (committed chain).Performs exactFormat (.drainOld successor 70) (drainedHost chain)
  prepare : (dockerHost chain).Performs exactFormat (.prepare successor replacement) (alone chain)
  commitAlone : (alone chain).Performs exactFormat (.commitWithDrain successor 20 50)
    (aloneCommitted chain)

theorem runs_none : Runs none := by
  constructor
  all_goals exact Host.performs_next (by decide) (by decide)

theorem runs_some : Runs (some { acceptsIn := false, acceptsOut := false }) := by
  constructor
  all_goals exact Host.performs_next (by decide) (by decide)

/-- The active record of the site. -/
theorem sited_record (chain : Option DockerUser)
    (h : (sited chain).transaction.record.map (fun r =>
      (r.declaration, r.phase, r.failedPrefixes)) = some (declaration, .active, [])) :
    ∃ r, (sited chain).transaction.record = some r ∧ r.declaration = declaration
      ∧ r.phase = .active ∧ r.failedPrefixes = [] := by
  obtain ⟨r, hr, hfields⟩ := Option.map_eq_some_iff.mp h
  rw [Prod.mk.injEq, Prod.mk.injEq] at hfields
  exact ⟨r, hr, hfields⟩

theorem freshFor_dockerHost {chain : Option DockerUser} {old new : UInt32}
    (h : chain.isSome = (sited chain).kernel.dockerUser.isSome) :
    (dockerHost chain).FreshFor old new (sited chain) :=
  ⟨rfl, fun _ _ => rfl, fun _ _ => rfl, fun _ _ => rfl, h⟩

end Sample

/-- Without a `DOCKER-USER` chain the site ends where its replacement alone ends. -/
theorem replaced_site_ends_fresh : (Sample.drainedHost none).EndsLike Sample.declaration.tableId
    Sample.replacement.tableId (Sample.aloneCommitted none) := by
  obtain ⟨r, hr, hdeclaration, hactive, hfailed⟩ := Sample.sited_record none (by decide)
  have hends := make_before_break_ends_fresh_iff hr hactive (by rw [hdeclaration]; decide)
    Sample.runs_none.reconfigure Sample.runs_none.commit Sample.runs_none.drain
    (Sample.freshFor_dockerHost (by decide)) Sample.runs_none.prepare
    Sample.runs_none.commitAlone
  rw [hdeclaration, hfailed] at hends
  refine hends.mpr ⟨rfl, by decide, ?_, ?_⟩
  · have hkeys : ∀ p ∈ ((Sample.sited none).kernel.routes 20000).keys,
        (((Sample.sited none).kernel.routes 20000).lookup p = some .unicast →
            inScope Sample.declaration p = true)
          ∧ (((Sample.sited none).kernel.routes 20000).lookup p = some .throw →
            ∃ e ∈ Sample.declaration.exclusions, e.ipv4Prefix = p) := by
      decide
    intro p
    constructor
    · exact fun hp => (hkeys p (Finmap.mem_keys.mpr (Finmap.mem_of_lookup_eq_some hp))).1 hp
    · exact fun hp => .inr (.inl
        ((hkeys p (Finmap.mem_keys.mpr (Finmap.mem_of_lookup_eq_some hp))).2 hp))
  · have hempty : ((Sample.sited none).kernel.routes 20001).keys = ∅ := by decide
    intro p _ hp
    have hmem := Finmap.mem_keys.mpr (Finmap.mem_of_lookup_eq_some hp)
    change p ∈ ((Sample.sited none).kernel.routes 20001).keys at hmem
    rw [hempty] at hmem
    exact absurd hmem (Finset.notMem_empty p)

/-- With the chain the accept rules are gone, which the replacement alone has put there. -/
theorem replaced_site_loses_accept_rules : ¬ ∀ (h h₁ h₂ h₃ f f₁ f₂ : Host TransactionRecord)
    (r : TransactionRecord) (o : LeaseOwner) (d : PrepareDeclaration),
    h.transaction.record = some r → r.phase = .active → r.declaration ≠ d →
    h.Performs exactFormat (.reconfigure o d) h₁ →
    h₁.Performs exactFormat (.commitWithDrain o 20 50) h₂ →
    h₂.Performs exactFormat (.drainOld o 70) h₃ →
    f.FreshFor r.declaration.tableId d.tableId h →
    f.Performs exactFormat (.prepare o d) f₁ →
    f₁.Performs exactFormat (.commitWithDrain o 20 50) f₂ →
    h₃.EndsLike r.declaration.tableId d.tableId f₂ := by
  intro hall
  have hruns := Sample.runs_some
  obtain ⟨r, hr, hdeclaration, hactive, -⟩ := Sample.sited_record
    (some { acceptsIn := false, acceptsOut := false }) (by decide)
  have hends := hall _ _ _ _ _ _ _ r _ _ hr hactive (by rw [hdeclaration]; decide)
    hruns.reconfigure hruns.commit hruns.drain (Sample.freshFor_dockerHost (by decide))
    hruns.prepare hruns.commitAlone
  have hdocker := hends.dockerUser
  revert hdocker
  decide

end CandyRuntime.NetdV1
