import CandyRuntime.CloudSync.Identity
import CandyRuntime.Lib.Success
import Mathlib.Data.Int.Order.Lemmas
import Mathlib.Data.List.Nodup

/-!
# A replacement of the identity that fails

The rollback restores the files before the one whose replacement failed. If that replacement failed in
front of its rename, all files are the old ones. It can also fail behind it, when the directory
cannot be synced: then its file is new, and if it is the identity document, the mark that the renewal
is complete stands beside the old certificate. Nothing else goes wrong (`oldIdentityKept_iff`).
-/

namespace CandyRuntime.CloudSync.Identity

open Lib Lib.Proc

variable {E : Host} {fates : AtomicStep → Fate} {name other : String} {bytes : Bytes}
  {d d₀ : Directory} {replacements before rest previous entries : List Entry}
  {certificates : List Entry} {document : Entry} {content : Option Bytes}

@[simp] theorem put_same : put name bytes d name = some bytes := if_pos rfl

theorem put_other (h : other ≠ name) : put name bytes d other = d other := if_neg h

/-! ## One file -/

/-- Every step works. -/
def Works (fates : AtomicStep → Fate) : Prop := ∀ step, fates step = .works

/-- The file is replaced, and the directory cannot be synced. -/
def FailsLate (fates : AtomicStep → Fate) : Prop :=
  (∀ step, step ≠ .syncDirectory → fates step = .works) ∧ fates .syncDirectory = .fails

theorem wp_takeStep {step : AtomicStep} {Q : Unit → Directory → Prop}
    {R : IdentityError → Directory → Prop} {C : Directory → Prop} :
    wp (takeStep fates step) Q R C d ↔ (fates step = .works → Q () d)
      ∧ (fates step = .fails → R (.atomic step) d) ∧ (fates step = .killed → C d) := by
  unfold takeStep wp
  cases fates step with
  | works => simp
  | fails => simp
  | killed => simp

/-- The steps in front of the rename leave the directory alone. -/
theorem wp_takeSteps (steps : List AtomicStep) :
    wp (takeSteps fates steps) (fun _ d' => d' = d ∧ ∀ step ∈ steps, fates step = .works)
      (fun _ d' => d' = d ∧ ∃ step ∈ steps, fates step ≠ .works) (fun d' => d' = d) d := by
  induction steps with
  | nil => exact ⟨rfl, fun step hstep => absurd hstep (List.not_mem_nil)⟩
  | cons step steps ih =>
    rw [takeSteps, wp_bind, wp_takeStep]
    refine ⟨fun hworks => ?_, fun hfails => ?_, fun _ => rfl⟩
    · refine wp_mono ih (fun _ d' h => ⟨h.1, ?_⟩) (fun _ d' h => ⟨h.1, ?_⟩) fun _ h => h
      · exact List.forall_mem_cons.mpr ⟨hworks, h.2⟩
      · obtain ⟨other, hmem, hother⟩ := h.2
        exact ⟨other, List.mem_cons_of_mem _ hmem, hother⟩
    · exact ⟨rfl, step, List.mem_cons_self, by simp [hfails]⟩

/-- How a write ends: the file is replaced, is as before, or is replaced and reported as a failure. -/
theorem wp_atomicBytes : wp (atomicBytes fates name bytes)
    (fun _ d' => d' = put name bytes d ∧ Works fates)
    (fun _ d' => d' = d ∨ (d' = put name bytes d ∧ FailsLate fates))
    (fun d' => d' = d ∨ d' = put name bytes d) d := by
  unfold atomicBytes
  rw [wp_bind]
  refine wp_mono (wp_takeSteps _) ?_ (fun _ _ h => .inl h.1) fun _ h => .inl h
  rintro _ d' ⟨rfl, hbefore⟩
  have hearlier : ∀ step, step ≠ .syncDirectory → fates step = .works := by
    intro step hstep
    cases step with
    | syncDirectory => exact absurd rfl hstep
    | _ => exact hbefore _ (by decide)
  rw [wp_bind, wp_modify, wp_takeStep]
  refine ⟨fun hworks => ⟨rfl, fun step => ?_⟩, fun hfails => .inr ⟨rfl, hearlier, hfails⟩,
    fun _ => .inr rfl⟩
  by_cases hstep : step = .syncDirectory
  · rw [hstep]
    exact hworks
  · exact hearlier step hstep

theorem takeSteps_works (steps : List AtomicStep)
    (h : ∀ step ∈ steps, fates step = .works) : takeSteps fates steps d = (.ok (), d) := by
  induction steps with
  | nil => rfl
  | cons step steps ih =>
    have hstep : takeStep fates step d = (.ok (), d) := by
      unfold takeStep
      rw [h step List.mem_cons_self]
    rw [takeSteps, bind_of_ok hstep]
    exact ih fun other hother => h other (List.mem_cons_of_mem _ hother)

theorem atomicBytes_works (h : Works fates) :
    atomicBytes fates name bytes d = (.ok (), put name bytes d) := by
  unfold atomicBytes
  rw [bind_of_ok (takeSteps_works _ fun step _ => h step)]
  show takeStep fates .syncDirectory (put name bytes d) = _
  unfold takeStep
  rw [h]

theorem atomicBytes_failsLate (h : FailsLate fates) :
    atomicBytes fates name bytes d = (.err (.atomic .syncDirectory), put name bytes d) := by
  unfold atomicBytes
  rw [bind_of_ok (takeSteps_works _ fun step hstep => h.1 step ?_)]
  · show takeStep fates .syncDirectory (put name bytes d) = _
    unfold takeStep
    rw [h.2]
  · rintro rfl
    revert hstep
    decide

/-- A write leaves the other files alone. -/
theorem preserves_atomicBytes (hother : other ≠ name) :
    Preserves (fun d => d other = content) (atomicBytes fates name bytes) := by
  intro d hd
  have hput : put name bytes d other = content := (put_other hother).trans hd
  refine wp_mono wp_atomicBytes ?_ ?_ ?_
  · rintro _ d' ⟨rfl, _⟩
    exact hput
  · rintro _ d' (rfl | ⟨rfl, _⟩)
    · exact hd
    · exact hput
  · rintro d' (rfl | rfl)
    · exact hd
    · exact hput

/-! ## The rollback -/

/-- The rollback leaves the files it is not about alone. -/
theorem preserves_restore {turn : ℕ} {failed : Option IdentityError}
    (hother : other ∉ entries.map Prod.fst) :
    Preserves (fun d => d other = content) (restore E turn entries failed) := by
  induction entries generalizing turn failed with
  | nil => exact Preserves.pure _
  | cons entry entries ih =>
    rw [List.map_cons, List.mem_cons, not_or] at hother
    unfold restore
    exact Preserves.bind (Preserves.errorOf (preserves_atomicBytes hother.1)) fun _ => ih hother.2

/-- A rollback without an error has restored every file. -/
theorem wp_restore {turn : ℕ} {failed : Option IdentityError}
    (hold : ∀ entry ∈ entries, d₀ entry.1 = some entry.2) :
    wp (restore E turn entries failed)
      (fun result d' => result = none → failed = none
        ∧ ∀ x, (x ∈ entries.map Prod.fst → d' x = d₀ x)
          ∧ (x ∉ entries.map Prod.fst → d' x = d x))
      (fun _ _ => False) (fun _ => True) d := by
  induction entries generalizing turn failed d with
  | nil => exact fun hnone => ⟨hnone, fun x => ⟨fun hx => absurd hx (List.not_mem_nil), fun _ => rfl⟩⟩
  | cons entry entries ih =>
    have hrest := fun e he => hold e (List.mem_cons_of_mem entry he)
    unfold restore
    rw [wp_bind, wp_errorOf]
    refine wp_mono wp_atomicBytes ?_ ?_ fun _ _ => trivial
    · rintro _ d' ⟨rfl, _⟩
      refine wp_mono (ih hrest) (fun result d' h hnone => ?_) (fun _ _ h => h) fun _ h => h
      obtain ⟨hfailed, hfiles⟩ := h hnone
      refine ⟨hfailed, fun x => ⟨fun hx => ?_, fun hx => ?_⟩⟩
      · by_cases hlater : x ∈ entries.map Prod.fst
        · exact (hfiles x).1 hlater
        · have hhead : x = entry.1 := (List.mem_cons.mp hx).resolve_right hlater
          rw [(hfiles x).2 hlater, hhead, put_same, hold entry List.mem_cons_self]
      · rw [List.map_cons, List.mem_cons, not_or] at hx
        rw [(hfiles x).2 hx.2, put_other hx.1]
    · intro error d' _
      refine wp_mono (ih hrest) (fun result d' h hnone => ?_) (fun _ _ h => h) fun _ h => h
      exact absurd (h hnone).1 (by simp)

theorem restore_works (turn : ℕ) (entries : List Entry) (hworks : ∀ k, Works (E.restores k)) :
    ∃ d', restore E turn entries none d = (.ok none, d') := by
  induction entries generalizing turn d with
  | nil => exact ⟨d, rfl⟩
  | cons entry entries ih =>
    have hone : errorOf (atomicBytes (E.restores turn) entry.1 entry.2) d
        = (.ok none, put entry.1 entry.2 d) := by
      unfold errorOf
      rw [atomicBytes_works (hworks turn)]
    unfold restore
    rw [bind_of_ok hone]
    exact ih (turn + 1)

/-! ## The loop -/

/-- The files whose replacement comes first, and those that are read before it. -/
structure Recorded (d₀ : Directory) (replacements previous : List Entry) : Prop where
  names : previous.map Prod.fst = replacements.map Prod.fst
  contents : ∀ entry ∈ previous, d₀ entry.1 = some entry.2

/-- A replacement fails behind its rename, and its file has another content than before then: the
replacements in front of it work and are about other files. -/
def FailsBehind (E : Host) (d₀ : Directory) (replacements : List Entry) : Prop :=
  ∃ before entry rest, replacements = before ++ entry :: rest
    ∧ (∀ i < before.length, Works (E.replaces i)) ∧ FailsLate (E.replaces before.length)
    ∧ entry.1 ∉ before.map Prod.fst ∧ d₀ entry.1 ≠ some entry.2

theorem Recorded.restored (h : Recorded d₀ (before ++ rest) previous) :
    (previous.take before.length).map Prod.fst = before.map Prod.fst
      ∧ ∀ entry ∈ (previous.take before.length).reverse, d₀ entry.1 = some entry.2 := by
  constructor
  · have hlength : before.length = (before.map Prod.fst).length := (List.length_map _).symm
    rw [List.map_take, h.names, List.map_append, hlength]
    exact List.take_left
  · intro entry hentry
    exact h.contents entry (List.mem_of_mem_take (List.mem_reverse.mp hentry))

/-- The files in front of a failure, restored. -/
theorem wp_restore_before (h : Recorded d₀ (before ++ rest) previous) :
    wp (restore E 0 (previous.take before.length).reverse none)
      (fun result d' => result = none →
        ∀ x, (x ∈ before.map Prod.fst → d' x = d₀ x) ∧ (x ∉ before.map Prod.fst → d' x = d x))
      (fun _ _ => False) (fun _ => True) d := by
  obtain ⟨hnames, hold⟩ := h.restored
  refine wp_mono (wp_restore hold) (fun result d' hresult hnone => ?_) (fun _ _ h => h) fun _ h => h
  have hfiles := (hresult hnone).2
  rw [List.map_reverse, hnames] at hfiles
  simpa using hfiles

theorem works_succ (h : ∀ i < before.length, Works (E.replaces i)) {entry : Entry}
    (hnext : Works (E.replaces before.length)) :
    ∀ i < (before ++ [entry]).length, Works (E.replaces i) := by
  intro i hi
  rw [List.length_append, List.length_singleton] at hi
  by_cases hlast : i = before.length
  · rw [hlast]
    exact hnext
  · exact h i (by omega)

/-- When no replacement fails behind its rename, the rollback leaves the directory it started
from. -/
theorem wp_replaceFrom_restored (before : List Entry)
    (hprevious : Recorded d₀ (before ++ rest) previous)
    (hlate : ¬ FailsBehind E d₀ (before ++ rest))
    (hworks : ∀ i < before.length, Works (E.replaces i))
    (huntouched : ∀ x, x ∉ before.map Prod.fst → d x = d₀ x) :
    wp (replaceFrom E previous before.length rest) (fun _ _ => True)
      (fun e d' => (∃ error, e = .oldIdentityRestored error) → d' = d₀) (fun _ => True) d := by
  induction rest generalizing before d with
  | nil => trivial
  | cons entry rest ih =>
    unfold replaceFrom
    rw [wp_bind, wp_errorOf]
    refine wp_mono wp_atomicBytes ?_ ?_ fun _ _ => trivial
    · rintro _ d' ⟨rfl, hone⟩
      have happend : before ++ entry :: rest = (before ++ [entry]) ++ rest := by
        rw [List.append_assoc, List.singleton_append]
      rw [happend] at hprevious hlate
      have hnext := ih _ hprevious hlate (works_succ hworks hone) (d := put entry.1 entry.2 d) ?_
      · rw [List.length_append, List.length_singleton] at hnext
        exact hnext
      · intro x hx
        rw [List.map_append, List.mem_append, not_or, List.map_singleton, List.mem_singleton] at hx
        rw [put_other hx.2, huntouched x hx.1]
    · intro error d₁ hd₁
      dsimp only
      rw [wp_bind]
      refine wp_mono (wp_restore_before hprevious) (fun result d' hresult => ?_)
        (fun _ _ h => h.elim) fun _ _ => trivial
      cases result with
      | some rollbackError =>
        rintro ⟨_, hwrapped⟩
        cases hwrapped
      | none =>
        intro _
        funext x
        by_cases hx : x ∈ before.map Prod.fst
        · exact (hresult rfl x).1 hx
        · rw [(hresult rfl x).2 hx]
          rcases hd₁ with rfl | ⟨rfl, hbehind⟩
          · exact huntouched x hx
          · by_cases hentry : x = entry.1
            · -- the late file is the same as before, or else the failure counts
              rw [hentry, put_same]
              by_contra hchanged
              exact hlate ⟨before, entry, rest, rfl, hworks, hbehind, hentry ▸ hx,
                fun hsame => hchanged hsame.symm⟩
            · rw [put_other hentry, huntouched x hx]

/-- The identity document is as before, or every certificate is the new one. -/
def Marked (d₀ : Directory) (certificates : List Entry) (document : Entry) (d : Directory) : Prop :=
  d document.1 = d₀ document.1 ∨ ∀ entry ∈ certificates, d entry.1 = some entry.2

/-- A rollback that is not about the document leaves it as it was. -/
theorem wp_rollback_marked (hprevious : Recorded d₀ (before ++ rest) previous)
    (hmark : document.1 ∉ before.map Prod.fst) (hd : d document.1 = d₀ document.1)
    (error : IdentityError) :
    wp (do
        match ← restore E 0 (previous.take before.length).reverse none with
        | some rollbackError => fail (.rollbackFailed error rollbackError)
        | none => fail (.oldIdentityRestored error) : Files Unit)
      (fun _ => Marked d₀ certificates document) (fun _ => Marked d₀ certificates document)
      (Marked d₀ certificates document) d := by
  have hother : document.1 ∉ ((previous.take before.length).reverse).map Prod.fst := by
    rw [List.map_reverse, hprevious.restored.1, List.mem_reverse]
    exact hmark
  rw [wp_bind]
  refine wp_mono (preserves_restore hother d hd) (fun result d' h => ?_) (fun _ _ h => .inl h)
    fun _ h => .inl h
  cases result with
  | none => exact .inl h
  | some _ => exact .inl h

/-- When no replacement fails behind its rename, the document is replaced after all the others. -/
theorem wp_replaceFrom_marked (before : List Entry) {pending : List Entry}
    (hprevious : Recorded d₀ (before ++ (pending ++ [document])) previous)
    (hlate : ¬ FailsBehind E d₀ (before ++ (pending ++ [document])))
    (hworks : ∀ i < before.length, Works (E.replaces i))
    (hnodup : ((before ++ pending).map Prod.fst).Nodup)
    (hmark : document.1 ∉ (before ++ pending).map Prod.fst)
    (hchanges : d₀ document.1 ≠ some document.2)
    (hinstalled : ∀ entry ∈ before, d entry.1 = some entry.2)
    (hdocument : d document.1 = d₀ document.1) :
    wp (replaceFrom E previous before.length (pending ++ [document]))
      (fun _ => Marked d₀ (before ++ pending) document)
      (fun _ => Marked d₀ (before ++ pending) document)
      (Marked d₀ (before ++ pending) document) d := by
  induction pending generalizing before d with
  | nil =>
    rw [List.append_nil] at *
    have hcertificates : ∀ entry ∈ before,
        put document.1 document.2 d entry.1 = some entry.2 := by
      intro entry hentry
      rw [put_other, hinstalled entry hentry]
      rintro hname
      exact hmark (hname ▸ List.mem_map_of_mem hentry)
    rw [List.nil_append]
    unfold replaceFrom
    rw [wp_bind, wp_errorOf]
    refine wp_mono wp_atomicBytes ?_ ?_ ?_
    · rintro _ d' ⟨rfl, _⟩
      exact .inr hcertificates
    · rintro error d' (rfl | ⟨rfl, hbehind⟩)
      · exact wp_rollback_marked hprevious hmark hdocument error
      · exact absurd ⟨before, document, [], rfl, hworks, hbehind, hmark, hchanges⟩ hlate
    · rintro d' (rfl | rfl)
      · exact .inl hdocument
      · exact .inr hcertificates
  | cons entry pending ih =>
    have happend : ∀ more : List Entry, before ++ entry :: more = (before ++ [entry]) ++ more := by
      intro more
      rw [List.append_assoc, List.singleton_append]
    have hother : document.1 ≠ entry.1 := by
      rw [happend pending, List.map_append, List.map_append, List.mem_append, List.mem_append, not_or,
        not_or, List.map_singleton, List.mem_singleton] at hmark
      exact hmark.1.2
    have hput : put entry.1 entry.2 d document.1 = d₀ document.1 :=
      (put_other hother).trans hdocument
    rw [List.cons_append]
    unfold replaceFrom
    rw [wp_bind, wp_errorOf]
    refine wp_mono wp_atomicBytes ?_ ?_ ?_
    · rintro _ d' ⟨rfl, hone⟩
      rw [List.cons_append, happend] at hprevious hlate
      rw [happend] at hnodup hmark ⊢
      have hnext := ih _ hprevious hlate (works_succ hworks hone) hnodup hmark
        (d := put entry.1 entry.2 d) ?_ hput
      · rw [List.length_append, List.length_singleton] at hnext
        exact hnext
      · intro earlier hearlier
        rcases List.mem_append.mp hearlier with hmem | hmem
        · rw [put_other, hinstalled earlier hmem]
          intro hname
          rw [List.map_append, List.map_append, List.append_assoc, List.nodup_append] at hnodup
          exact hnodup.2.2 earlier.1 (List.mem_map_of_mem hmem) entry.1 (by simp) hname
        · rw [List.mem_singleton.mp hmem, put_same]
    · have hmark : document.1 ∉ before.map Prod.fst := by
        rw [List.map_append, List.mem_append, not_or] at hmark
        exact hmark.1
      rintro error d' (rfl | ⟨rfl, _⟩)
      · exact wp_rollback_marked hprevious hmark hdocument error
      · exact wp_rollback_marked hprevious hmark hput error
    · rintro d' (rfl | rfl)
      · exact .inl hdocument
      · exact .inl hput

/-! ## The whole replacement -/

/-- The files of the bundle can be read. -/
def Readable (E : Host) (d : Directory) (replacements : List Entry) : Prop :=
  ∀ entry ∈ replacements, E.reads entry.1 = true
    ∧ ∃ contents, d entry.1 = some contents ∧ contents ≠ [] ∧ contents.length ≤ 1024 * 1024

theorem wp_readBounded : wp (readBounded E name)
    (fun contents d' => d' = d ∧ E.reads name = true ∧ d name = some contents ∧ contents ≠ []
      ∧ contents.length ≤ 1024 * 1024)
    (fun e d' => d' = d ∧ e = .read name) (fun _ => False) d := by
  unfold readBounded
  rw [wp_bind, wp_ensure]
  refine ⟨fun hreads => ?_, fun _ => ⟨rfl, rfl⟩⟩
  rw [wp_bind, wp_get, wp_bind, wp_okOr]
  refine ⟨fun contents hcontents => ?_, fun _ => ⟨rfl, rfl⟩⟩
  rw [wp_bind, wp_ensure]
  exact ⟨fun hbounded => ⟨rfl, hreads, hcontents, hbounded⟩, fun _ => ⟨rfl, rfl⟩⟩

theorem wp_readPrevious : wp (readPrevious E replacements)
    (fun previous d' => d' = d ∧ Recorded d replacements previous ∧ Readable E d replacements)
    (fun e d' => d' = d ∧ ∃ name, e = .read name) (fun _ => False) d := by
  induction replacements with
  | nil =>
    exact ⟨rfl, ⟨rfl, fun _ h => absurd h (List.not_mem_nil)⟩, fun _ h => absurd h (List.not_mem_nil)⟩
  | cons entry replacements ih =>
    unfold readPrevious
    rw [wp_bind]
    refine wp_mono wp_readBounded ?_ (fun _ _ h => ⟨h.1, _, h.2⟩) fun _ h => h
    rintro contents d' ⟨rfl, hreads, hcontents, hne, hlength⟩
    rw [wp_bind]
    refine wp_mono ih ?_ (fun _ _ h => h) fun _ h => h
    rintro previous d' ⟨rfl, hrecorded, hreadable⟩
    refine ⟨rfl, ⟨?_, ?_⟩, ?_⟩
    · rw [List.map_cons, List.map_cons, hrecorded.names]
    · exact List.forall_mem_cons.mpr ⟨hcontents, hrecorded.contents⟩
    · exact List.forall_mem_cons.mpr ⟨⟨hreads, contents, hcontents, hne, hlength⟩, hreadable⟩

theorem readPrevious_of_readable (h : Readable E d replacements) :
    ∃ previous, readPrevious E replacements d = (.ok previous, d)
      ∧ Recorded d replacements previous := by
  induction replacements with
  | nil => exact ⟨[], rfl, rfl, fun _ h => absurd h (List.not_mem_nil)⟩
  | cons entry replacements ih =>
    obtain ⟨previous, hrun, hrecorded⟩ := ih fun e he => h e (List.mem_cons_of_mem _ he)
    obtain ⟨hreads, contents, hcontents, hne, hlength⟩ := h entry List.mem_cons_self
    have hone : readBounded E entry.1 d = (.ok contents, d) := by
      have hsucceeds : Succeeds (readBounded E entry.1) (fun bytes d' => bytes = contents ∧ d' = d)
          d := by
        unfold readBounded
        simp [hreads, hcontents, hne, hlength]
      obtain ⟨bytes, d', hread, rfl, rfl⟩ := (succeeds_iff _).mp hsucceeds
      exact hread
    refine ⟨(entry.1, contents) :: previous, ?_, ?_, ?_⟩
    · unfold readPrevious
      rw [bind_of_ok hone, bind_of_ok hrun]
      rfl
    · rw [List.map_cons, List.map_cons, hrecorded.names]
    · exact List.forall_mem_cons.mpr ⟨hcontents, hrecorded.contents⟩

/-- The loop goes on behind the replacements that work. -/
theorem replaceFrom_append (previous before rest : List Entry) (index : ℕ)
    (hworks : ∀ i < before.length, Works (E.replaces (index + i))) :
    ∃ d', replaceFrom E previous index (before ++ rest) d
        = replaceFrom E previous (index + before.length) rest d'
      ∧ ∀ x, x ∉ before.map Prod.fst → d' x = d x := by
  induction before generalizing index d with
  | nil => exact ⟨d, rfl, fun _ _ => rfl⟩
  | cons entry before ih =>
    have hfirst : Works (E.replaces index) := hworks 0 (by simp)
    have hone : errorOf (atomicBytes (E.replaces index) entry.1 entry.2) d
        = (.ok none, put entry.1 entry.2 d) := by
      unfold errorOf
      rw [atomicBytes_works hfirst]
    have hnext : ∀ i < before.length, Works (E.replaces (index + 1 + i)) := by
      intro i hi
      have hi' := hworks (i + 1) (by simpa using hi)
      rwa [Nat.add_right_comm, Nat.add_assoc]
    obtain ⟨d', hrun, hother⟩ := ih (d := put entry.1 entry.2 d) (index + 1) hnext
    refine ⟨d', ?_, fun x hx => ?_⟩
    · rw [List.cons_append, replaceFrom, bind_of_ok hone]
      show replaceFrom E previous (index + 1) (before ++ rest) (put entry.1 entry.2 d) = _
      rw [hrun, List.length_cons, Nat.add_right_comm, Nat.add_assoc]
    · rw [List.map_cons, List.mem_cons, not_or] at hx
      rw [hother x hx.2, put_other hx.1]

/-- A replacement that fails behind its rename, with a rollback that works: the error says that the old
identity is back, and the file is new. -/
theorem replaceFrom_failsBehind {entry : Entry} (hrestores : ∀ k, Works (E.restores k))
    (hprevious : Recorded d₀ (before ++ entry :: rest) previous)
    (hbehind : FailsLate (E.replaces before.length)) (hfirst : entry.1 ∉ before.map Prod.fst) :
    ∃ d', replaceFrom E previous before.length (entry :: rest) d
        = (.err (.oldIdentityRestored (.atomic .syncDirectory)), d')
      ∧ d' entry.1 = some entry.2 := by
  have hone : errorOf (atomicBytes (E.replaces before.length) entry.1 entry.2) d
      = (.ok (some (.atomic .syncDirectory)), put entry.1 entry.2 d) := by
    unfold errorOf
    rw [atomicBytes_failsLate hbehind]
  obtain ⟨d', hrestore⟩ := restore_works (E := E) (d := put entry.1 entry.2 d) 0
    (previous.take before.length).reverse hrestores
  refine ⟨d', ?_, ?_⟩
  · rw [replaceFrom, bind_of_ok hone]
    dsimp only
    rw [bind_of_ok hrestore]
    rfl
  · have hspec := wp_restore_before (E := E) (d := put entry.1 entry.2 d) hprevious
    unfold wp at hspec
    rw [hrestore] at hspec
    rw [(hspec rfl entry.1).2 hfirst, put_same]

/-- The certificate of the document is due for renewal. -/
def Due (expiry : Bytes → ℤ) (d : Directory) (name : String) (now : ℤ) : Prop :=
  ∃ contents, d name = some contents ∧ certificateRenewalDue (expiry contents) now = true

/-- A certificate that is due stays due. -/
theorem certificateRenewalDue_mono {expiresAt now later : ℤ} (hlater : now ≤ later)
    (h : certificateRenewalDue expiresAt now = true) :
    certificateRenewalDue expiresAt later = true := by
  unfold certificateRenewalDue at *
  rw [decide_eq_true_eq] at *
  have hle : (expiresAt - later).tdiv 1000000000 ≤ (expiresAt - now).tdiv 1000000000 :=
    Int.tdiv_le_tdiv (by norm_num) (by omega)
  omega

/-- What a replacement may end with: after the error that says so, the old files; and the document of
a bundle is the new one only beside the new certificates, so that the renewal is still due while one
of them is missing. -/
structure BundleLaw (expiry : Bytes → ℤ) (d : Directory) (replacements : List Entry)
    (result : Outcome IdentityError Unit) (d' : Directory) : Prop where
  restored : ∀ error, result = .err (.oldIdentityRestored error) →
    ∀ entry ∈ replacements, d' entry.1 = d entry.1
  marked : ∀ certificates document, replacements = certificates ++ [document] →
    (replacements.map Prod.fst).Nodup → d document.1 ≠ some document.2 →
    d' document.1 = some document.2 → ∀ entry ∈ certificates, d' entry.1 = some entry.2
  due : ∀ certificates document, replacements = certificates ++ [document] →
    (replacements.map Prod.fst).Nodup → d document.1 ≠ some document.2 →
    (∃ entry ∈ certificates, d' entry.1 ≠ some entry.2) →
    ∀ now later, now ≤ later → Due expiry d document.1 now → Due expiry d' document.1 later

/-- The law holds however the rollback goes. -/
def OldIdentityKept (expiry : Bytes → ℤ) (E : Host) (d : Directory) (replacements : List Entry) :
    Prop :=
  ∀ restores result d',
    replaceIdentityBundle { E with restores } replacements d = (result, d') →
    BundleLaw expiry d replacements result d'

/-- A renewal leaves the old identity or marks the new one, unless a replacement fails behind its
rename. -/
theorem oldIdentityKept_iff (expiry : Bytes → ℤ) (E : Host) (d : Directory)
    (replacements : List Entry) :
    OldIdentityKept expiry E d replacements
      ↔ ¬ (Readable E d replacements ∧ FailsBehind E d replacements) := by
  constructor
  · rintro hkept ⟨hreadable, before, entry, rest, rfl, hworks, hbehind, hfirst, hchanges⟩
    let E' : Host := { E with restores := fun _ _ => .works }
    obtain ⟨previous, hread, hrecorded⟩ := readPrevious_of_readable (E := E') hreadable
    obtain ⟨d₁, hrun, hother⟩ := replaceFrom_append (E := E') (d := d) previous before
      (entry :: rest) 0 (by simpa using hworks)
    obtain ⟨d', hend, hnew⟩ := replaceFrom_failsBehind (E := E') (d := d₁) (fun _ _ => rfl)
      hrecorded hbehind hfirst
    have hresult : replaceIdentityBundle E' (before ++ entry :: rest) d
        = (.err (.oldIdentityRestored (.atomic .syncDirectory)), d') := by
      rw [replaceIdentityBundle, bind_of_ok hread, hrun, Nat.zero_add]
      exact hend
    have hold := (hkept _ _ _ hresult).restored _ rfl entry (by simp)
    exact hchanges (hold.symm.trans hnew)
  · intro hno restores result d' hrun
    have hlate : Readable E d replacements → ¬ FailsBehind { E with restores } d replacements :=
      fun hreadable hbehind => hno ⟨hreadable, hbehind⟩
    have hmarked : ∀ certificates document, replacements = certificates ++ [document] →
        (replacements.map Prod.fst).Nodup → d document.1 ≠ some document.2 →
        Marked d certificates document d' := by
      rintro certificates document rfl hnodup hchanges
      rw [List.map_append, List.nodup_append] at hnodup
      have hmark : document.1 ∉ certificates.map Prod.fst := fun hmem =>
        hnodup.2.2 _ hmem document.1 (by simp) rfl
      have hspec : wp (replaceIdentityBundle { E with restores } (certificates ++ [document]))
          (fun _ => Marked d certificates document) (fun _ => Marked d certificates document)
          (Marked d certificates document) d := by
        unfold replaceIdentityBundle
        rw [wp_bind]
        refine wp_mono wp_readPrevious ?_ (fun _ d' h => .inl (by rw [h.1])) fun _ h => h.elim
        rintro previous d' ⟨rfl, hrecorded, hreadable⟩
        exact wp_replaceFrom_marked [] hrecorded (hlate hreadable)
          (fun i hi => absurd hi (Nat.not_lt_zero i)) hnodup.1 hmark hchanges
          (fun entry hentry => absurd hentry (List.not_mem_nil)) rfl
      unfold wp at hspec
      rw [hrun] at hspec
      cases result with
      | ok _ => exact hspec
      | err _ => exact hspec
      | crash => exact hspec
    refine ⟨?_, ?_, ?_⟩
    · rintro error rfl entry _
      have hspec : wp (replaceIdentityBundle { E with restores } replacements) (fun _ _ => True)
          (fun e d' => (∃ error, e = .oldIdentityRestored error) → d' = d) (fun _ => True) d := by
        unfold replaceIdentityBundle
        rw [wp_bind]
        refine wp_mono wp_readPrevious ?_ ?_ fun _ h => h.elim
        · rintro previous d' ⟨rfl, hrecorded, hreadable⟩
          exact wp_replaceFrom_restored [] hrecorded (hlate hreadable)
            (fun i hi => absurd hi (Nat.not_lt_zero i)) fun _ _ => rfl
        · rintro e d' ⟨rfl, _⟩ _
          rfl
      unfold wp at hspec
      rw [hrun] at hspec
      rw [hspec ⟨error, rfl⟩]
    · intro certificates document hsplit hnodup hchanges hnew
      rcases hmarked certificates document hsplit hnodup hchanges with hsame | hall
      · exact absurd (hsame.symm.trans hnew) hchanges
      · exact hall
    · rintro certificates document hsplit hnodup hchanges ⟨entry, hentry, hmissing⟩ now later
        hlater ⟨contents, hcontents, hdue⟩
      rcases hmarked certificates document hsplit hnodup hchanges with hsame | hall
      · exact ⟨contents, hsame.trans hcontents, certificateRenewalDue_mono hlater hdue⟩
      · exact absurd (hall entry hentry) hmissing

namespace Sample

/-- The bundle of a renewal, and the directory before it. -/
def bundle : List Entry := renewedBundle [1] [2] [3] [4] [5]

def directory : Directory := fun name => if name ∈ bundle.map Prod.fst then some [0] else none

/-- Everything works but the sync of the directory behind the identity document. -/
def host : Host where
  reads _ := true
  replaces index step := if index = 4 ∧ step = .syncDirectory then .fails else .works
  restores _ _ := .works

end Sample

/-- The identity document stays behind, marks the renewal as complete, and stands beside the old
certificate; the error says that the old identity is restored. -/
theorem not_oldIdentityKept :
    (replaceIdentityBundle Sample.host Sample.bundle Sample.directory).1
        = .err (.oldIdentityRestored (.atomic .syncDirectory))
      ∧ (replaceIdentityBundle Sample.host Sample.bundle Sample.directory).2
        "device-identity-v1.json" = some [5]
      ∧ (replaceIdentityBundle Sample.host Sample.bundle Sample.directory).2
        "device-cert.der" = some [0]
      ∧ ∀ expiry, ¬ OldIdentityKept expiry Sample.host Sample.directory Sample.bundle := by
  have hresult : (replaceIdentityBundle Sample.host Sample.bundle Sample.directory).1
      = .err (.oldIdentityRestored (.atomic .syncDirectory)) := by decide
  have hdocument : (replaceIdentityBundle Sample.host Sample.bundle Sample.directory).2
      "device-identity-v1.json" = some [5] := by decide
  refine ⟨hresult, hdocument, by decide, fun expiry hkept => ?_⟩
  have hrun : replaceIdentityBundle Sample.host Sample.bundle Sample.directory
      = (_, (replaceIdentityBundle Sample.host Sample.bundle Sample.directory).2) :=
    Prod.ext hresult rfl
  have hlaw := hkept Sample.host.restores _ _ hrun
  have hold := hlaw.restored _ rfl ("device-identity-v1.json", [5]) (by decide)
  exact absurd (hold.symm.trans hdocument) (by decide)

end CandyRuntime.CloudSync.Identity
