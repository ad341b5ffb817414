import OperatorController.Applier.Helm

/-!
# The order of `Apply`'s calls: preflights first

`Apply` must not touch a release before the preflights have looked at it.  This file proves, for
every extension, bundle, list of preflights and Helm state, what the list of calls `Apply` makes
(`Step.calls`) can look like.

* A preflight is skipped exactly when it is the CRD upgrade-safety preflight and the extension
  disables that preflight (`skips_iff`), and `Apply` never calls a skipped one
  (`mem_apply_preflight`).
* The preflights a check runs are `activeFrom ext 0 h.preflights`: those not skipped, in list
  order, with their positions.  When every one of them passes, the loop has called each of them
  once, in that order (`runPreflights_pass`); when one fails, the loop has called the ones before
  it and that one, and no other (`runPreflights_fail`).
* `Apply` installs only in the state `NeedsInstall` and upgrades only in the state `NeedsUpgrade`,
  and then its calls are exactly those of `getReleaseState`, the active preflights with that
  state's check, and the install or upgrade (`apply_mutates_after_preflights`).
* The first failing preflight ends `Apply` with its error, before any later preflight and any
  install, upgrade or reconcile (`apply_stops_at_first_failing_preflight`).

`apply_runs_preflights_first` puts the four together.
-/

set_option autoImplicit false

namespace OperatorController
namespace Applier

variable {σ Ch FS : Type}

/-! ## The preflights a check runs -/

/-- The preflights a check runs, from position `i` of the list on, with their positions: those
`Apply` does not skip, in order. -/
def activeFrom (ext : ClusterExtension) (i : Nat) (pfs : List Preflight) : List (Nat × Preflight) :=
  (pfs.enumFrom i).filter fun ip ↦ !skips ext ip.2

/-- The call asking the preflight at a position for a check on a release. -/
def preflightCall (c : Check) (rel : Option Release) (ip : Nat × Preflight) : Call :=
  .preflight ip.1 c rel

variable {ext : ClusterExtension} {state : ReleaseState} {d : Option Release}

theorem activeFrom_cons (i : Nat) (pf : Preflight) (pfs : List Preflight) :
    activeFrom ext i (pf :: pfs) =
      if skips ext pf then activeFrom ext (i + 1) pfs else (i, pf) :: activeFrom ext (i + 1) pfs := by
  by_cases hs : skips ext pf <;> simp [activeFrom, hs]

/-- When the loop runs through, it has called every active preflight once, in order, and each
passed. -/
theorem runPreflights_pass {c : Check} (hc : state.check? = some c) (i : Nat) (pfs : List Preflight)
    (h : (runPreflights ext state d i pfs).2 = .ok none) :
    (runPreflights ext state d i pfs).1 = (activeFrom ext i pfs).map (preflightCall c d) ∧
      ∀ ip ∈ activeFrom ext i pfs, ip.2.check c d = .ok none := by
  induction pfs generalizing i with
  | nil => simp [runPreflights, activeFrom]
  | cons pf pfs ih =>
    rw [activeFrom_cons]
    by_cases hs : skips ext pf
    · simp only [runPreflights, hs, if_true] at h ⊢
      exact ih (i + 1) h
    · rcases hr : pf.check c d with p | _ | err
      · simp [runPreflights, hs, hc, hr] at h
      · simp only [runPreflights, hs, hc, hr, Bool.false_eq_true, if_false] at h ⊢
        obtain ⟨h1, h2⟩ := ih (i + 1) h
        exact ⟨by simp [h1, preflightCall], by simpa [hr] using h2⟩
      · simp [runPreflights, hs, hc, hr] at h

/-- When the active preflight `ip` is the first to fail, the loop has called the ones before it and
`ip`, and returns what `ip` returned. -/
theorem runPreflights_fail {c : Check} (hc : state.check? = some c) :
    ∀ (i : Nat) (pfs : List Preflight) (pre : List (Nat × Preflight)) (ip : Nat × Preflight)
      (post : List (Nat × Preflight)), activeFrom ext i pfs = pre ++ ip :: post →
      (∀ jp ∈ pre, jp.2.check c d = .ok none) → ip.2.check c d ≠ .ok none →
      runPreflights ext state d i pfs = ((pre ++ [ip]).map (preflightCall c d), ip.2.check c d)
  | _, [], pre, _, _, hact, _, _ => by simp [activeFrom] at hact
  | i, pf :: pfs, pre, ip, post, hact, hpre, hip => by
    rw [activeFrom_cons] at hact
    by_cases hs : skips ext pf
    · simp only [hs, if_true] at hact
      simp only [runPreflights, hs, if_true]
      exact runPreflights_fail hc (i + 1) pfs pre ip post hact hpre hip
    · simp only [hs, Bool.false_eq_true, if_false] at hact
      simp only [runPreflights, hs, hc, Bool.false_eq_true, if_false]
      cases pre with
      | nil =>
        obtain ⟨rfl, -⟩ := List.cons.inj hact
        rcases hr : pf.check c d with p | _ | err
        · rfl
        · simp [hr] at hip
        · rfl
      | cons jp pre =>
        obtain ⟨rfl, hrest⟩ := List.cons.inj hact
        have hjp := hpre (i, pf) (List.mem_cons_self _ _)
        simp only at hjp
        rw [hjp, runPreflights_fail hc (i + 1) pfs pre ip post hrest
          (fun jp hjp ↦ hpre jp (List.mem_cons_of_mem _ hjp)) hip]
        rfl

theorem mem_runPreflights {call : Call} (i : Nat) (pfs : List Preflight)
    (h : call ∈ (runPreflights ext state d i pfs).1) :
    ∃ ip ∈ activeFrom ext i pfs, ∃ c, call = preflightCall c d ip := by
  induction pfs generalizing i with
  | nil => simp [runPreflights] at h
  | cons pf pfs ih =>
    rw [activeFrom_cons]
    by_cases hs : skips ext pf
    · simp only [runPreflights, hs, if_true] at h ⊢
      exact ih (i + 1) h
    · simp only [hs, Bool.false_eq_true, if_false, List.mem_cons, exists_eq_or_imp]
      simp only [runPreflights, hs, Bool.false_eq_true, if_false] at h
      split at h
      · exact .inr (ih (i + 1) h)
      · split at h
        · rcases List.mem_cons.mp h with rfl | h
          · exact .inl ⟨_, rfl⟩
          · exact .inr (ih (i + 1) h)
        · rw [List.mem_singleton] at h
          exact .inl ⟨_, h⟩

/-- In a state with no check, the loop calls nothing and runs through. -/
theorem runPreflights_of_check?_none (hc : state.check? = none) (i : Nat) (pfs : List Preflight) :
    runPreflights ext state d i pfs = ([], .ok none) := by
  induction pfs generalizing i with
  | nil => rfl
  | cons pf pfs ih => by_cases hs : skips ext pf <;> simp [runPreflights, hs, hc, ih]

/-- When the loop panics, a preflight it called panicked with the same value. -/
theorem runPreflights_panic {p : Panic} (i : Nat) (pfs : List Preflight)
    (h : (runPreflights ext state d i pfs).2 = .error p) :
    ∃ ip ∈ activeFrom ext i pfs, ∃ c, preflightCall c d ip ∈ (runPreflights ext state d i pfs).1 ∧
      ip.2.check c d = .error p := by
  induction pfs generalizing i with
  | nil => simp [runPreflights] at h
  | cons pf pfs ih =>
    rw [activeFrom_cons]
    by_cases hs : skips ext pf
    · simp only [runPreflights, hs, if_true] at h ⊢
      exact ih (i + 1) h
    simp only [hs, Bool.false_eq_true, if_false, List.mem_cons, exists_eq_or_imp]
    rcases hc : state.check? with _ | c <;>
      simp only [runPreflights, hs, hc, Bool.false_eq_true, if_false] at h ⊢
    · exact .inr (ih (i + 1) h)
    rcases hr : pf.check c d with q | _ | err <;> simp only [hr] at h ⊢
    · cases h
      exact .inl ⟨c, List.mem_singleton_self _, hr⟩
    · obtain ⟨ip, hip, c', hcall, hcheck⟩ := ih (i + 1) h
      exact .inr ⟨ip, hip, c', List.mem_cons_of_mem _ hcall, hcheck⟩
    · cases h

theorem mem_activeFrom_zero {ip : Nat × Preflight} {pfs : List Preflight}
    (h : ip ∈ activeFrom ext 0 pfs) : pfs[ip.1]? = some ip.2 ∧ skips ext ip.2 = false := by
  rw [activeFrom, List.mem_filter, ← List.enum] at h
  exact ⟨List.mem_enum_iff_getElem?.mp h.1, by simpa using h.2⟩

/-- A preflight of the list that `Apply` does not skip is active. -/
theorem mem_activeFrom_zero_of_mem {pf : Preflight} {pfs : List Preflight} (hmem : pf ∈ pfs)
    (hs : skips ext pf = false) : ∃ i, (i, pf) ∈ activeFrom ext 0 pfs := by
  obtain ⟨i, hi⟩ := List.mem_iff_getElem?.mp hmem
  refine ⟨i, ?_⟩
  rw [activeFrom, List.mem_filter, ← List.enum]
  exact ⟨List.mem_enum_iff_getElem?.mpr hi, by simp [hs]⟩

/-! ## Checks, states and the calls that change a release -/

/-- The state whose check is `c`. -/
def Check.releaseState : Check → ReleaseState
  | .install => .needsInstall
  | .upgrade => .needsUpgrade

/-- The call that installs or upgrades the release for real, after the check `c` passed. -/
def Check.call : Check → Call
  | .install => .install false
  | .upgrade => .upgrade false

theorem check?_eq_some {c : Check} : state.check? = some c ↔ state = c.releaseState := by
  cases state <;> cases c <;> simp [ReleaseState.check?, Check.releaseState]

theorem Check.call_injective {c c' : Check} (h : c.call = c'.call) : c = c' := by
  cases c <;> cases c' <;> simp_all [Check.call]

theorem skips_iff (pf : Preflight) : skips ext pf = true ↔ pf.isCRDUpgradeSafety = true ∧
    ∃ cfg, ext.spec.preflight = some ⟨some cfg⟩ ∧ cfg.disabled = true := by
  unfold skips
  split <;> simp_all

/-- `getReleaseState` only reads the release and asks for a dry-run upgrade. -/
theorem getReleaseState_calls (cl : ActionClient σ Ch) (s : σ) (chrt : Ch) (post : PostRenderer)
    {call : Call} (h : call ∈ (getReleaseState cl s ext chrt post).calls) :
    call = .get ext.name ∨ call = .upgrade true := by
  unfold getReleaseState at h
  split at h
  · split at h <;> simp_all
  · simp only at h
    split at h <;> simp_all

section perform
variable (ac : ActionClient σ Ch) (s : σ) (chrt : Ch) (post : PostRenderer) (labels : LabelMap)
  (rel : Option Release)

theorem perform_calls_of_check {c : Check} (hc : state.check? = some c) :
    (perform ac s ext chrt post labels rel state).calls = [c.call] := by
  rw [check?_eq_some.mp hc]
  cases c <;> rfl

theorem mem_perform_calls {call : Call} (h : call ∈ (perform ac s ext chrt post labels rel state).calls) :
    (∃ c, state.check? = some c ∧ call = c.call) ∨ call = .reconcile := by
  cases state <;> simp_all [ReleaseState.check?, perform, Check.call]

end perform

theorem Check.call_not_mem_getReleaseState {c : Check} (cl : ActionClient σ Ch) (s : σ) (chrt : Ch)
    (post : PostRenderer) : c.call ∉ (getReleaseState cl s ext chrt post).calls := fun hm ↦ by
  rcases getReleaseState_calls cl s chrt post hm with h | h <;> cases c <;> simp [Check.call] at h

theorem Check.call_not_mem_runPreflights {c : Check} (i : Nat) (pfs : List Preflight) :
    c.call ∉ (runPreflights ext state d i pfs).1 := fun hm ↦ by
  obtain ⟨_, _, _, h⟩ := mem_runPreflights i pfs hm
  cases c <;> simp [Check.call, preflightCall] at h

/-! ## The calls of `Apply` -/

namespace Helm
variable (h : Helm σ Ch) (deps : Deps FS Ch) (consts : Consts)

/-- The calls of `applyWith`: those of `getReleaseState`, then, if it succeeded, those of the
preflight loop, then, if every preflight passed, the one that installs, upgrades or reconciles. -/
theorem applyWith_calls (ac : ActionClient σ Ch) (s : σ) (chrt : Ch) (bundle : Bundle)
    (v : String) :
    (h.applyWith deps consts ac s ext chrt bundle v).calls =
      (getReleaseState ac s ext chrt (postFor consts ext bundle v)).calls ++
      match (getReleaseState ac s ext chrt (postFor consts ext bundle v)).result with
      | .error _ => []
      | .ok (rel, desired, state) =>
        (runPreflights ext state desired 0 h.preflights).1 ++
        match (runPreflights ext state desired 0 h.preflights).2 with
        | .ok none =>
          (perform ac (getReleaseState ac s ext chrt (postFor consts ext bundle v)).store ext chrt
            (postFor consts ext bundle v) (releaseLabels consts bundle v) rel state).calls
        | _ => [] := by
  unfold applyWith
  simp only
  cases (getReleaseState ac s ext chrt (postFor consts ext bundle v)).result with
  | error err => simp
  | ok r =>
    obtain ⟨rel, desired, state⟩ := r
    rcases hp : (runPreflights ext state desired 0 h.preflights).2 with p | _ | err
    · simp [hp]
    · simp only [hp]
      split <;> try split
      all_goals simp
    · simp [hp]

variable (s : σ) (contentFS : FS) (bundle : Bundle)

theorem mem_apply_preflight {i : Nat} {c : Check} {rel : Option Release}
    (hm : Call.preflight i c rel ∈ (h.apply deps consts s contentFS ext bundle).calls) :
    ∃ pf, h.preflights[i]? = some pf ∧ skips ext pf = false := by
  rcases hp : h.prepare deps contentFS ext bundle with err | ⟨ac, chrt, v⟩
  · simp [apply, hp] at hm
  simp only [apply, hp, applyWith_calls, List.mem_append] at hm
  rcases hm with hm | hm
  · simpa using getReleaseState_calls _ _ _ _ hm
  split at hm
  · simp at hm
  rcases List.mem_append.mp hm with hm | hm
  · obtain ⟨ip, hip, _, he⟩ := mem_runPreflights 0 _ hm
    obtain ⟨hget, hsk⟩ := mem_activeFrom_zero hip
    simp only [preflightCall, Call.preflight.injEq] at he
    exact ⟨ip.2, he.1 ▸ hget, hsk⟩
  split at hm
  · rcases mem_perform_calls _ _ _ _ _ _ hm with ⟨c, -, hc⟩ | hc <;> [cases c; skip] <;>
      simp [Check.call] at hc
  · simp at hm

theorem apply_mutates_after_preflights {c : Check}
    (hm : c.call ∈ (h.apply deps consts s contentFS ext bundle).calls) :
    ∃ ac chrt v rel desired, h.prepare deps contentFS ext bundle = .ok (ac, chrt, v) ∧
      (getReleaseState ac s ext chrt (postFor consts ext bundle v)).result =
        .ok (rel, desired, c.releaseState) ∧
      (h.apply deps consts s contentFS ext bundle).calls =
        (getReleaseState ac s ext chrt (postFor consts ext bundle v)).calls ++
          (activeFrom ext 0 h.preflights).map (preflightCall c desired) ++ [c.call] ∧
      ∀ ip ∈ activeFrom ext 0 h.preflights, ip.2.check c desired = .ok none := by
  rcases hp : h.prepare deps contentFS ext bundle with err | ⟨ac, chrt, v⟩
  · simp [apply, hp] at hm
  simp only [apply, hp, applyWith_calls] at hm ⊢
  rcases hg : (getReleaseState ac s ext chrt (postFor consts ext bundle v)).result
    with err | ⟨rel, desired, state⟩
  · simp only [hg, List.append_nil] at hm
    exact absurd hm (Check.call_not_mem_getReleaseState _ _ _ _)
  simp only [hg, List.mem_append, Check.call_not_mem_getReleaseState,
    Check.call_not_mem_runPreflights, false_or] at hm ⊢
  split at hm
  · rename_i hpf
    rcases mem_perform_calls _ _ _ _ _ _ hm with ⟨c', hc', he⟩ | he
    · obtain rfl := Check.call_injective he
      have hpass := runPreflights_pass hc' 0 h.preflights hpf
      refine ⟨ac, chrt, v, rel, desired, rfl, by rw [hg, check?_eq_some.mp hc'], ?_, hpass.2⟩
      rw [hpass.1, perform_calls_of_check _ _ _ _ _ _ hc', List.append_assoc]
    · cases c <;> simp [Check.call] at he
  · simp at hm

theorem apply_stops_at_first_failing_preflight {ac : ActionClient σ Ch} {chrt : Ch} {v : String}
    {rel desired : Option Release} {c : Check} {pre post : List (Nat × Preflight)}
    {ip : Nat × Preflight} {err : GoError}
    (hp : h.prepare deps contentFS ext bundle = .ok (ac, chrt, v))
    (hg : (getReleaseState ac s ext chrt (postFor consts ext bundle v)).result =
      .ok (rel, desired, state))
    (hc : state.check? = some c) (hact : activeFrom ext 0 h.preflights = pre ++ ip :: post)
    (hpre : ∀ jp ∈ pre, jp.2.check c desired = .ok none)
    (hip : ip.2.check c desired = .ok (some err)) :
    h.apply deps consts s contentFS ext bundle =
      ⟨(getReleaseState ac s ext chrt (postFor consts ext bundle v)).store,
        (getReleaseState ac s ext chrt (postFor consts ext bundle v)).calls ++
          (pre ++ [ip]).map (preflightCall c desired), .ok (.error err)⟩ := by
  have hrun := runPreflights_fail hc 0 h.preflights pre ip post hact hpre (by simp [hip])
  simp only [apply, hp, applyWith, hg, hrun, hip]

/-- `Apply` installs a release only in the state `NeedsInstall` and upgrades it only in the state
`NeedsUpgrade`, and only once every preflight it does not skip has passed that state's check on
the desired release, called in list order; it skips exactly the CRD upgrade-safety preflight of an
extension that disables it, and never calls a skipped preflight; and the first preflight to fail
ends `Apply` with its error, with no later preflight called and no install, upgrade or
reconcile. -/
theorem apply_runs_preflights_first :
    let run := h.apply deps consts s contentFS ext bundle
    (∀ pf, skips ext pf = true ↔ pf.isCRDUpgradeSafety = true ∧
      ∃ cfg, ext.spec.preflight = some ⟨some cfg⟩ ∧ cfg.disabled = true) ∧
    (∀ i c rel, Call.preflight i c rel ∈ run.calls →
      ∃ pf, h.preflights[i]? = some pf ∧ skips ext pf = false) ∧
    (∀ c : Check, c.call ∈ run.calls →
      ∃ ac chrt v rel desired, h.prepare deps contentFS ext bundle = .ok (ac, chrt, v) ∧
        (getReleaseState ac s ext chrt (postFor consts ext bundle v)).result =
          .ok (rel, desired, c.releaseState) ∧
        run.calls = (getReleaseState ac s ext chrt (postFor consts ext bundle v)).calls ++
          (activeFrom ext 0 h.preflights).map (preflightCall c desired) ++ [c.call] ∧
        ∀ ip ∈ activeFrom ext 0 h.preflights, ip.2.check c desired = .ok none) ∧
    (∀ ac chrt v rel desired state c pre ip post err,
      h.prepare deps contentFS ext bundle = .ok (ac, chrt, v) →
      (getReleaseState ac s ext chrt (postFor consts ext bundle v)).result =
        .ok (rel, desired, state) →
      state.check? = some c → activeFrom ext 0 h.preflights = pre ++ ip :: post →
      (∀ jp ∈ pre, jp.2.check c desired = .ok none) → ip.2.check c desired = .ok (some err) →
      run = ⟨(getReleaseState ac s ext chrt (postFor consts ext bundle v)).store,
        (getReleaseState ac s ext chrt (postFor consts ext bundle v)).calls ++
          (pre ++ [ip]).map (preflightCall c desired), .ok (.error err)⟩) :=
  ⟨skips_iff, fun _ _ _ ↦ mem_apply_preflight h deps consts s contentFS bundle,
    fun _ ↦ apply_mutates_after_preflights h deps consts s contentFS bundle,
    fun _ _ _ _ _ _ _ _ _ _ _ hp hg hc hact hpre hip ↦
      apply_stops_at_first_failing_preflight h deps consts s contentFS bundle hp hg hc hact hpre hip⟩

end Helm

end Applier
end OperatorController
