import OperatorController.ContentManager.Scheme
import Mathlib.Logic.Function.Basic
import Mathlib.Data.List.Nodup

/-!
# The content manager

The content manager keeps, for each `ClusterExtension`, one controller-runtime cache that watches
the objects the extension manages.  `ManageContent` builds a new cache for the extension —
rest config, scheme, cache, one watch per object — and only once all of that has succeeded does
it cancel the cache it had for the extension and start the new one in its place.
`RemoveManagedContent` cancels the extension's cache and forgets it.

## The model

An `Instance` is the Go struct — the base config and `extensionCaches` — together with what the
model observes of the goroutines the instance starts: each `go c.Start(ctx)` is recorded in
`started` with the name the cache is stored under and its context, each `Cancel()` in
`cancelled`.  Contexts are numbered, so a fresh `context.WithCancel` is `nextContext`.

The rest config mapper, `cache.New` and the controller's `Watch` are the outside world; each
`ManageContent` call of a run meets its own (`Env`, `Controller`), so a run can fail at any step
of any call.  The scheme is built by `buildScheme`, which may panic; a panicking call changes
nothing, and the run goes on from the same instance.

## What is proved

* `manageContent_cases` — a call either leaves the instance exactly as it was, or succeeds and
  replaces the extension's cache (`Instance.restart`).  This is where failure atomicity and
  the invariant below both come from.
* `manageContent_eq_ok`, `manageContent_stores_under_name` — a call that succeeds made its
  cache with the extension's label selector `tgtLabels`, watched every object on it, and stored
  it under the extension's name.
* `CachesInv` — the caches still running are exactly those stored in `extensionCaches`, each
  under its own name.  It holds of `new` and every call keeps it, so it holds in every reachable
  state (`cachesInv_run`).
* `other_extensions_keep_cache` — a call touches only the entry of its own extension
  (`Instance.step_extensionCaches_of_ne`), so calls about other extensions never stop, replace
  or forget an extension's cache.
-/

set_option autoImplicit false

namespace OperatorController
namespace ContentManager

variable {Sch Cfg C : Type}

/-- `cache.Options`, with the two fields `ManageContent` sets. -/
structure CacheOptions (Sch : Type) where
  scheme : Sch
  /-- `DefaultLabelSelector`, as the label set it was made from. -/
  defaultLabelSelector : LabelMap

/-- Whether the selector of the label set `sel` matches an object's labels: every pair of `sel` is
among them. -/
def selectorMatches (sel labels : LabelMap) : Bool :=
  sel.all fun kv ↦ labels.lookup kv.1 == some kv.2

/-- The controller `ManageContent` is handed; `Watch(source.Kind(c, obj, handler))` succeeds or
fails. -/
structure Controller (C : Type) where
  watch : C → Object → Except GoError Unit

/-- The world one `ManageContent` call meets: the `RestConfigMapper` and `cache.New`. -/
structure Env (Sch Cfg C : Type) where
  rcm : ClusterExtension → Cfg → Except GoError Cfg
  cacheNew : Cfg → CacheOptions Sch → Except GoError C

/-- `extensionCacheData`; `cancel` is the context its `Cancel` cancels. -/
structure ExtensionCacheData (C : Type) where
  cache : C
  cancel : Nat

/-- `instance`, with what the model observes of the caches it starts and cancels. -/
structure Instance (Cfg C : Type) where
  baseCfg : Cfg
  extensionCaches : String → Option (ExtensionCacheData C)
  /-- Every `go c.Start(ctx)` so far: the name the cache was stored under, the cache, its
  context. -/
  started : List (String × C × Nat)
  /-- Every context cancelled so far. -/
  cancelled : List Nat
  /-- The context the next `context.WithCancel` returns. -/
  nextContext : Nat

/-- `New`. -/
def new (cfg : Cfg) : Instance Cfg C := ⟨cfg, fun _ ↦ none, [], [], 0⟩

/-- The label set of an extension's cache (lines 106–109). -/
def tgtLabels (consts : Consts) (ce : ClusterExtension) : LabelMap :=
  [(consts.ownerKindKey, consts.clusterExtensionKind), (consts.ownerNameKey, ce.name)]

/-- The watch loop of `ManageContent` (lines 119–134): the error of the first watch that fails. -/
def watchAll (ctrl : Controller C) (c : C) (ce : ClusterExtension) : List Object → Option GoError
  | [] => none
  | obj :: objs =>
    match ctrl.watch c obj with
    | .error err =>
      some (.wrapf "creating watch for ClusterExtension %q managed resource %s: %w"
        [ce.name, obj.gvk.string] err)
    | .ok () => watchAll ctrl c ce objs

namespace Instance

variable (i : Instance Cfg C)

/-- Cancel the cache stored under `name`, if there is one, and store `c`, started under a fresh
context, in its place (lines 136–145). -/
def restart (name : String) (c : C) : Instance Cfg C :=
  let i := match i.extensionCaches name with
    | some data => { i with cancelled := data.cancel :: i.cancelled }
    | none => i
  { i with
    nextContext := i.nextContext + 1
    started := (name, c, i.nextContext) :: i.started
    extensionCaches := Function.update i.extensionCaches name (some ⟨c, i.nextContext⟩) }

/-- `ManageContent`. -/
def manageContent (consts : Consts) (api : SchemeApi Sch) (env : Env Sch Cfg C)
    (ctrl : Controller C) (ce : ClusterExtension) (objs : List Object) :
    Instance Cfg C × Except Panic (Option GoError) :=
  match env.rcm ce i.baseCfg with
  | .error err =>
    (i, .ok (some (.wrapf "getting rest.Config for ClusterExtension %q: %w" [ce.name] err)))
  | .ok cfg =>
    match buildScheme api objs with
    | .error p => (i, .error p)
    | .ok (.error err) => (i, .ok (some err))
    | .ok (.ok scheme) =>
      match env.cacheNew cfg ⟨scheme, tgtLabels consts ce⟩ with
      | .error err =>
        (i, .ok (some (.wrapf "creating cache for ClusterExtension %q: %w" [ce.name] err)))
      | .ok c =>
        match watchAll ctrl c ce objs with
        | some err => (i, .ok (some err))
        | none => (i.restart ce.name c, .ok none)

/-- `RemoveManagedContent`. -/
def removeManagedContent (ce : ClusterExtension) : Instance Cfg C × Option GoError :=
  match i.extensionCaches ce.name with
  | some data =>
    ({ i with
        cancelled := data.cancel :: i.cancelled
        extensionCaches := Function.update i.extensionCaches ce.name none }, none)
  | none => (i, none)

end Instance

/-- A call on the `ContentManager` interface, with the world a `ManageContent` call meets. -/
inductive Call (Sch Cfg C : Type) where
  | manageContent (env : Env Sch Cfg C) (ctrl : Controller C) (ce : ClusterExtension)
      (objs : List Object)
  | removeManagedContent (ce : ClusterExtension)

/-- The instance after one call. -/
def Instance.step (consts : Consts) (api : SchemeApi Sch) (i : Instance Cfg C) :
    Call Sch Cfg C → Instance Cfg C
  | .manageContent env ctrl ce objs => (i.manageContent consts api env ctrl ce objs).1
  | .removeManagedContent ce => (i.removeManagedContent ce).1

/-- The instance after a sequence of calls. -/
def run (consts : Consts) (api : SchemeApi Sch) (i : Instance Cfg C) (calls : List (Call Sch Cfg C)) :
    Instance Cfg C :=
  calls.foldl (Instance.step consts api) i

/-! ## One call -/

namespace Instance

variable (i : Instance Cfg C)

/-- A `ManageContent` call either fails — it panics or returns an error — and leaves the instance
exactly as it was, or succeeds and restarts the extension's cache with the cache it built. -/
theorem manageContent_cases (consts : Consts) (api : SchemeApi Sch) (env : Env Sch Cfg C)
    (ctrl : Controller C) (ce : ClusterExtension) (objs : List Object) :
    ((i.manageContent consts api env ctrl ce objs).1 = i ∧
      (i.manageContent consts api env ctrl ce objs).2 ≠ .ok none) ∨
    ∃ c, i.manageContent consts api env ctrl ce objs = (i.restart ce.name c, .ok none) := by
  unfold manageContent
  split
  · simp
  split
  · simp
  · simp
  split
  · simp
  split
  · simp
  · exact .inr ⟨_, rfl⟩

/-- `RemoveManagedContent`, when the extension has a cache. -/
theorem removeManagedContent_of_some {ce : ClusterExtension} {data : ExtensionCacheData C}
    (h : i.extensionCaches ce.name = some data) :
    (i.removeManagedContent ce).1 = { i with
      cancelled := data.cancel :: i.cancelled
      extensionCaches := Function.update i.extensionCaches ce.name none } := by
  simp [removeManagedContent, h]

theorem removeManagedContent_of_none {ce : ClusterExtension} (h : i.extensionCaches ce.name = none) :
    (i.removeManagedContent ce).1 = i := by
  simp [removeManagedContent, h]

/-- After `RemoveManagedContent`, the extension has no cache. -/
theorem removeManagedContent_forgets (ce : ClusterExtension) :
    (i.removeManagedContent ce).1.extensionCaches ce.name = none := by
  rcases hs : i.extensionCaches ce.name with _ | data
  · rwa [i.removeManagedContent_of_none hs]
  · simp [i.removeManagedContent_of_some hs]

variable {i} {name : String} {c : C}

@[simp] theorem restart_started : (i.restart name c).started = (name, c, i.nextContext) :: i.started := by
  unfold restart; split <;> rfl

@[simp] theorem restart_nextContext : (i.restart name c).nextContext = i.nextContext + 1 := by
  unfold restart; split <;> rfl

@[simp] theorem restart_extensionCaches :
    (i.restart name c).extensionCaches =
      Function.update i.extensionCaches name (some ⟨c, i.nextContext⟩) := by
  unfold restart; split <;> rfl

/-- A restart cancels the context of the cache stored under the name, if there is one. -/
theorem mem_restart_cancelled {ctx : Nat} : ctx ∈ (i.restart name c).cancelled ↔
    ctx ∈ i.cancelled ∨ ∃ data, i.extensionCaches name = some data ∧ data.cancel = ctx := by
  unfold restart
  split <;> rename_i hs
  · simp only [List.mem_cons, hs, Option.some.injEq, exists_eq_left']
    exact or_comm.trans (or_congr_right eq_comm)
  · simp [hs]

/-- The watch loop runs through exactly when the watch of every object succeeds. -/
theorem watchAll_eq_none {ctrl : Controller C} {c : C} {ce : ClusterExtension} :
    ∀ {objs : List Object}, watchAll ctrl c ce objs = none ↔ ∀ obj ∈ objs, ctrl.watch c obj = .ok ()
  | [] => by simp [watchAll]
  | obj :: objs => by
    rcases hw : ctrl.watch c obj with err | ⟨⟩ <;> simp [watchAll, hw, watchAll_eq_none]

/-- A `ManageContent` that succeeds made its cache with `cache.New` on the extension's rest
config, with the scheme `buildScheme` built and the extension's label selector `tgtLabels`;
watched every object on that cache; and restarted the entry under the extension's name with it. -/
theorem manageContent_eq_ok {consts : Consts} {api : SchemeApi Sch} {env : Env Sch Cfg C}
    {ctrl : Controller C} {ce : ClusterExtension} {objs : List Object}
    (h : (i.manageContent consts api env ctrl ce objs).2 = .ok none) :
    ∃ cfg scheme c, env.rcm ce i.baseCfg = .ok cfg ∧ buildScheme api objs = .ok (.ok scheme) ∧
      env.cacheNew cfg ⟨scheme, tgtLabels consts ce⟩ = .ok c ∧
      (∀ obj ∈ objs, ctrl.watch c obj = .ok ()) ∧
      (i.manageContent consts api env ctrl ce objs).1 = i.restart ce.name c := by
  rcases hr : env.rcm ce i.baseCfg with err | cfg
  · simp [manageContent, hr] at h
  rcases hb : buildScheme api objs with q | err | scheme
  · simp [manageContent, hr, hb] at h
  · simp [manageContent, hr, hb] at h
  rcases hc : env.cacheNew cfg ⟨scheme, tgtLabels consts ce⟩ with err | c
  · simp [manageContent, hr, hb, hc] at h
  rcases hw : watchAll ctrl c ce objs with _ | err
  · exact ⟨cfg, scheme, c, rfl, rfl, hc, watchAll_eq_none.mp hw,
      by simp [manageContent, hr, hb, hc, hw]⟩
  · simp [manageContent, hr, hb, hc, hw] at h

/-- After a successful `ManageContent`, the cache stored under the extension's name is the one
`cache.New` made with the extension's label selector `tgtLabels`, started under a fresh context,
and the cache stored there before has been cancelled. -/
theorem manageContent_stores_under_name {consts : Consts} {api : SchemeApi Sch}
    {env : Env Sch Cfg C} {ctrl : Controller C} {ce : ClusterExtension} {objs : List Object}
    (h : (i.manageContent consts api env ctrl ce objs).2 = .ok none) :
    ∃ cfg scheme c, env.cacheNew cfg ⟨scheme, tgtLabels consts ce⟩ = .ok c ∧
      (i.manageContent consts api env ctrl ce objs).1.extensionCaches ce.name =
        some ⟨c, i.nextContext⟩ ∧
      (ce.name, c, i.nextContext) ∈ (i.manageContent consts api env ctrl ce objs).1.started ∧
      ∀ data, i.extensionCaches ce.name = some data →
        data.cancel ∈ (i.manageContent consts api env ctrl ce objs).1.cancelled := by
  obtain ⟨cfg, scheme, c, -, -, hc, -, hi⟩ := manageContent_eq_ok h
  rw [hi]
  exact ⟨cfg, scheme, c, hc, by simp, by simp,
    fun data hs ↦ mem_restart_cancelled.mpr (.inr ⟨data, hs, rfl⟩)⟩

end Instance

/-! ## The invariant -/

/-- The caches still running are exactly the stored ones, each under its own name; contexts are
numbered in the order they are made. -/
structure CachesInv (i : Instance Cfg C) : Prop where
  running_iff : ∀ n c ctx,
    (n, c, ctx) ∈ i.started ∧ ctx ∉ i.cancelled ↔ i.extensionCaches n = some ⟨c, ctx⟩
  started_lt : ∀ e ∈ i.started, e.2.2 < i.nextContext
  cancelled_lt : ∀ ctx ∈ i.cancelled, ctx < i.nextContext
  contexts_nodup : (i.started.map fun e ↦ e.2.2).Nodup

namespace CachesInv

variable {i : Instance Cfg C}

theorem new (cfg : Cfg) : CachesInv (new cfg : Instance Cfg C) :=
  ⟨fun _ _ _ ↦ by simp [ContentManager.new], by simp [ContentManager.new],
    by simp [ContentManager.new], by simp [ContentManager.new]⟩

/-- Two started caches with the same context are the same start. -/
theorem eq_of_context (h : CachesInv i) {e e' : String × C × Nat} (he : e ∈ i.started)
    (he' : e' ∈ i.started) (hctx : e.2.2 = e'.2.2) : e = e' :=
  List.inj_on_of_nodup_map h.contexts_nodup he he' hctx

/-- A stored cache was started, under the name it is stored under. -/
theorem mem_started (h : CachesInv i) {n : String} {data : ExtensionCacheData C}
    (hs : i.extensionCaches n = some data) : (n, data.cache, data.cancel) ∈ i.started :=
  ((h.running_iff n data.cache data.cancel).mpr hs).1

theorem restart (h : CachesInv i) (name : String) (c : C) : CachesInv (i.restart name c) := by
  have fresh : ∀ data, i.extensionCaches name = some data → data.cancel < i.nextContext :=
    fun data hs ↦ h.started_lt _ (h.mem_started hs)
  refine ⟨fun n c' ctx ↦ ?_, ?_, ?_, ?_⟩
  · simp only [Instance.restart_started, Instance.restart_extensionCaches, List.mem_cons,
      Instance.mem_restart_cancelled, not_or, not_exists, not_and]
    by_cases hn : n = name
    · subst hn
      simp only [Function.update_same, Option.some.injEq, ExtensionCacheData.mk.injEq,
        Prod.mk.injEq, true_and]
      constructor
      · rintro ⟨⟨rfl, rfl⟩ | hmem, hc, hd⟩
        · exact ⟨rfl, rfl⟩
        · exact absurd rfl (hd _ ((h.running_iff _ _ _).mp ⟨hmem, hc⟩))
      · rintro ⟨rfl, rfl⟩
        exact ⟨.inl ⟨rfl, rfl⟩, fun hc ↦ absurd (h.cancelled_lt _ hc) (lt_irrefl _),
          fun data hs hctx ↦ absurd (hctx ▸ fresh data hs) (lt_irrefl _)⟩
    · simp only [Function.update_noteq hn, Prod.mk.injEq, hn, false_and, false_or]
      rw [← h.running_iff]
      refine ⟨fun ⟨hmem, hc, _⟩ ↦ ⟨hmem, hc⟩, fun ⟨hmem, hc⟩ ↦ ⟨hmem, hc, fun data hs hctx ↦ ?_⟩⟩
      exact hn (Prod.ext_iff.mp (h.eq_of_context hmem (h.mem_started hs) hctx.symm)).1
  · simp only [Instance.restart_started, Instance.restart_nextContext, List.forall_mem_cons]
    exact ⟨Nat.lt_succ_self _, fun e he ↦ Nat.lt_succ_of_lt (h.started_lt e he)⟩
  · intro ctx hctx
    rw [Instance.restart_nextContext]
    rcases Instance.mem_restart_cancelled.mp hctx with hc | ⟨data, hs, rfl⟩
    · exact Nat.lt_succ_of_lt (h.cancelled_lt ctx hc)
    · exact Nat.lt_succ_of_lt (fresh data hs)
  · simp only [Instance.restart_started, List.map_cons, List.nodup_cons, List.mem_map, not_exists,
      not_and]
    exact ⟨fun e he hctx ↦ absurd (hctx ▸ h.started_lt e he) (lt_irrefl _), h.contexts_nodup⟩

theorem removeManagedContent (h : CachesInv i) (ce : ClusterExtension) :
    CachesInv (i.removeManagedContent ce).1 := by
  rcases hs : i.extensionCaches ce.name with _ | data
  · rwa [i.removeManagedContent_of_none hs]
  rw [i.removeManagedContent_of_some hs]
  refine ⟨fun n c ctx ↦ ?_, h.started_lt, ?_, h.contexts_nodup⟩
  · simp only [List.mem_cons, not_or]
    by_cases hn : n = ce.name
    · subst hn
      simp only [Function.update_same, reduceCtorEq, iff_false, not_and, not_not]
      intro hmem hne
      by_contra hc
      have := (h.running_iff _ _ _).mp ⟨hmem, hc⟩
      rw [hs, Option.some.injEq] at this
      exact hne (congrArg ExtensionCacheData.cancel this).symm
    · rw [Function.update_noteq hn, ← h.running_iff]
      refine ⟨fun ⟨hmem, _, hc⟩ ↦ ⟨hmem, hc⟩, fun ⟨hmem, hc⟩ ↦ ⟨hmem, fun hctx ↦ ?_, hc⟩⟩
      exact hn (Prod.ext_iff.mp (h.eq_of_context hmem (h.mem_started hs) hctx)).1
  · simp only [List.forall_mem_cons]
    exact ⟨h.started_lt _ (h.mem_started hs), h.cancelled_lt⟩

theorem step (h : CachesInv i) (consts : Consts) (api : SchemeApi Sch) (call : Call Sch Cfg C) :
    CachesInv (i.step consts api call) := by
  cases call with
  | manageContent env ctrl ce objs =>
    rcases i.manageContent_cases consts api env ctrl ce objs with ⟨h1, -⟩ | ⟨c, h1⟩
    · simpa only [Instance.step, h1] using h
    · simpa only [Instance.step, h1] using h.restart ce.name c
  | removeManagedContent ce => exact h.removeManagedContent ce

end CachesInv

/-- The invariant holds after any sequence of calls. -/
theorem cachesInv_run (consts : Consts) (api : SchemeApi Sch) {i : Instance Cfg C}
    (h : CachesInv i) (calls : List (Call Sch Cfg C)) : CachesInv (run consts api i calls) := by
  induction calls generalizing i with
  | nil => exact h
  | cons call calls ih => exact ih (h.step consts api call)

theorem run_append_call (consts : Consts) (api : SchemeApi Sch) (i : Instance Cfg C)
    (calls : List (Call Sch Cfg C)) (call : Call Sch Cfg C) :
    run consts api i (calls ++ [call]) = (run consts api i calls).step consts api call := by
  simp [run, List.foldl_append]

/-! ## The two contracts -/

/-- In every state that calls reach from `New`, whatever the calls and wherever they fail, each
cache the instance has started has had its context cancelled unless it is the one stored under its
extension's name.  So an extension name has at most one running cache, and none once
`RemoveManagedContent` has run for it. -/
theorem started_caches_cancelled_except_stored (consts : Consts) (api : SchemeApi Sch) (cfg : Cfg)
    (calls : List (Call Sch Cfg C)) :
    let i := run consts api (new cfg) calls
    (∀ n c ctx, (n, c, ctx) ∈ i.started →
      (ctx ∉ i.cancelled ↔ i.extensionCaches n = some ⟨c, ctx⟩)) ∧
    (∀ n c ctx c' ctx', (n, c, ctx) ∈ i.started → ctx ∉ i.cancelled →
      (n, c', ctx') ∈ i.started → ctx' ∉ i.cancelled → c = c' ∧ ctx = ctx') ∧
    ∀ ce c ctx,
      (ce.name, c, ctx) ∈ (run consts api (new cfg) (calls ++ [.removeManagedContent ce])).started →
      ctx ∈ (run consts api (new cfg) (calls ++ [.removeManagedContent ce])).cancelled := by
  intro i
  have h : CachesInv i := cachesInv_run consts api (CachesInv.new cfg) calls
  refine ⟨fun n c ctx hmem ↦ ⟨fun hc ↦ (h.running_iff n c ctx).mp ⟨hmem, hc⟩,
    fun hs ↦ ((h.running_iff n c ctx).mpr hs).2⟩, fun n c ctx c' ctx' h1 h2 h3 h4 ↦ ?_,
    fun ce c ctx hmem ↦ ?_⟩
  · have := ((h.running_iff n c ctx).mp ⟨h1, h2⟩).symm.trans ((h.running_iff n c' ctx').mp ⟨h3, h4⟩)
    simpa using this
  · have h' := (h.step consts api (.removeManagedContent ce))
    rw [run_append_call] at hmem ⊢
    by_contra hc
    have hs := (h'.running_iff _ _ _).mp ⟨hmem, hc⟩
    rw [Instance.step, Instance.removeManagedContent_forgets] at hs
    cases hs

/-- A `ManageContent` call that returns an error — from the rest config mapper, `buildScheme`,
`cache.New` or the watch of any object — leaves `extensionCaches` as it was, cancels nothing and
starts no cache, so the extension's previous cache keeps running. -/
theorem manageContent_error_keeps_caches (consts : Consts) (api : SchemeApi Sch)
    (env : Env Sch Cfg C) (ctrl : Controller C) (ce : ClusterExtension) (objs : List Object)
    (i : Instance Cfg C) {err : GoError}
    (h : (i.manageContent consts api env ctrl ce objs).2 = .ok (some err)) :
    (i.manageContent consts api env ctrl ce objs).1.extensionCaches = i.extensionCaches ∧
    (i.manageContent consts api env ctrl ce objs).1.cancelled = i.cancelled ∧
    (i.manageContent consts api env ctrl ce objs).1.started = i.started := by
  rcases i.manageContent_cases consts api env ctrl ce objs with ⟨h1, -⟩ | ⟨c, h1⟩
  · rw [h1]
    exact ⟨rfl, rfl, rfl⟩
  · rw [h1] at h
    cases h

/-- The third object's watch fails after two watches succeeded, on an instance that already has a
cache for the extension. -/
theorem manageContent_watch_failure_keeps_caches :
    let consts := Consts.olm
    let api : SchemeApi Unit := ⟨(), fun s ↦ .ok (.ok s), fun _ _ ↦ false, fun s _ _ ↦ .ok s,
      fun s _ _ ↦ .ok s⟩
    let env : Env Unit Unit Nat := ⟨fun _ cfg ↦ .ok cfg, fun _ _ ↦ .ok 7⟩
    let obj : Nat → Object := fun k ↦ ⟨⟨"apps", "v1", "Deployment"⟩, toString k, [], ""⟩
    let ctrl : Controller Nat := ⟨fun _ o ↦ if o.name = "2" then .error (.errorf "boom" []) else .ok ()⟩
    let ce : ClusterExtension := ⟨"argocd", ⟨"argocd-operator", "", "", .enforce, "argocd", none⟩⟩
    let i : Instance Unit Nat := ((new () : Instance Unit Nat).restart "argocd" 3)
    (i.manageContent consts api env ctrl ce [obj 0, obj 1, obj 2]).2 =
        .ok (some (.wrapf "creating watch for ClusterExtension %q managed resource %s: %w"
          ["argocd", "apps/v1, Kind=Deployment"] (.errorf "boom" []))) ∧
      ((i.manageContent consts api env ctrl ce [obj 0, obj 1, obj 2]).1.extensionCaches =
          i.extensionCaches ∧
        (i.manageContent consts api env ctrl ce [obj 0, obj 1, obj 2]).1.cancelled = i.cancelled ∧
        (i.manageContent consts api env ctrl ce [obj 0, obj 1, obj 2]).1.started = i.started) :=
  ⟨rfl, manageContent_error_keeps_caches _ _ _ _ _ _ _ rfl⟩

/-! ## Other extensions

Every call is about one extension, and touches only the entry of `extensionCaches` under its name:
`ManageContent` restarts that entry or changes nothing, `RemoveManagedContent` cancels and forgets
it.  With `CachesInv`, a cache that no later call is about keeps running.
-/

/-- The extension a call is about. -/
def Call.name : Call Sch Cfg C → String
  | .manageContent _ _ ce _ => ce.name
  | .removeManagedContent ce => ce.name

/-- A call about another extension keeps the cache stored under `n`. -/
theorem Instance.step_extensionCaches_of_ne (consts : Consts) (api : SchemeApi Sch)
    (i : Instance Cfg C) {call : Call Sch Cfg C} {n : String} (hn : call.name ≠ n) :
    (i.step consts api call).extensionCaches n = i.extensionCaches n := by
  cases call with
  | manageContent env ctrl ce objs =>
    rcases i.manageContent_cases consts api env ctrl ce objs with ⟨h1, -⟩ | ⟨c, h1⟩
    · simp only [Instance.step, h1]
    · simp only [Instance.step, h1, Instance.restart_extensionCaches]
      exact Function.update_noteq (Ne.symm hn) _ _
  | removeManagedContent ce =>
    rcases hs : i.extensionCaches ce.name with _ | data
    · simp only [Instance.step, i.removeManagedContent_of_none hs]
    · simp only [Instance.step, i.removeManagedContent_of_some hs]
      exact Function.update_noteq (Ne.symm hn) _ _

/-- Calls all about other extensions keep the cache stored under `n`. -/
theorem run_extensionCaches_of_ne (consts : Consts) (api : SchemeApi Sch) {n : String} :
    ∀ (i : Instance Cfg C) (calls : List (Call Sch Cfg C)), (∀ call ∈ calls, call.name ≠ n) →
      (run consts api i calls).extensionCaches n = i.extensionCaches n
  | _, [], _ => rfl
  | i, call :: calls, hn => by
    rw [List.forall_mem_cons] at hn
    exact (run_extensionCaches_of_ne consts api _ calls hn.2).trans
      (i.step_extensionCaches_of_ne consts api hn.1)

/-- Calls about other extensions never stop, replace or forget an extension's cache: in every
state that calls reach from `New`, a cache stored under a name is still stored there, and still
running, after any further calls that are all about other extensions. -/
theorem other_extensions_keep_cache (consts : Consts) (api : SchemeApi Sch) (cfg : Cfg)
    (calls later : List (Call Sch Cfg C)) {n : String} {c : C} {ctx : Nat}
    (hstored : (run consts api (new cfg) calls).extensionCaches n = some ⟨c, ctx⟩)
    (hlater : ∀ call ∈ later, call.name ≠ n) :
    let i := run consts api (new cfg) (calls ++ later)
    i.extensionCaches n = some ⟨c, ctx⟩ ∧ (n, c, ctx) ∈ i.started ∧ ctx ∉ i.cancelled := by
  intro i
  have hrun : i = run consts api (run consts api (new cfg) calls) later := List.foldl_append _ _ _ _
  have hkeep : i.extensionCaches n = some ⟨c, ctx⟩ :=
    hrun ▸ (run_extensionCaches_of_ne consts api _ later hlater).trans hstored
  exact ⟨hkeep, ((cachesInv_run consts api (CachesInv.new cfg) _).running_iff n c ctx).mpr hkeep⟩

/-- The argocd extension's cache keeps running while the prometheus extension's content is
managed and then removed. -/
theorem argocd_cache_survives_prometheus :
    let consts := Consts.olm
    let api : SchemeApi Unit := ⟨(), fun s ↦ .ok (.ok s), fun _ _ ↦ false, fun s _ _ ↦ .ok s,
      fun s _ _ ↦ .ok s⟩
    let env : Env Unit Unit Nat := ⟨fun _ cfg ↦ .ok cfg, fun _ _ ↦ .ok 7⟩
    let ctrl : Controller Nat := ⟨fun _ _ ↦ .ok ()⟩
    let obj : Object := ⟨⟨"apps", "v1", "Deployment"⟩, "controller-manager", [], ""⟩
    let ce : String → ClusterExtension := fun name ↦ ⟨name, ⟨name, "", "", .enforce, name, none⟩⟩
    let calls : List (Call Unit Unit Nat) := [.manageContent env ctrl (ce "argocd") [obj]]
    let later : List (Call Unit Unit Nat) :=
      [.manageContent env ctrl (ce "prometheus") [obj], .removeManagedContent (ce "prometheus")]
    let i := run consts api (new ()) (calls ++ later)
    (run consts api (new ()) calls).extensionCaches "argocd" = some ⟨7, 0⟩ ∧
      (∀ call ∈ later, call.name ≠ "argocd") ∧
      i.extensionCaches "argocd" = some ⟨7, 0⟩ ∧ ("argocd", 7, 0) ∈ i.started ∧ 0 ∉ i.cancelled := by
  intro consts api env ctrl obj ce calls later i
  have hstored : (run consts api (new ()) calls).extensionCaches "argocd" = some ⟨7, 0⟩ := rfl
  have hlater : ∀ call ∈ later, call.name ≠ "argocd" := by decide
  exact ⟨hstored, hlater, other_extensions_keep_cache consts api () calls later hstored hlater⟩

end ContentManager
end OperatorController
