import OperatorController.Applier.Labels
import OperatorController.Applier.Preflights

/-!
# Applying a bundle again

The controller reconciles every extension over and over, so `Apply` runs again and again with the
same bundle.  Once a release is in line with the bundle, those runs must leave it alone:
`getReleaseState` compares the stored release with a dry-run upgrade and finds nothing to do when
the manifests agree and the stored release is neither failed nor superseded.

This holds of every Helm that stores what it installs (`StoresReleases`) and renders a chart the
same way on every call (`RendersChart`).

## What is here

* `apply_returns_stored_objects` — after an `Apply` that returns objects, `Get` returns a release
  whose manifest reads back as exactly those objects: the content manager watches what Helm keeps.
* `Settled` — the release `Get` returns is the one a dry-run upgrade of the bundle reproduces, and
  it is neither failed nor superseded.  A successful `Apply` leaves its release settled
  (`settled_after_apply`); an `Apply` of the same bundle on a settled release only reads it, and
  keeps it settled (`Settled.apply`, and over any number of runs `Settled.applyRun`).
* `reapply_installs_nothing` — so after an `Apply` that returns objects, every later `Apply` of
  the same bundle, however many, makes a `Get`, a dry-run upgrade and at most a reconcile, runs
  no preflight, keeps the release `Get` returns, and returns the same objects unless Helm fails.
* `apply_panics_only_in_preflight` — `Apply` panics only when a preflight it called panics: the
  release it reads the manifest of at line 132 is never nil.
-/

set_option autoImplicit false

namespace OperatorController
namespace Applier

variable {σ Ch FS : Type}

/-! ## The release `Apply` leaves -/

namespace Helm
variable (h : Helm σ Ch) (deps : Deps FS Ch) (consts : Consts) {s : σ} {contentFS : FS}
  {ext : ClusterExtension} {bundle : Bundle}

/-- After an `Apply` that returns objects, `Get` returns the release `Apply` ended with, whose
manifest reads back as those objects. -/
theorem get_apply_store {codec : Codec} {ac : ActionClient σ Ch}
    (hac : h.actionClientGetter ext = .ok ac) (hs : StoresReleases codec ac) {objs : List Object}
    (hres : (h.apply deps consts s contentFS ext bundle).result = .ok (.ok objs)) :
    ∃ chrt v rel desired state relFinal,
      h.prepare deps contentFS ext bundle = .ok (ac, chrt, v) ∧
      (getReleaseState ac s ext chrt (postFor consts ext bundle v)).result =
        .ok (rel, desired, state) ∧
      (perform ac (getReleaseState ac s ext chrt (postFor consts ext bundle v)).store ext chrt
        (postFor consts ext bundle v) (releaseLabels consts bundle v) rel state).result =
        .ok (some relFinal) ∧
      deps.manifestObjects relFinal.manifest (relFinal.name ++ "-release-manifest") = .ok objs ∧
      ac.get (h.apply deps consts s contentFS ext bundle).store ext.name = .ok relFinal := by
  obtain ⟨ac', chrt, v, rel, desired, state, relFinal, hp, hg, hperf, hm, hstore⟩ :=
    h.apply_eq_ok deps consts hres
  obtain rfl := Except.ok.inj (hac.symm.trans (h.prepare_eq_ok deps hp).1)
  exact ⟨chrt, v, rel, desired, state, relFinal, hp, hg, hperf, hm,
    hstore ▸ get_perform hs (get_getReleaseState_store _ _ _ _ _ hs) hg hperf⟩

/-- After an `Apply` that returns objects, `Get` returns a release whose manifest reads back as
exactly those objects: what `Apply` hands the content manager to watch is what Helm keeps. -/
theorem apply_returns_stored_objects (codec : Codec) {ac : ActionClient σ Ch}
    (hac : h.actionClientGetter ext = .ok ac) (hs : StoresReleases codec ac) {objs : List Object}
    (hres : (h.apply deps consts s contentFS ext bundle).result = .ok (.ok objs)) :
    ∃ rel, ac.get (h.apply deps consts s contentFS ext bundle).store ext.name = .ok rel ∧
      deps.manifestObjects rel.manifest (rel.name ++ "-release-manifest") = .ok objs := by
  obtain ⟨-, -, -, -, -, relFinal, -, -, -, hm, hget⟩ := h.get_apply_store deps consts hac hs hres
  exact ⟨relFinal, hget, hm⟩

/-- Installing the argocd operator on an empty store: `Get` then returns the release, whose
manifest reads back as the deployment `Apply` returned. -/
theorem apply_returns_stored_deployment :
    let consts := Consts.olm
    let ext := Resolution.argocdExt
    let bundle := Resolution.argocdBundle "argocd-operator.v0.1.0"
    let raw := controllerManager []
    let o := postRendered consts ext bundle "0.1.0" raw
    let codec := copiesCodec raw o
    let h := refHelm codec []
    let deps := copiesDeps o fun _ ↦ "0.1.0"
    let run := h.apply deps consts (fun _ ↦ none) "deployment" ext bundle
    StoresReleases codec (refClient codec) ∧ run.result = .ok (.ok [o]) ∧
      ∃ rel, (refClient codec).get run.store ext.name = .ok rel ∧
        deps.manifestObjects rel.manifest (rel.name ++ "-release-manifest") = .ok [o] := by
  intro consts ext bundle raw o codec h deps
  have hres : (h.apply deps consts (fun _ ↦ none) "deployment" ext bundle).result = .ok (.ok [o]) :=
    rfl
  exact ⟨refClient_storesReleases codec, hres,
    h.apply_returns_stored_objects deps consts codec rfl (refClient_storesReleases codec) hres⟩

end Helm

/-! ## Settled releases -/

/-- The release `Get` returns for the extension is `rel`; its manifest is what the post renderer
writes over the chart's rendering, and it is neither failed nor superseded.  A dry-run upgrade with
the chart and the post renderer then finds nothing to change. -/
def Settled (codec : Codec) (ac : ActionClient σ Ch) (render : Ch → String) (ext : ClusterExtension)
    (chrt : Ch) (post : PostRenderer) (s : σ) (rel : Release) : Prop :=
  ac.get s ext.name = .ok rel ∧ post.run codec (render chrt) = .ok rel.manifest ∧
    rel.status ≠ .failed ∧ rel.status ≠ .superseded

section settled
variable {codec : Codec} {ac : ActionClient σ Ch} {render : Ch → String} {ext : ClusterExtension}
  {chrt : Ch} {post : PostRenderer} {s s' : σ} {rel : Release}

theorem Settled.of_get (hset : Settled codec ac render ext chrt post s rel)
    (hget : ac.get s' ext.name = ac.get s ext.name) :
    Settled codec ac render ext chrt post s' rel :=
  ⟨hget.trans hset.1, hset.2⟩

/-- On a settled release, `getReleaseState` reads it and asks for a dry-run upgrade, stores
nothing, and finds the release unchanged unless the dry run fails. -/
theorem Settled.releaseState_unchanged (hs : StoresReleases codec ac)
    (hrc : RendersChart codec ac render)
    (hset : Settled codec ac render ext chrt post s rel) :
    (getReleaseState ac s ext chrt post).calls = [.get ext.name, .upgrade true] ∧
    ac.get (getReleaseState ac s ext chrt post).store ext.name = ac.get s ext.name ∧
    ((∃ err, (getReleaseState ac s ext chrt post).result = .error err) ∨
      ∃ des, (getReleaseState ac s ext chrt post).result =
        .ok (some rel, some des, .unchanged)) := by
  obtain ⟨hget, hrun, hfail, hsup⟩ := hset
  have hkeep := hs.upgrade_dryRun_keeps s ext.name ext.spec.installNamespace chrt
    ⟨maxHelmReleaseHistory, [], true, "server"⟩ post rfl
  rcases hup : (ac.upgrade s ext.name ext.spec.installNamespace chrt
    ⟨maxHelmReleaseHistory, [], true, "server"⟩ post).2 with err | des
  · simp only [Applier.getReleaseState, hget, hup, true_and]
    exact ⟨hkeep.trans hget, .inl ⟨err, rfl⟩⟩
  -- the dry run renders the chart as the stored release was rendered
  have hman : des.manifest = rel.manifest :=
    Except.ok.inj ((hrc.upgrade_manifest _ _ _ _ _ _ _ hup).symm.trans hrun)
  simp only [Applier.getReleaseState, hget, hup, true_and]
  exact ⟨hkeep.trans hget, .inr ⟨des, by simp [hman, hfail, hsup]⟩⟩

variable (h : Helm σ Ch) (deps : Deps FS Ch) (consts : Consts) {contentFS : FS} {bundle : Bundle}
  {v : String} {objs : List Object}

/-- An `Apply` of the bundle on a settled release reads it, asks for a dry-run upgrade and at most
reconciles; it keeps the release `Get` returns, and returns the objects of its manifest unless Helm
fails. -/
theorem Settled.apply (hp : h.prepare deps contentFS ext bundle = .ok (ac, chrt, v))
    (hs : StoresReleases codec ac) (hrc : RendersChart codec ac render)
    (hset : Settled codec ac render ext chrt (postFor consts ext bundle v) s rel)
    (hm : deps.manifestObjects rel.manifest (rel.name ++ "-release-manifest") = .ok objs) :
    let again := h.apply deps consts s contentFS ext bundle
    (again.calls = [.get ext.name, .upgrade true] ∨
      again.calls = [.get ext.name, .upgrade true, .reconcile]) ∧
    ac.get again.store ext.name = ac.get s ext.name ∧
    (again.result = .ok (.ok objs) ∨ ∃ err, again.result = .ok (.error err)) := by
  obtain ⟨hcalls, hkeep, ⟨err, herr⟩ | ⟨des, hg⟩⟩ := hset.releaseState_unchanged hs hrc
  · simp only [Helm.apply, hp, Helm.applyWith, herr]
    exact ⟨.inl hcalls, hkeep, .inr ⟨err, rfl⟩⟩
  -- the release is unchanged: no preflight runs, and `Apply` reconciles
  have hpf : runPreflights ext .unchanged (some des) 0 h.preflights = ([], .ok none) :=
    runPreflights_of_check?_none (by rfl) 0 h.preflights
  have hrk := hs.reconcile_keeps (getReleaseState ac s ext chrt (postFor consts ext bundle v)).store
    (some rel) ext.name
  simp only [Helm.apply, hp, Helm.applyWith, hg, hpf, perform]
  rcases hr : (ac.reconcile (getReleaseState ac s ext chrt (postFor consts ext bundle v)).store
    (some rel)).2 with _ | err
  · simp only [hm, hcalls]
    exact ⟨by simp, hrk.trans hkeep, by simp⟩
  · simp only [hcalls]
    exact ⟨by simp, hrk.trans hkeep, .inr ⟨err, rfl⟩⟩

/-- Any number of `Apply` calls of the bundle keep a settled release settled, and keep the release
`Get` returns. -/
theorem Settled.applyRun (hp : h.prepare deps contentFS ext bundle = .ok (ac, chrt, v))
    (hs : StoresReleases codec ac) (hrc : RendersChart codec ac render)
    (hm : deps.manifestObjects rel.manifest (rel.name ++ "-release-manifest") = .ok objs) :
    ∀ (n : Nat) {s : σ}, Settled codec ac render ext chrt (postFor consts ext bundle v) s rel →
      let s' := h.applyRun deps consts ext s (List.replicate n (contentFS, bundle))
      Settled codec ac render ext chrt (postFor consts ext bundle v) s' rel ∧
        ac.get s' ext.name = ac.get s ext.name
  | 0, _, hset => ⟨hset, rfl⟩
  | n + 1, _, hset => by
    have hkeep := (hset.apply h deps consts hp hs hrc hm).2.1
    obtain ⟨hset', hget'⟩ := Settled.applyRun hp hs hrc hm n (hset.of_get hkeep)
    exact ⟨hset', hget'.trans hkeep⟩

end settled

/-! ## Applying again -/

namespace Helm
variable (h : Helm σ Ch) (deps : Deps FS Ch) (consts : Consts) {s : σ} {contentFS : FS}
  {ext : ClusterExtension} {bundle : Bundle}

/-- A successful `Apply` leaves the release it ended with settled. -/
theorem settled_after_apply {codec : Codec} {ac : ActionClient σ Ch} {render : Ch → String}
    (hac : h.actionClientGetter ext = .ok ac) (hs : StoresReleases codec ac)
    (hrc : RendersChart codec ac render) {objs : List Object}
    (hres : (h.apply deps consts s contentFS ext bundle).result = .ok (.ok objs)) :
    ∃ chrt v rel, h.prepare deps contentFS ext bundle = .ok (ac, chrt, v) ∧
      Settled codec ac render ext chrt (postFor consts ext bundle v)
        (h.apply deps consts s contentFS ext bundle).store rel ∧
      deps.manifestObjects rel.manifest (rel.name ++ "-release-manifest") = .ok objs := by
  obtain ⟨chrt, v, rel, desired, state, relFinal, hp, hg, hperf, hm, hget⟩ :=
    h.get_apply_store deps consts hac hs hres
  refine ⟨chrt, v, relFinal, hp, ⟨hget, ?_⟩, hm⟩
  -- installed or upgraded for real, or found unchanged
  rcases perform_eq_ok hperf with ⟨rfl, hi⟩ | ⟨rfl, hu⟩ | ⟨rfl, rfl⟩
  · have hd := hrc.install_deployed _ _ _ _ _ _ _ hi rfl
    exact ⟨hrc.install_manifest _ _ _ _ _ _ _ hi, by simp [hd], by simp [hd]⟩
  · have hd := hrc.upgrade_deployed _ _ _ _ _ _ _ hu rfl
    exact ⟨hrc.upgrade_manifest _ _ _ _ _ _ _ hu, by simp [hd], by simp [hd]⟩
  · obtain ⟨cur, des, hcur, -, hdes, hman, hst⟩ := getReleaseState_unchanged ac s ext chrt _ hg
    cases hcur
    exact ⟨hman ▸ hrc.upgrade_manifest _ _ _ _ _ _ _ hdes, hst⟩

/-- After an `Apply` that returns objects, every later `Apply` of the same bundle, however many,
only reads the release: it makes a `Get`, a dry-run upgrade and at most a reconcile — no install,
no upgrade, no preflight — keeps the release `Get` returns, and returns the same objects unless
Helm fails. -/
theorem reapply_installs_nothing (codec : Codec) {ac : ActionClient σ Ch} {render : Ch → String}
    (hac : h.actionClientGetter ext = .ok ac) (hs : StoresReleases codec ac)
    (hrc : RendersChart codec ac render) {objs : List Object}
    (hres : (h.apply deps consts s contentFS ext bundle).result = .ok (.ok objs)) (n : Nat) :
    let first := h.apply deps consts s contentFS ext bundle
    let again := h.apply deps consts
      (h.applyRun deps consts ext first.store (List.replicate n (contentFS, bundle))) contentFS ext
      bundle
    (again.calls = [.get ext.name, .upgrade true] ∨
      again.calls = [.get ext.name, .upgrade true, .reconcile]) ∧
    ac.get again.store ext.name = ac.get first.store ext.name ∧
    (again.result = .ok (.ok objs) ∨ ∃ err, again.result = .ok (.error err)) := by
  obtain ⟨chrt, v, rel, hp, hset, hm⟩ := h.settled_after_apply deps consts hac hs hrc hres
  obtain ⟨hsetₙ, hgetₙ⟩ := Settled.applyRun h deps consts hp hs hrc hm n hset
  obtain ⟨hcalls, hkeep, hresult⟩ := hsetₙ.apply h deps consts hp hs hrc hm
  exact ⟨hcalls, hkeep.trans hgetₙ, hresult⟩

/-- The argocd operator installed on an empty store and applied twice more: the next `Apply` only
reads the release. -/
theorem reapply_of_deployment_reads_only :
    let consts := Consts.olm
    let ext := Resolution.argocdExt
    let bundle := Resolution.argocdBundle "argocd-operator.v0.1.0"
    let raw := controllerManager []
    let o := postRendered consts ext bundle "0.1.0" raw
    let codec := copiesCodec raw o
    let h := refHelm codec []
    let deps := copiesDeps o fun _ ↦ "0.1.0"
    let first := h.apply deps consts (fun _ ↦ none) "deployment" ext bundle
    let again := h.apply deps consts
      (h.applyRun deps consts ext first.store (List.replicate 2 ("deployment", bundle))) "deployment"
      ext bundle
    StoresReleases codec (refClient codec) ∧ RendersChart codec (refClient codec) id ∧
      first.result = .ok (.ok [o]) ∧
      (again.calls = [.get ext.name, .upgrade true] ∨
        again.calls = [.get ext.name, .upgrade true, .reconcile]) ∧
      (refClient codec).get again.store ext.name = (refClient codec).get first.store ext.name ∧
      (again.result = .ok (.ok [o]) ∨ ∃ err, again.result = .ok (.error err)) := by
  intro consts ext bundle raw o codec h deps
  have hres : (h.apply deps consts (fun _ ↦ none) "deployment" ext bundle).result = .ok (.ok [o]) :=
    rfl
  exact ⟨refClient_storesReleases codec, refClient_rendersChart codec, hres,
    h.reapply_installs_nothing deps consts codec rfl (refClient_storesReleases codec)
      (refClient_rendersChart codec) hres 2⟩

/-! ## Panics -/

/-- A real install or upgrade returns a release or an error, never none. -/
theorem map_some_ne_ok_none {α : Type} (r : Except GoError α) : some <$> r ≠ .ok none := by
  cases r <;> simp [Functor.map, Except.map]

/-- `perform` after a successful `getReleaseState` ends with an error or with a release, never with
none: in the state `Unchanged` the stored release is there. -/
theorem perform_ne_ok_none {ac : ActionClient σ Ch} {chrt : Ch} {post : PostRenderer} {s' : σ}
    {labels : LabelMap} {rel desired : Option Release} {state : ReleaseState}
    (hg : (getReleaseState ac s ext chrt post).result = .ok (rel, desired, state)) :
    (perform ac s' ext chrt post labels rel state).result ≠ .ok none := by
  cases state with
  | needsInstall | needsUpgrade => exact map_some_ne_ok_none _
  | unchanged =>
    obtain ⟨cur, -, rfl, -⟩ := getReleaseState_unchanged ac s ext chrt post hg
    simp only [perform]
    cases (ac.reconcile s' (some cur)).2 <;> simp
  | error => simp [perform]

/-- `applyWith` panics only in the preflight loop, with the loop's panic: the release `perform`
ends with is never nil. -/
theorem applyWith_panic {ac : ActionClient σ Ch} {chrt : Ch} {v : String} {p : Panic}
    (hres : (h.applyWith deps consts ac s ext chrt bundle v).result = .error p) :
    ∃ rel desired state,
      (getReleaseState ac s ext chrt (postFor consts ext bundle v)).result =
        .ok (rel, desired, state) ∧
      (runPreflights ext state desired 0 h.preflights).2 = .error p := by
  unfold applyWith at hres
  simp only at hres
  split at hres
  · cases hres
  rename_i rel desired state hg
  split at hres
  · rename_i q hpf
    cases hres
    exact ⟨rel, desired, state, hg, hpf⟩
  · cases hres
  split at hres
  · cases hres
  · exact absurd ‹_› (perform_ne_ok_none hg)
  · split at hres <;> cases hres

/-- `Apply` panics only when a preflight it called panicked, with the same value: it never reads
the manifest of a nil release. -/
theorem apply_panics_only_in_preflight {p : Panic}
    (hres : (h.apply deps consts s contentFS ext bundle).result = .error p) :
    ∃ i c rel pf, Call.preflight i c rel ∈ (h.apply deps consts s contentFS ext bundle).calls ∧
      h.preflights[i]? = some pf ∧ pf.check c rel = .error p := by
  rcases hp : h.prepare deps contentFS ext bundle with e | ⟨ac, chrt, v⟩
  · simp [Helm.apply, hp] at hres
  simp only [Helm.apply, hp] at hres ⊢
  obtain ⟨rel, desired, state, hg, hpf⟩ := h.applyWith_panic deps consts hres
  obtain ⟨ip, hip, c, hcall, hcheck⟩ := runPreflights_panic 0 h.preflights hpf
  refine ⟨ip.1, c, desired, ip.2, ?_, (mem_activeFrom_zero hip).1, hcheck⟩
  rw [applyWith_calls, hg]
  exact List.mem_append_right _ (List.mem_append_left _ hcall)

/-- A preflight whose install check dereferences nil, on an empty store: `Apply` panics, and the
panic is the preflight's. -/
theorem apply_panics_in_install_preflight :
    let consts := Consts.olm
    let ext := Resolution.argocdExt
    let bundle := Resolution.argocdBundle "argocd-operator.v0.1.0"
    let raw := controllerManager []
    let o := postRendered consts ext bundle "0.1.0" raw
    let codec := copiesCodec raw o
    let pf : Preflight := ⟨false, fun _ ↦ .error nilPointerDereference, fun _ ↦ .ok none⟩
    let h := refHelm codec [pf]
    let deps := copiesDeps o fun _ ↦ "0.1.0"
    let run := h.apply deps consts (fun _ ↦ none) "deployment" ext bundle
    run.result = .error nilPointerDereference ∧
      ∃ i c rel pf, Call.preflight i c rel ∈ run.calls ∧ h.preflights[i]? = some pf ∧
        pf.check c rel = .error nilPointerDereference := by
  intro consts ext bundle raw o codec pf h deps
  have hres : (h.apply deps consts (fun _ ↦ none) "deployment" ext bundle).result =
    .error nilPointerDereference := rfl
  exact ⟨hres, h.apply_panics_only_in_preflight deps consts hres⟩

end Helm

end Applier
end OperatorController
