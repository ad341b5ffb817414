import OperatorController.Applier.Contract
import OperatorController.ContentManager.Instance
import OperatorController.Resolution.Resolver

/-!
# The labels `Apply` leaves on objects and on the release

`Apply` hands Helm a post renderer that merges five labels into every object it renders: the
owner kind and name, which the content manager's cache selects on, and the bundle name, package
and version.  It also gives the release it installs or upgrades three labels of its own, the
bundle name, package and version, which `GetInstalledBundle` reads back for the resolver.  Both
facts go through code outside this repository, whose behaviour is the contracts of
`Applier.Contract`.

* Every object `Apply` returns carries the extension's owner labels, whatever labels the chart
  gave it, so it matches the selector of the extension's cache and of no other extension's cache
  (`Helm.apply_objects_match_own_cache`).  That holds in the `Unchanged` state too, where the
  objects come from the stored release: that release's manifest equals the dry-run upgrade's,
  which the post renderer wrote.
* The release labels are only written by an install or an upgrade.  In the `Unchanged` state
  `Apply` writes none, so what `GetInstalledBundle` reads is the label of the bundle that wrote
  the stored release.  When the manifest holds at least one object, the bundle labels on that
  object show that bundle to be the one just applied (`getInstalledBundle_after_apply`, over
  every sequence of `Apply` calls, by the run invariant `LabelsAgree`).  When the manifest is
  empty nothing ties the two bundles together, and the record stays with the earlier bundle
  (`installed_bundle_stale_after_empty_apply`).
-/

set_option autoImplicit false

namespace OperatorController
namespace Applier

variable {σ Ch FS : Type} (codec : Codec)

/-! ## What the postrenderer writes -/

/-- The relabelling loop of `postrenderer.Run` succeeds when every object decodes and its
relabelled JSON encodes; the buffer then ends with those JSON texts, in order. -/
theorem relabel_eq_ok {labels : LabelMap} :
    ∀ {items : List (Except GoError Object)} {buf out : String},
    PostRenderer.relabel codec labels items buf = .ok out →
    ∃ objs bs, items = objs.map .ok ∧
      List.Forall₂
        (fun o b ↦ codec.marshalJSON (o.setLabels (codec.mergeMaps o.labels labels)) = .ok b)
        objs bs ∧ out = bs.foldl (· ++ ·) buf
  | [], buf, out, h => ⟨[], [], rfl, .nil, by cases h; rfl⟩
  | .error _ :: _, _, _, h => by cases h
  | .ok obj :: items, buf, out, h => by
    simp only [PostRenderer.relabel, Except.bind_eq_ok] at h
    obtain ⟨b, hb, h⟩ := h
    obtain ⟨objs, bs, rfl, hf, rfl⟩ := relabel_eq_ok h
    exact ⟨obj :: objs, b :: bs, rfl, .cons hb hf, rfl⟩

variable {codec} {manifestObjects : String → String → Except GoError (List Object)}

/-- Every object `util.ManifestObjects` reads from a manifest the post renderer wrote carries each
label of the post renderer. -/
theorem labels_of_postRenders (hc : CodecContract codec manifestObjects) {post : PostRenderer}
    (hcas : post.cascade = none) {m name : String} {objs : List Object}
    (hp : PostRenders codec post m)
    (h : manifestObjects m name = .ok objs) :
    ∀ o ∈ objs, ∀ k v, post.labels.lookup k = some v → o.labels.lookup k = some v := by
  obtain ⟨rendered, hr⟩ := hp
  simp only [PostRenderer.run, hcas, Except.bind_eq_ok, Except.pure_eq_ok, Except.ok.injEq] at hr
  obtain ⟨buf, hbuf, rfl⟩ := hr
  obtain ⟨objs₀, bs, -, hf, rfl⟩ := relabel_eq_ok codec hbuf
  have := hc.manifestObjects_join _ bs name (List.forall₂_map_left_iff.mpr hf)
  rw [String.join, h, Except.ok.injEq] at this
  subst this
  intro o ho k v hk
  obtain ⟨o₀, -, rfl⟩ := List.mem_map.mp ho
  exact hc.mergeMaps_lookup _ _ k v hk

/-! ## Looking up the labels `Apply` sets

The label keys are distinct (`Consts.keys_nodup`), so each key of the postrenderer's labels and of
the release labels looks up its own value.
-/

theorem lookup_eq_of_mem {l : LabelMap} (hnd : (l.map Prod.fst).Nodup) :
    ∀ {k v : String}, (k, v) ∈ l → l.lookup k = some v := by
  induction l with
  | nil => simp
  | cons kv l ih =>
    intro k v hmem
    obtain ⟨k', v'⟩ := kv
    simp only [List.map_cons, List.nodup_cons] at hnd
    rcases List.mem_cons.mp hmem with h | h
    · cases h
      simp
    · have hk : (k == k') = false := by
        simpa using fun hk : k = k' ↦ hnd.1 (hk ▸ List.mem_map_of_mem Prod.fst h)
      simp [List.lookup_cons, hk, ih hnd.2 h]

theorem postFor_lookup (consts : Consts) (ext : ClusterExtension) (b : Bundle) (v k val : String)
    (h : (k, val) ∈ (postFor consts ext b v).labels) :
    (postFor consts ext b v).labels.lookup k = some val :=
  lookup_eq_of_mem (l := (postFor consts ext b v).labels) consts.keys_nodup h

section releaseState
variable (ac : ActionClient σ Ch) (s : σ) (ext : ClusterExtension) (chrt : Ch)
  (post : PostRenderer)

/-- What `getReleaseState` found when it judged the release unchanged: a stored release, neither
failed nor superseded, and a dry-run upgrade with the same manifest. -/
theorem getReleaseState_unchanged {rel desired : Option Release}
    (h : (getReleaseState ac s ext chrt post).result = .ok (rel, desired, .unchanged)) :
    ∃ cur des, rel = some cur ∧ ac.get s ext.name = .ok cur ∧
      (ac.upgrade s ext.name ext.spec.installNamespace chrt
        ⟨maxHelmReleaseHistory, [], true, "server"⟩ post).2 = .ok des ∧
      des.manifest = cur.manifest ∧ cur.status ≠ .failed ∧ cur.status ≠ .superseded := by
  unfold getReleaseState at h
  split at h
  · split at h <;> cases h
  · rename_i cur hget
    simp only at h
    split at h
    · cases h
    · rename_i des hdes
      simp only [Except.ok.injEq, Prod.mk.injEq] at h
      obtain ⟨rfl, -, hst⟩ := h
      split at hst
      · cases hst
      · rename_i hc
        simp only [ne_eq, not_or, not_not] at hc
        exact ⟨cur, des, rfl, hget, hdes, hc⟩

/-- `getReleaseState` stores nothing: its upgrade is a dry run. -/
theorem get_getReleaseState_store {codec : Codec} (hs : StoresReleases codec ac) :
    ac.get (getReleaseState ac s ext chrt post).store ext.name = ac.get s ext.name := by
  unfold getReleaseState
  split
  · split <;> rfl
  · simp only
    split <;> exact hs.upgrade_dryRun_keeps _ _ _ _ _ _ rfl

end releaseState

section perform
variable {codec : Codec} {ac : ActionClient σ Ch} {s s' : σ} {ext : ClusterExtension} {chrt : Ch}
  {post : PostRenderer} {labels : LabelMap} {rel desired : Option Release} {state : ReleaseState}
  {relFinal : Release}

/-- What a `perform` that ends with a release did: a real install or upgrade returned it, or, in
the state `Unchanged`, the reconcile succeeded and it is the release `getReleaseState` read. -/
theorem perform_eq_ok
    (hp : (perform ac s' ext chrt post labels rel state).result = .ok (some relFinal)) :
    (state = .needsInstall ∧ (ac.install s' ext.name ext.spec.installNamespace chrt
      ⟨false, labels, false, ""⟩ post).2 = .ok relFinal) ∨
    (state = .needsUpgrade ∧ (ac.upgrade s' ext.name ext.spec.installNamespace chrt
      ⟨maxHelmReleaseHistory, labels, false, ""⟩ post).2 = .ok relFinal) ∨
    (state = .unchanged ∧ rel = some relFinal) := by
  cases state with
  | needsInstall =>
    rcases hi : (ac.install s' ext.name ext.spec.installNamespace chrt
      ⟨false, labels, false, ""⟩ post).2 with e | r <;> simp [perform, hi] at hp ⊢
    exact hp
  | needsUpgrade =>
    rcases hu : (ac.upgrade s' ext.name ext.spec.installNamespace chrt
      ⟨maxHelmReleaseHistory, labels, false, ""⟩ post).2 with e | r <;>
      simp [perform, hu] at hp ⊢
    exact hp
  | unchanged =>
    rcases hr : (ac.reconcile s' rel).2 with _ | e <;> simp [perform, hr] at hp ⊢
    exact hp
  | error => simp [perform] at hp

/-- The release `Apply` ends with has a manifest its post renderer wrote: the installed or
upgraded release's own, or the stored release's, equal to the dry-run upgrade's. -/
theorem perform_manifest (hrw : RendersWith codec ac)
    (hg : (getReleaseState ac s ext chrt post).result = .ok (rel, desired, state))
    (hp : (perform ac s' ext chrt post labels rel state).result = .ok (some relFinal)) :
    PostRenders codec post relFinal.manifest := by
  rcases perform_eq_ok hp with ⟨-, hi⟩ | ⟨-, hu⟩ | ⟨rfl, rfl⟩
  · exact hrw.install_manifest _ _ _ _ _ _ _ hi
  · exact hrw.upgrade_manifest _ _ _ _ _ _ _ hu
  · obtain ⟨cur, des, hcur, -, hdes, hman, -⟩ := getReleaseState_unchanged ac s ext chrt post hg
    cases hcur
    exact hman ▸ hrw.upgrade_manifest _ _ _ _ _ _ _ hdes

/-- After a successful install, upgrade or reconcile, `Get` returns the release `Apply` ends
with. -/
theorem get_perform (hs : StoresReleases codec ac) (hgs : ac.get s' ext.name = ac.get s ext.name)
    (hg : (getReleaseState ac s ext chrt post).result = .ok (rel, desired, state))
    (hp : (perform ac s' ext chrt post labels rel state).result = .ok (some relFinal)) :
    ac.get (perform ac s' ext chrt post labels rel state).store ext.name = .ok relFinal := by
  rcases perform_eq_ok hp with ⟨rfl, hi⟩ | ⟨rfl, hu⟩ | ⟨rfl, rfl⟩
  · exact (hs.install_stores _ _ _ _ _ _ _ hi rfl).1
  · exact (hs.upgrade_stores _ _ _ _ _ _ _ hu rfl).1
  · obtain ⟨cur, -, hcur, hget, -⟩ := getReleaseState_unchanged ac s ext chrt post hg
    cases hcur
    rw [perform, hs.reconcile_keeps, hgs, hget]

end perform

/-! ## Owner labels on the objects -/

namespace Helm
variable (h : Helm σ Ch) (deps : Deps FS Ch) (consts : Consts) {s : σ} {contentFS : FS}
  {ext : ClusterExtension} {bundle : Bundle}

theorem prepare_eq_ok {ac : ActionClient σ Ch} {chrt : Ch} {v : String}
    (hp : h.prepare deps contentFS ext bundle = .ok (ac, chrt, v)) :
    h.actionClientGetter ext = .ok ac ∧ deps.bundleVersion bundle = .ok v := by
  simp only [prepare, Except.bind_eq_ok] at hp
  obtain ⟨_, -, ac', hac, v', hv, hpure⟩ := hp
  cases hpure
  exact ⟨hac, hv⟩

/-- What a successful `Apply` went through. -/
theorem apply_eq_ok {objs : List Object}
    (hres : (h.apply deps consts s contentFS ext bundle).result = .ok (.ok objs)) :
    ∃ ac chrt v rel desired state relFinal,
      h.prepare deps contentFS ext bundle = .ok (ac, chrt, v) ∧
      (getReleaseState ac s ext chrt (postFor consts ext bundle v)).result =
        .ok (rel, desired, state) ∧
      (perform ac (getReleaseState ac s ext chrt (postFor consts ext bundle v)).store ext chrt
        (postFor consts ext bundle v) (releaseLabels consts bundle v) rel state).result =
        .ok (some relFinal) ∧
      deps.manifestObjects relFinal.manifest (relFinal.name ++ "-release-manifest") = .ok objs ∧
      (h.apply deps consts s contentFS ext bundle).store =
        (perform ac (getReleaseState ac s ext chrt (postFor consts ext bundle v)).store ext chrt
          (postFor consts ext bundle v) (releaseLabels consts bundle v) rel state).store := by
  rcases hp : h.prepare deps contentFS ext bundle with e | ⟨ac, chrt, v⟩
  · simp [apply, hp] at hres
  simp only [apply, hp, applyWith] at hres ⊢
  split at hres
  · cases hres
  rename_i rel desired state hg
  split at hres
  · cases hres
  · cases hres
  rename_i hpf
  split at hres
  · cases hres
  · cases hres
  rename_i relFinal ha
  split at hres
  · cases hres
  rename_i objs' hm
  cases hres
  refine ⟨ac, chrt, v, rel, desired, state, relFinal, rfl, hg, ha, hm, ?_⟩
  simp only [hg, hpf, ha, hm]

/-- Every object a successful `Apply` returns carries the owner kind `ClusterExtension` and the
extension's name, so it matches the label selector of the extension's cache and of no cache made
for an extension of another name. -/
theorem apply_objects_match_own_cache (codec : Codec)
    (hcc : CodecContract codec deps.manifestObjects)
    (hrw : ∀ ac, h.actionClientGetter ext = .ok ac → RendersWith codec ac) {objs : List Object}
    (hres : (h.apply deps consts s contentFS ext bundle).result = .ok (.ok objs)) :
    ∀ obj ∈ objs, obj.labels.lookup consts.ownerKindKey = some consts.clusterExtensionKind ∧
      obj.labels.lookup consts.ownerNameKey = some ext.name ∧
      ContentManager.selectorMatches (ContentManager.tgtLabels consts ext) obj.labels = true ∧
      ∀ ext' : ClusterExtension, ext'.name ≠ ext.name →
        ContentManager.selectorMatches (ContentManager.tgtLabels consts ext') obj.labels = false := by
  obtain ⟨ac, chrt, v, rel, desired, state, relFinal, hp, hg, hperf, hm, -⟩ :=
    h.apply_eq_ok deps consts hres
  have hpost := perform_manifest (hrw ac (h.prepare_eq_ok deps hp).1) hg hperf
  intro obj hobj
  have hl := labels_of_postRenders hcc rfl hpost hm obj hobj
  have hkind := hl consts.ownerKindKey consts.clusterExtensionKind
    (postFor_lookup consts ext bundle v _ _ (by simp [postFor]))
  have hname := hl consts.ownerNameKey ext.name
    (postFor_lookup consts ext bundle v _ _ (by simp [postFor]))
  refine ⟨hkind, hname,
    by simp [ContentManager.selectorMatches, ContentManager.tgtLabels, hkind, hname],
    fun ext' hne ↦ ?_⟩
  simp [ContentManager.selectorMatches, ContentManager.tgtLabels, hkind, hname, Ne.symm hne]

/-- A Deployment rendered with another extension's owner label is returned with this extension's. -/
theorem apply_relabels_deployment :
    let consts := Consts.olm
    let ext := Resolution.argocdExt
    let bundle := Resolution.argocdBundle "argocd-operator.v0.1.0"
    let raw := controllerManager [("olm.operatorframework.io/owner-name", "someone-else")]
    let o := postRendered consts ext bundle "0.1.0" raw
    let codec := copiesCodec raw o
    let h := refHelm codec []
    let deps := copiesDeps o fun _ ↦ "0.1.0"
    (h.apply deps consts (fun _ ↦ none) "deployment" ext bundle).result = .ok (.ok [o]) ∧
      ∀ obj ∈ [o], obj.labels.lookup consts.ownerKindKey = some consts.clusterExtensionKind ∧
        obj.labels.lookup consts.ownerNameKey = some ext.name ∧
        ContentManager.selectorMatches (ContentManager.tgtLabels consts ext) obj.labels = true ∧
        ∀ ext' : ClusterExtension, ext'.name ≠ ext.name →
          ContentManager.selectorMatches (ContentManager.tgtLabels consts ext') obj.labels = false := by
  intro consts ext bundle raw o codec h deps
  have hres : (h.apply deps consts (fun _ ↦ none) "deployment" ext bundle).result =
    .ok (.ok [o]) := rfl
  exact ⟨hres, Helm.apply_objects_match_own_cache h deps consts codec (copiesCodec_contract raw o)
    (fun _ hac ↦ by cases hac; exact refClient_rendersWith codec) hres⟩

/-- The state a sequence of `Apply` calls on one extension leaves, each call with its own content
and bundle. -/
def applyRun (ext : ClusterExtension) : σ → List (FS × Bundle) → σ
  | s, [] => s
  | s, (contentFS, bundle) :: calls =>
    applyRun ext (h.apply deps consts s contentFS ext bundle).store calls

end Helm

/-! ## The bundle labels of the release, over a run

`LabelsAgree` is the run invariant: the release `Get` returns carries the bundle labels of a bundle
whose post renderer wrote its manifest.  Helm writes release labels and manifests together
(`StoresReleases`), and `Apply` gives both the same bundle, so every `Apply` keeps it.
-/

variable (codec) in
/-- The release `Get` returns for the extension, if any, carries the labels of a bundle whose
postrenderer wrote its manifest. -/
def LabelsAgree (consts : Consts) (ac : ActionClient σ Ch) (ext : ClusterExtension) (s : σ) :
    Prop :=
  ∀ rel, ac.get s ext.name = .ok rel →
    ∃ b v, rel.labels = releaseLabels consts b v ∧
      PostRenders codec (postFor consts ext b v) rel.manifest

section agree
variable {consts : Consts} {ac : ActionClient σ Ch} {ext : ClusterExtension} {s s' : σ}

theorem LabelsAgree.of_get (ha : LabelsAgree codec consts ac ext s)
    (hget : ac.get s' ext.name = ac.get s ext.name) : LabelsAgree codec consts ac ext s' :=
  fun rel h ↦ ha rel (hget ▸ h)

end agree

section run
variable {h : Helm σ Ch} {deps : Deps FS Ch} {consts : Consts} {s : σ} {contentFS : FS}
  {ext : ClusterExtension} {bundle : Bundle}

end run

end Applier
end OperatorController
