import OperatorController.Applier.Helm
import Mathlib.Logic.Function.Basic

/-!
# What Helm and the decoding libraries are assumed to do

Which labels the objects of a release carry, and which labels the release itself carries, is
decided partly by this repository — the postrenderer, `Apply`, `GetInstalledBundle` — and partly by
code outside it: Helm, which renders a chart, runs the post renderer and stores releases, and the
libraries that encode and decode objects.  The results about labels assume of that code exactly
what the three structures below state, and nothing else.

* `CodecContract` — `util.MergeMaps(a, b)` gives each key of `b` its value in `b`, and
  `util.ManifestObjects` reads back the objects whose JSON a manifest concatenates.
* `RendersWith` — the manifest of a release that Helm installs or upgrades, for real or as a dry
  run, is what the post renderer it was handed wrote.
* `StoresReleases` — what `Get` returns for a name after a call: a real install or upgrade that
  succeeds stores the release it returns, with the labels it was given; any install or upgrade
  leaves the stored release alone or stores one with the labels it was given and a manifest of its
  post renderer (a failed release included); a dry run and a reconcile store nothing.
* `RendersChart` — Helm renders a chart the same way on every call, and a release it really
  installs or upgrades is deployed.  Only applying a bundle again (`Applier.Reapply`) needs it.

`refClient` is a Helm that keeps the last release of each name; it meets `RendersWith`,
`StoresReleases` and `RendersChart` for every codec.  `copiesCodec` is a codec for manifests made of copies of one
object; it meets `CodecContract`.  So the contracts are consistent, and these two are what the
concrete runs of `Applier.Labels` use.
-/

set_option autoImplicit false

namespace OperatorController
namespace Applier

variable {σ Ch : Type}

/-- The post renderer `post` wrote `manifest`: it is `post.Run` of some rendered chart. -/
def PostRenders (codec : Codec) (post : PostRenderer) (manifest : String) : Prop :=
  ∃ rendered, post.run codec rendered = .ok manifest

/-- What the proofs assume of `util.MergeMaps`, of `MarshalJSON` and of `util.ManifestObjects`. -/
structure CodecContract (codec : Codec)
    (manifestObjects : String → String → Except GoError (List Object)) : Prop where
  /-- `util.MergeMaps(a, b)` has, for each key of `b`, the value `b` gives it. -/
  mergeMaps_lookup : ∀ (a b : LabelMap) k v, b.lookup k = some v →
    (codec.mergeMaps a b).lookup k = some v
  /-- `util.ManifestObjects` reads back the objects whose JSON a manifest concatenates. -/
  manifestObjects_join : ∀ objs bs name,
    List.Forall₂ (fun o b ↦ codec.marshalJSON o = .ok b) objs bs →
    manifestObjects (String.join bs) name = .ok objs

/-- Helm renders the manifest of a release it installs or upgrades through the post renderer it
is handed. -/
structure RendersWith (codec : Codec) (ac : ActionClient σ Ch) : Prop where
  install_manifest : ∀ s name ns chrt cfg post rel,
    (ac.install s name ns chrt cfg post).2 = .ok rel → PostRenders codec post rel.manifest
  upgrade_manifest : ∀ s name ns chrt cfg post rel,
    (ac.upgrade s name ns chrt cfg post).2 = .ok rel → PostRenders codec post rel.manifest

/-- Helm's release storage, as `Get` sees it. -/
structure StoresReleases (codec : Codec) (ac : ActionClient σ Ch) : Prop where
  install_stores : ∀ s name ns chrt cfg post rel,
    (ac.install s name ns chrt cfg post).2 = .ok rel → cfg.dryRun = false →
    ac.get (ac.install s name ns chrt cfg post).1 name = .ok rel ∧ rel.labels = cfg.labels
  upgrade_stores : ∀ s name ns chrt cfg post rel,
    (ac.upgrade s name ns chrt cfg post).2 = .ok rel → cfg.dryRun = false →
    ac.get (ac.upgrade s name ns chrt cfg post).1 name = .ok rel ∧ rel.labels = cfg.labels
  install_keeps_or_stores : ∀ s name ns chrt cfg post,
    ac.get (ac.install s name ns chrt cfg post).1 name = ac.get s name ∨
    ∃ rel, ac.get (ac.install s name ns chrt cfg post).1 name = .ok rel ∧
      rel.labels = cfg.labels ∧ PostRenders codec post rel.manifest
  upgrade_keeps_or_stores : ∀ s name ns chrt cfg post,
    ac.get (ac.upgrade s name ns chrt cfg post).1 name = ac.get s name ∨
    ∃ rel, ac.get (ac.upgrade s name ns chrt cfg post).1 name = .ok rel ∧
      rel.labels = cfg.labels ∧ PostRenders codec post rel.manifest
  upgrade_dryRun_keeps : ∀ s name ns chrt cfg post, cfg.dryRun = true →
    ac.get (ac.upgrade s name ns chrt cfg post).1 name = ac.get s name
  reconcile_keeps : ∀ s rel name, ac.get (ac.reconcile s rel).1 name = ac.get s name

/-- Helm renders the chart the same way on every call, `render chrt`, and runs the post renderer it
is handed over that; a release it really installs or upgrades is deployed.  That the rendering
depends on the chart alone leaves out templates that read the cluster. -/
structure RendersChart (codec : Codec) (ac : ActionClient σ Ch) (render : Ch → String) : Prop where
  install_manifest : ∀ s name ns chrt cfg post rel,
    (ac.install s name ns chrt cfg post).2 = .ok rel → post.run codec (render chrt) = .ok rel.manifest
  upgrade_manifest : ∀ s name ns chrt cfg post rel,
    (ac.upgrade s name ns chrt cfg post).2 = .ok rel → post.run codec (render chrt) = .ok rel.manifest
  install_deployed : ∀ s name ns chrt cfg post rel,
    (ac.install s name ns chrt cfg post).2 = .ok rel → cfg.dryRun = false → rel.status = .deployed
  upgrade_deployed : ∀ s name ns chrt cfg post rel,
    (ac.upgrade s name ns chrt cfg post).2 = .ok rel → cfg.dryRun = false → rel.status = .deployed

/-! ## A Helm that keeps the last release of each name -/

/-- Storing a release, unless the call is a dry run. -/
def storeUnlessDryRun (s : String → Option Release) (dryRun : Bool) (rel : Release) :
    String → Option Release :=
  if dryRun then s else Function.update s rel.name (some rel)

/-- A Helm whose storage is the last release of each name and whose chart is the rendered
manifest itself.  An upgrade needs a stored release; every release it makes is deployed. -/
def refClient (codec : Codec) : ActionClient (String → Option Release) String where
  get s name := match s name with
    | some rel => .ok rel
    | none => .error (.sentinel errReleaseNotFound "release: not found")
  install s name _ chrt cfg post := match post.run codec chrt with
    | .error err => (s, .error err)
    | .ok manifest =>
      let rel : Release := ⟨name, manifest, cfg.labels, .deployed⟩
      (storeUnlessDryRun s cfg.dryRun rel, .ok rel)
  upgrade s name _ chrt cfg post := match s name with
    | none => (s, .error (.errorf "%q has no deployed releases" [name]))
    | some _ =>
      match post.run codec chrt with
      | .error err => (s, .error err)
      | .ok manifest =>
        let rel : Release := ⟨name, manifest, cfg.labels, .deployed⟩
        (storeUnlessDryRun s cfg.dryRun rel, .ok rel)
  reconcile s _ := (s, none)

variable (codec : Codec)

theorem refClient_rendersWith : RendersWith codec (refClient codec) where
  install_manifest s name ns chrt cfg post rel h := by
    rcases hr : post.run codec chrt with err | manifest <;> simp [refClient, hr] at h
    exact ⟨chrt, h ▸ hr⟩
  upgrade_manifest s name ns chrt cfg post rel h := by
    rcases hs : s name with _ | old
    · simp [refClient, hs] at h
    rcases hr : post.run codec chrt with err | manifest <;> simp [refClient, hs, hr] at h
    exact ⟨chrt, h ▸ hr⟩

theorem refClient_storesReleases : StoresReleases codec (refClient codec) where
  install_stores s name ns chrt cfg post rel h hd := by
    rcases hr : post.run codec chrt with err | manifest <;> simp [refClient, hr] at h
    simp [refClient, hr, storeUnlessDryRun, hd, ← h]
  upgrade_stores s name ns chrt cfg post rel h hd := by
    rcases hs : s name with _ | old
    · simp [refClient, hs] at h
    rcases hr : post.run codec chrt with err | manifest <;> simp [refClient, hs, hr] at h
    simp [refClient, hs, hr, storeUnlessDryRun, hd, ← h]
  install_keeps_or_stores s name ns chrt cfg post := by
    rcases hr : post.run codec chrt with err | manifest
    · exact .inl (by simp [refClient, hr])
    cases hd : cfg.dryRun
    · exact .inr ⟨⟨name, manifest, cfg.labels, .deployed⟩,
        by simp [refClient, hr, storeUnlessDryRun, hd], rfl, chrt, hr⟩
    · exact .inl (by simp [refClient, hr, storeUnlessDryRun, hd])
  upgrade_keeps_or_stores s name ns chrt cfg post := by
    rcases hs : s name with _ | old
    · exact .inl (by simp [refClient, hs])
    rcases hr : post.run codec chrt with err | manifest
    · exact .inl (by simp [refClient, hs, hr])
    cases hd : cfg.dryRun
    · exact .inr ⟨⟨name, manifest, cfg.labels, .deployed⟩,
        by simp [refClient, hs, hr, storeUnlessDryRun, hd], rfl, chrt, hr⟩
    · exact .inl (by simp [refClient, hs, hr, storeUnlessDryRun, hd])
  upgrade_dryRun_keeps s name ns chrt cfg post hd := by
    rcases hs : s name with _ | old
    · simp [refClient, hs]
    rcases hr : post.run codec chrt with err | manifest <;>
      simp [refClient, hs, hr, storeUnlessDryRun, hd]
  reconcile_keeps _ _ _ := rfl

/-- `refClient`'s chart is its rendering. -/
theorem refClient_rendersChart : RendersChart codec (refClient codec) id where
  install_manifest s name ns chrt cfg post rel h := by
    rcases hr : post.run codec chrt with err | manifest <;> simp [refClient, hr] at h
    exact h ▸ hr
  upgrade_manifest s name ns chrt cfg post rel h := by
    rcases hs : s name with _ | old
    · simp [refClient, hs] at h
    rcases hr : post.run codec chrt with err | manifest <;> simp [refClient, hs, hr] at h
    exact h ▸ hr
  install_deployed s name ns chrt cfg post rel h _ := by
    rcases hr : post.run codec chrt with err | manifest <;> simp [refClient, hr] at h
    exact h ▸ rfl
  upgrade_deployed s name ns chrt cfg post rel h _ := by
    rcases hs : s name with _ | old
    · simp [refClient, hs] at h
    rcases hr : post.run codec chrt with err | manifest <;> simp [refClient, hs, hr] at h
    exact h ▸ rfl

/-! ## A codec for manifests of copies of one object -/

/-- A codec whose manifests are made of copies of the object `o`, each written as the letter `o`;
its decoder reads a rendered manifest other than `""` as the one object `raw`, and
`util.MergeMaps(a, b)` puts the pairs of `b` first. -/
def copiesCodec (raw o : Object) : Codec where
  decode rendered := if rendered = "" then [] else [.ok raw]
  marshalJSON obj := if obj = o then .ok "o" else .error (.errorf "json: unsupported value" [])
  mergeMaps a b := b ++ a

/-- `util.ManifestObjects` for `copiesCodec raw o`: one copy of `o` per letter. -/
def copiesManifestObjects (o : Object) (manifest _ : String) : Except GoError (List Object) :=
  .ok (List.replicate manifest.length o)

/-- The Deployment of the `argocd-operator` chart, with the labels the chart gives it. -/
def controllerManager (labels : LabelMap) : Object :=
  ⟨⟨"apps", "v1", "Deployment"⟩, "argocd-operator-controller-manager", labels, "{}"⟩

/-- `raw` as the post renderer labels it for `bundle` at `bundleVersion` with the `mergeMaps` of
`copiesCodec`: the labels of `postFor` come first, so they win. -/
def postRendered (consts : Consts) (ext : ClusterExtension) (bundle : Bundle)
    (bundleVersion : String) (raw : Object) : Object :=
  raw.setLabels ((postFor consts ext bundle bundleVersion).labels ++ raw.labels)

/-- A Helm whose action client, for every extension, is `refClient codec`, with the given
preflights. -/
def refHelm (codec : Codec) (preflights : List Preflight) : Helm (String → Option Release) String :=
  ⟨fun _ ↦ .ok (refClient codec), preflights⟩

/-- What `Apply` takes besides Helm, for charts that are their own rendering: the chart is the
bundle's content, its version is `bundleVersion`, and a manifest reads as copies of `o`. -/
def copiesDeps (o : Object) (bundleVersion : Bundle → String) : Deps String String :=
  ⟨fun chart _ _ ↦ .ok chart, fun b ↦ .ok (bundleVersion b), copiesManifestObjects o⟩

theorem copiesCodec_contract (raw o : Object) :
    CodecContract (copiesCodec raw o) (copiesManifestObjects o) where
  mergeMaps_lookup a b k v h := by simp [copiesCodec, List.lookup_append, h]
  manifestObjects_join objs bs name h := by
    -- every JSON text is the letter `o`, one per copy of `o`
    have key : ∀ acc : String, (bs.foldl (· ++ ·) acc).length = acc.length + objs.length ∧
        ∀ x ∈ objs, x = o := by
      induction h with
      | nil => simp
      | @cons x b _ _ hx _ ih =>
        by_cases hxo : x = o <;> simp [copiesCodec, hxo] at hx
        subst hx hxo
        intro acc
        obtain ⟨hlen, hall⟩ := ih (acc ++ "o")
        have : "o".length = 1 := rfl
        refine ⟨?_, by simpa using hall⟩
        rw [List.foldl_cons, hlen, String.length_append, this, List.length_cons]
        omega
    simp only [copiesManifestObjects, String.join, (key "").1, Except.ok.injEq]
    exact (List.eq_replicate_iff.mpr ⟨by simp, (key "").2⟩).symm

end Applier
end OperatorController
