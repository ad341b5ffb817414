import OperatorController.Applier.Labels
import OperatorController.Applier.Preflights

/-!
# What an `Apply` may change

An `Apply` that fails half way must not leave the cluster half upgraded, and an upgrade must not
reach the cluster's CRDs unless the CRD upgrade-safety preflight has looked at them.  Both are
facts about which of `Apply`'s calls change the release Helm stores.

## What is here

* `apply_changes_release_only_by_install_or_upgrade` — `Get` returns after an `Apply` what it
  returned before, unless `Apply` made a real install or upgrade.  So an `Apply` that fails while
  reading the release, in a preflight, or before that, and one that finds the release unchanged,
  leave the stored release as it was.  Each step says it once: `getReleaseState` stores nothing
  (`get_getReleaseState_store`), and neither does `perform` without an install or an upgrade
  (`get_perform_store_of_not_mem`).
* `apply_upgrades_only_crd_approved` — a real upgrade happens only after the CRD upgrade-safety
  preflight, when it is one of the Helm's preflights and the extension does not disable it, has
  approved the release of the dry-run upgrade: its manifest parses, and every CRD in it converts,
  exists in the cluster and passes kapp's validator and the cross-version validator.
-/

set_option autoImplicit false

namespace OperatorController
namespace Applier

variable {σ Ch FS : Type}

/-! ## Steps that store nothing -/

section steps
variable {codec : Codec} {ac : ActionClient σ Ch} {s : σ} {ext : ClusterExtension} {chrt : Ch}
  {post : PostRenderer} {labels : LabelMap} {rel desired : Option Release}

/-- A release that needs an upgrade has one: the dry-run upgrade's. -/
theorem getReleaseState_needsUpgrade
    (hg : (getReleaseState ac s ext chrt post).result = .ok (rel, desired, .needsUpgrade)) :
    ∃ des, desired = some des := by
  unfold getReleaseState at hg
  split at hg
  · split at hg <;> cases hg
  · simp only at hg
    split at hg
    · cases hg
    · rename_i des _
      simp only [Except.ok.injEq, Prod.mk.injEq] at hg
      exact ⟨des, hg.2.1.symm⟩

/-- `perform` changes what `Get` returns only by a real install or upgrade. -/
theorem get_perform_store_of_not_mem (hs : StoresReleases codec ac) {state : ReleaseState}
    (hcalls : Call.install false ∉ (perform ac s ext chrt post labels rel state).calls ∧
      Call.upgrade false ∉ (perform ac s ext chrt post labels rel state).calls) :
    ac.get (perform ac s ext chrt post labels rel state).store ext.name = ac.get s ext.name := by
  cases state with
  | needsInstall => simp [perform] at hcalls
  | needsUpgrade => simp [perform] at hcalls
  | unchanged => exact hs.reconcile_keeps s rel ext.name
  | error => rfl

end steps

namespace Helm
variable (h : Helm σ Ch) (deps : Deps FS Ch) (consts : Consts) {s : σ} {contentFS : FS}
  {ext : ClusterExtension} {bundle : Bundle}

/-- `applyWith` ends with the store `getReleaseState` left, or, once every preflight has passed,
with the store `perform` left. -/
theorem applyWith_store (ac : ActionClient σ Ch) (s : σ) (chrt : Ch) (bundle : Bundle)
    (v : String) :
    let grs := getReleaseState ac s ext chrt (postFor consts ext bundle v)
    (h.applyWith deps consts ac s ext chrt bundle v).store = grs.store ∨
      ∃ rel desired state, grs.result = .ok (rel, desired, state) ∧
        (runPreflights ext state desired 0 h.preflights).2 = .ok none ∧
        (h.applyWith deps consts ac s ext chrt bundle v).store =
          (perform ac grs.store ext chrt (postFor consts ext bundle v)
            (releaseLabels consts bundle v) rel state).store := by
  intro grs
  unfold applyWith
  simp only
  split
  · exact .inl rfl
  rename_i rel desired state hg
  split
  · exact .inl rfl
  · exact .inl rfl
  rename_i hpf
  refine .inr ⟨rel, desired, state, hg, hpf, ?_⟩
  split <;> try split
  all_goals rfl

/-! ## Only an install or an upgrade changes the release -/

/-- After an `Apply` that made no real install and no real upgrade, `Get` returns for the
extension what it returned before: a failed `Apply`, whatever the step it failed at, and an
`Apply` that found the release unchanged leave the stored release alone. -/
theorem apply_changes_release_only_by_install_or_upgrade (codec : Codec) {ac : ActionClient σ Ch}
    (hac : h.actionClientGetter ext = .ok ac) (hs : StoresReleases codec ac)
    (hcalls : Call.install false ∉ (h.apply deps consts s contentFS ext bundle).calls ∧
      Call.upgrade false ∉ (h.apply deps consts s contentFS ext bundle).calls) :
    ac.get (h.apply deps consts s contentFS ext bundle).store ext.name = ac.get s ext.name := by
  rcases hp : h.prepare deps contentFS ext bundle with err | ⟨ac', chrt, v⟩
  · simp only [Helm.apply, hp]
  obtain rfl := Except.ok.inj (hac.symm.trans (h.prepare_eq_ok deps hp).1)
  have hgrs := get_getReleaseState_store ac s ext chrt (postFor consts ext bundle v) hs
  simp only [Helm.apply, hp] at hcalls ⊢
  rcases h.applyWith_store deps consts ac s chrt bundle v with
    hst | ⟨rel, desired, state, hg, hpf, hst⟩
  · rw [hst, hgrs]
  -- every preflight passed: the calls end with those of `perform`
  rw [applyWith_calls, hg] at hcalls
  simp only [hpf, List.mem_append, not_or] at hcalls
  rw [hst, get_perform_store_of_not_mem hs ⟨hcalls.1.2.2, hcalls.2.2.2⟩, hgrs]

/-- A release with an empty manifest is stored, and the one preflight refuses every upgrade: the
`Apply` of a bundle that renders an object stops at the preflight, and `Get` still returns the old
release. -/
theorem refused_upgrade_keeps_release :
    let consts := Consts.olm
    let ext := Resolution.argocdExt
    let bundle := Resolution.argocdBundle "argocd-operator.v0.2.0"
    let raw := controllerManager []
    let o := postRendered consts ext bundle "0.2.0" raw
    let codec := copiesCodec raw o
    let deps := copiesDeps o fun _ ↦ "0.2.0"
    let s : String → Option Release := fun name ↦
      if name = "argocd" then some ⟨"argocd", "", [], .deployed⟩ else none
    let refuse : Preflight :=
      ⟨false, fun _ ↦ .ok none, fun _ ↦ .ok (some (.errorf "upgrade refused" []))⟩
    let h := refHelm codec [refuse]
    let run := h.apply deps consts s "deployment" ext bundle
    StoresReleases codec (refClient codec) ∧
      (Call.install false ∉ run.calls ∧ Call.upgrade false ∉ run.calls) ∧
      run.result = .ok (.error (.errorf "upgrade refused" [])) ∧
      (refClient codec).get run.store ext.name = (refClient codec).get s ext.name := by
  intro consts ext bundle raw o codec deps s refuse h
  have hcalls : Call.install false ∉ (h.apply deps consts s "deployment" ext bundle).calls ∧
      Call.upgrade false ∉ (h.apply deps consts s "deployment" ext bundle).calls := by decide
  exact ⟨refClient_storesReleases codec, hcalls, rfl,
    h.apply_changes_release_only_by_install_or_upgrade deps consts codec rfl
      (refClient_storesReleases codec) hcalls⟩

/-! ## Upgrades pass the CRD upgrade-safety preflight -/

/-- With the CRD upgrade-safety preflight among the Helm's preflights and not disabled by the
extension, an `Apply` that really upgrades the release does so only after `getReleaseState` found
that the release needs an upgrade and the preflight approved the dry-run upgrade's release: its
manifest parses, and every CRD in it converts, exists in the cluster and passes both validators. -/
theorem apply_upgrades_only_crd_approved {S F D U : Type} (p : CrdUpgradeSafety.Preflight S F D)
    (k : CrdUpgradeSafety.Kapp S F D) (dec : CrdUpgradeSafety.Decoding S U)
    (hpf : p.toApplier k dec ∈ h.preflights)
    (hon : ∀ cfg, ext.spec.preflight = some ⟨some cfg⟩ → cfg.disabled = false)
    (hm : Call.upgrade false ∈ (h.apply deps consts s contentFS ext bundle).calls) :
    ∃ ac chrt v rel desired, h.prepare deps contentFS ext bundle = .ok (ac, chrt, v) ∧
      (getReleaseState ac s ext chrt (postFor consts ext bundle v)).result =
        .ok (rel, some desired, .needsUpgrade) ∧
      p.Approves k dec (some desired) := by
  obtain ⟨ac, chrt, v, rel, desired, hp, hg, -, hpass⟩ :=
    h.apply_mutates_after_preflights deps consts s contentFS bundle
      (show Check.upgrade.call ∈ _ from hm)
  have hs : skips ext (p.toApplier k dec) = false := by
    rw [Bool.eq_false_iff, ne_eq, skips_iff]
    rintro ⟨-, cfg, hcfg, hd⟩
    simp [hon cfg hcfg] at hd
  obtain ⟨i, hi⟩ := mem_activeFrom_zero_of_mem hpf hs
  obtain ⟨des, rfl⟩ := getReleaseState_needsUpgrade hg
  exact ⟨ac, chrt, v, rel, des, hp, hg, (p.upgrade_eq_ok_none_iff k dec _).mp (hpass _ hi)⟩

/-- The stored release has an empty manifest, and the bundle renders the CRD
`widgets.example.com`, which the cluster has with the same scope: the CRD upgrade-safety preflight
runs kapp's validator and the cross-version validator on it, both pass, and `Apply` upgrades. -/
theorem upgrade_of_widgets_crd_approved :
    let consts := Consts.olm
    let ext := Resolution.argocdExt
    let bundle := Resolution.argocdBundle "argocd-operator.v0.2.0"
    let raw : Object := ⟨CrdUpgradeSafety.crdGVK, "widgets.example.com", [], "{}"⟩
    let o := postRendered consts ext bundle "0.2.0" raw
    let codec := copiesCodec raw o
    let deps := copiesDeps o fun _ ↦ "0.2.0"
    let s : String → Option Release := fun name ↦
      if name = "argocd" then some ⟨"argocd", "", [], .deployed⟩ else none
    let k := CrdUpgradeSafety.Kapp.reference
    let dec : CrdUpgradeSafety.Decoding Unit Unit := ⟨copiesManifestObjects o, fun _ ↦ .ok (),
      fun _ ↦ .ok CrdUpgradeSafety.widgetsCRD⟩
    let p := CrdUpgradeSafety.newPreflight k (fun _ ↦ .ok CrdUpgradeSafety.widgetsCRD) []
    let h := refHelm codec [p.toApplier k dec]
    let run := h.apply deps consts s "deployment" ext bundle
    CrdUpgradeSafety.isCRD o = true ∧ p.toApplier k dec ∈ h.preflights ∧
      (∀ cfg, ext.spec.preflight = some ⟨some cfg⟩ → cfg.disabled = false) ∧
      Call.upgrade false ∈ run.calls ∧
      ∃ ac chrt v rel desired, h.prepare deps "deployment" ext bundle = .ok (ac, chrt, v) ∧
        (getReleaseState ac s ext chrt (postFor consts ext bundle v)).result =
          .ok (rel, some desired, .needsUpgrade) ∧
        p.Approves k dec (some desired) := by
  intro consts ext bundle raw o codec deps s k dec p h
  have hpf : p.toApplier k dec ∈ h.preflights := List.mem_singleton_self _
  have hon : ∀ cfg, ext.spec.preflight = some ⟨some cfg⟩ → cfg.disabled = false :=
    fun _ hcfg ↦ by cases hcfg
  have hm : Call.upgrade false ∈ (h.apply deps consts s "deployment" ext bundle).calls := by decide
  exact ⟨rfl, hpf, hon, hm, h.apply_upgrades_only_crd_approved deps consts p k dec hpf hon hm⟩

end Helm

end Applier
end OperatorController
