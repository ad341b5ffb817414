import OperatorController.Applier.PostRenderer
import OperatorController.CrdUpgradeSafety.Preflight

/-!
# Applying a bundle with Helm

`Helm.Apply` turns a bundle into a Helm chart and brings the extension's Helm release in line
with it.  `getReleaseState` first asks Helm for the current release and, when there is one, for a
dry-run upgrade, and classifies the release: it needs an install, needs an upgrade, or is
unchanged.  Then every preflight runs its check for that state, in order, unless it is the CRD
upgrade-safety preflight and the extension disables it; the first preflight to fail ends
`Apply`.  Only then does `Apply` install, upgrade or reconcile the release, and it returns the
objects of the release's manifest.

## The model

Helm is reached through an `ActionClient`: functions over a state `σ` of the cluster and of
Helm's release storage, so that nothing is assumed about what Helm does.  `Apply` returns, with
its result, the state it leaves and the list of the calls it made (`Call`), which is what its
safety contract is about.  The converter from registry bundles to charts, `bundle.Version()`
and `util.ManifestObjects` are outside this repository's sources and form the parameter `Deps`.
-/

set_option autoImplicit false

namespace OperatorController
namespace Applier

/-- `releaseState`. -/
inductive ReleaseState where
  | needsInstall
  | needsUpgrade
  | unchanged
  | error
  deriving DecidableEq, Repr

/-- The settings `Apply` and `getReleaseState` give `action.Install` through their option
functions. -/
structure InstallConfig where
  createNamespace : Bool
  labels : LabelMap
  dryRun : Bool
  dryRunOption : String
  deriving DecidableEq, Repr

/-- The settings they give `action.Upgrade`. -/
structure UpgradeConfig where
  maxHistory : Nat
  labels : LabelMap
  dryRun : Bool
  dryRunOption : String
  deriving DecidableEq, Repr

/-- `helmclient.ActionInterface`, over the state `σ` of the cluster and of Helm's storage, with
charts of type `Ch`.  Each call takes the release name, the namespace, the chart, the settings and
the post renderer. -/
structure ActionClient (σ Ch : Type) where
  get : σ → String → Except GoError Release
  install : σ → String → String → Ch → InstallConfig → PostRenderer → σ × Except GoError Release
  upgrade : σ → String → String → Ch → UpgradeConfig → PostRenderer → σ × Except GoError Release
  reconcile : σ → Option Release → σ × Option GoError

/-- The `Preflight` interface.  `isCRDUpgradeSafety` is whether the dynamic type is
`*crdupgradesafety.Preflight`. -/
structure Preflight where
  isCRDUpgradeSafety : Bool
  install : Option Release → Except Panic (Option GoError)
  upgrade : Option Release → Except Panic (Option GoError)

/-- `Helm`. -/
structure Helm (σ Ch : Type) where
  /-- `ActionClientGetter.ActionClientFor(ctx, ext)`. -/
  actionClientGetter : ClusterExtension → Except GoError (ActionClient σ Ch)
  preflights : List Preflight

/-- What `Apply` calls outside this repository's sources. -/
structure Deps (FS Ch : Type) where
  /-- `convert.RegistryV1ToHelmChart(ctx, contentFS, installNamespace, watchNamespaces)`. -/
  registryV1ToHelmChart : FS → String → List String → Except GoError Ch
  /-- `bundle.Version()`, with the `String()` of the version it parses. -/
  bundleVersion : Bundle → Except GoError String
  /-- `util.ManifestObjects(strings.NewReader(manifest), name)`. -/
  manifestObjects : String → String → Except GoError (List Object)

/-- The check a preflight is asked for. -/
inductive Check where
  | install
  | upgrade
  deriving DecidableEq, Repr

/-- A call `Apply` makes on Helm or on a preflight. -/
inductive Call where
  | get (name : String)
  | install (dryRun : Bool)
  | upgrade (dryRun : Bool)
  | reconcile
  /-- The preflight at this index of `h.Preflights`, asked for a check on a release. -/
  | preflight (index : Nat) (check : Check) (rel : Option Release)
  deriving DecidableEq, Repr

/-- What a computation of `Apply` did: the state it left, the calls it made, its result. -/
structure Step (σ α : Type) where
  store : σ
  calls : List Call
  result : α

/-- `driver.ErrReleaseNotFound`. -/
def errReleaseNotFound : String := "driver.ErrReleaseNotFound"

/-- `maxHelmReleaseHistory`. -/
def maxHelmReleaseHistory : Nat := 10

/-- `corev1.NamespaceAll`. -/
def namespaceAll : String := ""

variable {σ Ch FS : Type}

/-- `getReleaseState`.  The second `errors.Is(err, driver.ErrReleaseNotFound)` branch of the
source (lines 158–168) is dead, since the first one returns; it is left out. -/
def getReleaseState (cl : ActionClient σ Ch) (s : σ) (ext : ClusterExtension) (chrt : Ch)
    (post : PostRenderer) : Step σ (Except GoError (Option Release × Option Release × ReleaseState)) :=
  match cl.get s ext.name with
  | .error err =>
    if err.is errReleaseNotFound then ⟨s, [.get ext.name], .ok (none, none, .needsInstall)⟩
    else ⟨s, [.get ext.name], .error err⟩
  | .ok currentRelease =>
    let r := cl.upgrade s ext.name ext.spec.installNamespace chrt
      ⟨maxHelmReleaseHistory, [], true, "server"⟩ post
    match r.2 with
    | .error err => ⟨r.1, [.get ext.name, .upgrade true], .error err⟩
    | .ok desiredRelease =>
      let relState :=
        if desiredRelease.manifest ≠ currentRelease.manifest ∨
            currentRelease.status = .failed ∨ currentRelease.status = .superseded then
          ReleaseState.needsUpgrade
        else .unchanged
      ⟨r.1, [.get ext.name, .upgrade true], .ok (some currentRelease, some desiredRelease, relState)⟩

/-- The check the preflight loop's `switch state` runs for a state, if any. -/
def ReleaseState.check? : ReleaseState → Option Check
  | .needsInstall => some .install
  | .needsUpgrade => some .upgrade
  | _ => none

/-- A preflight's check. -/
def Preflight.check (pf : Preflight) : Check → Option Release → Except Panic (Option GoError)
  | .install => pf.install
  | .upgrade => pf.upgrade

/-- Whether `Apply` skips a preflight (lines 84–90). -/
def skips (ext : ClusterExtension) (pf : Preflight) : Bool :=
  match ext.spec.preflight with
  | some ⟨some crdUpgradeSafety⟩ => pf.isCRDUpgradeSafety && crdUpgradeSafety.disabled
  | _ => false

/-- The preflight loop of `Apply` (lines 83–103), from index `i` of the list: the calls it makes,
and whether it ran through, returned an error or panicked. -/
def runPreflights (ext : ClusterExtension) (state : ReleaseState) (desiredRel : Option Release) :
    Nat → List Preflight → List Call × Except Panic (Option GoError)
  | _, [] => ([], .ok none)
  | i, pf :: pfs =>
    if skips ext pf then runPreflights ext state desiredRel (i + 1) pfs
    else
      match state.check? with
      | none => runPreflights ext state desiredRel (i + 1) pfs
      | some c =>
        match pf.check c desiredRel with
        | .ok none =>
          let r := runPreflights ext state desiredRel (i + 1) pfs
          (.preflight i c desiredRel :: r.1, r.2)
        | r => ([.preflight i c desiredRel], r)

/-- The postrenderer `Apply` builds (lines 68–76). -/
def postFor (consts : Consts) (ext : ClusterExtension) (bundle : Bundle) (bundleVersion : String) :
    PostRenderer :=
  ⟨[(consts.ownerKindKey, consts.clusterExtensionKind), (consts.ownerNameKey, ext.name),
    (consts.bundleNameKey, bundle.name), (consts.packageNameKey, bundle.package),
    (consts.bundleVersionKey, bundleVersion)], none⟩

/-- The labels `Apply` gives a release it installs or upgrades (lines 109 and 118). -/
def releaseLabels (consts : Consts) (bundle : Bundle) (bundleVersion : String) : LabelMap :=
  [(consts.bundleNameKey, bundle.name), (consts.packageNameKey, bundle.package),
    (consts.bundleVersionKey, bundleVersion)]

/-- The `switch state` of `Apply` (lines 105–130): the release it ends up with. -/
def perform (ac : ActionClient σ Ch) (s : σ) (ext : ClusterExtension) (chrt : Ch)
    (post : PostRenderer) (labels : LabelMap) (rel : Option Release) :
    ReleaseState → Step σ (Except GoError (Option Release))
  | .needsInstall =>
    let r := ac.install s ext.name ext.spec.installNamespace chrt ⟨false, labels, false, ""⟩ post
    ⟨r.1, [.install false], some <$> r.2⟩
  | .needsUpgrade =>
    let r := ac.upgrade s ext.name ext.spec.installNamespace chrt
      ⟨maxHelmReleaseHistory, labels, false, ""⟩ post
    ⟨r.1, [.upgrade false], some <$> r.2⟩
  | .unchanged =>
    let r := ac.reconcile s rel
    ⟨r.1, [.reconcile], match r.2 with
      | some err => .error err
      | none => .ok rel⟩
  | .error => ⟨s, [], .error (.errorf "unexpected release state %q" ["Error"])⟩

namespace Helm

variable (h : Helm σ Ch) (deps : Deps FS Ch) (consts : Consts)

/-- Lines 52–66: the chart, the action client and the bundle's version. -/
def prepare (contentFS : FS) (ext : ClusterExtension) (bundle : Bundle) :
    Except GoError (ActionClient σ Ch × Ch × String) := do
  let chrt ← deps.registryV1ToHelmChart contentFS ext.spec.installNamespace [namespaceAll]
  let ac ← h.actionClientGetter ext
  let bundleVersion ← deps.bundleVersion bundle
  pure (ac, chrt, bundleVersion)

/-- `Apply` from line 68 on, with the action client, chart and bundle version in hand. -/
def applyWith (ac : ActionClient σ Ch) (s : σ) (ext : ClusterExtension) (chrt : Ch)
    (bundle : Bundle) (bundleVersion : String) :
    Step σ (Except Panic (Except GoError (List Object))) :=
  let post := postFor consts ext bundle bundleVersion
  let grs := getReleaseState ac s ext chrt post
  match grs.result with
  | .error err => ⟨grs.store, grs.calls, .ok (.error err)⟩
  | .ok (rel, desiredRel, state) =>
    let pf := runPreflights ext state desiredRel 0 h.preflights
    match pf.2 with
    | .error p => ⟨grs.store, grs.calls ++ pf.1, .error p⟩
    | .ok (some err) => ⟨grs.store, grs.calls ++ pf.1, .ok (.error err)⟩
    | .ok none =>
      let act := perform ac grs.store ext chrt post (releaseLabels consts bundle bundleVersion) rel
        state
      let calls := grs.calls ++ pf.1 ++ act.calls
      match act.result with
      | .error err => ⟨act.store, calls, .ok (.error err)⟩
      | .ok none => ⟨act.store, calls, .error nilPointerDereference⟩
      | .ok (some rel) =>
        match deps.manifestObjects rel.manifest (rel.name ++ "-release-manifest") with
        | .error err => ⟨act.store, calls, .ok (.error (.wrapf "getting managed objects: %w" [] err))⟩
        | .ok objs => ⟨act.store, calls, .ok (.ok objs)⟩

/-- `Helm.Apply`. -/
def apply (s : σ) (contentFS : FS) (ext : ClusterExtension) (bundle : Bundle) :
    Step σ (Except Panic (Except GoError (List Object))) :=
  match h.prepare deps contentFS ext bundle with
  | .error err => ⟨s, [], .ok (.error err)⟩
  | .ok (ac, chrt, bundleVersion) => h.applyWith deps consts ac s ext chrt bundle bundleVersion

end Helm

end Applier

/-- The CRD upgrade-safety preflight, as one of the applier's preflights. -/
def CrdUpgradeSafety.Preflight.toApplier {S F D U : Type} (p : CrdUpgradeSafety.Preflight S F D)
    (k : CrdUpgradeSafety.Kapp S F D) (dec : CrdUpgradeSafety.Decoding S U) : Applier.Preflight :=
  ⟨true, CrdUpgradeSafety.Preflight.install, p.upgrade k dec⟩

end OperatorController
