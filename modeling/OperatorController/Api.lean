import OperatorController.Go

/-!
# The data the packages share

The Kubernetes objects, the `ClusterExtension` API and the Helm release, each with the fields that
some modelled function reads and nothing more.

* An `Object` is a `client.Object` or an `unstructured.Unstructured`: its group, version and kind,
  its name, its labels, and the rest of it as the JSON text it serialises to — the only part of
  an object this repository never looks into itself.
* A Go `map[string]string` of labels is a list of pairs read with `List.lookup`.  The maps the code
  builds from literals have distinct keys, so the first pair with a key is the only one.
* `Consts` holds the label keys of the `labels` package and `v1alpha1.ClusterExtensionKind`.  Both
  packages are outside this repository's sources, so their values are parameters.  What the proofs
  need of them is that the five keys are distinct, and the Go compiler guarantees that: the
  postrenderer's labels are a map literal with constant keys, and a repeated constant key there
  does not compile.
-/

set_option autoImplicit false

namespace OperatorController

/-- `schema.GroupVersionKind`. -/
structure GroupVersionKind where
  group : String
  version : String
  kind : String
  deriving DecidableEq, Repr

/-- `GroupVersionKind.String()`, which `%s` prints. -/
def GroupVersionKind.string (gvk : GroupVersionKind) : String :=
  gvk.group ++ "/" ++ gvk.version ++ ", Kind=" ++ gvk.kind

/-- A Go `map[string]string` of labels. -/
abbrev LabelMap := List (String × String)

/-- A Kubernetes object. -/
structure Object where
  gvk : GroupVersionKind
  name : String
  labels : LabelMap
  /-- Everything else in the object, as JSON. -/
  body : String
  deriving DecidableEq, Repr

/-- `obj.SetLabels(labels)`. -/
def Object.setLabels (obj : Object) (labels : LabelMap) : Object := { obj with labels := labels }

@[simp] theorem Object.setLabels_labels (obj : Object) (labels : LabelMap) :
    (obj.setLabels labels).labels = labels := rfl

/-- The constants this code takes from the `labels` and `v1alpha1` packages. -/
structure Consts where
  ownerKindKey : String
  ownerNameKey : String
  bundleNameKey : String
  packageNameKey : String
  bundleVersionKey : String
  clusterExtensionKind : String
  keys_nodup : [ownerKindKey, ownerNameKey, bundleNameKey, packageNameKey, bundleVersionKey].Nodup

/-- The constants as the repository sets them: the keys of its `labels` package and
`v1alpha1.ClusterExtensionKind`. -/
def Consts.olm : Consts :=
  ⟨"olm.operatorframework.io/owner-kind", "olm.operatorframework.io/owner-name",
    "olm.operatorframework.io/bundle-name", "olm.operatorframework.io/package-name",
    "olm.operatorframework.io/bundle-version", "ClusterExtension", by decide⟩

/-! ## The `ClusterExtension` API -/

/-- `ocv1alpha1.UpgradeConstraintPolicy`, whose two values the API server enforces. -/
inductive UpgradeConstraintPolicy where
  | enforce
  | ignore
  deriving DecidableEq, Repr

/-- `CRDUpgradeSafetyPreflightConfig`. -/
structure CRDUpgradeSafetyPreflightConfig where
  disabled : Bool
  deriving DecidableEq, Repr

/-- `PreflightConfig`; the pointer to the CRD upgrade-safety settings may be `nil`. -/
structure PreflightConfig where
  crdUpgradeSafety : Option CRDUpgradeSafetyPreflightConfig
  deriving DecidableEq, Repr

/-- `ClusterExtensionSpec`. -/
structure ClusterExtensionSpec where
  packageName : String
  channel : String
  version : String
  upgradeConstraintPolicy : UpgradeConstraintPolicy
  installNamespace : String
  preflight : Option PreflightConfig
  deriving DecidableEq, Repr

/-- `ClusterExtension`. -/
structure ClusterExtension where
  name : String
  spec : ClusterExtensionSpec
  deriving DecidableEq, Repr

/-- A property of a catalog bundle, such as `olm.package` or `olm.package.required`. -/
structure Property where
  type : String
  value : String
  deriving DecidableEq, Repr

/-- `catalogmetadata.Bundle`: a bundle of a catalog, with the channels it is in. -/
structure Bundle where
  name : String
  package : String
  properties : List Property
  inChannels : List String
  deriving DecidableEq, Repr

/-- `ocv1alpha1.BundleMetadata`: the installed bundle as `GetInstalledBundle` reports it. -/
structure BundleMetadata where
  name : String
  version : String
  deriving DecidableEq, Repr

/-! ## Helm releases -/

/-- `release.Status`. -/
inductive ReleaseStatus where
  | unknown
  | deployed
  | uninstalled
  | superseded
  | failed
  | uninstalling
  | pendingInstall
  | pendingUpgrade
  | pendingRollback
  deriving DecidableEq, Repr

/-- `release.Release`: its name, the manifest it applied, its labels and its status. -/
structure Release where
  name : String
  manifest : String
  labels : LabelMap
  status : ReleaseStatus
  deriving DecidableEq, Repr

end OperatorController
