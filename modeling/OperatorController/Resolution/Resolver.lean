import OperatorController.Resolution.Sort
import OperatorController.Applier.Helm

/-!
# Resolving the bundle to install

`Resolver.Resolve` chooses the bundle a `ClusterExtension` should run.  It asks the catalog for
the bundles of the extension's package, asks Helm which bundle is installed, keeps the bundles that
meet every predicate (the package, then the channel and the version range when the extension sets
them, then the upgrade constraint when the policy enforces it and a bundle is installed), sorts
them by version and then by deprecation, and returns the first one if every validation accepts
it.

## The model

* The catalog, the installed-bundle getter and the validations form the `Resolver`, as in the
  source.
* The predicates of `catalogfilter`, the Masterminds semver parser, `SuccessorsPredicate`,
  `catalogsort.ByVersion`, `Bundle.IsDeprecated` and `fmt.Sprintf` are outside this repository's
  sources and form the parameter `ResolverDeps`.  `C` is the type of a parsed version range.
* `catalogfilter.Filter`, `catalogfilter.And` and `catalogsort.ByDeprecated` are outside the
  sources too, but what they do is what the spec says of resolution ("filtering by channel and
  semver range, tie-breaking by deprecation"), so they are defined here.

## What is proved

* `resolve_picks_first_lex_minimal`: when `ByVersion` is a strict weak order, the bundle `Resolve`
  returns is a catalog bundle that meets every predicate (`admits`), that every validation accepts,
  and that is the first, in catalog order, of the candidates minimal for "not deprecated first,
  then by `ByVersion`".
* Under the `Ignore` policy the installed bundle decides nothing but an error's text, provided its
  version parses (`resolve_independent_of_parsable_installed`); when it does not parse, `Resolve`
  fails where it succeeds with no installed bundle (`resolve_fails_on_unparsable_installed`).
-/

set_option autoImplicit false

namespace OperatorController
namespace Resolution

/-! ## Validations -/

/-- The property types of `property.TypePackageRequired`, `property.TypeGVKRequired` and
`property.TypeConstraint`. -/
def unsupportedProps : List String := ["olm.package.required", "olm.gvk.required", "olm.constraint"]

/-- `NoDependencyValidation`: the loop returns at the first property of an unsupported type. -/
def noDependencyValidation (bundle : Bundle) : Option GoError :=
  match bundle.properties.find? fun p ↦ unsupportedProps.contains p.type with
  | some p => some (.errorf
      "bundle %q has a dependency declared via property %q which is currently not supported"
      [bundle.name, p.type])
  | none => none

/-! ## `Resolve` -/

/-- What `Resolve` calls outside this repository's sources. -/
structure ResolverDeps (C : Type) where
  /-- `catalogfilter.WithPackageName(packageName)`. -/
  withPackageName : String → Bundle → Bool
  /-- `catalogfilter.InChannel(channelName)`. -/
  inChannel : String → Bundle → Bool
  /-- `mmsemver.NewConstraint(versionRange)`. -/
  newConstraint : String → Except GoError C
  /-- `catalogfilter.InMastermindsSemverRange(vr)`. -/
  inMastermindsSemverRange : C → Bundle → Bool
  /-- `SuccessorsPredicate(packageName, installedBundle)`. -/
  successorsPredicate : String → BundleMetadata → Except GoError (Bundle → Bool)
  /-- `mmsemver.NewVersion(v)`, with the `String()` of the version it parses. -/
  newVersion : String → Except GoError String
  /-- `catalogsort.ByVersion`. -/
  byVersion : Bundle → Bundle → Bool
  /-- `Bundle.IsDeprecated()`. -/
  isDeprecated : Bundle → Bool
  /-- `fmt.Sprintf(format, args...)`. -/
  sprintf : String → List String → String

/-- `Resolver`. -/
structure Resolver where
  /-- `BundleProvider.Bundles(ctx, packageName)`. -/
  bundleProvider : String → Except GoError (List Bundle)
  /-- `InstalledBundleGetter.GetInstalledBundle(ctx, ext)`. -/
  installedBundleGetter : ClusterExtension → Except GoError (Option BundleMetadata)
  validations : List (Bundle → Option GoError)

/-- Modelled from the spec: `catalogfilter.And(predicates...)` accepts a bundle that every
predicate accepts. -/
def Catalogfilter.and (predicates : List (Bundle → Bool)) (bundle : Bundle) : Bool :=
  predicates.all fun predicate ↦ predicate bundle

/-- Modelled from the spec: `catalogfilter.Filter(bundles, predicate)` keeps, in order, the bundles
the predicate accepts. -/
def Catalogfilter.filter (bundles : List Bundle) (predicate : Bundle → Bool) : List Bundle :=
  bundles.filter predicate

/-- Modelled from the spec: `catalogsort.ByDeprecated` puts a bundle that is not deprecated before
one that is. -/
def byDeprecated (isDeprecated : Bundle → Bool) (a b : Bundle) : Bool :=
  !isDeprecated a && isDeprecated b

variable {C : Type} (deps : ResolverDeps C)

/-- Lines 84–107 of `Resolve`: the predicates a bundle must meet. -/
def predicates (ext : ClusterExtension) (installedBundle : Option BundleMetadata) :
    Except GoError (List (Bundle → Bool)) :=
  let packageName := ext.spec.packageName
  let channelName := ext.spec.channel
  let versionRange := ext.spec.version
  let predicates := [deps.withPackageName packageName]
  let predicates := if channelName ≠ "" then predicates ++ [deps.inChannel channelName]
    else predicates
  (if versionRange ≠ "" then
      match deps.newConstraint versionRange with
      | .error err => .error (.wrapf "invalid version range %q: %w" [versionRange] err)
      | .ok vr => .ok (predicates ++ [deps.inMastermindsSemverRange vr])
    else .ok predicates) >>= fun predicates ↦
  if ext.spec.upgradeConstraintPolicy ≠ .ignore then
    match installedBundle with
    | some installedBundle =>
      (deps.successorsPredicate packageName installedBundle).map fun upgradePredicate ↦
        predicates ++ [upgradePredicate]
    | none => .ok predicates
  else .ok predicates

/-- Lines 111–118: the text `Resolve` puts before a "no package" error. -/
def upgradeErrorPrefix : Option BundleMetadata → Except GoError String
  | none => pure ""
  | some installedBundle => do
    let installedBundleVersion ← deps.newVersion installedBundle.version
    pure (deps.sprintf "error upgrading from currently installed version %q: "
      [installedBundleVersion])

/-- Lines 119–130: the error when no bundle meets the predicates. -/
def noPackageError (upgradeErrorPrefix packageName versionRange channelName : String) : GoError :=
  if versionRange ≠ "" ∧ channelName ≠ "" then
    .errorf "%sno package %q matching version %q in channel %q found"
      [upgradeErrorPrefix, packageName, versionRange, channelName]
  else if versionRange ≠ "" then
    .errorf "%sno package %q matching version %q found"
      [upgradeErrorPrefix, packageName, versionRange]
  else if channelName ≠ "" then
    .errorf "%sno package %q in channel %q found" [upgradeErrorPrefix, packageName, channelName]
  else .errorf "%sno package %q found" [upgradeErrorPrefix, packageName]

/-- Lines 141–146: the first validation error, wrapped. -/
def runValidations (resolvedBundle : Bundle) : List (Bundle → Option GoError) → Option GoError
  | [] => none
  | validation :: validations =>
    match validation resolvedBundle with
    | some err => some (.wrapf "validating resolved bundle: %w" [] err)
    | none => runValidations resolvedBundle validations

/-- `Resolver.Resolve`.  The sorts keep the length of `resultSet`, so the sorted list is not
empty and its `[]` case is never reached. -/
def Resolver.resolve (r : Resolver) : Option ClusterExtension → Except GoError Bundle
  | none => .error (.errorf "nil ClusterExtension provided, unable to resolve" [])
  | some ext => do
    let allBundles ←
      (r.bundleProvider ext.spec.packageName).mapError (.wrapf "fetching bundles: %w" [])
    let installedBundle ←
      (r.installedBundleGetter ext).mapError (.wrapf "fetching installed bundle: %w" [])
    let predicates ← predicates deps ext installedBundle
    let resultSet := Catalogfilter.filter allBundles (Catalogfilter.and predicates)
    let upgradeErrorPrefix ← upgradeErrorPrefix deps installedBundle
    if resultSet.length = 0 then
      .error (noPackageError upgradeErrorPrefix ext.spec.packageName ext.spec.version
        ext.spec.channel)
    else
      match sliceStable (byDeprecated deps.isDeprecated) (sliceStable deps.byVersion resultSet) with
      | [] => .error (noPackageError upgradeErrorPrefix ext.spec.packageName ext.spec.version
          ext.spec.channel)
      | resolvedBundle :: _ =>
        match runValidations resolvedBundle r.validations with
        | some err => .error err
        | none => pure resolvedBundle

variable {deps}

theorem runValidations_eq_none {b : Bundle} :
    ∀ {vs : List (Bundle → Option GoError)}, runValidations b vs = none ↔ ∀ v ∈ vs, v b = none
  | [] => by simp [runValidations]
  | v :: vs => by
    rcases hv : v b with _ | err <;> simp [runValidations, hv, runValidations_eq_none]

/-- What a successful `Resolve` went through. -/
theorem resolve_eq_ok {r : Resolver} {ext : ClusterExtension} {b : Bundle}
    (h : r.resolve deps (some ext) = .ok b) :
    ∃ allBundles installed preds pfx rest, r.bundleProvider ext.spec.packageName = .ok allBundles ∧
      r.installedBundleGetter ext = .ok installed ∧ predicates deps ext installed = .ok preds ∧
      upgradeErrorPrefix deps installed = .ok pfx ∧
      sliceStable (byDeprecated deps.isDeprecated)
        (sliceStable deps.byVersion (allBundles.filter (Catalogfilter.and preds))) = b :: rest ∧
      runValidations b r.validations = none := by
  simp only [Resolver.resolve] at h
  rcases hp : r.bundleProvider ext.spec.packageName with e | allBundles <;>
    simp only [hp, Except.mapError, Except.error_bind, Except.ok_bind, reduceCtorEq] at h
  rcases hi : r.installedBundleGetter ext with e | installed <;>
    simp only [hi, Except.mapError, Except.error_bind, Except.ok_bind, reduceCtorEq] at h
  rcases hq : predicates deps ext installed with e | preds <;>
    simp only [hq, Except.error_bind, Except.ok_bind, reduceCtorEq] at h
  rcases hu : upgradeErrorPrefix deps installed with e | pfx <;>
    simp only [hu, Except.error_bind, Except.ok_bind, reduceCtorEq] at h
  split at h
  · cases h
  split at h
  · cases h
  rename_i rest _ hs
  split at h
  · cases h
  rename_i hv
  cases h
  exact ⟨allBundles, installed, preds, pfx, _, rfl, rfl, hq, hu, hs, hv⟩

theorem resolve_eq_ok_iff {r : Resolver} {ext : ClusterExtension} {b : Bundle} :
    r.resolve deps (some ext) = .ok b ↔
    ∃ allBundles installed preds pfx rest, r.bundleProvider ext.spec.packageName = .ok allBundles ∧
      r.installedBundleGetter ext = .ok installed ∧ predicates deps ext installed = .ok preds ∧
      upgradeErrorPrefix deps installed = .ok pfx ∧
      sliceStable (byDeprecated deps.isDeprecated)
        (sliceStable deps.byVersion (allBundles.filter (Catalogfilter.and preds))) = b :: rest ∧
      runValidations b r.validations = none := by
  refine ⟨resolve_eq_ok, ?_⟩
  rintro ⟨allBundles, installed, preds, pfx, rest, hp, hi, hq, hu, hs, hv⟩
  have hne := congrArg List.length hs
  simp only [length_sliceStable, List.length_cons] at hne
  simp only [Resolver.resolve, hp, hi, hq, hu, Except.mapError, Except.ok_bind, Catalogfilter.filter,
    hne, Nat.add_one_ne_zero, if_false, hs, hv]
  rfl

/-! ## The candidates

`admits` is the spec's reading of the predicates: a candidate is of the package, in the channel and
in the version range when the extension sets them, and a successor of the installed bundle when the
policy enforces the upgrade constraint and a bundle is installed.  `and_predicates` connects it with
the list of predicates the code builds.
-/

variable (deps) in
/-- The bundles `Resolve` is meant to choose from. -/
def admits (ext : ClusterExtension) (installed : Option BundleMetadata) (b : Bundle) : Bool :=
  deps.withPackageName ext.spec.packageName b &&
  (decide (ext.spec.channel = "") || deps.inChannel ext.spec.channel b) &&
  (decide (ext.spec.version = "") ||
    match deps.newConstraint ext.spec.version with
    | .ok vr => deps.inMastermindsSemverRange vr b
    | .error _ => false) &&
  (decide (ext.spec.upgradeConstraintPolicy = .ignore) ||
    match installed with
    | none => true
    | some ib =>
      match deps.successorsPredicate ext.spec.packageName ib with
      | .ok successor => successor b
      | .error _ => false)

/-- When `Resolve` builds its predicates, a bundle meets them all exactly when `admits` accepts it. -/
theorem and_predicates {ext : ClusterExtension} {installed : Option BundleMetadata}
    {preds : List (Bundle → Bool)} (h : predicates deps ext installed = .ok preds) (b : Bundle) :
    Catalogfilter.and preds b = admits deps ext installed b := by
  simp only [predicates, Except.bind_eq_ok] at h
  obtain ⟨preds1, h1, h2⟩ := h
  have hall1 : Catalogfilter.and preds1 b = (deps.withPackageName ext.spec.packageName b &&
      (decide (ext.spec.channel = "") || deps.inChannel ext.spec.channel b) &&
      (decide (ext.spec.version = "") || match deps.newConstraint ext.spec.version with
        | .ok vr => deps.inMastermindsSemverRange vr b
        | .error _ => false)) := by
    split at h1
    · split at h1 <;> cases h1
      rename_i hv _ _ hn
      by_cases hc : ext.spec.channel = "" <;> simp [hc, hv, hn, Catalogfilter.and, Bool.and_assoc]
    · rename_i hv
      cases h1
      by_cases hc : ext.spec.channel = "" <;> simp [hc, of_not_not hv, Catalogfilter.and]
  unfold admits
  rw [← hall1]
  by_cases hp : ext.spec.upgradeConstraintPolicy = .ignore
  · simp only [hp, ne_eq, not_true_eq_false, if_false, Except.ok.injEq] at h2
    simp [← h2, hp]
  cases installed with
  | none =>
    simp only [hp, ne_eq, not_false_eq_true, if_true, Except.ok.injEq] at h2
    simp [← h2, hp]
  | some ib =>
    rcases hs : deps.successorsPredicate ext.spec.packageName ib with e | sp <;>
      simp [hp, hs, Except.map] at h2
    simp [← h2, hp, hs, Catalogfilter.and, Bool.and_assoc]

/-! ## What `Resolve` returns -/

/-- When `ByVersion` is a strict weak order, the bundle `Resolve` returns is a candidate of the
catalog, every validation accepts it, and it is the first, in catalog order, of the candidates
minimal for "not deprecated first, then by `ByVersion`": no candidate is not deprecated while it
is, and no candidate as deprecated as it has a higher version. -/
theorem resolve_picks_first_lex_minimal (r : Resolver)
    (hswo : IsStrictWeakOrder Bundle fun a b ↦ deps.byVersion a b = true)
    {ext : ClusterExtension} {b : Bundle} (hres : r.resolve deps (some ext) = .ok b) :
    ∃ allBundles installed, r.bundleProvider ext.spec.packageName = .ok allBundles ∧
      r.installedBundleGetter ext = .ok installed ∧
      let candidates := allBundles.filter (admits deps ext installed)
      b ∈ candidates ∧ (∀ validation ∈ r.validations, validation b = none) ∧
      candidates.find? (isLexMinimal deps.isDeprecated deps.byVersion candidates) = some b := by
  obtain ⟨allBundles, installed, preds, -, rest, hp, hi, hq, -, hs, hv⟩ := resolve_eq_ok hres
  rw [List.filter_congr fun b _ ↦ and_predicates hq b] at hs
  have hfind := find?_isLexMinimal_of_sliceStable hs
  exact ⟨allBundles, installed, hp, hi, List.mem_of_find?_eq_some hfind,
    runValidations_eq_none.mp hv, hfind⟩

/-- The resolver's outside functions in the concrete runs below: `WithPackageName` and
`InChannel` compare the bundle's package and channels, every version range admits every bundle,
every bundle succeeds the installed one, `mmsemver.NewVersion` is `newVersion`, `ByVersion` puts
the higher `rank` first, and `Sprintf` returns its format. -/
def rankedDeps (rank : Bundle → Nat) (isDeprecated : Bundle → Bool)
    (newVersion : String → Except GoError String) : ResolverDeps Unit :=
  ⟨fun pkg b ↦ b.package == pkg, fun ch b ↦ b.inChannels.contains ch, fun _ ↦ .ok (),
    fun _ _ ↦ true, fun _ _ ↦ .ok fun _ ↦ true, newVersion, fun a b ↦ decide (rank b < rank a),
    isDeprecated, fun format _ ↦ format⟩

/-- A bundle of the `argocd-operator` package, in channel `alpha`, with no properties. -/
def argocdBundle (name : String) : Bundle := ⟨name, "argocd-operator", [], ["alpha"]⟩

/-- The order of the `argocd-operator` versions, as ranks. -/
def argocdRank (b : Bundle) : Nat :=
  if b.name = "argocd-operator.v0.3.0" then 3 else if b.name = "argocd-operator.v0.2.0" then 2 else 1

/-- Three `argocd-operator` bundles, not in version order. -/
def argocdCatalog : List Bundle :=
  [argocdBundle "argocd-operator.v0.1.0", argocdBundle "argocd-operator.v0.3.0",
    argocdBundle "argocd-operator.v0.2.0"]

/-- An extension that installs `argocd-operator` from channel `alpha`. -/
def argocdExt : ClusterExtension :=
  ⟨"argocd", ⟨"argocd-operator", "alpha", "", .enforce, "argocd", none⟩⟩

/-- A resolver over a fixed catalog, with nothing installed and `NoDependencyValidation`. -/
def catalogResolver (catalog : List Bundle) : Resolver :=
  ⟨fun _ ↦ .ok catalog, fun _ ↦ .ok none, [noDependencyValidation]⟩

/-- Of three bundles the newest is deprecated, so `Resolve` picks the second newest. -/
theorem resolve_picks_newest_undeprecated :
    let deps := rankedDeps argocdRank (fun b ↦ b.name == "argocd-operator.v0.3.0") Except.ok
    let r := catalogResolver argocdCatalog
    (IsStrictWeakOrder Bundle fun a b ↦ deps.byVersion a b = true) ∧
      r.resolve deps (some argocdExt) = .ok (argocdBundle "argocd-operator.v0.2.0") ∧
      ∃ allBundles installed, r.bundleProvider argocdExt.spec.packageName = .ok allBundles ∧
        r.installedBundleGetter argocdExt = .ok installed ∧
        let candidates := allBundles.filter (admits deps argocdExt installed)
        argocdBundle "argocd-operator.v0.2.0" ∈ candidates ∧
        (∀ validation ∈ r.validations, validation (argocdBundle "argocd-operator.v0.2.0") = none) ∧
        candidates.find? (isLexMinimal deps.isDeprecated deps.byVersion candidates) =
          some (argocdBundle "argocd-operator.v0.2.0") := by
  intro deps r
  have hswo : IsStrictWeakOrder Bundle fun a b ↦ deps.byVersion a b = true :=
    isStrictWeakOrder_byRank argocdRank
  have hres : r.resolve deps (some argocdExt) = .ok (argocdBundle "argocd-operator.v0.2.0") := rfl
  exact ⟨hswo, hres, resolve_picks_first_lex_minimal r hswo hres⟩

/-! ## The installed bundle under the `Ignore` policy

Under `Ignore` the installed bundle adds no predicate (`predicates_of_ignore`); what is left of it
is the parse of its version for the text of a "no package" error.  That parse fails the whole of
`Resolve` when the version does not parse, even when a bundle would have been found.
-/

theorem predicates_of_ignore {ext : ClusterExtension} (installed : Option BundleMetadata)
    (hpol : ext.spec.upgradeConstraintPolicy = .ignore) :
    predicates deps ext installed = predicates deps ext none := by
  simp [predicates, hpol]

theorem upgradeErrorPrefix_ok {installed : Option BundleMetadata}
    (h : ∀ ib ∈ installed, ∃ v, deps.newVersion ib.version = .ok v) :
    ∃ pfx, upgradeErrorPrefix deps installed = .ok pfx := by
  cases installed with
  | none => exact ⟨"", rfl⟩
  | some ib =>
    obtain ⟨v, hv⟩ := h ib rfl
    exact ⟨_, by rw [upgradeErrorPrefix, hv]; rfl⟩

section ignore
variable {r₁ r₂ : Resolver} {ext : ClusterExtension} {i₂ : Option BundleMetadata} {b : Bundle}

theorem resolve_of_ignore (hpol : ext.spec.upgradeConstraintPolicy = .ignore)
    (hprov : r₁.bundleProvider = r₂.bundleProvider) (hval : r₁.validations = r₂.validations)
    (h₂ : r₂.installedBundleGetter ext = .ok i₂)
    (hp₂ : ∀ ib ∈ i₂, ∃ v, deps.newVersion ib.version = .ok v)
    (h : r₁.resolve deps (some ext) = .ok b) : r₂.resolve deps (some ext) = .ok b := by
  obtain ⟨allBundles, i₁, preds, -, rest, hp, -, hq, -, hs, hv⟩ := resolve_eq_ok h
  obtain ⟨pfx, hu⟩ := upgradeErrorPrefix_ok hp₂
  refine resolve_eq_ok_iff.mpr ⟨allBundles, i₂, preds, pfx, rest, hprov ▸ hp, h₂, ?_, hu, hs,
    hval ▸ hv⟩
  rw [predicates_of_ignore i₂ hpol, ← predicates_of_ignore i₁ hpol, hq]

end ignore

/-- Under the `Ignore` policy, two installed bundles that are each absent or of a version
`mmsemver.NewVersion` parses give the same successful resolutions. -/
theorem resolve_independent_of_parsable_installed {r₁ r₂ : Resolver} {ext : ClusterExtension}
    {i₁ i₂ : Option BundleMetadata} (hpol : ext.spec.upgradeConstraintPolicy = .ignore)
    (hprov : r₁.bundleProvider = r₂.bundleProvider) (hval : r₁.validations = r₂.validations)
    (h₁ : r₁.installedBundleGetter ext = .ok i₁) (h₂ : r₂.installedBundleGetter ext = .ok i₂)
    (hp₁ : ∀ ib ∈ i₁, ∃ v, deps.newVersion ib.version = .ok v)
    (hp₂ : ∀ ib ∈ i₂, ∃ v, deps.newVersion ib.version = .ok v) (b : Bundle) :
    r₁.resolve deps (some ext) = .ok b ↔ r₂.resolve deps (some ext) = .ok b :=
  ⟨resolve_of_ignore hpol hprov hval h₂ hp₂, resolve_of_ignore hpol hprov.symm hval.symm h₁ hp₁⟩

/-- `mmsemver.NewVersion` for the runs below: every version parses but the empty one. -/
def newVersionOfNonempty (v : String) : Except GoError String :=
  if v = "" then .error (.sentinel "semver.ErrInvalidSemVer" "Invalid Semantic Version") else .ok v

/-- A resolver over the one bundle `argocd-operator.v0.1.0`, with the installed bundle `i` and
no validations. -/
def singleBundleResolver (i : Option BundleMetadata) : Resolver :=
  ⟨fun _ ↦ .ok [argocdBundle "argocd-operator.v0.1.0"], fun _ ↦ .ok i, []⟩

/-- An extension that installs `argocd-operator` from any channel under the `Ignore` policy. -/
def argocdIgnoreExt : ClusterExtension :=
  ⟨"argocd", ⟨"argocd-operator", "", "", .ignore, "argocd", none⟩⟩

/-- No installed bundle, and an installed bundle of version `0.1.0`, resolve alike. -/
theorem resolve_same_for_parsable_installed :
    let deps := rankedDeps (fun _ ↦ 0) (fun _ ↦ false) newVersionOfNonempty
    ((singleBundleResolver none).resolve deps (some argocdIgnoreExt) =
        .ok (argocdBundle "argocd-operator.v0.1.0") ↔
      (singleBundleResolver (some ⟨"argocd-operator.v0.1.0", "0.1.0"⟩)).resolve deps
        (some argocdIgnoreExt) = .ok (argocdBundle "argocd-operator.v0.1.0")) :=
  resolve_independent_of_parsable_installed rfl rfl rfl rfl rfl (by simp)
    (fun ib hib ↦ ⟨ib.version, by cases hib⟩) _

/-- A release without a bundle-version label is read back with the version `""`, which does not
parse: `Resolve` then fails under `Ignore`, where it returns a bundle with no installed bundle. -/
theorem resolve_fails_on_unparsable_installed :
    let deps := rankedDeps (fun _ ↦ 0) (fun _ ↦ false) newVersionOfNonempty
    (singleBundleResolver none).resolve deps (some argocdIgnoreExt) =
        .ok (argocdBundle "argocd-operator.v0.1.0") ∧
      (singleBundleResolver (some ⟨"argocd-operator.v0.1.0", ""⟩)).resolve deps
        (some argocdIgnoreExt) =
        .error (.sentinel "semver.ErrInvalidSemVer" "Invalid Semantic Version") :=
  ⟨rfl, rfl⟩

/-! ## Bundles that declare dependencies

`NoDependencyValidation` is the validation that keeps `Resolve` from choosing a bundle whose
dependencies it would not install.
-/

/-- `NoDependencyValidation` accepts exactly the bundles none of whose properties is of an
unsupported type. -/
theorem noDependencyValidation_eq_none (bundle : Bundle) :
    noDependencyValidation bundle = none ↔ ∀ p ∈ bundle.properties, p.type ∉ unsupportedProps := by
  unfold noDependencyValidation
  split <;> rename_i h
  · simp only [reduceCtorEq, false_iff, not_forall, not_not]
    exact ⟨_, List.mem_of_find?_eq_some h, by simpa using List.find?_some h⟩
  · simpa using h

/-- `NoDependencyValidation` fails a bundle exactly when one of its properties, wherever it stands
in the list, is of type `olm.package.required`, `olm.gvk.required` or `olm.constraint`.  So when it
is one of the validations, no bundle `Resolve` returns declares a dependency that way. -/
theorem noDependencyValidation_rejects_dependencies :
    (∀ bundle : Bundle, (∃ err, noDependencyValidation bundle = some err) ↔
      ∃ p ∈ bundle.properties, p.type = "olm.package.required" ∨ p.type = "olm.gvk.required" ∨
        p.type = "olm.constraint") ∧
    ∀ (r : Resolver) (ext : ClusterExtension) (b : Bundle), noDependencyValidation ∈ r.validations →
      r.resolve deps (some ext) = .ok b → ∀ p ∈ b.properties,
        p.type ≠ "olm.package.required" ∧ p.type ≠ "olm.gvk.required" ∧ p.type ≠ "olm.constraint" := by
  refine ⟨fun bundle ↦ ?_, fun r ext b hmem hres p hp ↦ ?_⟩
  · rw [← Option.ne_none_iff_exists', Ne, noDependencyValidation_eq_none]
    simp only [unsupportedProps, List.mem_cons, List.mem_singleton, List.not_mem_nil, or_false,
      not_forall, not_not, exists_prop]
  · obtain ⟨-, -, -, -, -, -, -, -, -, -, hv⟩ := resolve_eq_ok hres
    simpa [unsupportedProps] using
      (noDependencyValidation_eq_none b).mp (runValidations_eq_none.mp hv _ hmem) p hp

/-- The catalog of `resolve_picks_newest_undeprecated`, its deprecated newest bundle now also
requiring a package: `NoDependencyValidation` rejects that bundle, and the bundle `Resolve`
returns declares no dependency. -/
theorem resolve_returns_bundle_without_dependency :
    let dependent : Bundle := ⟨"argocd-operator.v0.3.0", "argocd-operator",
      [⟨"olm.package.required", "cert-manager"⟩], ["alpha"]⟩
    let deps := rankedDeps argocdRank (fun b ↦ b.name == "argocd-operator.v0.3.0") Except.ok
    let r := catalogResolver [argocdBundle "argocd-operator.v0.1.0", dependent,
      argocdBundle "argocd-operator.v0.2.0"]
    (∃ err, noDependencyValidation dependent = some err) ∧ noDependencyValidation ∈ r.validations ∧
      r.resolve deps (some argocdExt) = .ok (argocdBundle "argocd-operator.v0.2.0") ∧
      ∀ p ∈ (argocdBundle "argocd-operator.v0.2.0").properties,
        p.type ≠ "olm.package.required" ∧ p.type ≠ "olm.gvk.required" ∧ p.type ≠ "olm.constraint" := by
  intro dependent deps r
  have h := @noDependencyValidation_rejects_dependencies Unit deps
  have hmem : noDependencyValidation ∈ r.validations := List.mem_singleton_self _
  have hres : r.resolve deps (some argocdExt) = .ok (argocdBundle "argocd-operator.v0.2.0") := rfl
  exact ⟨(h.1 dependent).mpr ⟨_, List.mem_singleton_self _, .inl rfl⟩, hmem, hres,
    h.2 r argocdExt _ hmem hres⟩

end Resolution
end OperatorController
