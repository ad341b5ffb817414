import OperatorController.Resolution.Resolver

/-!
# `Resolve` is a scan for the best candidate

`Resolve` sorts the bundles that meet its predicates twice, stably, by `ByVersion` and then by
`ByDeprecated`, and takes the first.  What that computes needs no sort: the first bundle, in
catalog order, that no other candidate precedes for "not deprecated first, then by `ByVersion`".
`Resolver.resolveSpec` is `Resolve` with the two sorts and the head replaced by that scan, and with
everything around them — the fetches, the predicates, the error texts, the validations — as it is.

## What is here

* `resolve_eq_resolveSpec` — when `ByVersion` is a strict weak order, `Resolve` and the scan are
  the same function: the same bundle and the same error, for every extension, catalog, installed
  bundle and list of validations.  On an empty candidate list both report "no package"; otherwise
  the head of the two sorts is what the scan finds (`find?_isLexMinimal_of_sliceStable`).
* `resolve_independent_of_catalog_order` — when no two candidates tie (`noTies`), listing the
  catalog's bundles in another order does not change what `Resolve` returns, error or bundle: the
  scan then looks for the one minimal candidate, wherever it stands.
* `resolve_validations_never_change_choice` — the validations accept or reject the bundle the scan
  finds, and nothing else: when one rejects it, `Resolve` fails rather than fall back to the next
  candidate.
-/

set_option autoImplicit false

namespace OperatorController
namespace Resolution

/-! ## The specification -/

variable {C : Type} (deps : ResolverDeps C)

/-- `Resolve` with its two sorts and the head of the sorted list replaced by a scan of the
candidates, in catalog order, for the first one minimal for "not deprecated first, then by
`ByVersion`". -/
def Resolver.resolveSpec (r : Resolver) : Option ClusterExtension → Except GoError Bundle
  | none => .error (.errorf "nil ClusterExtension provided, unable to resolve" [])
  | some ext => do
    let allBundles ←
      (r.bundleProvider ext.spec.packageName).mapError (.wrapf "fetching bundles: %w" [])
    let installedBundle ←
      (r.installedBundleGetter ext).mapError (.wrapf "fetching installed bundle: %w" [])
    let predicates ← predicates deps ext installedBundle
    let candidates := allBundles.filter (Catalogfilter.and predicates)
    let upgradeErrorPrefix ← upgradeErrorPrefix deps installedBundle
    match candidates.find? (isLexMinimal deps.isDeprecated deps.byVersion candidates) with
    | none => .error (noPackageError upgradeErrorPrefix ext.spec.packageName ext.spec.version
        ext.spec.channel)
    | some resolvedBundle =>
      match runValidations resolvedBundle r.validations with
      | some err => .error err
      | none => pure resolvedBundle

/-! ## The sorts compute the scan -/

section refinement
variable {deps} (hswo : IsStrictWeakOrder Bundle fun a b ↦ deps.byVersion a b = true)
include hswo

theorem Resolver.resolve_some_eq_resolveSpec (r : Resolver) (ext : ClusterExtension) :
    r.resolve deps (some ext) = r.resolveSpec deps (some ext) := by
  simp only [Resolver.resolve, Resolver.resolveSpec, Catalogfilter.filter]
  -- the fetches, the predicates and the prefix come first, alike in both
  congr 1; funext allBundles; congr 1; funext installed; congr 1; funext preds; congr 1
  funext pfx
  rcases hs : sliceStable (byDeprecated deps.isDeprecated)
    (sliceStable deps.byVersion (allBundles.filter (Catalogfilter.and preds))) with _ | ⟨b, rest⟩
  · -- the sorts keep the length, so there is no candidate
    have hnil : allBundles.filter (Catalogfilter.and preds) = [] := by
      simpa using congrArg List.length hs
    simp [hnil]
  · have hlen := congrArg List.length hs
    simp only [length_sliceStable, List.length_cons] at hlen
    have hne : (allBundles.filter (Catalogfilter.and preds)).length ≠ 0 := by omega
    rcases hv : runValidations b r.validations with _ | err <;>
      simp only [hne, if_false, find?_isLexMinimal_of_sliceStable hs, hv]

/-- When `ByVersion` is a strict weak order, `Resolve` is the scan: on every extension, catalog,
installed bundle and list of validations it returns the same bundle or the same error. -/
theorem resolve_eq_resolveSpec (r : Resolver) (ext : Option ClusterExtension) :
    r.resolve deps ext = r.resolveSpec deps ext := by
  cases ext with
  | none => rfl
  | some ext => exact r.resolve_some_eq_resolveSpec hswo ext

end refinement

/-- A catalog of three bundles, the newest deprecated: `Resolve` and the scan agree. -/
theorem resolve_eq_resolveSpec_three_bundles :
    let deps := rankedDeps argocdRank (fun b ↦ b.name == "argocd-operator.v0.3.0") Except.ok
    let r := catalogResolver argocdCatalog
    (IsStrictWeakOrder Bundle fun a b ↦ deps.byVersion a b = true) ∧
      r.resolve deps (some argocdExt) = r.resolveSpec deps (some argocdExt) := by
  intro deps r
  have hswo : IsStrictWeakOrder Bundle fun a b ↦ deps.byVersion a b = true :=
    isStrictWeakOrder_byRank argocdRank
  exact ⟨hswo, resolve_eq_resolveSpec hswo r (some argocdExt)⟩

/-! ## The order of the catalog

Of the candidates minimal for `lexLess`, the scan takes the first in catalog order; when no two
candidates tie there is at most one, and the order no longer matters.
-/

section order
variable {α : Type}

/-- No two different elements of `l` tie for "not deprecated first, then by `less`": of any two,
one comes first. -/
def noTies [DecidableEq α] (dep : α → Bool) (less : α → α → Bool) (l : List α) : Bool :=
  l.all fun a ↦ l.all fun b ↦ a == b || lexLess dep less a b || lexLess dep less b a

variable {dep : α → Bool} {less : α → α → Bool} {l l' : List α}

theorem eq_of_isLexMinimal [DecidableEq α] (h : noTies dep less l = true) {a b : α} (ha : a ∈ l)
    (hb : b ∈ l) (hma : isLexMinimal dep less l a = true) (hmb : isLexMinimal dep less l b = true) :
    a = b := by
  simp only [isLexMinimal, List.all_eq_true, Bool.not_eq_true'] at hma hmb
  have := List.all_eq_true.mp (List.all_eq_true.mp h a ha) b hb
  simpa [hmb a ha, hma b hb] using this

theorem isLexMinimal_perm (hp : l'.Perm l) : isLexMinimal dep less l' = isLexMinimal dep less l :=
  funext fun b ↦ by
    rw [Bool.eq_iff_iff]
    simp only [isLexMinimal, List.all_eq_true]
    exact forall_congr' fun c ↦ imp_congr_left hp.mem_iff

/-- A scan for the one element that has a property finds it in any order of the list. -/
theorem find?_perm_of_unique {p : α → Bool} (hp : l'.Perm l)
    (hu : ∀ a ∈ l, ∀ b ∈ l, p a = true → p b = true → a = b) : l'.find? p = l.find? p := by
  rcases h : l.find? p with _ | x
  · exact List.find?_eq_none.mpr fun a ha ↦ List.find?_eq_none.mp h a (hp.mem_iff.mp ha)
  have hx := List.mem_of_find?_eq_some h
  rcases h' : l'.find? p with _ | y
  · exact absurd (List.find?_some h) (List.find?_eq_none.mp h' x (hp.mem_iff.mpr hx))
  · exact congrArg some (hu y (hp.mem_iff.mp (List.mem_of_find?_eq_some h')) x hx
      (List.find?_some h') (List.find?_some h))

end order

section catalog
variable {deps} (hswo : IsStrictWeakOrder Bundle fun a b ↦ deps.byVersion a b = true)
include hswo

/-- When `ByVersion` is a strict weak order and no two candidates of the catalog tie, listing the
catalog's bundles in any other order gives the same result of `Resolve`, bundle or error. -/
theorem resolve_independent_of_catalog_order (r : Resolver) {ext : ClusterExtension}
    {catalog catalog' : List Bundle} (hcat : r.bundleProvider ext.spec.packageName = .ok catalog)
    (hperm : catalog'.Perm catalog)
    (hties : ∀ installed, r.installedBundleGetter ext = .ok installed →
      noTies deps.isDeprecated deps.byVersion (catalog.filter (admits deps ext installed)) = true) :
    ({ r with bundleProvider := fun _ ↦ .ok catalog' } : Resolver).resolve deps (some ext) =
      r.resolve deps (some ext) := by
  rw [Resolver.resolve_some_eq_resolveSpec hswo, Resolver.resolve_some_eq_resolveSpec hswo]
  simp only [Resolver.resolveSpec, hcat]
  rcases hi : r.installedBundleGetter ext with e | installed
  · rfl
  rcases hq : predicates deps ext installed with e | preds
  · simp only [hi, hq, Except.mapError, Except.ok_bind, Except.error_bind]
  -- the candidates of both catalogs are the same bundles, and at most one of them is minimal
  have hcand := hperm.filter (Catalogfilter.and preds)
  have hand :
      catalog.filter (Catalogfilter.and preds) = catalog.filter (admits deps ext installed) :=
    List.filter_congr fun b _ ↦ and_predicates hq b
  have huniq : ∀ a ∈ catalog.filter (Catalogfilter.and preds), ∀ b ∈ catalog.filter
      (Catalogfilter.and preds), isLexMinimal deps.isDeprecated deps.byVersion
        (catalog.filter (Catalogfilter.and preds)) a = true →
      isLexMinimal deps.isDeprecated deps.byVersion
        (catalog.filter (Catalogfilter.and preds)) b = true → a = b := by
    rw [hand]
    exact fun a ha b hb ↦ eq_of_isLexMinimal (hties installed hi) ha hb
  simp only [hi, hq, Except.mapError, Except.ok_bind, isLexMinimal_perm hcand,
    find?_perm_of_unique hcand huniq]

end catalog

/-- Three bundles of different versions, listed in two orders: `Resolve` returns the same. -/
theorem resolve_same_for_reversed_catalog :
    let deps := rankedDeps argocdRank (fun _ ↦ false) Except.ok
    let r := catalogResolver argocdCatalog
    (IsStrictWeakOrder Bundle fun a b ↦ deps.byVersion a b = true) ∧
      r.bundleProvider argocdExt.spec.packageName = .ok argocdCatalog ∧
      argocdCatalog.reverse.Perm argocdCatalog ∧
      (∀ installed, r.installedBundleGetter argocdExt = .ok installed →
        noTies deps.isDeprecated deps.byVersion
          (argocdCatalog.filter (admits deps argocdExt installed)) = true) ∧
      (catalogResolver argocdCatalog.reverse).resolve deps (some argocdExt) =
        r.resolve deps (some argocdExt) := by
  intro deps r
  have hswo : IsStrictWeakOrder Bundle fun a b ↦ deps.byVersion a b = true :=
    isStrictWeakOrder_byRank argocdRank
  have hties : ∀ installed, r.installedBundleGetter argocdExt = .ok installed →
      noTies deps.isDeprecated deps.byVersion
        (argocdCatalog.filter (admits deps argocdExt installed)) = true := by
    rintro _ ⟨⟩
    decide
  exact ⟨hswo, rfl, List.reverse_perm _, hties,
    resolve_independent_of_catalog_order hswo r rfl (List.reverse_perm _) hties⟩

/-! ## Validations -/

/-- The validations only accept or reject the bundle the predicates and the sorts choose: `Resolve`
returns a bundle exactly when, with no validations, it returns that bundle and every validation
accepts it.  So when a validation rejects the choice, `Resolve` fails; it never falls back to
another candidate. -/
theorem resolve_validations_never_change_choice (r : Resolver) (ext : Option ClusterExtension)
    (b : Bundle) :
    r.resolve deps ext = .ok b ↔
      ({ r with validations := [] } : Resolver).resolve deps ext = .ok b ∧
        ∀ validation ∈ r.validations, validation b = none := by
  cases ext with
  | none => simp [Resolver.resolve]
  | some ext =>
    rw [resolve_eq_ok_iff, resolve_eq_ok_iff]
    constructor
    · rintro ⟨allBundles, installed, preds, pfx, rest, hp, hi, hq, hu, hs, hv⟩
      exact ⟨⟨allBundles, installed, preds, pfx, rest, hp, hi, hq, hu, hs, rfl⟩,
        runValidations_eq_none.mp hv⟩
    · rintro ⟨⟨allBundles, installed, preds, pfx, rest, hp, hi, hq, hu, hs, -⟩, hv⟩
      exact ⟨allBundles, installed, preds, pfx, rest, hp, hi, hq, hu, hs,
        runValidations_eq_none.mpr hv⟩

end Resolution
end OperatorController
