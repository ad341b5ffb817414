import OperatorController.CrdUpgradeSafety.CrossVersion

/-!
# The CRD upgrade-safety preflight

`Preflight.Upgrade` is what stands between a Helm upgrade and the cluster's CRDs.  It decodes the
release's manifest, and for every object that is a CRD it fetches the CRD of that name from the
cluster and runs two checks: kapp's validator on the (existing, proposed) pair, and the
cross-version validator on the proposed CRD alone.  Validation failures are collected across all
the CRDs and joined; a manifest that does not parse, an object that does not convert, or a CRD the
cluster does not have ends the call at once with that error.

kapp's validator and its change validations, `util.ManifestObjects` (absent from this
repository's sources) and apimachinery's unstructured converter are parameters: `Kapp` and
`Decoding`.  The store of CRDs is the `crdClient` of the preflight, a function from names to what
`Get` returns, so quantifying over preflights quantifies over every state of the cluster.

The loop of `Upgrade` is a `collectOrReturn`, whose two lemmas give the two halves of the
contract, `upgrade_reports_every_failure`:

* `Upgrade` returns `nil` exactly when the release is `nil` or its manifest parses and every CRD in
  it converts, exists in the cluster and passes both validators (`Preflight.Approves`);
* when nothing fails to parse, convert or fetch, the error it returns joins one entry for each
  validator that failed on each CRD, in manifest order.

`NewPreflight`'s options only replace kapp's validator, so with any of them `Upgrade` still runs the
cross-version validator with kapp's change validations
(`upgrade_checks_cross_version_whatever_validator`).
-/

set_option autoImplicit false

namespace OperatorController
namespace CrdUpgradeSafety

variable {S F D U : Type}

/-! ## kapp's validator -/

/-- kapp's `Validation` interface: a named check of an (existing, proposed) pair of CRDs. -/
structure Validation (S : Type) where
  name : String
  validate : CustomResourceDefinition S → CustomResourceDefinition S → Except Panic (Option GoError)

/-- kapp's `Validator`. -/
structure Validator (S : Type) where
  validations : List (Validation S)

/-- What this repository takes from kapp's `crdupgradesafety` package. -/
structure Kapp (S F D : Type) where
  differ : SchemaDiffer S F D
  noScopeChange : CustomResourceDefinition S → CustomResourceDefinition S → Except Panic (Option GoError)
  noStoredVersionRemoved :
    CustomResourceDefinition S → CustomResourceDefinition S → Except Panic (Option GoError)
  noExistingFieldRemoved :
    CustomResourceDefinition S → CustomResourceDefinition S → Except Panic (Option GoError)
  enumChangeValidation : ChangeValidation D
  requiredFieldChangeValidation : ChangeValidation D
  maximumChangeValidation : ChangeValidation D
  maximumItemsChangeValidation : ChangeValidation D
  maximumLengthChangeValidation : ChangeValidation D
  maximumPropertiesChangeValidation : ChangeValidation D
  minimumChangeValidation : ChangeValidation D
  minimumItemsChangeValidation : ChangeValidation D
  minimumLengthChangeValidation : ChangeValidation D
  minimumPropertiesChangeValidation : ChangeValidation D
  defaultValueChangeValidation : ChangeValidation D
  /-- `&ChangeValidator{Validations: validations}`, as a `Validation`. -/
  changeValidator : List (ChangeValidation D) → Validation S
  /-- `(*Validator).Validate(old, new)`. -/
  validate : Validator S → CustomResourceDefinition S → CustomResourceDefinition S →
    Except Panic (Option GoError)

/-- The change validations `NewPreflight` gives both validators, in this order: the two lists
of the source (lines 44–54 and 61–71) are the same. -/
def Kapp.changeValidations (k : Kapp S F D) : List (ChangeValidation D) :=
  [k.enumChangeValidation, k.requiredFieldChangeValidation, k.maximumChangeValidation,
    k.maximumItemsChangeValidation, k.maximumLengthChangeValidation,
    k.maximumPropertiesChangeValidation, k.minimumChangeValidation, k.minimumItemsChangeValidation,
    k.minimumLengthChangeValidation, k.minimumPropertiesChangeValidation,
    k.defaultValueChangeValidation]

/-! ## The preflight -/

/-- `Preflight`.  `crdClient` is `Get` on the cluster's CRDs, by name. -/
structure Preflight (S F D : Type) where
  crdClient : String → Except GoError (CustomResourceDefinition S)
  validator : Validator S
  crossVersionValidator : CrossVersionValidator D

/-- `Option`, a functional option of `NewPreflight`. -/
def PreflightOption (S F D : Type) := Preflight S F D → Preflight S F D

/-- `WithValidator`. -/
def withValidator (v : Validator S) : PreflightOption S F D := fun p ↦ { p with validator := v }

/-- `NewPreflight`: the default validators, then each option in turn. -/
def newPreflight (k : Kapp S F D) (crdCli : String → Except GoError (CustomResourceDefinition S))
    (opts : List (PreflightOption S F D)) : Preflight S F D :=
  opts.foldl (fun p o ↦ o p)
    { crdClient := crdCli
      validator := ⟨[⟨"NoScopeChange", k.noScopeChange⟩,
        ⟨"NoStoredVersionRemoved", k.noStoredVersionRemoved⟩,
        ⟨"NoExistingFieldRemoved", k.noExistingFieldRemoved⟩,
        k.changeValidator k.changeValidations]⟩
      crossVersionValidator := ⟨k.changeValidations⟩ }

/-- The decoding `Upgrade` relies on: `util.ManifestObjects` and apimachinery's
`DefaultUnstructuredConverter`, with `U` its unstructured maps. -/
structure Decoding (S U : Type) where
  /-- `util.ManifestObjects(strings.NewReader(manifest), name)`. -/
  manifestObjects : String → String → Except GoError (List Object)
  /-- `ToUnstructured(obj)`. -/
  toUnstructured : Object → Except GoError U
  /-- `FromUnstructured(uMap, newCrd)`. -/
  fromUnstructured : U → Except GoError (CustomResourceDefinition S)

/-- `apiextensionsv1.SchemeGroupVersion.WithKind("CustomResourceDefinition")`. -/
def crdGVK : GroupVersionKind := ⟨"apiextensions.k8s.io", "v1", "CustomResourceDefinition"⟩

/-- Whether a manifest object is a CRD. -/
def isCRD (obj : Object) : Bool := obj.gvk == crdGVK

namespace Preflight

variable (p : Preflight S F D) (k : Kapp S F D) (dec : Decoding S U)

/-- `Install`. -/
def install (_ : Option Release) : Except Panic (Option GoError) := pure none

/-- The entries a CRD adds to `validateErrors`, one per validator that fails on it (lines
118–126). -/
def failures (crds : CustomResourceDefinition S × CustomResourceDefinition S) :
    Except Panic (List GoError) := do
  let (newCrd, oldCrd) := crds
  let err ← k.validate p.validator oldCrd newCrd
  let err' ← p.crossVersionValidator.validate k.differ newCrd
  pure ((err.map fun e ↦ .wrapf "validating upgrade for CRD %q failed: %w" [newCrd.name] e).toList ++
    (err'.map fun e ↦ .wrapf "cross version validation for CRD %q failed: %w" [newCrd.name] e).toList)

/-- The body of the loop of `Upgrade` on one object (lines 99–126): an early `return` of an error,
or the entries it appends. -/
def visit (obj : Object) : Except Panic (Except GoError (List GoError)) :=
  if isCRD obj = false then pure (.ok [])
  else
    match dec.toUnstructured obj with
    | .error err => pure (.error (.wrapf "converting object %q to unstructured: %w" [obj.name] err))
    | .ok uMap =>
      match dec.fromUnstructured uMap with
      | .error err => pure (.error (.wrapf "converting unstructured to CRD object: %w" [] err))
      | .ok newCrd =>
        match p.crdClient newCrd.name with
        | .error err =>
          pure (.error (.wrapf "getting existing resource for CRD %q: %w" [newCrd.name] err))
        | .ok oldCrd => Except.ok <$> p.failures k (newCrd, oldCrd)

/-- `Upgrade`. -/
def upgrade : Option Release → Except Panic (Option GoError)
  | none => pure none
  | some rel =>
    match dec.manifestObjects rel.manifest (rel.name ++ "-release-manifest") with
    | .error err => pure (some (.wrapf "parsing release %q objects: %w" [rel.name] err))
    | .ok relObjects => collectOrReturn (p.visit k dec) relObjects []

/-! ## The contract -/

/-- A CRD object of the manifest passes: it converts to a CRD, the cluster has the CRD of that
name, and both validators accept the proposed CRD. -/
def Passes (obj : Object) : Prop :=
  ∃ u newCrd oldCrd, dec.toUnstructured obj = .ok u ∧ dec.fromUnstructured u = .ok newCrd ∧
    p.crdClient newCrd.name = .ok oldCrd ∧ k.validate p.validator oldCrd newCrd = .ok none ∧
    p.crossVersionValidator.validate k.differ newCrd = .ok none

/-- The release is approved: it is `nil`, or its manifest parses and every CRD in it passes. -/
def Approves (rel : Option Release) : Prop :=
  rel = none ∨ ∃ r objs, rel = some r ∧
    dec.manifestObjects r.manifest (r.name ++ "-release-manifest") = .ok objs ∧
    ∀ obj ∈ objs, isCRD obj → p.Passes k dec obj

/-- The manifest object converts to the CRD `crds.1`, and the cluster's CRD of that name is
`crds.2`. -/
def Fetches (obj : Object) (crds : CustomResourceDefinition S × CustomResourceDefinition S) :
    Prop :=
  ∃ u, dec.toUnstructured obj = .ok u ∧ dec.fromUnstructured u = .ok crds.1 ∧
    p.crdClient crds.1.name = .ok crds.2

/-- The entries one CRD adds: kapp's validator's error if it fails, then the cross-version
validator's if it fails, each wrapped once with the CRD's name — one entry per failing
validator. -/
theorem failures_eq_ok (crds : CustomResourceDefinition S × CustomResourceDefinition S)
    {errs : List GoError} :
    p.failures k crds = .ok errs ↔ ∃ e e', k.validate p.validator crds.2 crds.1 = .ok e ∧
      p.crossVersionValidator.validate k.differ crds.1 = .ok e' ∧
      errs = (e.map (.wrapf "validating upgrade for CRD %q failed: %w" [crds.1.name])).toList ++
        (e'.map (.wrapf "cross version validation for CRD %q failed: %w" [crds.1.name])).toList := by
  obtain ⟨newCrd, oldCrd⟩ := crds
  unfold failures
  rcases h1 : k.validate p.validator oldCrd newCrd with _ | e <;>
    rcases h2 : p.crossVersionValidator.validate k.differ newCrd with _ | e' <;>
    simp [h1, h2, eq_comm]

theorem failures_eq_ok_nil (crds : CustomResourceDefinition S × CustomResourceDefinition S) :
    p.failures k crds = .ok [] ↔ k.validate p.validator crds.2 crds.1 = .ok none ∧
      p.crossVersionValidator.validate k.differ crds.1 = .ok none := by
  rw [failures_eq_ok]
  constructor
  · rintro ⟨e, e', h1, h2, he⟩
    cases e <;> cases e' <;> simp_all
  · rintro ⟨h1, h2⟩
    exact ⟨none, none, h1, h2, rfl⟩

theorem visit_of_not_crd {obj : Object} (h : isCRD obj = false) :
    p.visit k dec obj = .ok (.ok []) := by
  simp [visit, h]

theorem visit_of_fetches {obj : Object} {crds : CustomResourceDefinition S × CustomResourceDefinition S}
    (hcrd : isCRD obj = true) (h : p.Fetches dec obj crds) :
    p.visit k dec obj = Except.ok <$> p.failures k crds := by
  obtain ⟨u, hu, hcrd', hold⟩ := h
  simp [visit, hcrd, hu, hcrd', hold]

theorem visit_eq_ok_nil (obj : Object) :
    p.visit k dec obj = .ok (.ok []) ↔ (isCRD obj → p.Passes k dec obj) := by
  by_cases hcrd : isCRD obj
  · simp only [hcrd, forall_const, Passes]
    rcases hu : dec.toUnstructured obj with _ | u
    · simp [visit, hcrd, hu]
    rcases hn : dec.fromUnstructured u with _ | newCrd
    · simp [visit, hcrd, hu, hn]
    rcases ho : p.crdClient newCrd.name with _ | oldCrd
    · simp [visit, hcrd, hu, hn, ho]
    have hf : p.Fetches dec obj (newCrd, oldCrd) := ⟨u, hu, hn, ho⟩
    rw [visit_of_fetches p k dec hcrd hf]
    have hmap : (Except.ok <$> p.failures k (newCrd, oldCrd) : Except Panic (Except GoError _)) =
        .ok (.ok []) ↔ p.failures k (newCrd, oldCrd) = .ok [] := by
      cases p.failures k (newCrd, oldCrd) <;> simp [Functor.map, Except.map]
    rw [hmap, p.failures_eq_ok_nil]
    simp only [hu, hn, ho, Except.ok.injEq, exists_and_left, exists_eq_left']
  · simp [visit_of_not_crd p k dec (by simpa using hcrd), hcrd]

/-- `Upgrade` returns `nil` exactly when the release is approved. -/
theorem upgrade_eq_ok_none_iff (rel : Option Release) :
    p.upgrade k dec rel = .ok none ↔ p.Approves k dec rel := by
  cases rel with
  | none => simp [upgrade, Approves]
  | some r =>
    rcases hm : dec.manifestObjects r.manifest (r.name ++ "-release-manifest") with _ | objs
    · simp [upgrade, Approves, hm]
    · simp only [upgrade, hm, collectOrReturn_eq_ok_none, visit_eq_ok_nil, Approves]
      simp [hm]

end Preflight

/-- `Upgrade` returns `nil` exactly when the release is approved: it is `nil`, or its manifest
parses and every CRD in it converts, exists in the cluster and passes both validators.  And when
nothing fails to parse, convert or fetch, with `crds` the (proposed, existing) CRDs of the
manifest in order, the error it returns joins one entry for each validator that failed on each
of them. -/
theorem upgrade_reports_every_failure (p : Preflight S F D) (k : Kapp S F D) (dec : Decoding S U)
    (rel : Option Release) :
    (p.upgrade k dec rel = .ok none ↔ p.Approves k dec rel) ∧
    ∀ r objs crds, rel = some r →
      dec.manifestObjects r.manifest (r.name ++ "-release-manifest") = .ok objs →
      List.Forall₂ (p.Fetches dec) (objs.filter isCRD) crds →
      p.upgrade k dec rel = errorsJoin <$> appendEach (p.failures k) crds := by
  constructor
  · cases rel with
    | none => simp [Preflight.upgrade, Preflight.Approves]
    | some r =>
      rcases hm : dec.manifestObjects r.manifest (r.name ++ "-release-manifest") with _ | objs
      · simp [Preflight.upgrade, Preflight.Approves, hm]
      · simp only [Preflight.upgrade, hm, collectOrReturn_eq_ok_none, Preflight.visit_eq_ok_nil,
          Preflight.Approves]
        simp [hm]
  · rintro r objs crds rfl hm h
    have hcrd : ∀ obj ∈ objs.filter isCRD, isCRD obj = true := fun obj hobj ↦ (List.mem_filter.mp hobj).2
    have h' := ((List.forall₂_and_left _ _).mpr ⟨hcrd, h⟩).imp fun obj crds hc ↦
      p.visit_of_fetches k dec hc.1 hc.2
    simp only [Preflight.upgrade, hm]
    rw [collectOrReturn_eq_appendEach isCRD (fun _ hc ↦ p.visit_of_not_crd k dec hc) objs crds [] h']
    rfl

/-! ## A kapp for concrete runs -/

/-- A kapp over schemas, flattened schemas and diffs that carry nothing.  Its validator runs
each of its validations and joins their errors, as kapp's `Validator.Validate` does;
`NoScopeChange` compares the scopes and the other two checks accept.  Every change validation
handles every change, and two schemas differ in the one field `spec.size`. -/
def Kapp.reference : Kapp Unit Unit Unit where
  differ := ⟨fun _ ↦ (), fun _ _ ↦ .ok [("spec.size", ())]⟩
  noScopeChange old new := pure (if old.spec.scope = new.spec.scope then none
    else some (.errorf "scope changed from %q to %q" [old.spec.scope, new.spec.scope]))
  noStoredVersionRemoved _ _ := pure none
  noExistingFieldRemoved _ _ := pure none
  enumChangeValidation _ := (true, none)
  requiredFieldChangeValidation _ := (true, none)
  maximumChangeValidation _ := (true, none)
  maximumItemsChangeValidation _ := (true, none)
  maximumLengthChangeValidation _ := (true, none)
  maximumPropertiesChangeValidation _ := (true, none)
  minimumChangeValidation _ := (true, none)
  minimumItemsChangeValidation _ := (true, none)
  minimumLengthChangeValidation _ := (true, none)
  minimumPropertiesChangeValidation _ := (true, none)
  defaultValueChangeValidation _ := (true, none)
  changeValidator _ := ⟨"ChangeValidator", fun _ _ ↦ pure none⟩
  validate v old new :=
    errorsJoin <$> appendEach (fun val ↦ Option.toList <$> val.validate old new) v.validations

/-- A namespaced CRD with two versions, each with a schema. -/
def widgetsCRD : CustomResourceDefinition Unit :=
  ⟨"widgets.example.com", ⟨"Namespaced", [⟨"v1", some ⟨some ()⟩⟩, ⟨"v2", some ⟨some ()⟩⟩]⟩, ["v1"]⟩

/-! ## Options

`WithValidator` is the only option the package offers, and it replaces kapp's validator and
nothing else: the CRD client and the cross-version validator, with kapp's change validations, stay
as `NewPreflight` made them.
-/

/-- `WithValidator` options, applied in turn, leave the last validator they give. -/
theorem foldl_withValidator (vs : List (Validator S)) (p : Preflight S F D) :
    (vs.map withValidator).foldl (fun p o ↦ o p) p =
      { p with validator := vs.getLast?.getD p.validator } := by
  induction vs generalizing p with
  | nil => rfl
  | cons v vs ih => simp [ih, withValidator, List.getLast?_cons]

/-- Whatever validators `WithValidator` hands `NewPreflight`, `Upgrade` approves a release only
when every CRD in its manifest converts, exists in the cluster, passes the last of those validators
(or kapp's default one when there is none) against the cluster's CRD, and passes the cross-version
validator with kapp's change validations: no option turns the cross-version check off. -/
theorem upgrade_checks_cross_version_whatever_validator (k : Kapp S F D) (dec : Decoding S U)
    (crdCli : String → Except GoError (CustomResourceDefinition S)) (vs : List (Validator S))
    (rel : Release) (h : (newPreflight k crdCli (vs.map withValidator)).upgrade k dec (some rel) =
      .ok none) :
    ∃ objs, dec.manifestObjects rel.manifest (rel.name ++ "-release-manifest") = .ok objs ∧
      ∀ obj ∈ objs, isCRD obj → ∃ u newCrd oldCrd, dec.toUnstructured obj = .ok u ∧
        dec.fromUnstructured u = .ok newCrd ∧ crdCli newCrd.name = .ok oldCrd ∧
        k.validate (vs.getLast?.getD (newPreflight k crdCli []).validator) oldCrd newCrd =
          .ok none ∧
        CrossVersionValidator.validate ⟨k.changeValidations⟩ k.differ newCrd = .ok none := by
  rw [newPreflight, foldl_withValidator] at h
  rcases (Preflight.upgrade_eq_ok_none_iff _ k dec _).mp h with h0 | ⟨r, objs, hr, hm, hpass⟩
  · cases h0
  cases hr
  exact ⟨objs, hm, hpass⟩

/-- A manifest with a CRD of two versions, and a validator given by `WithValidator` that has no
validations: the cross-version validator still compares the two versions, and accepts. -/
theorem upgrade_with_custom_validator_checks_widgets :
    let k := Kapp.reference
    let crdObj : Object := ⟨crdGVK, "widgets.example.com", [], "{}"⟩
    let dec : Decoding Unit Unit := ⟨fun _ _ ↦ .ok [crdObj], fun _ ↦ .ok (), fun _ ↦ .ok widgetsCRD⟩
    let crdCli : String → Except GoError (CustomResourceDefinition Unit) := fun _ ↦ .ok widgetsCRD
    let rel : Release := ⟨"widgets", "{}", [], .deployed⟩
    (newPreflight k crdCli ([⟨[]⟩].map withValidator)).upgrade k dec (some rel) = .ok none ∧
      ∃ objs, dec.manifestObjects rel.manifest (rel.name ++ "-release-manifest") = .ok objs ∧
        ∀ obj ∈ objs, isCRD obj → ∃ u newCrd oldCrd, dec.toUnstructured obj = .ok u ∧
          dec.fromUnstructured u = .ok newCrd ∧ crdCli newCrd.name = .ok oldCrd ∧
          k.validate ([⟨[]⟩].getLast?.getD (newPreflight k crdCli []).validator) oldCrd newCrd =
            .ok none ∧
          CrossVersionValidator.validate ⟨k.changeValidations⟩ k.differ newCrd = .ok none := by
  intro k crdObj dec crdCli rel
  have h : (newPreflight k crdCli ([⟨[]⟩].map withValidator)).upgrade k dec (some rel) =
      .ok none := rfl
  exact ⟨h, upgrade_checks_cross_version_whatever_validator k dec crdCli [⟨[]⟩] rel h⟩

end CrdUpgradeSafety
end OperatorController
