import OperatorController.Api
import Mathlib.Data.List.Perm.Basic
import Mathlib.Data.List.ProdSigma

/-!
# The cross-version validator

A CRD that serves several versions must be able to convert objects between any two of them, so
`crossVersionValidator.Validate` compares the schemas of every ordered pair of differently named
versions, field by field, with kapp's change validations.  Its contract is deny-by-default:
for each field whose schema differs, the validations are tried in order until one says it
*handled* the change; every error met on the way is reported, and a field that no validation
handles is reported as an unknown change.

The schema types and the two functions that flatten and diff schemas belong to kapp, which is a
dependency and not part of this repository, so they are parameters: `S` is
`JSONSchemaProps`, `F` a flattened schema, `D` the diff of one field, and `SchemaDiffer` the two
functions.  A diff map is a list of fields in the order `range` happens to visit them; Go
randomises that order, and `crossVersionRecords_perm` shows the report does not depend on it.

## What is here

* `CrossVersionValidator.validate`, the code, with each loop an `appendEach` and the innermost
  loop over the validations `checkField`.
* `crossVersionRecords`, the report described declaratively: for each ordered pair of positions
  in the versions list, either the one error of a failed diff, or for each field the errors of
  the validations tried up to the first that handles it, plus the unknown-change error when none
  does (`fieldRecords`).
* `validate_eq` — the code returns exactly the join of those records, unless some version without
  a schema is compared with another, in which case reading its `nil` `Schema` pointer panics
  (`dereferencesNilSchema`).
* `validate_reports_every_record` — so `Validate` returns `nil` exactly when there are no
  records and it does not panic; `validate_panics_without_records` shows the second condition
  is needed, on a CRD with no records.
-/

set_option autoImplicit false

namespace OperatorController
namespace CrdUpgradeSafety

/-! ## CRDs, as far as the validators read them -/

/-- `apiextensionsv1.CustomResourceValidation`; its schema is a pointer too. -/
structure CustomResourceValidation (S : Type) where
  openAPIV3Schema : Option S
  deriving DecidableEq, Repr

/-- `apiextensionsv1.CustomResourceDefinitionVersion`; `Schema` is a pointer and may be `nil`. -/
structure CustomResourceDefinitionVersion (S : Type) where
  name : String
  schema : Option (CustomResourceValidation S)
  deriving DecidableEq, Repr

/-- `apiextensionsv1.CustomResourceDefinitionSpec`. -/
structure CustomResourceDefinitionSpec (S : Type) where
  scope : String
  versions : List (CustomResourceDefinitionVersion S)
  deriving DecidableEq, Repr

/-- `apiextensionsv1.CustomResourceDefinition`: its name, its spec and `status.storedVersions`. -/
structure CustomResourceDefinition (S : Type) where
  name : String
  spec : CustomResourceDefinitionSpec S
  storedVersions : List String
  deriving DecidableEq, Repr

variable {S F D : Type}

/-- `version.Schema.OpenAPIV3Schema`: reading through a `nil` `Schema` panics. -/
def CustomResourceDefinitionVersion.openAPIV3Schema (v : CustomResourceDefinitionVersion S) :
    Except Panic (Option S) :=
  match v.schema with
  | none => .error nilPointerDereference
  | some s => .ok s.openAPIV3Schema

/-- The schema a version declares, `nil` when it declares none. -/
def CustomResourceDefinitionVersion.schemaProps (v : CustomResourceDefinitionVersion S) :
    Option S :=
  v.schema.bind (·.openAPIV3Schema)

theorem CustomResourceDefinitionVersion.openAPIV3Schema_eq (v : CustomResourceDefinitionVersion S) :
    v.openAPIV3Schema = if v.schema.isNone then .error nilPointerDereference else .ok v.schemaProps := by
  unfold openAPIV3Schema schemaProps
  cases v.schema <;> rfl

/-! ## kapp's side -/

/-- kapp's `ChangeValidation`, `func(diff FieldDiff) (bool, error)`: whether it handled the
field's change, and the error it reports. -/
def ChangeValidation (D : Type) := D → Bool × Option GoError

/-- kapp's `FlattenSchema` and `CalculateFlatSchemaDiff`. -/
structure SchemaDiffer (S F D : Type) where
  /-- `FlattenSchema`, on a schema pointer that may be `nil`. -/
  flattenSchema : Option S → F
  /-- `CalculateFlatSchemaDiff`: the diff of each field, in the order `range` visits the map. -/
  calculateFlatSchemaDiff : F → F → Except GoError (List (String × D))

/-! ## The code -/

/-- `crossVersionValidator`. -/
structure CrossVersionValidator (D : Type) where
  changeValidations : List (ChangeValidation D)

/-- The error of a failed schema diff (line 151); the diff's own error is dropped. -/
def diffError (a b : String) : GoError :=
  .errorf "calculating schema diff for CRD version %q against CRD version %q" [a, b]

/-- The error a change validation reports for a field (line 160). -/
def fieldError (a b field : String) (err : GoError) : GoError :=
  .wrapf "version %q compared to version %q, field %q: %w" [a, b, field] err

/-- The error of a field no validation handled (line 169). -/
def unknownChangeError (a b field : String) : GoError :=
  .errorf "version %q compared to version %q, field %q has unknown change, refusing to determine that change is safe"
    [a, b, field]

/-- The loop over the change validations for one field (lines 157–166): the errors appended, and
whether some validation handled the field. -/
def checkField (a b field : String) (diff : D) : List (ChangeValidation D) → List GoError × Bool
  | [] => ([], false)
  | validation :: rest =>
    let errs := ((validation diff).2.map (fieldError a b field)).toList
    if (validation diff).1 then (errs, true)
    else
      let r := checkField a b field diff rest
      (errs ++ r.1, r.2)

namespace CrossVersionValidator

variable (cvv : CrossVersionValidator D) (d : SchemaDiffer S F D)

/-- The errors for one field of a diff (lines 156–170). -/
def fieldErrors (a b field : String) (diff : D) : List GoError :=
  let r := checkField a b field diff cvv.changeValidations
  if r.2 then r.1 else r.1 ++ [unknownChangeError a b field]

/-- The body of the inner loop, for the versions `vA` and `vB` (lines 142–171). -/
def comparePair (vA vB : CustomResourceDefinitionVersion S) : Except Panic (List GoError) :=
  if vA.name = vB.name then pure []
  else do
    let flatOld := d.flattenSchema (← vA.openAPIV3Schema)
    let flatNew := d.flattenSchema (← vB.openAPIV3Schema)
    match d.calculateFlatSchemaDiff flatOld flatNew with
    | .error _ => pure [diffError vA.name vB.name]
    | .ok diffs => pure (diffs.flatMap fun fd ↦ cvv.fieldErrors vA.name vB.name fd.1 fd.2)

/-- `crossVersionValidator.Validate`. -/
def validate (crd : CustomResourceDefinition S) : Except Panic (Option GoError) := do
  let versions := crd.spec.versions
  let errs ← appendEach (fun vA ↦ appendEach (cvv.comparePair d vA) versions) versions
  pure (errorsJoin errs)

end CrossVersionValidator

/-! ## The report, described

What `Validate` reports, stated over the positions of the versions list rather than as loops. -/

/-- Whether a validation handles a field's change. -/
def handles (diff : D) (validation : ChangeValidation D) : Bool := (validation diff).1

/-- The records of one field: one per error among the validations tried, which are those up to
and including the first that handles the change, and an unknown-change record when none does. -/
def fieldRecords (validations : List (ChangeValidation D)) (a b field : String) (diff : D) :
    List GoError :=
  (validations.take (validations.findIdx (handles diff) + 1)).filterMap
      (fun validation ↦ (validation diff).2.map (fieldError a b field)) ++
    if validations.any (handles diff) then [] else [unknownChangeError a b field]

/-- The records of one ordered pair of versions. -/
def pairRecords (d : SchemaDiffer S F D) (validations : List (ChangeValidation D))
    (vA vB : CustomResourceDefinitionVersion S) : List GoError :=
  if vA.name = vB.name then []
  else
    match d.calculateFlatSchemaDiff (d.flattenSchema vA.schemaProps)
        (d.flattenSchema vB.schemaProps) with
    | .error _ => [diffError vA.name vB.name]
    | .ok diffs => diffs.flatMap fun fd ↦ fieldRecords validations vA.name vB.name fd.1 fd.2

/-- The records of a CRD: those of every ordered pair of positions of its versions list. -/
def crossVersionRecords (d : SchemaDiffer S F D) (validations : List (ChangeValidation D))
    (versions : List (CustomResourceDefinitionVersion S)) : List GoError :=
  (versions ×ˢ versions).flatMap fun p ↦ pairRecords d validations p.1 p.2

/-- Some version without a `Schema` has a differently named partner, so `Validate` reads its
`nil` pointer. -/
def dereferencesNilSchema (versions : List (CustomResourceDefinitionVersion S)) : Bool :=
  versions.any fun v ↦ v.schema.isNone && versions.any fun w ↦ w.name != v.name

/-- A pair of versions whose comparison panics: their names differ and one has no `Schema`. -/
def pairPanics (vA vB : CustomResourceDefinitionVersion S) : Bool :=
  vA.name != vB.name && (vA.schema.isNone || vB.schema.isNone)

/-! ## The code computes the report -/

theorem checkField_eq (a b field : String) (diff : D) (validations : List (ChangeValidation D)) :
    checkField a b field diff validations =
      ((validations.take (validations.findIdx (handles diff) + 1)).filterMap
        (fun v ↦ (v diff).2.map (fieldError a b field)), validations.any (handles diff)) := by
  induction validations with
  | nil => rfl
  | cons v vs ih =>
    by_cases h : (v diff).1 <;> cases hv : (v diff).2 <;>
      simp [checkField, h, hv, ih, handles, List.findIdx_cons]

theorem any_pairPanics (vs : List (CustomResourceDefinitionVersion S)) :
    (vs.any fun vA ↦ vs.any (pairPanics vA)) = dereferencesNilSchema vs := by
  rw [Bool.eq_iff_iff]
  simp only [dereferencesNilSchema, pairPanics, List.any_eq_true, Bool.and_eq_true,
    Bool.or_eq_true, bne_iff_ne]
  constructor
  · rintro ⟨vA, hA, vB, hB, hn, hs | hs⟩
    · exact ⟨vA, hA, hs, vB, hB, Ne.symm hn⟩
    · exact ⟨vB, hB, hs, vA, hA, hn⟩
  · rintro ⟨v, hv, hs, w, hw, hn⟩
    exact ⟨v, hv, w, hw, Ne.symm hn, .inl hs⟩

private theorem flatMap_product {α β γ : Type} (l₁ : List α) (l₂ : List β) (g : α → β → List γ) :
    (l₁ ×ˢ l₂).flatMap (fun p ↦ g p.1 p.2) = l₁.flatMap fun a ↦ l₂.flatMap (g a) := by
  induction l₁ with
  | nil => rfl
  | cons a l₁ ih => simp [List.flatMap_append, List.flatMap_map, ih]

namespace CrossVersionValidator

variable (cvv : CrossVersionValidator D) (d : SchemaDiffer S F D)

theorem fieldErrors_eq (a b field : String) (diff : D) :
    cvv.fieldErrors a b field diff = fieldRecords cvv.changeValidations a b field diff := by
  unfold fieldErrors fieldRecords
  rw [checkField_eq]
  split <;> simp_all

theorem comparePair_eq (vA vB : CustomResourceDefinitionVersion S) :
    cvv.comparePair d vA vB = if pairPanics vA vB then .error nilPointerDereference
      else .ok (pairRecords d cvv.changeValidations vA vB) := by
  by_cases hn : vA.name = vB.name
  · simp [comparePair, pairPanics, pairRecords, hn]
  · cases hA : vA.schema <;> cases hB : vB.schema <;>
      simp [comparePair, pairPanics, pairRecords, hn, hA, hB,
        CustomResourceDefinitionVersion.openAPIV3Schema, CustomResourceDefinitionVersion.schemaProps]
    split <;> simp [fieldErrors_eq]

/-- `Validate` returns the join of the records, and panics instead when it compares a version
that has no `Schema`. -/
theorem validate_eq (crd : CustomResourceDefinition S) :
    cvv.validate d crd = if dereferencesNilSchema crd.spec.versions then .error nilPointerDereference
      else .ok (errorsJoin (crossVersionRecords d cvv.changeValidations crd.spec.versions)) := by
  have inner := fun vA ↦ appendEach_eq (cvv.comparePair_eq d vA) crd.spec.versions
  rw [validate, appendEach_eq inner, any_pairPanics, crossVersionRecords, flatMap_product]
  split <;> rfl

end CrossVersionValidator

/-! ## The report does not depend on iteration orders -/

/-- Two results of a diff that agree up to the order of their fields. -/
def PermResult {α : Type} : Except GoError (List α) → Except GoError (List α) → Prop
  | .ok l', .ok l => l'.Perm l
  | .error _, .error _ => True
  | _, _ => False

/-- `d'` flattens as `d` does and computes the same diffs, each map ranged over in another
order. -/
structure SchemaDiffer.Reorders (d' d : SchemaDiffer S F D) : Prop where
  flatten_eq : d'.flattenSchema = d.flattenSchema
  diff_perm : ∀ x y, PermResult (d'.calculateFlatSchemaDiff x y) (d.calculateFlatSchemaDiff x y)

theorem pairRecords_perm {d' d : SchemaDiffer S F D} (h : d'.Reorders d)
    (validations : List (ChangeValidation D)) (vA vB : CustomResourceDefinitionVersion S) :
    (pairRecords d' validations vA vB).Perm (pairRecords d validations vA vB) := by
  unfold pairRecords
  split
  · rfl
  rw [h.flatten_eq]
  have hp := h.diff_perm (d.flattenSchema vA.schemaProps) (d.flattenSchema vB.schemaProps)
  revert hp
  cases d'.calculateFlatSchemaDiff _ _ <;> cases d.calculateFlatSchemaDiff _ _ <;>
    simp only [PermResult, false_imp_iff, true_implies, List.Perm.refl]
  exact fun hp ↦ hp.flatMap_right _

theorem crossVersionRecords_perm {d' d : SchemaDiffer S F D} (h : d'.Reorders d)
    (validations : List (ChangeValidation D)) {vs' vs : List (CustomResourceDefinitionVersion S)}
    (hv : vs'.Perm vs) :
    (crossVersionRecords d' validations vs').Perm (crossVersionRecords d validations vs) :=
  (List.Perm.flatMap_left _ fun p _ ↦ pairRecords_perm h validations p.1 p.2).trans
    ((hv.product hv).flatMap_right _)

theorem dereferencesNilSchema_perm {vs' vs : List (CustomResourceDefinitionVersion S)}
    (hv : vs'.Perm vs) : dereferencesNilSchema vs' = dereferencesNilSchema vs := by
  have key : ∀ {p : CustomResourceDefinitionVersion S → Bool}, vs'.any p = vs.any p := fun {p} ↦ by
    rw [Bool.eq_iff_iff, List.any_eq_true, List.any_eq_true]
    exact exists_congr fun v ↦ and_congr_left' hv.mem_iff
  simp only [dereferencesNilSchema, key]

/-! ## The contract -/

namespace CrossVersionValidator

/-- `Validate` reports exactly the records of `crossVersionRecords` — one per failed diff, one per
error of a validation tried, one per field no validation handles — and returns `nil` exactly when
there are none.  Reordering the versions list or the diff maps permutes the records and changes
nothing else.  When a version without a `Schema` is compared, it panics instead. -/
theorem validate_reports_every_record (cvv : CrossVersionValidator D) (d : SchemaDiffer S F D)
    (crd : CustomResourceDefinition S) :
    cvv.validate d crd = (if dereferencesNilSchema crd.spec.versions then .error nilPointerDereference
      else .ok (errorsJoin (crossVersionRecords d cvv.changeValidations crd.spec.versions))) ∧
    (cvv.validate d crd = .ok none ↔ dereferencesNilSchema crd.spec.versions = false ∧
      crossVersionRecords d cvv.changeValidations crd.spec.versions = []) ∧
    ∀ (d' : SchemaDiffer S F D) (vs' : List (CustomResourceDefinitionVersion S)),
      d'.Reorders d → vs'.Perm crd.spec.versions →
      dereferencesNilSchema vs' = dereferencesNilSchema crd.spec.versions ∧
      (crossVersionRecords d' cvv.changeValidations vs').Perm
        (crossVersionRecords d cvv.changeValidations crd.spec.versions) := by
  refine ⟨validate_eq cvv d crd, ?_, fun d' vs' hd hv ↦
    ⟨dereferencesNilSchema_perm hv, crossVersionRecords_perm hd _ hv⟩⟩
  rw [validate_eq]
  split <;> simp_all

/-- So `Validate` does not return `nil` on every CRD without records: when kapp's diff finds no
changed field, a CRD with a schema-less version next to another has no records at all, even with
a change validation that rejects every change, and `Validate` panics on it. -/
theorem validate_panics_without_records :
    let cvv : CrossVersionValidator Unit := ⟨[fun _ ↦ (false, some (.errorf "field changed" []))]⟩
    let d : SchemaDiffer Unit Unit Unit := ⟨fun _ ↦ (), fun _ _ ↦ .ok []⟩
    let crd : CustomResourceDefinition Unit :=
      ⟨"widgets.example.com", ⟨"Namespaced", [⟨"v1", none⟩, ⟨"v2", some ⟨none⟩⟩]⟩, ["v2"]⟩
    crossVersionRecords d cvv.changeValidations crd.spec.versions = [] ∧
      cvv.validate d crd = .error nilPointerDereference :=
  ⟨rfl, rfl⟩

/-- A CRD with a version that declares no schema, next to one that does: whatever kapp's
functions and validations, `Validate` panics on it. -/
theorem validate_panics_on_schemaless_version (cvv : CrossVersionValidator D)
    (d : SchemaDiffer S F D) :
    cvv.validate d ⟨"widgets.example.com", ⟨"Namespaced", [⟨"v1", none⟩, ⟨"v2", some ⟨none⟩⟩]⟩,
      ["v2"]⟩ = .error nilPointerDereference := by
  rw [validate_eq]
  rfl

end CrossVersionValidator

end CrdUpgradeSafety
end OperatorController
