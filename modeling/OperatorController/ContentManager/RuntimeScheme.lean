import OperatorController.ContentManager.Scheme
import Mathlib.Logic.Function.Basic

/-!
# `buildScheme` over apimachinery's scheme

For every object whose kind the scheme does not recognize yet, `buildScheme` registers three
things: the kind with the Go type `unstructured.Unstructured`, the kind with `List` appended with
`unstructured.UnstructuredList`, and whatever `metav1.AddToGroupVersion` registers for the
object's group-version.  apimachinery's `runtime.Scheme` binds each kind to one Go type:
`AddKnownTypeWithName` panics when the kind is already bound to another one.  This file models
that registry (`RuntimeScheme`) and the registrations of `metav1.AddToGroupVersion` and
`v1alpha1.AddToScheme`, which are outside this repository, and runs `buildScheme` on it
(`runtimeSchemeApi`).

* When `buildScheme` returns, it returns the "not defined" error exactly when some object has no
  kind or no version, and otherwise a scheme that recognizes the kind of every object, whatever
  the objects and their order (`buildScheme_outcome`).
* It may also panic, on a double registration that depends on the order of the objects
  (`buildScheme_panics_on_double_registration`).  An object of kind `FooList` before one of kind
  `Foo` in the same group-version binds `FooList` to `Unstructured`, and `Foo` then binds its list
  kind `FooList` to `UnstructuredList`.  An object of a kind `metav1.AddToGroupVersion` registers,
  such as `WatchEvent`, is bound to `Unstructured` and then to the type of `metav1`.
* It does not panic when no object of the list can meet such a kind, in any order
  (`noClash`, `buildScheme_ok_of_noClash`).  The proof follows where each binding of the scheme
  comes from (`Reachable`) through the whole loop.
-/

set_option autoImplicit false

namespace OperatorController
namespace ContentManager

/-! ## The registry of a `runtime.Scheme`

apimachinery's `runtime/scheme.go`, as far as `buildScheme` reaches into it: the map from kinds to
Go types, `Recognizes` and `AddKnownTypeWithName`. -/

/-- A Go type a scheme binds a kind to: one of the two types of `unstructured` that `buildScheme`
registers, or a type of another package, by its package path and name. -/
inductive GoType where
  | ofUnstructured (t : UnstructuredType)
  | named (pkgPath name : String)
  deriving DecidableEq, Repr

/-- `t.PkgPath() + "." + t.Name()`. -/
def GoType.qualifiedName : GoType → String
  | .ofUnstructured .unstructured =>
    "k8s.io/apimachinery/pkg/apis/meta/v1/unstructured.Unstructured"
  | .ofUnstructured .unstructuredList =>
    "k8s.io/apimachinery/pkg/apis/meta/v1/unstructured.UnstructuredList"
  | .named pkgPath name => pkgPath ++ "." ++ name

/-- `runtime.Scheme`, by its `gvkToType` map. -/
structure RuntimeScheme where
  gvkToType : GroupVersionKind → Option GoType

namespace RuntimeScheme

/-- `runtime.NewScheme()`. -/
def newScheme : RuntimeScheme := ⟨fun _ ↦ none⟩

/-- `s.Recognizes(gvk)`. -/
def recognizes (s : RuntimeScheme) (gvk : GroupVersionKind) : Bool := (s.gvkToType gvk).isSome

/-- The panic of `AddKnownTypeWithName` on a kind bound to another type.  The scheme's name, which
`runtime.NewScheme` takes from its caller's position, is left out of the text. -/
def doubleRegistration (gvk : GroupVersionKind) (oldT t : GoType) : Panic :=
  .value ("Double registration of different types for " ++ gvk.string ++ ": old=" ++
    oldT.qualifiedName ++ ", new=" ++ t.qualifiedName)

/-- `s.AddKnownTypeWithName(gvk, obj)` for an `obj` of type `t`. -/
def addKnownTypeWithName (s : RuntimeScheme) (gvk : GroupVersionKind) (t : GoType) :
    Except Panic RuntimeScheme :=
  if gvk.version = "" then .error (.value ("version is required on all types: " ++ gvk.string))
  else
    match s.gvkToType gvk with
    | some oldT => if oldT = t then .ok s else .error (doubleRegistration gvk oldT t)
    | none => .ok ⟨Function.update s.gvkToType gvk (some t)⟩

/-- `AddKnownTypeWithName` for each registration in turn, as `AddKnownTypes` and
`metav1.AddToGroupVersion` call it. -/
def register : RuntimeScheme → List (GroupVersionKind × GoType) → Except Panic RuntimeScheme
  | s, [] => .ok s
  | s, (gvk, t) :: regs => s.addKnownTypeWithName gvk t >>= fun s ↦ register s regs

end RuntimeScheme

/-! ## What `v1alpha1.AddToScheme` and `metav1.AddToGroupVersion` register -/

/-- The package of `metav1`'s types. -/
def metav1PkgPath : String := "k8s.io/apimachinery/pkg/apis/meta/v1"

/-- `runtime.APIVersionInternal`. -/
def apiVersionInternal : String := "__internal"

/-- `metav1.WatchEventKind`. -/
def watchEventKind : String := "WatchEvent"

/-- The kinds of `metav1`'s `optionsTypes`. -/
def optionsKinds : List String :=
  ["ListOptions", "GetOptions", "DeleteOptions", "CreateOptions", "UpdateOptions", "PatchOptions"]

/-- The kinds `metav1.AddToGroupVersion` registers as unversioned, under `metav1.Unversioned`: the
version `v1` of the core group. -/
def unversionedKinds : List String :=
  ["Status", "APIVersions", "APIGroupList", "APIGroup", "APIResourceList"]

/-- The registrations of `metav1.AddToGroupVersion(scheme, {group, version})`, in order:
`WatchEvent` in the group-version, `InternalEvent` as `WatchEvent` in the group's internal
version, the options types in the group-version, then the unversioned types. -/
def addToGroupVersionTypes (group version : String) : List (GroupVersionKind × GoType) :=
  (⟨group, version, watchEventKind⟩, .named metav1PkgPath "WatchEvent") ::
  (⟨group, apiVersionInternal, watchEventKind⟩, .named metav1PkgPath "InternalEvent") ::
  (optionsKinds.map fun kind ↦ (⟨group, version, kind⟩, .named metav1PkgPath kind)) ++
  unversionedKinds.map fun kind ↦ (⟨"", "v1", kind⟩, .named metav1PkgPath kind)

/-- The package of the operator-controller's API. -/
def v1alpha1PkgPath : String := "github.com/operator-framework/operator-controller/api/v1alpha1"

/-- The group of `v1alpha1.GroupVersion`. -/
def v1alpha1Group : String := "olm.operatorframework.io"

/-- The registrations of `v1alpha1.AddToScheme`: controller-runtime's `scheme.Builder` adds the
package's types, `ClusterExtension` and `ClusterExtensionList`, then calls
`metav1.AddToGroupVersion` for `v1alpha1.GroupVersion`. -/
def v1alpha1Types : List (GroupVersionKind × GoType) :=
  (⟨v1alpha1Group, "v1alpha1", "ClusterExtension"⟩, .named v1alpha1PkgPath "ClusterExtension") ::
  (⟨v1alpha1Group, "v1alpha1", "ClusterExtensionList"⟩,
    .named v1alpha1PkgPath "ClusterExtensionList") ::
  addToGroupVersionTypes v1alpha1Group "v1alpha1"

/-- What `buildScheme` calls, on apimachinery's scheme. -/
def runtimeSchemeApi : SchemeApi RuntimeScheme where
  newScheme := .newScheme
  addToScheme s := Except.ok <$> s.register v1alpha1Types
  recognizes := RuntimeScheme.recognizes
  addKnownTypeWithName s gvk t := s.addKnownTypeWithName gvk (.ofUnstructured t)
  addToGroupVersion s group version := s.register (addToGroupVersionTypes group version)

/-! ## Registering kinds

`addKnownTypeWithName_eq_ok` says once what a registration that does not panic does; the lemmas
on `register` follow from it. -/

namespace RuntimeScheme

variable {s s' : RuntimeScheme} {gvk : GroupVersionKind} {t : GoType}

@[simp] theorem gvkToType_mk (f : GroupVersionKind → Option GoType) :
    (⟨f⟩ : RuntimeScheme).gvkToType = f :=
  rfl

theorem recognizes_of_gvkToType (hb : s.gvkToType gvk = some t) : s.recognizes gvk = true := by
  simp [recognizes, hb]

/-- A registration does not panic exactly when the kind has a version and is not bound to another
type; it then binds the kind to the type. -/
theorem addKnownTypeWithName_eq_ok :
    s.addKnownTypeWithName gvk t = .ok s' ↔ gvk.version ≠ "" ∧
      (∀ t', s.gvkToType gvk = some t' → t' = t) ∧
      s' = ⟨Function.update s.gvkToType gvk (some t)⟩ := by
  by_cases hv : gvk.version = ""
  · simp [addKnownTypeWithName, hv]
  rcases hs : s.gvkToType gvk with _ | oldT
  · simp [addKnownTypeWithName, hv, hs, eq_comm]
  · by_cases ht : oldT = t
    · subst ht
      have hself : (⟨Function.update s.gvkToType gvk (some oldT)⟩ : RuntimeScheme) = s := by
        rw [← hs, Function.update_eq_self]
      simp [addKnownTypeWithName, hv, hs, hself, eq_comm]
    · simp [addKnownTypeWithName, hv, hs, ht]

theorem register_cons (regs : List (GroupVersionKind × GoType)) :
    s.register ((gvk, t) :: regs) = s.addKnownTypeWithName gvk t >>= fun s ↦ s.register regs :=
  rfl

theorem register_append (l₁ l₂ : List (GroupVersionKind × GoType)) :
    s.register (l₁ ++ l₂) = s.register l₁ >>= fun s ↦ s.register l₂ := by
  induction l₁ generalizing s with
  | nil => rfl
  | cons p l₁ ih =>
    obtain ⟨gvk, t⟩ := p
    simp only [List.cons_append, register_cons, ih, bind_assoc]

/-- Registrations keep every binding. -/
theorem register_mono {regs : List (GroupVersionKind × GoType)} (h : s.register regs = .ok s')
    (hb : s.gvkToType gvk = some t) : s'.gvkToType gvk = some t := by
  induction regs generalizing s with
  | nil => cases h; exact hb
  | cons p regs ih =>
    obtain ⟨g, t'⟩ := p
    obtain ⟨s₁, h₁, h₂⟩ := Except.bind_eq_ok.mp h
    obtain ⟨-, hfree, rfl⟩ := addKnownTypeWithName_eq_ok.mp h₁
    refine ih h₂ ?_
    by_cases hg : gvk = g
    · subst hg
      rw [hfree _ hb]
      exact Function.update_same _ _ _
    · exact (Function.update_noteq hg _ _).trans hb

/-- After registrations that do not panic, each of them is bound. -/
theorem register_binds {regs : List (GroupVersionKind × GoType)} (h : s.register regs = .ok s') :
    ∀ p ∈ regs, s'.gvkToType p.1 = some p.2 := by
  induction regs generalizing s with
  | nil => simp
  | cons p regs ih =>
    obtain ⟨g, t'⟩ := p
    obtain ⟨s₁, h₁, h₂⟩ := Except.bind_eq_ok.mp h
    obtain ⟨-, -, rfl⟩ := addKnownTypeWithName_eq_ok.mp h₁
    simp only [List.mem_cons, forall_eq_or_imp]
    exact ⟨register_mono h₂ (Function.update_same _ _ _), ih h₂⟩

/-- A binding after registrations was there before, or is one of them. -/
theorem register_origin {regs : List (GroupVersionKind × GoType)} (h : s.register regs = .ok s')
    (hb : s'.gvkToType gvk = some t) : s.gvkToType gvk = some t ∨ (gvk, t) ∈ regs := by
  induction regs generalizing s with
  | nil => cases h; exact .inl hb
  | cons p regs ih =>
    obtain ⟨g, t'⟩ := p
    obtain ⟨s₁, h₁, h₂⟩ := Except.bind_eq_ok.mp h
    obtain ⟨-, -, rfl⟩ := addKnownTypeWithName_eq_ok.mp h₁
    rcases ih h₂ with hb | hmem
    · by_cases hg : gvk = g
      · subst hg
        rw [gvkToType_mk, Function.update_same, Option.some.injEq] at hb
        exact .inr (hb ▸ List.mem_cons_self _ _)
      · exact .inl (by rwa [gvkToType_mk, Function.update_noteq hg] at hb)
    · exact .inr (List.mem_cons_of_mem _ hmem)

/-- Registrations that give each kind the type `k` gives it, on a scheme that binds none of their
kinds to another type, do not panic. -/
theorem register_ok (k : GroupVersionKind → Option GoType) {regs : List (GroupVersionKind × GoType)}
    (hv : ∀ p ∈ regs, p.1.version ≠ "") (hk : ∀ p ∈ regs, k p.1 = some p.2)
    (hs : ∀ p ∈ regs, ∀ t, s.gvkToType p.1 = some t → t = p.2) : ∃ s', s.register regs = .ok s' := by
  induction regs generalizing s with
  | nil => exact ⟨s, rfl⟩
  | cons p regs ih =>
    obtain ⟨g, t'⟩ := p
    simp only [List.mem_cons, forall_eq_or_imp] at hv hk hs
    have h₁ : s.addKnownTypeWithName g t' = .ok ⟨Function.update s.gvkToType g (some t')⟩ :=
      addKnownTypeWithName_eq_ok.mpr ⟨hv.1, hs.1, rfl⟩
    obtain ⟨s', h₂⟩ := ih (s := ⟨Function.update s.gvkToType g (some t')⟩) hv.2 hk.2 fun p hp t hb ↦ by
      by_cases hg : p.1 = g
      · rw [gvkToType_mk, hg, Function.update_same, Option.some.injEq] at hb
        have := hk.2 p hp
        rw [hg, hk.1, Option.some.injEq] at this
        exact hb ▸ this
      · exact hs.2 p hp t (by rwa [gvkToType_mk, Function.update_noteq hg] at hb)
    exact ⟨s', by rw [register_cons, h₁, Except.ok_bind, h₂]⟩

end RuntimeScheme

/-! ## The loop of `buildScheme`

For an object whose kind the scheme does not recognize, the loop makes the registrations
`objectTypes`: the kind, its list kind, and those of `metav1.AddToGroupVersion`. -/

/-- The list kind `buildScheme` registers beside a kind. -/
def listGVK (gvk : GroupVersionKind) : GroupVersionKind :=
  ⟨gvk.group, gvk.version, gvk.kind ++ "List"⟩

theorem listGVK_ne (gvk : GroupVersionKind) : listGVK gvk ≠ gvk := fun he ↦
  absurd (by simpa [listGVK] using congrArg (fun g : GroupVersionKind ↦ g.kind.length) he)
    (by decide : "List".length ≠ 0)

/-- The registrations `buildScheme` makes for an object whose kind the scheme does not recognize. -/
def objectTypes (gvk : GroupVersionKind) : List (GroupVersionKind × GoType) :=
  (gvk, .ofUnstructured .unstructured) :: (listGVK gvk, .ofUnstructured .unstructuredList) ::
    addToGroupVersionTypes gvk.group gvk.version

theorem addObjects_cons (o : Object) (objs : List Object) (s : RuntimeScheme) :
    addObjects runtimeSchemeApi (o :: objs) s =
      if o.gvk.kind = "" ∨ o.gvk.version = "" then .ok (.error undefinedKindError)
      else if s.recognizes o.gvk then addObjects runtimeSchemeApi objs s
      else s.register (objectTypes o.gvk) >>= addObjects runtimeSchemeApi objs := by
  by_cases he : o.gvk.kind = "" ∨ o.gvk.version = ""
  · rw [addObjects, if_pos he, if_pos he]
    rfl
  · rw [addObjects, if_neg he, if_neg he]
    cases hr : s.recognizes o.gvk
    · simp only [objectTypes, RuntimeScheme.register_cons, bind_assoc]
      exact if_pos (by simpa [runtimeSchemeApi] using hr)
    · exact if_neg (by simpa [runtimeSchemeApi] using hr)

theorem buildScheme_eq (objs : List Object) :
    buildScheme runtimeSchemeApi objs =
      RuntimeScheme.newScheme.register v1alpha1Types >>= addObjects runtimeSchemeApi objs := by
  simp only [buildScheme, runtimeSchemeApi]
  rcases RuntimeScheme.newScheme.register v1alpha1Types with p | s <;> rfl

/-- A run of the loop that does not panic returns the "not defined" error exactly when an object
has no kind or no version, and otherwise a scheme that keeps the bindings it started from and
recognizes the kind of every object. -/
theorem addObjects_eq_ok {objs : List Object} {s : RuntimeScheme} {r : Except GoError RuntimeScheme}
    (h : addObjects runtimeSchemeApi objs s = .ok r) :
    ((∃ e, r = .error e) ↔ ∃ o ∈ objs, o.gvk.kind = "" ∨ o.gvk.version = "") ∧
      (∀ e, r = .error e → e = undefinedKindError) ∧
      ∀ s', r = .ok s' → (∀ gvk t, s.gvkToType gvk = some t → s'.gvkToType gvk = some t) ∧
        ∀ o ∈ objs, s'.recognizes o.gvk = true := by
  induction objs generalizing s with
  | nil =>
    cases h
    exact ⟨by simp, by simp, fun s' hs' ↦ by cases hs'; simp⟩
  | cons o objs ih =>
    rw [addObjects_cons] at h
    split_ifs at h with he hr
    · cases h
      exact ⟨⟨fun _ ↦ ⟨o, List.mem_cons_self _ _, he⟩, fun _ ↦ ⟨_, rfl⟩⟩,
        fun e he' ↦ by cases he'; rfl, by simp⟩
    · obtain ⟨hiff, herr, hok⟩ := ih h
      obtain ⟨t, ht⟩ := Option.isSome_iff_exists.mp hr
      exact ⟨by simp [hiff, he], herr, fun s' hs' ↦ ⟨(hok s' hs').1, List.forall_mem_cons.mpr
        ⟨RuntimeScheme.recognizes_of_gvkToType ((hok s' hs').1 _ _ ht), (hok s' hs').2⟩⟩⟩
    · obtain ⟨s₁, hreg, hrest⟩ := Except.bind_eq_ok.mp h
      obtain ⟨hiff, herr, hok⟩ := ih hrest
      have hb := RuntimeScheme.register_binds hreg _ (List.mem_cons_self _ _)
      exact ⟨by simp [hiff, he], herr, fun s' hs' ↦ ⟨fun gvk t hb ↦
        (hok s' hs').1 _ _ (RuntimeScheme.register_mono hreg hb), List.forall_mem_cons.mpr
        ⟨RuntimeScheme.recognizes_of_gvkToType ((hok s' hs').1 _ _ hb), (hok s' hs').2⟩⟩⟩

/-! ## What `buildScheme` returns -/

/-- Whatever the objects and their order: when `buildScheme` returns, it returns the "not defined"
error exactly when some object has no kind or no version, and otherwise a scheme that recognizes
the kind of every object. -/
theorem buildScheme_outcome (objs : List Object) (r : Except GoError RuntimeScheme)
    (h : buildScheme runtimeSchemeApi objs = .ok r) :
    ((∃ e, r = .error e) ↔ ∃ o ∈ objs, o.gvk.kind = "" ∨ o.gvk.version = "") ∧
      (∀ e, r = .error e → e = undefinedKindError) ∧
      ∀ s, r = .ok s → ∀ o ∈ objs, s.recognizes o.gvk = true := by
  rw [buildScheme_eq] at h
  obtain ⟨s₀, -, h⟩ := Except.bind_eq_ok.mp h
  obtain ⟨hiff, herr, hok⟩ := addObjects_eq_ok h
  exact ⟨hiff, herr, fun s hs ↦ (hok s hs).2⟩

/-- The `Pod` of the test "Gvk is not defined", with no kind and no version, is refused. -/
theorem buildScheme_refuses_pod_without_kind :
    let pod : Object := ⟨⟨"", "", ""⟩, "", [], "{}"⟩
    buildScheme runtimeSchemeApi [pod] = .ok (.error undefinedKindError) ∧
      ∃ o ∈ [pod], o.gvk.kind = "" ∨ o.gvk.version = "" := by
  intro pod
  have h : buildScheme runtimeSchemeApi [pod] = .ok (.error undefinedKindError) := rfl
  exact ⟨h, (buildScheme_outcome [pod] _ h).1.mp ⟨_, rfl⟩⟩

/-- The order of the objects decides whether `buildScheme` panics.  `Foo` then `FooList` are both
registered; `FooList` then `Foo` panics when `Foo`'s list kind, bound to `Unstructured` for the
first object, is bound to `UnstructuredList`.  An object of kind `WatchEvent` panics when
`metav1.AddToGroupVersion` binds its kind to the type of `metav1`. -/
theorem buildScheme_panics_on_double_registration :
    let obj : String → Object := fun kind ↦ ⟨⟨"example.com", "v1", kind⟩, "sample", [], "{}"⟩
    (∃ s, buildScheme runtimeSchemeApi [obj "Foo", obj "FooList"] = .ok (.ok s) ∧
      s.recognizes (obj "Foo").gvk = true ∧ s.recognizes (obj "FooList").gvk = true) ∧
    buildScheme runtimeSchemeApi [obj "FooList", obj "Foo"] =
      .error (RuntimeScheme.doubleRegistration ⟨"example.com", "v1", "FooList"⟩
        (.ofUnstructured .unstructured) (.ofUnstructured .unstructuredList)) ∧
    buildScheme runtimeSchemeApi [obj "WatchEvent"] =
      .error (RuntimeScheme.doubleRegistration ⟨"example.com", "v1", "WatchEvent"⟩
        (.ofUnstructured .unstructured) (.named metav1PkgPath "WatchEvent")) :=
  ⟨⟨_, rfl, rfl, rfl⟩, rfl, rfl⟩

/-! ## The types `v1alpha1.AddToScheme` and `metav1.AddToGroupVersion` give a kind

`knownType` is the one type these registrations give a kind, as long as
`metav1.AddToGroupVersion` is not called for the internal version: there it binds `WatchEvent`
of the internal version twice, to two types. -/

/-- The kinds a scheme of `buildScheme` recognizes before the loop: those `v1alpha1.AddToScheme`
binds. -/
def preregistered (gvk : GroupVersionKind) : Bool := v1alpha1Types.any fun p ↦ p.1 == gvk

/-- The type `v1alpha1.AddToScheme` and `metav1.AddToGroupVersion` give a kind, if they bind it. -/
def knownType (gvk : GroupVersionKind) : Option GoType :=
  if gvk.kind = watchEventKind then
    some (.named metav1PkgPath
      (if gvk.version = apiVersionInternal then "InternalEvent" else "WatchEvent"))
  else if gvk.kind ∈ optionsKinds ∨
      (gvk.group = "" ∧ gvk.version = "v1" ∧ gvk.kind ∈ unversionedKinds) then
    some (.named metav1PkgPath gvk.kind)
  else if gvk.group = v1alpha1Group ∧ gvk.version = "v1alpha1" ∧
      (gvk.kind = "ClusterExtension" ∨ gvk.kind = "ClusterExtensionList") then
    some (.named v1alpha1PkgPath gvk.kind)
  else none

variable {gvk : GroupVersionKind} {t : GoType}

theorem preregistered_iff : preregistered gvk = true ↔ ∃ t, (gvk, t) ∈ v1alpha1Types := by
  simp only [preregistered, List.any_eq_true, beq_iff_eq]
  exact ⟨fun ⟨⟨g, t⟩, hp, he⟩ ↦ ⟨t, he ▸ hp⟩, fun ⟨t, ht⟩ ↦ ⟨_, ht, rfl⟩⟩

theorem knownType_of_mem_addToGroupVersionTypes {group version : String}
    (hv : version ≠ apiVersionInternal) {p : GroupVersionKind × GoType}
    (hp : p ∈ addToGroupVersionTypes group version) : knownType p.1 = some p.2 := by
  have hopt : ∀ kind ∈ optionsKinds, kind ≠ watchEventKind := by decide
  have hunv : ∀ kind ∈ unversionedKinds, kind ≠ watchEventKind := by decide
  simp only [addToGroupVersionTypes, List.mem_cons, List.mem_append, List.mem_map] at hp
  rcases hp with (rfl | rfl | ⟨kind, hk, rfl⟩) | ⟨kind, hk, rfl⟩
  · simp [knownType, hv]
  · simp [knownType]
  · simp [knownType, hopt kind hk, hk]
  · simp [knownType, hunv kind hk, hk]

theorem knownType_of_mem_v1alpha1Types {p : GroupVersionKind × GoType} (hp : p ∈ v1alpha1Types) :
    knownType p.1 = some p.2 := by
  simp only [v1alpha1Types, List.mem_cons] at hp
  rcases hp with rfl | rfl | hp
  · decide
  · decide
  · exact knownType_of_mem_addToGroupVersionTypes (by decide) hp

/-- A list kind that `knownType` types is bound by `v1alpha1.AddToScheme`: it is one of the two
unversioned list kinds or `ClusterExtensionList`. -/
theorem mem_v1alpha1Types_of_knownType_listGVK (h : knownType (listGVK gvk) = some t) :
    (listGVK gvk, t) ∈ v1alpha1Types := by
  have hl : "List".data <:+ (gvk.kind ++ "List").data := ⟨gvk.kind.data, rfl⟩
  have hwe : gvk.kind ++ "List" ≠ watchEventKind := fun he ↦ absurd (he ▸ hl) (by decide)
  have hopt : gvk.kind ++ "List" ∉ optionsKinds := fun hm ↦ by
    have : ∀ kind ∈ optionsKinds, ¬"List".data <:+ kind.data := by decide
    exact this _ hm hl
  have hunv : ∀ kind ∈ unversionedKinds, "List".data <:+ kind.data →
      kind = "APIGroupList" ∨ kind = "APIResourceList" := by decide
  simp only [knownType, listGVK, hwe, hopt, if_false, false_or] at h ⊢
  split_ifs at h with h₂ h₃ <;> cases h
  · obtain ⟨hg, hv, h₂⟩ := h₂
    rcases hunv _ h₂ hl with he | he <;> rw [hg, hv, he] <;> decide
  · obtain ⟨hg, hv, he | he⟩ := h₃
    · exact absurd (he ▸ hl) (by decide)
    · rw [hg, hv, he]
      decide

/-- A kind `knownType` types, of a version other than the internal one and not bound by
`v1alpha1.AddToScheme`, is bound by `metav1.AddToGroupVersion` for its own group-version. -/
theorem mem_addToGroupVersionTypes_of_knownType (h : knownType gvk = some t)
    (hv : gvk.version ≠ apiVersionInternal) (hpre : preregistered gvk = false) :
    (gvk, t) ∈ addToGroupVersionTypes gvk.group gvk.version := by
  obtain ⟨g, v, k⟩ := gvk
  simp only [knownType] at h
  simp only [addToGroupVersionTypes, List.mem_cons, List.mem_append, List.mem_map]
  split_ifs at h with h₁ h₂ h₃ <;> cases h
  · subst h₁
    simp [hv]
  · rcases h₂ with h₂ | ⟨rfl, rfl, h₂⟩
    · exact .inl (.inr (.inr ⟨k, h₂, rfl⟩))
    · exact .inr ⟨k, h₂, rfl⟩
  · obtain ⟨rfl, rfl, rfl | rfl⟩ := h₃ <;> exact absurd hpre (by decide)

/-! ## Where the bindings come from

`Reachable objs s` holds of every scheme the loop reaches while it registers the kinds of `objs`:
the bindings of `v1alpha1.AddToScheme` are there, and every binding comes from
`v1alpha1.AddToScheme`, from an object of `objs`, from its list kind, or gives its kind the type
`knownType` gives it. -/

/-- What a binding may come from while `buildScheme` registers the kinds of `objs`. -/
def Origin (objs : List Object) (gvk : GroupVersionKind) (t : GoType) : Prop :=
  (gvk, t) ∈ v1alpha1Types ∨
    (preregistered gvk = false ∧
      ((t = .ofUnstructured .unstructured ∧ ∃ o ∈ objs, o.gvk = gvk) ∨
        (t = .ofUnstructured .unstructuredList ∧ ∃ o ∈ objs, listGVK o.gvk = gvk) ∨
        knownType gvk = some t))

/-- A scheme the loop of `buildScheme` may reach while it registers the kinds of `objs`. -/
structure Reachable (objs : List Object) (s : RuntimeScheme) : Prop where
  preregistered_bound : ∀ p ∈ v1alpha1Types, s.gvkToType p.1 = some p.2
  origin : ∀ gvk t, s.gvkToType gvk = some t → Origin objs gvk t

/-- No object can meet, in any order of the list, a kind bound to another type: each object is of
a preregistered kind, or it is not of the internal version, `metav1.AddToGroupVersion` does not
register its kind for its group-version, its list kind is not preregistered, and no object of the
list is of its list kind. -/
def noClash (objs : List Object) : Bool :=
  objs.all fun o ↦ preregistered o.gvk ||
    (o.gvk.version != apiVersionInternal &&
      (addToGroupVersionTypes o.gvk.group o.gvk.version).all (fun p ↦ p.1 != o.gvk) &&
      !preregistered (listGVK o.gvk) && objs.all fun o' ↦ o'.gvk != listGVK o.gvk)

variable {objs : List Object} {s s' : RuntimeScheme}

theorem noClash_of_mem (hnc : noClash objs = true) {o : Object} (ho : o ∈ objs)
    (hpre : preregistered o.gvk = false) :
    o.gvk.version ≠ apiVersionInternal ∧
      (∀ p ∈ addToGroupVersionTypes o.gvk.group o.gvk.version, p.1 ≠ o.gvk) ∧
      preregistered (listGVK o.gvk) = false ∧ ∀ o' ∈ objs, o'.gvk ≠ listGVK o.gvk := by
  have := List.all_eq_true.mp hnc o ho
  simp only [hpre, Bool.false_or, Bool.and_eq_true, bne_iff_ne, ne_eq, List.all_eq_true,
    Bool.not_eq_true'] at this
  exact ⟨this.1.1.1, this.1.1.2, this.1.2, this.2⟩

theorem Origin.of_knownType (h : knownType gvk = some t) : Origin objs gvk t := by
  cases hp : preregistered gvk
  · exact .inr ⟨hp, .inr (.inr h)⟩
  · obtain ⟨t', ht'⟩ := preregistered_iff.mp hp
    have := knownType_of_mem_v1alpha1Types ht'
    rw [h, Option.some.injEq] at this
    exact .inl (this ▸ ht')

theorem Reachable.register {regs : List (GroupVersionKind × GoType)} (h : Reachable objs s)
    (hreg : s.register regs = .ok s') (horig : ∀ p ∈ regs, Origin objs p.1 p.2) :
    Reachable objs s' :=
  ⟨fun p hp ↦ RuntimeScheme.register_mono hreg (h.preregistered_bound p hp),
    fun gvk t hb ↦ (RuntimeScheme.register_origin hreg hb).elim (h.origin gvk t) (horig (gvk, t))⟩

theorem reachable_of_addToScheme (h : RuntimeScheme.newScheme.register v1alpha1Types = .ok s) :
    Reachable objs s :=
  ⟨RuntimeScheme.register_binds h,
    fun _ _ hb ↦ (RuntimeScheme.register_origin h hb).elim (fun h ↦ by cases h) .inl⟩

theorem addToScheme_ok : ∃ s, RuntimeScheme.newScheme.register v1alpha1Types = .ok s :=
  RuntimeScheme.register_ok knownType (by decide) (fun _ ↦ knownType_of_mem_v1alpha1Types)
    fun _ _ _ h ↦ by cases h

/-- In a reachable scheme of a list without clashes, a kind `knownType` types is unbound or bound
to that type. -/
theorem Reachable.eq_of_knownType (hnc : noClash objs = true) (h : Reachable objs s)
    (hk : knownType gvk = some t) {t' : GoType} (hb : s.gvkToType gvk = some t') : t' = t := by
  rcases h.origin gvk t' hb with hmem | ⟨hpre, ⟨-, o, ho, rfl⟩ | ⟨-, o, ho, rfl⟩ | hk'⟩
  · rw [knownType_of_mem_v1alpha1Types hmem] at hk
    exact Option.some.inj hk
  · -- an object's own kind is never one `metav1.AddToGroupVersion` binds for its group-version
    obtain ⟨hv, hmeta, -⟩ := noClash_of_mem hnc ho hpre
    exact absurd rfl (hmeta _ (mem_addToGroupVersionTypes_of_knownType hk hv hpre))
  · rw [preregistered_iff.mpr ⟨t, mem_v1alpha1Types_of_knownType_listGVK hk⟩] at hpre
    cases hpre
  · rw [hk] at hk'
    exact (Option.some.inj hk').symm

/-- In a reachable scheme of a list without clashes, the list kind of an object of the list that
is not preregistered is unbound or bound to `UnstructuredList`. -/
theorem Reachable.eq_of_listGVK (hnc : noClash objs = true) (h : Reachable objs s) {o : Object}
    (ho : o ∈ objs) (hpre : preregistered o.gvk = false)
    (hb : s.gvkToType (listGVK o.gvk) = some t) : t = .ofUnstructured .unstructuredList := by
  obtain ⟨-, -, hlist, hpair⟩ := noClash_of_mem hnc ho hpre
  rcases h.origin _ t hb with hmem | ⟨-, ⟨-, o', ho', he⟩ | ⟨ht, -⟩ | hk⟩
  · rw [preregistered_iff.mpr ⟨t, hmem⟩] at hlist
    cases hlist
  · exact absurd he (hpair o' ho')
  · exact ht
  · rw [preregistered_iff.mpr ⟨t, mem_v1alpha1Types_of_knownType_listGVK hk⟩] at hlist
    cases hlist

/-- The registrations of an object of a list without clashes, from a reachable scheme that does
not recognize its kind, do not panic and lead to a reachable scheme. -/
theorem Reachable.register_objectTypes (hnc : noClash objs = true) (h : Reachable objs s)
    {o : Object} (ho : o ∈ objs) (hv : o.gvk.version ≠ "") (hr : s.recognizes o.gvk = false) :
    ∃ s', s.register (objectTypes o.gvk) = .ok s' ∧ Reachable objs s' := by
  have hnone : s.gvkToType o.gvk = none := by simpa [RuntimeScheme.recognizes] using hr
  have hpre : preregistered o.gvk = false := Bool.eq_false_iff.mpr fun hp ↦ by
    obtain ⟨t, ht⟩ := preregistered_iff.mp hp
    simp [h.preregistered_bound _ ht] at hnone
  obtain ⟨hint, -, hlist, -⟩ := noClash_of_mem hnc ho hpre
  -- the kind and its list kind
  let own : List (GroupVersionKind × GoType) :=
    [(o.gvk, .ofUnstructured .unstructured), (listGVK o.gvk, .ofUnstructured .unstructuredList)]
  obtain ⟨s₁, h₁⟩ : ∃ s₁, s.register own = .ok s₁ := RuntimeScheme.register_ok
    (fun g ↦ if g = o.gvk then some (.ofUnstructured .unstructured)
      else some (.ofUnstructured .unstructuredList))
    (by simpa [own, listGVK] using hv) (by simp [own, listGVK_ne])
    (by simpa [own, hnone] using fun t hb ↦ h.eq_of_listGVK hnc ho hpre hb)
  have hr₁ : Reachable objs s₁ := h.register h₁ (by
    simp only [own, List.mem_cons, List.mem_singleton, forall_eq_or_imp, forall_eq,
      List.not_mem_nil, false_imp_iff, implies_true, and_true]
    exact ⟨.inr ⟨hpre, .inl ⟨rfl, o, ho, rfl⟩⟩, .inr ⟨hlist, .inr (.inl ⟨rfl, o, ho, rfl⟩)⟩⟩)
  -- then `metav1.AddToGroupVersion`, whose kinds are unbound or bound to their `knownType`
  have hmeta : ∀ p ∈ addToGroupVersionTypes o.gvk.group o.gvk.version, knownType p.1 = some p.2 :=
    fun _ ↦ knownType_of_mem_addToGroupVersionTypes hint
  obtain ⟨s₂, h₂⟩ : ∃ s₂, s₁.register (addToGroupVersionTypes o.gvk.group o.gvk.version) = .ok s₂ :=
    RuntimeScheme.register_ok knownType
    (fun p hp ↦ by
      simp only [addToGroupVersionTypes, List.mem_cons, List.mem_append, List.mem_map] at hp
      rcases hp with (rfl | rfl | ⟨_, -, rfl⟩) | ⟨_, -, rfl⟩ <;> simp [apiVersionInternal, hv])
    hmeta (fun p hp _ hb ↦ hr₁.eq_of_knownType hnc (hmeta p hp) hb)
  refine ⟨s₂, ?_, hr₁.register h₂ fun p hp ↦ .of_knownType (hmeta p hp)⟩
  show s.register (own ++ addToGroupVersionTypes o.gvk.group o.gvk.version) = .ok s₂
  rw [RuntimeScheme.register_append, h₁, Except.ok_bind, h₂]

/-- From a reachable scheme, the loop over objects of a list without clashes does not panic. -/
theorem addObjects_ok_of_noClash (hnc : noClash objs = true) {rest : List Object}
    (hrest : ∀ o ∈ rest, o ∈ objs) (h : Reachable objs s) :
    ∃ r, addObjects runtimeSchemeApi rest s = .ok r := by
  induction rest generalizing s with
  | nil => exact ⟨_, rfl⟩
  | cons o rest ih =>
    simp only [List.mem_cons, forall_eq_or_imp] at hrest
    rw [addObjects_cons]
    split_ifs with he hr
    · exact ⟨_, rfl⟩
    · exact ih hrest.2 h
    · obtain ⟨s', hreg, h'⟩ := h.register_objectTypes hnc hrest.1 (by tauto) (by simpa using hr)
      rw [hreg, Except.ok_bind]
      exact ih hrest.2 h'

/-- `buildScheme` does not panic on a list of objects none of which can meet a kind bound to
another type, in any order. -/
theorem buildScheme_ok_of_noClash (objs : List Object) (hnc : noClash objs = true) :
    ∃ r, buildScheme runtimeSchemeApi objs = .ok r := by
  obtain ⟨s₀, h₀⟩ := addToScheme_ok
  obtain ⟨r, hr⟩ := addObjects_ok_of_noClash hnc (fun _ h ↦ h) (reachable_of_addToScheme h₀)
  exact ⟨r, by rw [buildScheme_eq, h₀, Except.ok_bind, hr]⟩

/-- The objects of the test "Check objects added in scheme" and "Check if empty Group is valid",
a `Deployment` of `apps/v1` and a `Pod` of the core group, have no clash. -/
theorem buildScheme_ok_deployment_and_pod :
    let deployment : Object := ⟨⟨"apps", "v1", "Deployment"⟩, "webserver", [], "{}"⟩
    let pod : Object := ⟨⟨"", "v1", "Pod"⟩, "webserver", [], "{}"⟩
    noClash [deployment, pod] = true ∧ ∃ r, buildScheme runtimeSchemeApi [deployment, pod] = .ok r :=
  ⟨by decide, buildScheme_ok_of_noClash _ (by decide)⟩

end ContentManager
end OperatorController
