import OperatorController.Api

/-!
# Building the scheme of an extension's cache

`buildScheme` makes a fresh `runtime.Scheme` that knows the operator-controller's own API and,
for every object the extension manages, the object's kind and its list kind as unstructured
types.  It returns an error as soon as an object has no kind or no version.

The scheme itself is apimachinery's, not this repository's, so its operations are the parameter
`SchemeApi`: a scheme is a value of some type `Sch`, and every registration may panic, as
`AddKnownTypeWithName` does on a kind already bound to another Go type.  `buildScheme` is the
loop of the source over that interface, nothing more.
-/

set_option autoImplicit false

namespace OperatorController
namespace ContentManager

/-- The two Go types `buildScheme` registers kinds with. -/
inductive UnstructuredType where
  /-- `*unstructured.Unstructured`. -/
  | unstructured
  /-- `*unstructured.UnstructuredList`. -/
  | unstructuredList
  deriving DecidableEq, Repr

/-- What `buildScheme` calls: `runtime.NewScheme`, `v1alpha1.AddToScheme` and the methods of a
scheme, with `metav1.AddToGroupVersion`. -/
structure SchemeApi (Sch : Type) where
  newScheme : Sch
  /-- `v1alpha1.AddToScheme(scheme)`. -/
  addToScheme : Sch → Except Panic (Except GoError Sch)
  /-- `scheme.Recognizes(gvk)`. -/
  recognizes : Sch → GroupVersionKind → Bool
  /-- `scheme.AddKnownTypeWithName(gvk, obj)`, with `obj` of the given type. -/
  addKnownTypeWithName : Sch → GroupVersionKind → UnstructuredType → Except Panic Sch
  /-- `metav1.AddToGroupVersion(scheme, schema.GroupVersion{group, version})`. -/
  addToGroupVersion : Sch → String → String → Except Panic Sch

variable {Sch : Type} (api : SchemeApi Sch)

/-- The error of an object with no kind or no version (line 70). -/
def undefinedKindError : GoError := .errorf "object Kind or Version is not defined" []

/-- The loop of `buildScheme` over the objects (lines 65–84). -/
def addObjects : List Object → Sch → Except Panic (Except GoError Sch)
  | [], scheme => pure (.ok scheme)
  | obj :: objs, scheme =>
    let gvk := obj.gvk
    let listKind := gvk.kind ++ "List"
    if gvk.kind = "" ∨ gvk.version = "" then pure (.error undefinedKindError)
    else if !api.recognizes scheme gvk then do
      let scheme ← api.addKnownTypeWithName scheme gvk .unstructured
      let scheme ← api.addKnownTypeWithName scheme ⟨gvk.group, gvk.version, listKind⟩ .unstructuredList
      let scheme ← api.addToGroupVersion scheme gvk.group gvk.version
      addObjects objs scheme
    else addObjects objs scheme

/-- `buildScheme`. -/
def buildScheme (objs : List Object) : Except Panic (Except GoError Sch) := do
  match ← api.addToScheme api.newScheme with
  | .error err => pure (.error (.wrapf "adding operator controller APIs to scheme: %w" [] err))
  | .ok scheme => addObjects api objs scheme

end ContentManager
end OperatorController
