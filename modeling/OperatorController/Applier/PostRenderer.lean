import OperatorController.Api

/-!
# The postrenderer

Helm runs a post renderer over the manifests it has rendered, before it installs them or stores
them in a release.  The applier's `postrenderer` decodes the stream object by object, merges its
own labels into each object's labels, and writes each object back as JSON; it then hands the
result to a cascaded post renderer if it has one.

The YAML-or-JSON decoder, `MarshalJSON` and `util.MergeMaps` are outside this repository's
sources, so they are the parameter `Codec`.  The decoder is described by what it yields: the
successive results of `Decode` on a buffer, up to `io.EOF`.
-/

set_option autoImplicit false

namespace OperatorController
namespace Applier

/-- The decoding and encoding `postrenderer.Run` relies on. -/
structure Codec where
  /-- The results of `dec.Decode(&obj)` on a buffer, in order, up to `io.EOF`. -/
  decode : String → List (Except GoError Object)
  /-- `obj.MarshalJSON()`. -/
  marshalJSON : Object → Except GoError String
  /-- `util.MergeMaps(a, b)`. -/
  mergeMaps : LabelMap → LabelMap → LabelMap

/-- `postrenderer`; the cascaded post renderer is `Run` of another `postrender.PostRenderer`. -/
structure PostRenderer where
  labels : LabelMap
  cascade : Option (String → Except GoError String)

namespace PostRenderer

variable (codec : Codec)

/-- The loop of `Run` (lines 195–210): relabel each decoded object and append its JSON to
`buf`. -/
def relabel (labels : LabelMap) : List (Except GoError Object) → String → Except GoError String
  | [], buf => pure buf
  | .error err :: _, _ => .error err
  | .ok obj :: objs, buf => do
    let b ← codec.marshalJSON (obj.setLabels (codec.mergeMaps obj.labels labels))
    relabel labels objs (buf ++ b)

/-- `postrenderer.Run`. -/
def run (p : PostRenderer) (renderedManifests : String) : Except GoError String := do
  let buf ← relabel codec p.labels (codec.decode renderedManifests) ""
  match p.cascade with
  | some cascade => cascade buf
  | none => pure buf

end PostRenderer

end Applier
end OperatorController
