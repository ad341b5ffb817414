import Mathlib.Data.List.Forall2

/-!
# Go errors and panics

Every function of the operator-controller returns a Go `error`, and a few of them can panic.  This
file fixes how the model writes both.

* `GoError` keeps what the code passes to `fmt.Errorf` and `errors.New` — the format string, word
  for word, and its arguments — rather than the rendered message, so that a reader can match each
  error of the model with the line of Go that builds it.  `%w` is always the last verb in this
  repository, which is why a wrapping error is a format, its arguments and the wrapped error.
* Sentinel errors such as `driver.ErrReleaseNotFound` are package-level variables compared by
  identity; the model names them by their qualified Go name, and `GoError.is` is `errors.Is`
  against such a sentinel, following `Unwrap` through wrapping and joined errors.
* `errorsJoin` is `errors.Join`: a list of errors becomes one error, or `nil` when the list is
  empty.  The callers here never put a `nil` into the list, so that is the only case.
* `Panic` is what a panicking call unwinds with.  A function that can panic returns an
  `Except Panic`, so a panic is never mistaken for a returned error.
-/

set_option autoImplicit false

namespace OperatorController

/-- A Go `error` value, as this repository builds and inspects it. -/
inductive GoError where
  /-- A package-level sentinel `var Name = errors.New(text)`, known by its qualified name. -/
  | sentinel (name text : String)
  /-- `errors.New(format)`, or `fmt.Errorf(format, args...)` with no `%w` verb. -/
  | errorf (format : String) (args : List String)
  /-- `fmt.Errorf(format, args..., err)` whose last verb is `%w`. -/
  | wrapf (format : String) (args : List String) (err : GoError)
  /-- `errors.Join(errs...)` of a non-empty list of errors. -/
  | join (errs : List GoError)
  deriving Repr

mutual
/-- `errors.Is(err, target)` for the sentinel named `target`. -/
def GoError.is (target : String) : GoError → Bool
  | .sentinel name _ => name == target
  | .errorf _ _ => false
  | .wrapf _ _ err => err.is target
  | .join errs => GoError.anyIs target errs

/-- Some error of the list is the sentinel named `target`. -/
def GoError.anyIs (target : String) : List GoError → Bool
  | [] => false
  | err :: errs => err.is target || GoError.anyIs target errs
end

/-- `errors.Join(errs...)` of errors none of which is `nil`. -/
def errorsJoin : List GoError → Option GoError
  | [] => none
  | err :: errs => some (.join (err :: errs))

@[simp] theorem errorsJoin_nil : errorsJoin [] = none := rfl

@[simp] theorem errorsJoin_eq_none {errs : List GoError} : errorsJoin errs = none ↔ errs = [] := by
  cases errs <;> simp [errorsJoin]

/-- The value a Go panic unwinds with. -/
inductive Panic where
  /-- A run-time error raised by the Go runtime itself. -/
  | runtimeError (text : String)
  /-- An explicit `panic(value)`. -/
  | value (text : String)
  deriving DecidableEq, Repr

/-- The panic of reading a field through a `nil` pointer. -/
def nilPointerDereference : Panic :=
  .runtimeError "invalid memory address or nil pointer dereference"

/-! ## Running `Except` computations -/

@[simp] theorem Except.pure_eq_ok {ε α : Type} (a : α) : (pure a : Except ε α) = .ok a := rfl

@[simp] theorem Except.ok_bind {ε α β : Type} (a : α) (f : α → Except ε β) :
    (Except.ok a >>= f) = f a := rfl

@[simp] theorem Except.error_bind {ε α β : Type} (e : ε) (f : α → Except ε β) :
    (Except.error e >>= f) = Except.error e := rfl

theorem Except.bind_eq_ok {ε α β : Type} {x : Except ε α} {f : α → Except ε β} {b : β} :
    x >>= f = .ok b ↔ ∃ a, x = .ok a ∧ f a = .ok b := by
  cases x <;> simp

/-! ## Loops that collect errors

`for _, x := range xs { errs = append(errs, body(x)...) }`, where the body may panic.  A panic
anywhere ends the loop, and with it everything collected so far. -/

/-- The errors `body` appends for each element of the list, in order. -/
def appendEach {α : Type} (body : α → Except Panic (List GoError)) :
    List α → Except Panic (List GoError)
  | [] => pure []
  | x :: xs => do
    let errs ← body x
    let more ← appendEach body xs
    pure (errs ++ more)

/-- A loop whose body panics with `p` exactly on the elements where `panics` holds, and otherwise
appends `errs`, panics when some element panics and otherwise appends everything. -/
theorem appendEach_eq {α : Type} {body : α → Except Panic (List GoError)} {panics : α → Bool}
    {errs : α → List GoError} {p : Panic}
    (h : ∀ x, body x = if panics x then .error p else .ok (errs x)) (xs : List α) :
    appendEach body xs = if xs.any panics then .error p else .ok (xs.flatMap errs) := by
  induction xs with
  | nil => rfl
  | cons x xs ih =>
    rw [appendEach, h x, ih]
    by_cases hx : panics x <;> by_cases hxs : xs.any panics <;> simp [hx, hxs]

/-- A loop whose body may also `return` an error: each body either returns early (an inner
`.error`) or appends errors (an inner `.ok`), and after the loop the collected errors are joined. -/
def collectOrReturn {α : Type} (body : α → Except Panic (Except GoError (List GoError))) :
    List α → List GoError → Except Panic (Option GoError)
  | [], errs => pure (errorsJoin errs)
  | x :: xs, errs => do
    match ← body x with
    | .error err => pure (some err)
    | .ok more => collectOrReturn body xs (errs ++ more)

/-- The loop returns `nil` exactly when nothing was collected before it and every body appended
nothing. -/
theorem collectOrReturn_eq_ok_none {α : Type}
    {body : α → Except Panic (Except GoError (List GoError))} (xs : List α) (errs : List GoError) :
    collectOrReturn body xs errs = .ok none ↔ errs = [] ∧ ∀ x ∈ xs, body x = .ok (.ok []) := by
  induction xs generalizing errs with
  | nil => simp [collectOrReturn]
  | cons x xs ih =>
    simp only [collectOrReturn, List.forall_mem_cons]
    rcases body x with p | err | more <;> simp [ih, and_assoc]

/-- When no body returns early, the loop joins what `g` appends for `ys`, the elements kept by
`keep` in order, and the bodies of the other elements append nothing. -/
theorem collectOrReturn_eq_appendEach {α β : Type}
    {body : α → Except Panic (Except GoError (List GoError))} {g : β → Except Panic (List GoError)}
    (keep : α → Bool) (hskip : ∀ x, keep x = false → body x = .ok (.ok [])) :
    ∀ (xs : List α) (ys : List β) (errs : List GoError),
      List.Forall₂ (fun x y ↦ body x = Except.ok <$> g y) (xs.filter keep) ys →
      collectOrReturn body xs errs = (fun more ↦ errorsJoin (errs ++ more)) <$> appendEach g ys
  | [], ys, errs, h => by
    cases List.forall₂_nil_left_iff.mp h
    simp [collectOrReturn, appendEach, Functor.map, Except.map]
  | x :: xs, ys, errs, h => by
    by_cases hk : keep x
    · rw [List.filter_cons_of_pos hk] at h
      obtain ⟨y, ys', hxy, hrest, rfl⟩ := List.forall₂_cons_left_iff.mp h
      simp only [collectOrReturn, appendEach, hxy]
      rcases g y with p | more
      · rfl
      · simp only [Functor.map, Except.map, Except.ok_bind]
        rw [collectOrReturn_eq_appendEach keep hskip xs ys' _ hrest]
        rcases appendEach g ys' with p | more' <;> simp [Functor.map, Except.map]
    · rw [List.filter_cons_of_neg hk] at h
      simp only [collectOrReturn, hskip x (by simpa using hk), Except.ok_bind, List.append_nil]
      exact collectOrReturn_eq_appendEach keep hskip xs ys errs h

end OperatorController
