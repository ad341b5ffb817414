import Mathlib.Data.List.Sort

/-!
# Two stable sorts pick the first best element

`Resolve` orders its candidate bundles with two calls of `sort.SliceStable`: first by
`catalogsort.ByVersion`, then by `catalogsort.ByDeprecated`, and takes the first bundle.  This
file shows what that picks, for any list and any flag: among the elements minimal for the
lexicographic order "flag first, then `less`" (`lexLess`), the first one in the order of the list
(`find?_isLexMinimal_of_sliceStable`).

## The model of `sort.SliceStable`

`sort.SliceStable` is Go's standard library.  It sorts stably: elements that `less` does not order
keep their order.  When `less` is a strict weak order there is exactly one stable sorted order, so
every stable sort computes the same list; the model is Mathlib's insertion sort, which is stable
(`List.sublist_insertionSort`).  A `less` that is not a strict weak order is outside what
`sort.SliceStable` promises, and outside what is proved here.

The argument has three steps.  The result of a stable sort, restricted to elements pairwise not
ordered by `less`, is the input restricted to them (`filter_sliceStable`; through both sorts,
`filter_sliceStable_twice`).  The result of a stable sort by a strict weak order is sorted, so its
head is not above any element (`sliceStable_sorted`, `Sorted.head_least`; through both sorts,
`lexLess_head_of_sliceStable`).  And the lexicographic order built from a flag and a
strict weak order is again negatively transitive (`lexLess_neg_trans`), so the elements equivalent
to the head are exactly the minimal ones.
-/

set_option autoImplicit false

namespace OperatorController
namespace Resolution

variable {α : Type}

/-- `sort.SliceStable(s, less)`: a stable sort by `less`. -/
def sliceStable (less : α → α → Bool) (l : List α) : List α :=
  l.insertionSort fun a b ↦ less b a = false

/-! ## Stability -/

section stable
variable (less : α → α → Bool)

theorem sliceStable_perm (l : List α) : (sliceStable less l).Perm l := List.perm_insertionSort _ l

@[simp] theorem length_sliceStable (l : List α) : (sliceStable less l).length = l.length :=
  (sliceStable_perm less l).length_eq

theorem filter_sliceStable (E : α → Bool) {l : List α}
    (hE : ∀ a ∈ l, ∀ b ∈ l, E a → E b → less a b = false) :
    (sliceStable less l).filter E = l.filter E := by
  have hpw : (l.filter E).Pairwise fun a b ↦ less b a = false :=
    List.pairwise_of_forall_mem_list fun a ha b hb ↦ by
      rw [List.mem_filter] at ha hb
      exact hE b hb.1 a ha.1 hb.2 ha.2
  have hsub : (l.filter E).Sublist ((sliceStable less l).filter E) := by
    simpa using (List.sublist_insertionSort hpw (List.filter_sublist l)).filter E
  exact (hsub.eq_of_length ((sliceStable_perm less l).filter E).length_eq.symm).symm

end stable

/-! ## Sorting by a strict weak order -/

section weak
variable {r : α → α → Prop} [IsStrictWeakOrder α r]

theorem neg_trans_of_isStrictWeakOrder {a b c : α} (hab : ¬r a b) (hbc : ¬r b c) : ¬r a c := by
  intro hac
  have hba : ¬r b a := fun hba ↦ hbc (trans_of r hba hac)
  have hcb : ¬r c b := fun hcb ↦ hab (trans_of r hac hcb)
  exact (IsStrictWeakOrder.incomp_trans a b c ⟨hab, hba⟩ ⟨hbc, hcb⟩).1 hac

end weak

section sorted
variable (less : α → α → Bool) [IsStrictWeakOrder α fun a b ↦ less a b]

theorem sliceStable_sorted (l : List α) :
    (sliceStable less l).Sorted fun a b ↦ less b a = false := by
  have : IsTotal α fun a b ↦ less b a = false :=
    ⟨fun a b ↦ by
      by_cases hab : less a b
      · exact .inl (by simpa using asymm (r := fun a b ↦ less a b = true) hab)
      · exact .inr (by simpa using hab)⟩
  have : IsTrans α fun a b ↦ less b a = false :=
    ⟨fun a b c hab hbc ↦ by
      simpa using neg_trans_of_isStrictWeakOrder (r := fun a b ↦ less a b = true)
        (by simpa using hbc) (by simpa using hab)⟩
  exact List.sorted_insertionSort _ l

variable {less}

theorem Sorted.head_least {x : α} {rest : List α}
    (hs : (x :: rest).Sorted fun a b ↦ less b a = false) : ∀ y ∈ x :: rest, less y x = false := by
  intro y hy
  rcases List.mem_cons.mp hy with rfl | hy
  · simpa using irrefl (r := fun a b ↦ less a b = true) y
  · exact List.rel_of_sorted_cons hs y hy

end sorted

/-! ## Two sorts in a row -/

/-- The order the two sorts of `Resolve` sort by, as one comparison: first by the flag `dep`, with
`false` first, then by `less`. -/
def lexLess (dep : α → Bool) (less : α → α → Bool) (a b : α) : Bool :=
  (!dep a && dep b) || (dep a == dep b && less a b)

/-- `b` is minimal in `l` for `lexLess`. -/
def isLexMinimal (dep : α → Bool) (less : α → α → Bool) (l : List α) (b : α) : Bool :=
  l.all fun c ↦ !lexLess dep less c b

theorem isStrictWeakOrder_byFlag (dep : α → Bool) :
    IsStrictWeakOrder α fun a b ↦ (!dep a && dep b) = true where
  irrefl a := by simp
  trans a b c := by cases dep a <;> cases dep b <;> simp
  incomp_trans a b c := by cases dep a <;> cases dep b <;> cases dep c <;> simp

/-- Ordering by a number, higher first, is a strict weak order: `ByVersion` on versions that
are all comparable. -/
theorem isStrictWeakOrder_byRank (rank : α → Nat) :
    IsStrictWeakOrder α fun a b ↦ decide (rank b < rank a) = true where
  irrefl a := by simp
  trans a b c := by simp only [decide_eq_true_eq]; omega
  incomp_trans a b c := by simp only [decide_eq_true_eq]; omega

theorem lexLess_incomp {dep : α → Bool} {less : α → α → Bool} {a b : α}
    (hab : lexLess dep less a b = false) (hba : lexLess dep less b a = false) :
    dep a = dep b ∧ less a b = false := by
  unfold lexLess at *
  cases ha : dep a <;> cases hb : dep b <;> simp_all

/-- Elements that `lexLess` does not order among themselves keep their order through both
sorts. -/
theorem filter_sliceStable_twice {dep : α → Bool} {less : α → α → Bool} (E : α → Bool)
    {l : List α} (hE : ∀ a b, E a → E b → lexLess dep less a b = false) :
    (sliceStable (fun a b ↦ !dep a && dep b) (sliceStable less l)).filter E = l.filter E := by
  have hinc a b (ha : E a) (hb : E b) := lexLess_incomp (hE a b ha hb) (hE b a hb ha)
  rw [filter_sliceStable _ E fun a _ b _ ha hb ↦ by simp [(hinc a b ha hb).1],
    filter_sliceStable less E fun a _ b _ ha hb ↦ (hinc a b ha hb).2]

section twoSorts
variable {dep : α → Bool} {less : α → α → Bool} [IsStrictWeakOrder α fun a b ↦ less a b]

theorem lexLess_self (a : α) : lexLess dep less a a = false := by
  simpa [lexLess] using irrefl (r := fun a b ↦ less a b = true) a

theorem lexLess_neg_trans {a b c : α} (hab : lexLess dep less a b = false)
    (hbc : lexLess dep less b c = false) : lexLess dep less a c = false := by
  have := neg_trans_of_isStrictWeakOrder (r := fun a b ↦ less a b = true) (a := a) (b := b) (c := c)
  unfold lexLess at *
  cases ha : dep a <;> cases hb : dep b <;> cases hc : dep c <;> simp_all

/-- The head of the two sorts is not above any element for `lexLess`: the sort by the flag puts
it among the elements of the least flag, and among those the sort by `less` put it first. -/
theorem lexLess_head_of_sliceStable {l rest : List α} {x : α}
    (h : sliceStable (fun a b ↦ !dep a && dep b) (sliceStable less l) = x :: rest) :
    ∀ y ∈ l, lexLess dep less y x = false := by
  have := isStrictWeakOrder_byFlag dep
  intro y hy
  -- the flag of `y` is not below the flag of `x`
  have hdep := Sorted.head_least (h ▸ sliceStable_sorted (fun a b ↦ !dep a && dep b) _) y
    (h ▸ ((sliceStable_perm _ _).trans (sliceStable_perm less l)).mem_iff.mpr hy)
  -- of the elements with the flag of `x`, the sort by `less` put `x` first
  have hver : dep y = dep x → less y x = false := fun hyx ↦ by
    have hD := filter_sliceStable (fun a b ↦ !dep a && dep b) (fun z ↦ dep z == dep x)
      (l := sliceStable less l) fun a _ b _ ha hb ↦ by simp_all
    rw [h, List.filter_cons_of_pos (by simp)] at hD
    have hs : (x :: rest.filter fun z ↦ dep z == dep x).Sorted fun a b ↦ less b a = false := by
      rw [hD]
      exact (sliceStable_sorted less l).filter _
    refine Sorted.head_least hs y ?_
    rw [hD, List.mem_filter]
    exact ⟨(sliceStable_perm less l).mem_iff.mpr hy, by simpa using hyx⟩
  unfold lexLess
  revert hdep hver
  cases dep y <;> cases dep x <;> simp

/-- Sorting stably by `less`, then stably by the flag `dep`, puts first the first element, in the
order of `l`, of those minimal for `lexLess`. -/
theorem find?_isLexMinimal_of_sliceStable {l rest : List α} {x : α}
    (h : sliceStable (fun a b ↦ !dep a && dep b) (sliceStable less l) = x :: rest) :
    l.find? (isLexMinimal dep less l) = some x := by
  have hx : x ∈ l := ((sliceStable_perm _ _).trans (sliceStable_perm less l)).mem_iff.mp
    (h ▸ List.mem_cons_self x rest)
  have hmin := lexLess_head_of_sliceStable h
  -- the minimal elements are those equivalent to `x`, which keep their order through both sorts
  let E := fun z ↦ !lexLess dep less z x && !lexLess dep less x z
  have hcongr : ∀ y ∈ l, isLexMinimal dep less l y = E y := fun y hy ↦ by
    rw [Bool.eq_iff_iff]
    simp only [isLexMinimal, E, List.all_eq_true, Bool.and_eq_true, Bool.not_eq_true']
    exact ⟨fun hm ↦ ⟨hmin y hy, hm x hx⟩, fun hyx c hc ↦ lexLess_neg_trans (hmin c hc) hyx.2⟩
  have hE : ∀ a b, E a → E b → lexLess dep less a b = false := fun a b ha hb ↦ by
    simp only [E, Bool.and_eq_true, Bool.not_eq_true'] at ha hb
    exact lexLess_neg_trans ha.1 hb.2
  rw [← List.filter_head?, List.filter_congr hcongr, ← filter_sliceStable_twice E hE, h,
    List.filter_cons_of_pos (by simp [E, lexLess_self])]
  rfl

end twoSorts

end Resolution
end OperatorController
