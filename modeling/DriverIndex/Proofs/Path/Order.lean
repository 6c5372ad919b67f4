import DriverIndex.Path
import Mathlib.Data.Char
import Mathlib.Data.List.Lex
import Mathlib.Data.Prod.Lex

/-!
# The order of paths

Paths are compared component by component: a component by its kind, a name among names by its code points. That is the lexicographic order of their components, so it is linear on lists of components, and two paths stand at the same point of it exactly if they have the same components. A list in strictly ascending order is determined by its members.
-/

namespace DriverIndex.Path

namespace Component

variable {left right : Component}

/-- The text of a name. -/
def text : Component → List Char
  | name text => text.toList
  | _ => []

/-- What decides between two components: the kind, and for names the text. -/
def key (component : Component) : ℕ ×ₗ List Char := toLex (component.rank, component.text)

theorem key_injective : Function.Injective key := by
  intro left right hkey
  have hrank : left.rank = right.rank := congrArg Prod.fst (toLex.injective hkey)
  have htext : left.text = right.text := congrArg Prod.snd (toLex.injective hkey)
  cases left with
  | name left =>
    cases right with
    | name right => rw [String.toList_injective htext]
    | _ => cases hrank
  | _ =>
    cases right with
    | name right => cases hrank
    | _ => first | rfl | cases hrank

theorem precedes_iff : left.precedes right = true ↔ left.key < right.key := by
  rw [key, key, Prod.Lex.toLex_lt_toLex]
  cases left with
  | name left =>
    cases right with
    | name right =>
      rw [precedes, decide_eq_true_iff, String.lt_iff]
      exact ⟨fun hless => .inr ⟨rfl, hless⟩, fun hless => hless.elim (fun h => absurd h (lt_irrefl _)) And.right⟩
    | _ => simp [precedes, rank]
  | _ => cases right <;> simp [precedes, rank, text]

end Component

variable {lefts rights others : List Component} {left right other : Path}

theorem cons_le_cons_iff {α : Type} [LinearOrder α] {a b : α} {as bs : List α} :
    a :: as ≤ b :: bs ↔ a < b ∨ a = b ∧ as ≤ bs := by
  rw [le_iff_lt_or_eq, List.cons_lt_cons_iff, le_iff_lt_or_eq, List.cons.injEq, or_assoc, ← and_or_left]

theorem componentsLe_iff : componentsLe lefts rights = true ↔ lefts.map Component.key ≤ rights.map Component.key := by
  induction lefts generalizing rights with
  | nil =>
    rw [componentsLe, List.map_nil]
    exact iff_of_true rfl (not_lt.1 (List.not_lt_nil _))
  | cons left lefts ih =>
    cases rights with
    | nil =>
      rw [componentsLe, List.map_nil, List.map_cons]
      exact iff_of_false Bool.false_ne_true (not_le.2 (List.nil_lt_cons _ _))
    | cons right rights =>
      rw [componentsLe, Bool.or_eq_true, Bool.and_eq_true, decide_eq_true_iff, ih, Component.precedes_iff, List.map_cons,
        List.map_cons, cons_le_cons_iff, Component.key_injective.eq_iff]

theorem le_iff : left.le right = true ↔ left.components.map Component.key ≤ right.components.map Component.key :=
  componentsLe_iff

theorem le_total (left right : Path) : (left.le right || right.le left) = true := by
  rw [Bool.or_eq_true, le_iff, le_iff]
  exact LinearOrder.le_total _ _

theorem le_trans (hleft : left.le right = true) (hright : right.le other = true) : left.le other = true :=
  le_iff.2 ((le_iff.1 hleft).trans (le_iff.1 hright))

/-- Paths that each come before the other have the same components. -/
theorem components_eq_of_le (hleft : left.le right = true) (hright : right.le left = true) :
    left.components = right.components :=
  List.map_injective_iff.2 Component.key_injective (le_antisymm (le_iff.1 hleft) (le_iff.1 hright))

/-! ### Lists in strictly ascending order -/

/-- A path comes before another one and not the other way round. -/
def Before (left right : Path) : Prop := left.le right = true ∧ right.le left = false

theorem Before.ne (hbefore : left.Before right) : left ≠ right := by
  rintro rfl
  exact Bool.false_ne_true (hbefore.2.symm.trans hbefore.1)

variable {files more : List Path}

/-- Sorting paths of which no two have the same components leaves no choice. -/
theorem pairwise_before_mergeSort (hnodup : (files.map components).Nodup) : (files.mergeSort le).Pairwise Before := by
  have htrans : ∀ first second third : Path, first.le second = true → second.le third = true → first.le third = true :=
    fun _ _ _ => le_trans
  have hsorted := List.pairwise_mergeSort htrans le_total files
  have hdistinct : ((files.mergeSort le).map components).Nodup :=
    ((List.mergeSort_perm files le).map components).nodup_iff.2 hnodup
  rw [List.nodup_iff_pairwise_ne, List.pairwise_map] at hdistinct
  refine hsorted.imp₂ (fun left right hle hne => ⟨hle, ?_⟩) hdistinct
  rw [Bool.eq_false_iff]
  exact fun hback => hne (components_eq_of_le hle hback)

/-- A list in strictly ascending order is known by its members. -/
theorem eq_of_mem_iff_of_before (hfiles : files.Pairwise Before) (hmore : more.Pairwise Before)
    (hmem : ∀ path, path ∈ files ↔ path ∈ more) : files = more := by
  have hperm : files.Perm more :=
    (List.perm_ext_iff_of_nodup (hfiles.imp Before.ne) (hmore.imp Before.ne)).2 hmem
  refine hperm.eq_of_pairwise (fun left right _ _ hleft hright => ?_) hfiles hmore
  exact absurd hright.1 (Bool.eq_false_iff.1 hleft.2)

end DriverIndex.Path
