import DocAssembly.Path
import Mathlib

namespace DocAssembly

theorem cons_le_cons {α : Type} [LinearOrder α] {a b : α} {as bs : List α} :
    a :: as ≤ b :: bs ↔ a < b ∨ a = b ∧ as ≤ bs := by
  rw [le_iff_lt_or_eq, le_iff_lt_or_eq, List.cons_lt_cons_iff, List.cons.injEq]
  tauto

theorem nil_le {α : Type} [LinearOrder α] (as : List α) : [] ≤ as := not_lt.mp (List.not_lt_nil _)

namespace Text

theorem le_iff {a b : Text} : a.le b = true ↔ a ≤ b := by
  induction a generalizing b with
  | nil => exact iff_of_true rfl (nil_le _)
  | cons c rest ih =>
    cases b with
    | nil => simp [le]
    | cons d other =>
      rw [le, cons_le_cons]
      by_cases same : c = d
      · subst same
        simp [ih]
      · simp only [same, if_false, decide_eq_true_eq, false_and, or_false]
        exact UInt32.lt_iff_toNat_lt.symm

theorem sorted_mergeSort (texts : List Text) :
    (texts.mergeSort le).Pairwise fun a b => a.le b = true := by
  apply List.pairwise_mergeSort
  · intro a b c first last
    rw [le_iff] at *
    exact first.trans last
  · intro a b
    simp only [Bool.or_eq_true, le_iff]
    exact LinearOrder.le_total a b

end Text

namespace Component

def rank : Component → ℕ ×ₗ Text
  | .root => toLex (0, [])
  | .here => toLex (1, [])
  | .up => toLex (2, [])
  | .named name => toLex (3, name)

theorem rank_injective : Function.Injective rank := by
  intro a b same
  cases a <;> cases b <;> simp_all [rank]

theorem le_iff {a b : Component} : a.le b = true ↔ a.rank ≤ b.rank := by
  cases a <;> cases b <;> simp [le, rank, Prod.Lex.toLex_le_toLex, Text.le_iff]

end Component

namespace Path

variable {p q r : Path}

theorem componentsLe_iff {as bs : List Component} :
    componentsLe as bs = true ↔ as.map Component.rank ≤ bs.map Component.rank := by
  induction as generalizing bs with
  | nil => exact iff_of_true rfl (nil_le _)
  | cons a rest ih =>
    cases bs with
    | nil => simp [componentsLe]
    | cons b others =>
      rw [componentsLe, List.map_cons, List.map_cons, cons_le_cons]
      by_cases same : a = b
      · subst same
        simp [ih]
      · have differ : a.rank ≠ b.rank := fun alike => same (Component.rank_injective alike)
        simp [same, differ, Component.le_iff, lt_iff_le_and_ne]

theorem le_iff :
    p.le q = true ↔ p.components.map Component.rank ≤ q.components.map Component.rank :=
  componentsLe_iff

theorem le_or_le (p q : Path) : (p.le q || q.le p) = true := by
  simp only [Bool.or_eq_true, le_iff]
  exact LinearOrder.le_total _ _

theorem le_of_le_of_le (first : p.le q = true) (last : q.le r = true) : p.le r = true := by
  rw [le_iff] at *
  exact first.trans last

theorem le_antisymm (first : p.le q = true) (last : q.le p = true) :
    p.components = q.components := by
  rw [le_iff] at *
  exact List.map_injective_iff.mpr Component.rank_injective (first.antisymm last)

theorem same_iff : p.same q = true ↔ p.components = q.components := by
  simp [same]

theorem sorted_mergeSort (paths : List Path) :
    (paths.mergeSort le).Pairwise fun p q => p.le q = true := by
  apply List.pairwise_mergeSort
  · intro p q r first last
    exact le_of_le_of_le first last
  · exact le_or_le

end Path
end DocAssembly
