import DocAssembly.Proofs.Path.Parents

namespace DocAssembly.Path

variable {p q root other : Path} {pieces : List Text}

-- Whether someone who knows the root can tell a path from what is shown of it.
def Seen (root p : Path) : Prop := p.isAbsolute = true ∨ root.components <+: p.components

theorem eq_empty (empty : p.spelling = []) : p = ⟨[]⟩ := by
  obtain ⟨spelling⟩ := p
  exact congrArg Path.mk empty

theorem components_empty (empty : p.spelling = []) : p.components = [] := by
  rw [eq_empty empty]
  rfl

theorem leadComponents_eq_nil :
    p.leadComponents = [] ↔ p.isAbsolute = false ∧ p.startsHere = false := by
  unfold leadComponents
  cases p.isAbsolute <;> cases p.startsHere <;> simp

theorem ofPiece?_eq_none {piece : Text} :
    Component.ofPiece? piece = none ↔ piece = [] ∨ piece = ['.'] := by
  unfold Component.ofPiece?
  split
  · next filler => simp [filler]
  · next kept =>
      split
      · simp [kept]
      · simp [kept]

theorem components_eq_nil : p.components = [] ↔ p.spelling = [] := by
  constructor
  · intro nothing
    rw [components_eq, List.append_eq_nil_iff, leadComponents_eq_nil, List.filterMap_eq_nil_iff]
      at nothing
    obtain ⟨⟨relative, elsewhere⟩, fillers⟩ := nothing
    rw [Bool.eq_false_iff, Ne, isAbsolute_iff] at relative
    rw [Bool.eq_false_iff, Ne, startsHere_iff] at elsewhere
    obtain ⟨first, others, cut⟩ := List.exists_cons_of_ne_nil (List.splitOn_ne_nil '/' p.spelling)
    rcases ofPiece?_eq_none.mp (fillers first (cut ▸ List.mem_cons_self)) with rfl | rfl
    · rcases Text.splitOn_empty_head cut with separator | rfl
      · exact absurd separator relative
      · rw [← @List.intercalate_splitOn _ p.spelling _ _ '/', cut]
        rfl
    · exact absurd (congrArg List.head? cut) elsewhere
  · exact components_empty

theorem join_empty (empty : p.spelling = []) : p.join other = other := by
  rw [eq_empty empty, join]
  split <;> rfl

theorem seen_join (root other : Path) : Seen root (root.join other) := by
  cases absolute : other.isAbsolute with
  | true =>
      rw [join_absolute absolute]
      exact .inl absolute
  | false =>
      right
      by_cases empty : root.spelling = []
      · rw [components_eq_nil.mpr empty]
        exact List.nil_prefix
      · rw [components_join_relative absolute fun nothing => absurd nothing empty]
        exact List.prefix_append _ _

theorem components_trimFillers :
    (trimFillers pieces).filterMap Component.ofPiece? = pieces.filterMap Component.ofPiece? := by
  obtain ⟨fillers, whole, all⟩ := trimFillers_parts pieces
  conv => rhs; rw [whole]
  rw [List.filterMap_append, filterMap_fillers all, List.append_nil]

theorem components_dropFillers : (pieces.dropWhile isFiller).filterMap Component.ofPiece? =
    pieces.filterMap Component.ofPiece? := by
  conv => rhs; rw [← List.takeWhile_append_dropWhile (p := isFiller) (l := pieces)]
  rw [List.filterMap_append, filterMap_fillers fun piece member => List.mem_takeWhile_imp member,
    List.nil_append]

theorem components_dropPieces {n : Nat} : (dropPieces n pieces).filterMap Component.ofPiece? =
    (pieces.filterMap Component.ofPiece?).drop n := by
  induction pieces generalizing n with
  | nil => cases n <;> simp [dropPieces]
  | cons piece rest ih =>
      cases n with
      | zero => rfl
      | succ n =>
          cases made : Component.ofPiece? piece with
          | none => simp [dropPieces, isFiller, made, ih]
          | some component => simp [dropPieces, isFiller, made, ih]

theorem trimFillers_front (pieces : List Text) : trimFillers pieces <+: pieces := by
  obtain ⟨fillers, whole, _⟩ := trimFillers_parts pieces
  exact ⟨fillers, whole.symm⟩

theorem dropPieces_suffix (n : Nat) (pieces : List Text) : dropPieces n pieces <:+ pieces := by
  induction pieces generalizing n with
  | nil => cases n <;> exact List.suffix_refl _
  | cons piece rest ih =>
      cases n with
      | zero => exact List.suffix_refl _
      | succ n =>
          unfold dropPieces
          split
          · exact (ih (n + 1)).trans (List.suffix_cons piece rest)
          · exact (ih n).trans (List.suffix_cons piece rest)

def shownPieces (p : Path) (n : Nat) : List Text :=
  trimFillers ((dropPieces (n - p.leadComponents.length) p.body).dropWhile isFiller)

theorem components_shownPieces {n : Nat} (some : n ≠ 0) :
    (p.shownPieces n).filterMap Component.ofPiece? = p.components.drop n := by
  have lead : p.leadComponents.length ≤ n := by
    unfold leadComponents
    split
    · exact Nat.one_le_iff_ne_zero.mpr some
    · split
      · exact Nat.one_le_iff_ne_zero.mpr some
      · exact Nat.zero_le n
  unfold shownPieces components
  rw [components_trimFillers, components_dropFillers, components_dropPieces, List.drop_append,
    List.drop_eq_nil_of_le lead, List.nil_append]

theorem separator_not_mem_shownPieces {n : Nat} : ∀ piece ∈ p.shownPieces n, '/' ∉ piece := by
  intro piece member
  have remaining := (List.dropWhile_suffix isFiller).subset ((trimFillers_front _).subset member)
  exact Text.separator_not_mem_splitOn ((dropPieces_suffix _ _).subset remaining)

-- What is shown starts with a piece that stands for a component, if anything is shown.
theorem shownPieces_head {n : Nat} {piece : Text} (head : (p.shownPieces n).head? = some piece) :
    isFiller piece = false := by
  have same : ((dropPieces (n - p.leadComponents.length) p.body).dropWhile isFiller).head? =
      some piece := by
    obtain ⟨others, whole⟩ := List.head?_eq_some_iff.mp head
    obtain ⟨fillers, parts⟩ := trimFillers_front
      ((dropPieces (n - p.leadComponents.length) p.body).dropWhile isFiller)
    unfold shownPieces at whole
    rw [← parts, whole]
    rfl
  have kept := List.head?_dropWhile_not isFiller (dropPieces (n - p.leadComponents.length) p.body)
  simpa [same] using kept

theorem isAbsolute_shownPieces {n : Nat} : isAbsolute ⟨ofPieces (p.shownPieces n)⟩ = false := by
  cases absolute : isAbsolute ⟨ofPieces (p.shownPieces n)⟩ with
  | false => rfl
  | true =>
      obtain ⟨rest, spelled⟩ := List.head?_eq_some_iff.mp ((isAbsolute_iff _).mp absolute)
      have spelled : ofPieces (p.shownPieces n) = '/' :: rest := spelled
      have some : p.shownPieces n ≠ [] := by
        intro nothing
        rw [nothing] at spelled
        cases spelled
      have cut := List.splitOn_intercalate '/' separator_not_mem_shownPieces some
      have head : (p.shownPieces n).head? = Option.some [] := by
        rw [← cut]
        exact congrArg (fun text => (text.splitOn '/').head?) spelled
      exact absurd (shownPieces_head head) (by decide)

theorem components_trimmed (p : Path) :
    components ⟨p.lead ++ ofPieces (trimFillers p.body)⟩ = p.components := by
  obtain ⟨absolute, here, own⟩ := shorter_parts (p := p) (f := Component.ofPiece?)
    (q := ⟨p.lead ++ ofPieces (trimFillers p.body)⟩) (trimFillers_front _) rfl rfl
  rw [components_eq, components_eq p, leadComponents, leadComponents, absolute, here, own,
    pieces_body rfl p, components_trimFillers]

theorem relativeTo_below (begins : root.components <+: p.components) (proper : root.components ≠ []) :
    p.relativeTo root = ofPieces (p.shownPieces root.components.length) := by
  rw [relativeTo, if_pos (List.isPrefixOf_iff_prefix.mpr begins)]
  split
  · next none => exact absurd (List.length_eq_zero_iff.mp none) proper
  · rfl

theorem relativeTo_empty (empty : root.components = []) :
    p.relativeTo root = p.lead ++ ofPieces (trimFillers p.body) := by
  rw [relativeTo, empty]
  rfl

theorem join_relativeTo (seen : Seen root p) :
    (root.join ⟨p.relativeTo root⟩).components = p.components := by
  by_cases begins : root.components <+: p.components
  · by_cases empty : root.components = []
    · rw [relativeTo_empty empty, join_empty (components_eq_nil.mp empty)]
      exact components_trimmed p
    · have proper : root.spelling ≠ [] := fun nothing => empty (components_empty nothing)
      have some : root.components.length ≠ 0 := fun none => empty (List.length_eq_zero_iff.mp none)
      obtain ⟨tail, whole⟩ := begins
      rw [relativeTo_below ⟨tail, whole⟩ empty,
        components_join_relative isAbsolute_shownPieces fun nothing => absurd nothing proper,
        pieces_joined rfl separator_not_mem_shownPieces, components_shownPieces some, ← whole,
        List.drop_left]
  · cases seen with
    | inl absolute =>
        rw [relativeTo, if_neg fun found => begins (List.isPrefixOf_iff_prefix.mp found),
          join_absolute absolute]
    | inr below => exact absurd below begins

theorem relativeTo_injective (seen : Seen root p) (seenToo : Seen root q)
    (alike : p.relativeTo root = q.relativeTo root) : p.components = q.components := by
  rw [← join_relativeTo seen, ← join_relativeTo seenToo, alike]

end DocAssembly.Path
