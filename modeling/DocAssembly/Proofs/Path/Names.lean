import DocAssembly.FileSystem
import Mathlib.Data.List.Basic

namespace DocAssembly

-- A text that stands for one component of a path, whether or not an entry can have it as its name.
structure IsPiece (text : Text) : Prop where
  nonempty : text ≠ []
  notHere : text ≠ ['.']
  notUp : text ≠ ['.', '.']
  noSeparator : '/' ∉ text

theorem Name.isPiece (name : Name) : IsPiece name.text :=
  ⟨name.isName.nonempty, name.isName.notHere, name.isName.notUp, name.isName.noSeparator⟩

namespace Path

variable {p q other : Path} {name : Text}

theorem isAbsolute_iff (p : Path) : p.isAbsolute = true ↔ p.spelling.head? = some '/' := by
  rw [isAbsolute, Text.startsWith, List.isPrefixOf_iff_prefix]
  cases p.spelling with
  | nil => simp
  | cons c rest => simp [eq_comm]

theorem startsHere_iff (p : Path) :
    p.startsHere = true ↔ (List.splitOn '/' p.spelling).head? = some ['.'] := by
  rw [startsHere, Text.startsWith, Bool.or_eq_true, List.isPrefixOf_iff_prefix, beq_iff_eq]
  cases p.spelling with
  | nil => simp
  | cons c rest =>
    cases rest with
    | nil => by_cases same : c = '/' <;> simp [List.splitOn_cons_eq_if_modifyHead, same]
    | cons d others =>
      by_cases first : c = '/'
      · simp [List.splitOn_cons_eq_if_modifyHead, first]
      · by_cases second : d = '/'
        · simp [List.splitOn_cons_eq_if_modifyHead, first, second, @eq_comm _ c]
        · cases cut : List.splitOn '/' others <;>
            simp [List.splitOn_cons_eq_if_modifyHead, first, second, cut, Ne.symm second]

theorem isAbsolute_name (isPiece : IsPiece name) : isAbsolute ⟨name⟩ = false := by
  rw [Bool.eq_false_iff, Ne, isAbsolute_iff]
  intro first
  exact isPiece.noSeparator (List.mem_of_mem_head? first)

theorem startsHere_name (isPiece : IsPiece name) : startsHere ⟨name⟩ = false := by
  rw [Bool.eq_false_iff, Ne, startsHere_iff, List.splitOn_eq_singleton isPiece.noSeparator]
  intro first
  exact isPiece.notHere (Option.some.inj first)

def front (p : Path) : Text :=
  if p.spelling.isEmpty || p.spelling.endsWith "/" then p.spelling else p.spelling ++ ['/']

theorem join_absolute (absolute : other.isAbsolute = true) : p.join other = other := by
  simp only [join, absolute, if_true]

theorem join_spelling (relative : other.isAbsolute = false) :
    (p.join other).spelling = p.front ++ other.spelling := by
  rw [join, relative, front]
  split
  · contradiction
  · split <;> rfl

theorem front_parts (p : Path) : (p.spelling = [] ∧ p.front = []) ∨
    ∃ before, p.spelling ≠ [] ∧ p.front = before ++ ['/'] ∧
      (p.spelling = before ∨ p.spelling = before ++ ['/']) := by
  unfold front
  split
  · next ends =>
    rw [Bool.or_eq_true, List.isEmpty_iff] at ends
    rcases ends with empty | ends
    · exact .inl ⟨empty, empty⟩
    · obtain ⟨before, spelled⟩ := List.isSuffixOf_iff_suffix.mp ends
      have spelled : p.spelling = before ++ ['/'] := spelled.symm
      exact .inr ⟨before, by simp [spelled], spelled, .inr spelled⟩
  · next ends =>
    rw [Bool.or_eq_true, List.isEmpty_iff, not_or] at ends
    exact .inr ⟨p.spelling, ends.1, rfl, .inl rfl⟩

-- Blank pieces apart, the pieces of a joined path follow those before it.
theorem pieces_join {β : Type} {f : Text → Option β} (blank : f [] = none)
    (relative : other.isAbsolute = false) :
    (List.splitOn '/' (p.join other).spelling).filterMap f =
      (List.splitOn '/' p.spelling).filterMap f ++ (List.splitOn '/' other.spelling).filterMap f := by
  rw [join_spelling relative]
  rcases p.front_parts with ⟨empty, front⟩ | ⟨before, _, front, spelled⟩
  · simp [empty, front, blank]
  · rw [front, List.append_assoc, List.singleton_append, List.splitOn_append_cons_self,
      List.filterMap_append]
    rcases spelled with rfl | spelled
    · rfl
    · rw [spelled, List.splitOn_append_cons_self]
      simp [blank]

theorem isAbsolute_join (relative : other.isAbsolute = false) :
    (p.join other).isAbsolute = p.isAbsolute := by
  rw [Bool.eq_iff_iff, isAbsolute_iff, isAbsolute_iff, join_spelling relative]
  rcases p.front_parts with ⟨empty, front⟩ | ⟨before, some, front, spelled⟩
  · rw [Bool.eq_false_iff, Ne, isAbsolute_iff] at relative
    simp [empty, front, relative]
  · rcases spelled with rfl | spelled
    · rw [front, List.append_assoc, List.head?_append_of_ne_nil _ some]
    · rw [front, ← spelled, List.head?_append_of_ne_nil _ some]

theorem startsHere_join (relative : other.isAbsolute = false)
    (elsewhere : p.spelling = [] → other.startsHere = false) :
    (p.join other).startsHere = p.startsHere := by
  rw [Bool.eq_iff_iff, startsHere_iff, startsHere_iff, join_spelling relative]
  rcases p.front_parts with ⟨empty, front⟩ | ⟨before, some, front, spelled⟩
  · have notHere := elsewhere empty
    rw [Bool.eq_false_iff, Ne, startsHere_iff] at notHere
    simp [empty, front, notHere]
  · rw [front, List.append_assoc, List.singleton_append, List.splitOn_append_cons_self,
      List.head?_append_of_ne_nil _ (List.splitOn_ne_nil _ _)]
    rcases spelled with rfl | spelled
    · rfl
    · rw [spelled, List.splitOn_append_cons_self, List.head?_append_of_ne_nil _ (List.splitOn_ne_nil _ _)]

-- The first component leaves no trace among the pieces.
theorem components_eq (p : Path) : p.components =
    p.leadComponents ++ (List.splitOn '/' p.spelling).filterMap Component.ofPiece? := by
  obtain ⟨spelling⟩ := p
  rw [components, body, lead]
  by_cases absolute : (⟨spelling⟩ : Path).isAbsolute = true
  · obtain ⟨rest, rfl⟩ : ∃ rest, spelling = '/' :: rest := by
      rw [isAbsolute_iff] at absolute
      exact List.head?_eq_some_iff.mp absolute
    simp [absolute, List.splitOn_cons_eq_if_modifyHead, Component.ofPiece?]
  · by_cases here : (⟨spelling⟩ : Path).startsHere = true
    · have spelled : spelling = ['.'] ∨ ∃ rest, spelling = '.' :: '/' :: rest := by
        rw [startsHere, Text.startsWith, Bool.or_eq_true, List.isPrefixOf_iff_prefix,
          beq_iff_eq] at here
        exact here.imp id fun ⟨rest, whole⟩ => ⟨rest, whole.symm⟩
      rcases spelled with rfl | ⟨rest, rfl⟩
      · rfl
      · simp [absolute, here, List.splitOn_cons_eq_if_modifyHead, Component.ofPiece?]
    · simp [absolute, here]

theorem components_join_relative (relative : other.isAbsolute = false)
    (elsewhere : p.spelling = [] → other.startsHere = false) : (p.join other).components =
      p.components ++ (List.splitOn '/' other.spelling).filterMap Component.ofPiece? := by
  have lead : (p.join other).leadComponents = p.leadComponents := by
    rw [leadComponents, leadComponents, isAbsolute_join relative, startsHere_join relative elsewhere]
  rw [components_eq, components_eq, lead, pieces_join rfl relative, List.append_assoc]

theorem pieces_name {β : Type} {f : Text → Option β} {made : β} (isPiece : IsPiece name)
    (own : f name = some made) : (List.splitOn '/' name).filterMap f = [made] := by
  rw [List.splitOn_eq_singleton isPiece.noSeparator, List.filterMap_cons_some own, List.filterMap_nil]

theorem components_join (isPiece : IsPiece name) :
    (p.join ⟨name⟩).components = p.components ++ [.named name] := by
  have own : Component.ofPiece? name = some (.named name) := by
    simp [Component.ofPiece?, isPiece.nonempty, isPiece.notHere, isPiece.notUp]
  rw [components_join_relative (isAbsolute_name isPiece) fun _ => startsHere_name isPiece,
    pieces_name isPiece own]

theorem fileName?_join (isPiece : IsPiece name) : (p.join ⟨name⟩).fileName? = some name := by
  rw [fileName?, components_join isPiece, List.getLast?_append]
  rfl

def descend (p : Path) (names : List Name) : Path := names.foldl (fun q name => q.join name) p

@[simp] theorem descend_nil (p : Path) : p.descend [] = p := rfl

@[simp] theorem descend_concat (p : Path) (names : List Name) (name : Name) :
    p.descend (names ++ [name]) = (p.descend names).join name := by
  simp [descend]

theorem components_descend (p : Path) (names : List Name) :
    (p.descend names).components = p.components ++ names.map fun name => .named name.text := by
  induction names generalizing p with
  | nil => simp
  | cons name rest ih =>
    have below := ih (p.join name)
    rw [components_join name.isPiece, List.append_assoc, List.singleton_append] at below
    exact below

theorem descend_injective {names others : List Name}
    (same : (p.descend names).components = (p.descend others).components) : names = others := by
  rw [components_descend, components_descend, List.append_cancel_left_eq] at same
  exact List.map_injective_iff.mpr (fun _ _ alike => Name.ext (Component.named.inj alike)) same

end Path

namespace FileSystem

variable {p : Path}

theorem namedSteps_join (p : Path) (name : Name) :
    namedSteps (p.join name) = namedSteps p ++ [.down name.text] := by
  have own : Step.ofPiece? name.text = some (.down name.text) := by
    simp [Step.ofPiece?, name.isName.nonempty, name.isName.notHere, name.isName.notUp]
  rw [namedSteps, namedSteps, Path.pieces_join rfl (Path.isAbsolute_name name.isPiece),
    Path.pieces_name name.isPiece own]

theorem steps_join (p : Path) (name : Name) :
    steps (p.join name) = namedSteps p ++ [.down name.text] := by
  have ended : (p.join name).spelling.endsWith "/" = false := by
    rw [Bool.eq_false_iff, Path.join_spelling (Path.isAbsolute_name name.isPiece), Text.endsWith]
    intro ends
    have last := List.singleton_suffix_iff_getLast?_eq_some.mp (List.isSuffixOf_iff_suffix.mp ends)
    rw [List.getLast?_append_of_ne_nil _ name.isName.nonempty] at last
    exact name.isName.noSeparator (List.mem_of_getLast? last)
  rw [steps, namedSteps_join, ended]
  simp

theorem start_join (p : Path) (name : Name) (directory : Location) :
    start (p.join name) directory = start p directory := by
  rw [start, start, Path.isAbsolute_join (Path.isAbsolute_name name.isPiece)]

theorem checkSpelling_ok : checkSpelling p = .ok () ↔
    '\x00' ∉ p.spelling ∧ p.spelling ≠ [] ∧ p.spelling.utf8.length < pathLengthLimit := by
  unfold checkSpelling
  split
  · next nul => simp [List.contains_iff_mem.mp nul]
  · split
    · next empty => simp [empty]
    · split
      · next long => simp [Nat.not_lt.mpr long]
      · next noNul some short => simpa [some, Nat.lt_of_not_le short] using noNul

theorem checkSpelling_join (name : Name) (spelled : checkSpelling p = .ok ()) :
    checkSpelling (p.join name) = .ok () ↔
      (p.join name).spelling.utf8.length < pathLengthLimit := by
  have relative := Path.isAbsolute_name name.isPiece
  have noNul : '\x00' ∉ (p.join name).spelling := by
    have before : '\x00' ∉ p.front := by
      have own := (checkSpelling_ok.mp spelled).1
      unfold Path.front
      split
      · exact own
      · simpa using own
    rw [Path.join_spelling relative, List.mem_append, not_or]
    exact ⟨before, name.isName.noNul⟩
  have some : (p.join name).spelling ≠ [] := by
    rw [Path.join_spelling relative]
    exact List.append_ne_nil_of_right_ne_nil _ name.isName.nonempty
  rw [checkSpelling_ok]
  simp [noNul, some]

end FileSystem
end DocAssembly
