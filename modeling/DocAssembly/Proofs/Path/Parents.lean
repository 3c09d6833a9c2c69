import DocAssembly.Proofs.Path.Names
import Mathlib.Data.List.DropRight

namespace DocAssembly

namespace Text

theorem separator_not_mem_splitOn {sep : Char} {text piece : Text}
    (member : piece ∈ text.splitOn sep) : sep ∉ piece := by
  induction text generalizing piece with
  | nil =>
    cases List.mem_singleton.mp member
    exact List.not_mem_nil
  | cons c rest ih =>
    rw [List.splitOn_cons_eq_if_modifyHead] at member
    split at member
    · rcases List.mem_cons.mp member with rfl | member
      · exact List.not_mem_nil
      · exact ih member
    · next other =>
      obtain ⟨first, others, cut⟩ := List.exists_cons_of_ne_nil (List.splitOn_ne_nil sep rest)
      rw [cut, List.modifyHead_cons] at member
      rcases List.mem_cons.mp member with rfl | member
      · have inside := ih (cut ▸ List.mem_cons_self)
        rw [beq_iff_eq] at other
        simpa [Ne.symm other] using inside
      · exact ih (cut ▸ List.mem_cons_of_mem _ member)

theorem splitOn_empty_head {sep : Char} {text : Text} {others : List Text}
    (cut : text.splitOn sep = [] :: others) : text.head? = some sep ∨ others = [] := by
  cases text with
  | nil => exact .inr (List.cons.inj cut).2.symm
  | cons c rest =>
    rw [List.splitOn_cons_eq_if_modifyHead] at cut
    split at cut
    · next same => exact .inl (congrArg some (beq_iff_eq.mp same))
    · obtain ⟨first, more, whole⟩ := List.exists_cons_of_ne_nil (List.splitOn_ne_nil sep rest)
      rw [whole, List.modifyHead_cons] at cut
      cases cut

end Text

namespace Path

variable {p q : Path} {name : Text} {pieces front : List Text} {β : Type} {f : Text → Option β}

theorem trimFillers_parts (pieces : List Text) : ∃ fillers,
    pieces = trimFillers pieces ++ fillers ∧ ∀ piece ∈ fillers, isFiller piece = true := by
  refine ⟨(pieces.reverse.takeWhile isFiller).reverse, ?_, ?_⟩
  · rw [trimFillers, ← List.reverse_append, List.takeWhile_append_dropWhile, List.reverse_reverse]
  · intro piece member
    exact List.mem_takeWhile_imp (List.mem_reverse.mp member)

theorem trimFillers_last {last : Text} (trimmed : trimFillers pieces = front ++ [last]) :
    isFiller last = false := by
  have some : trimFillers pieces ≠ [] := by simp [trimmed]
  have kept := List.rdropWhile_last_not isFiller pieces some
  have same : (trimFillers pieces).getLast some = last := by simp [trimmed]
  rw [Bool.eq_false_iff, ← same]
  exact kept

theorem filterMap_fillers (fillers : ∀ piece ∈ pieces, isFiller piece = true) :
    pieces.filterMap Component.ofPiece? = [] := by
  rw [List.filterMap_eq_nil_iff]
  intro piece member
  exact Option.isNone_iff_eq_none.mp (fillers piece member)

def leadPieces (p : Path) : List Text := if p.startsHere then [['.']] else []

theorem spelling_cases (p : Path) :
    (∃ rest, p.spelling = '/' :: rest ∧ p.lead = ['/'] ∧ p.body = List.splitOn '/' rest) ∨
    (∃ rest, p.spelling = '.' :: rest ∧ p.lead = ['.'] ∧ p.body = List.splitOn '/' rest ∧
      (rest = [] ∨ ∃ more, rest = '/' :: more)) ∨
    (p.isAbsolute = false ∧ p.startsHere = false ∧ p.lead = [] ∧
      p.body = List.splitOn '/' p.spelling) := by
  obtain ⟨spelling⟩ := p
  by_cases absolute : (⟨spelling⟩ : Path).isAbsolute = true
  · obtain ⟨rest, rfl⟩ := List.head?_eq_some_iff.mp ((isAbsolute_iff _).mp absolute)
    exact .inl ⟨rest, rfl, rfl, rfl⟩
  · right
    rw [Bool.not_eq_true] at absolute
    by_cases here : (⟨spelling⟩ : Path).startsHere = true
    · left
      have lead : (⟨spelling⟩ : Path).lead = ['.'] := by simp [Path.lead, absolute, here]
      have spelled := here
      rw [startsHere, Text.startsWith, Bool.or_eq_true, List.isPrefixOf_iff_prefix,
        beq_iff_eq] at spelled
      rcases spelled with rfl | ⟨more, rfl⟩
      · exact ⟨[], rfl, lead, rfl, .inl rfl⟩
      · exact ⟨'/' :: more, rfl, lead, rfl, .inr ⟨more, rfl⟩⟩
    · right
      rw [Bool.not_eq_true] at here
      have lead : (⟨spelling⟩ : Path).lead = [] := by simp [Path.lead, absolute, here]
      exact ⟨absolute, here, lead, by rw [body, lead]; rfl⟩

theorem pieces_joined (blank : f [] = none) (free : ∀ piece ∈ front, '/' ∉ piece) :
    (List.splitOn '/' (ofPieces front)).filterMap f = front.filterMap f := by
  cases front with
  | nil => simp [ofPieces, List.intercalate, blank]
  | cons piece rest => rw [ofPieces, List.splitOn_intercalate '/' free (List.cons_ne_nil _ _)]

theorem from_root {rest : Text} (spelled : p.spelling = '/' :: rest) :
    p.isAbsolute = true ∧ p.startsHere = false ∧ (f [] = none →
      (List.splitOn '/' p.spelling).filterMap f = (List.splitOn '/' rest).filterMap f) := by
  refine ⟨(isAbsolute_iff p).mpr (by rw [spelled]; rfl), ?_, ?_⟩
  · rw [startsHere, spelled]
    rfl
  · intro blank
    simp [spelled, List.splitOn_cons_eq_if_modifyHead, blank]

theorem from_here {rest : Text} (spelled : p.spelling = '.' :: rest)
    (ends : rest = [] ∨ ∃ more, rest = '/' :: more) :
    p.isAbsolute = false ∧ p.startsHere = true ∧ (f [] = none →
      (List.splitOn '/' p.spelling).filterMap f =
        [['.']].filterMap f ++ (List.splitOn '/' rest).filterMap f) := by
  refine ⟨by rw [isAbsolute, spelled]; rfl, ?_, ?_⟩
  · rw [startsHere, spelled]
    rcases ends with rfl | ⟨more, rfl⟩ <;> rfl
  · intro blank
    rw [spelled]
    rcases ends with rfl | ⟨more, rfl⟩
    · simp [List.splitOn_cons_eq_if_modifyHead, blank]
    · rw [← List.filterMap_append]
      simp [List.splitOn_cons_eq_if_modifyHead, List.filterMap_cons, blank]

-- What is left of a body that starts with a separator starts with one, or nothing is left.
theorem ofPieces_ends {others : List Text} (begins : front <+: [] :: others) :
    ofPieces front = [] ∨ ∃ more, ofPieces front = '/' :: more := by
  cases front with
  | nil => exact .inl rfl
  | cons piece rest =>
    obtain ⟨rfl, _⟩ := List.cons_prefix_cons.mp begins
    cases rest with
    | nil => exact .inl rfl
    | cons next more => exact .inr ⟨ofPieces (next :: more), by simp [ofPieces]⟩

theorem ofPieces_relative (relative : p.isAbsolute = false) (elsewhere : p.startsHere = false)
    (begins : front <+: List.splitOn '/' p.spelling) (spelled : q.spelling = ofPieces front) :
    q.isAbsolute = false ∧ q.startsHere = false := by
  rw [Bool.eq_false_iff, Ne, isAbsolute_iff] at relative ⊢
  rw [Bool.eq_false_iff, Ne, startsHere_iff] at elsewhere ⊢
  obtain ⟨behind, whole⟩ := begins
  cases front with
  | nil =>
    rw [spelled]
    exact ⟨nofun, by simp [ofPieces]⟩
  | cons piece rest =>
    have cut : List.splitOn '/' q.spelling = piece :: rest := by
      rw [spelled]
      refine List.splitOn_intercalate '/' ?_ (List.cons_ne_nil _ _)
      intro other member
      have among : other ∈ List.splitOn '/' p.spelling := by
        rw [← whole]
        exact List.mem_append_left _ member
      exact Text.separator_not_mem_splitOn among
    refine ⟨?_, ?_⟩
    · intro first
      obtain ⟨more, own⟩ := List.head?_eq_some_iff.mp first
      rw [own] at cut
      have parts : [] :: List.splitOn '/' more = piece :: rest := by
        simpa [List.splitOn_cons_eq_if_modifyHead] using cut
      obtain ⟨rfl, rfl⟩ := List.cons.inj parts
      rcases Text.splitOn_empty_head whole.symm with root | nothing
      · exact relative root
      · exact List.splitOn_ne_nil _ _ (List.append_eq_nil_iff.mp nothing).1
    · rw [cut]
      rw [← whole] at elsewhere
      exact elsewhere

-- A path that has the lead of another and the first pieces of its body. Empty pieces apart, these
-- are its pieces.
theorem shorter_parts (begins : front <+: p.body) (spelled : q.spelling = p.lead ++ ofPieces front)
    (blank : f [] = none) : q.isAbsolute = p.isAbsolute ∧ q.startsHere = p.startsHere ∧
      (List.splitOn '/' q.spelling).filterMap f = p.leadPieces.filterMap f ++ front.filterMap f := by
  have free : ∀ piece ∈ front, '/' ∉ piece := by
    intro piece member
    exact Text.separator_not_mem_splitOn (begins.subset member)
  rw [← pieces_joined blank free, leadPieces]
  rcases p.spelling_cases with ⟨rest, own, lead, body⟩ | ⟨rest, own, lead, body, ends⟩ |
    ⟨relative, elsewhere, lead, body⟩
  · rw [lead] at spelled
    obtain ⟨absolute, notHere, _⟩ := from_root (f := f) own
    obtain ⟨absoluteToo, notHereToo, pieces⟩ := from_root (f := f) spelled
    rw [absolute, absoluteToo, notHere, notHereToo, pieces blank]
    exact ⟨rfl, rfl, rfl⟩
  · rw [lead] at spelled
    have separated : ∃ others, p.body = [] :: others := by
      rcases ends with rfl | ⟨more, rfl⟩
      · exact ⟨_, body⟩
      · exact ⟨List.splitOn '/' more, by rw [body]; simp [List.splitOn_cons_eq_if_modifyHead]⟩
    obtain ⟨others, separated⟩ := separated
    obtain ⟨relative, here, _⟩ := from_here (f := f) own ends
    obtain ⟨relativeToo, hereToo, pieces⟩ :=
      from_here (f := f) spelled (ofPieces_ends (separated ▸ begins))
    rw [relative, relativeToo, here, hereToo, pieces blank]
    exact ⟨rfl, rfl, rfl⟩
  · rw [lead, List.nil_append] at spelled
    obtain ⟨relativeToo, elsewhereToo⟩ :=
      ofPieces_relative relative elsewhere (body ▸ begins) spelled
    rw [relative, relativeToo, elsewhere, elsewhereToo, spelled]
    exact ⟨rfl, rfl, rfl⟩

theorem spelling_eq (p : Path) : p.spelling = p.lead ++ ofPieces p.body := by
  rcases p.spelling_cases with ⟨rest, own, lead, body⟩ | ⟨rest, own, lead, body, ends⟩ |
    ⟨relative, elsewhere, lead, body⟩
  · rw [own, lead, body, ofPieces, List.intercalate_splitOn]
    rfl
  · rw [own, lead, body, ofPieces, List.intercalate_splitOn]
    rfl
  · rw [lead, body, ofPieces, List.intercalate_splitOn]
    rfl

theorem pieces_body (blank : f [] = none) (p : Path) :
    (List.splitOn '/' p.spelling).filterMap f = p.leadPieces.filterMap f ++ p.body.filterMap f :=
  (shorter_parts (List.prefix_refl _) p.spelling_eq blank).2.2

-- The parent of a path that has nothing but a first component `.` is empty. All others have their
-- lead in common with the parent, and in their body it lacks one component with the fillers around.
theorem parent?_parts (above : p.parent? = some q) :
    (q.spelling = [] ∧ p.startsHere = true ∧ ∀ piece ∈ p.body, isFiller piece = true) ∨
    ∃ front between last after, p.body = front ++ (between ++ last :: after) ∧
      isFiller last = false ∧ (∀ piece ∈ between ++ after, isFiller piece = true) ∧
      q.spelling = p.lead ++ ofPieces front := by
  obtain ⟨after, whole, fillers⟩ := trimFillers_parts p.body
  unfold parent? at above
  split at above
  · next nothing =>
    split at above
    · next here =>
      cases Option.some.inj above
      left
      rw [nothing, List.nil_append] at whole
      refine ⟨rfl, ?_, whole ▸ fillers⟩
      unfold lead at here
      split at here
      · cases here
      · split at here
        · assumption
        · cases here
    · cases above
  · next some =>
    cases Option.some.inj above
    right
    obtain ⟨before, last, trimmed⟩ : ∃ before last, trimFillers p.body = before ++ [last] :=
      ⟨_, _, (List.dropLast_append_getLast some).symm⟩
    obtain ⟨between, parts, betweenFillers⟩ := trimFillers_parts before
    refine ⟨trimFillers before, between, last, after, ?_, trimFillers_last trimmed, ?_, ?_⟩
    · rw [← List.append_assoc, ← parts, List.append_cons, ← trimmed]
      exact whole
    · rw [List.forall_mem_append]
      exact ⟨betweenFillers, fillers⟩
    · rw [trimmed, List.dropLast_concat]

theorem relative_here (here : p.startsHere = true) : p.isAbsolute = false := by
  rw [Bool.eq_false_iff, Ne, isAbsolute_iff]
  intro root
  obtain ⟨rest, spelled⟩ := List.head?_eq_some_iff.mp root
  obtain ⟨_, notHere, _⟩ := from_root (f := Component.ofPiece?) spelled
  cases notHere.symm.trans here

theorem components_parent (above : p.parent? = some q) :
    q.components = p.components.dropLast := by
  rcases parent?_parts above with ⟨empty, here, fillers⟩ |
    ⟨front, between, last, after, whole, kept, fillers, spelled⟩
  · have nothing : q.components = [] := by
      obtain ⟨spelling⟩ := q
      cases (empty : spelling = [])
      rfl
    rw [nothing, components, leadComponents, relative_here here, here, filterMap_fillers fillers]
    rfl
  · obtain ⟨absolute, here, pieces⟩ :=
      shorter_parts (f := Component.ofPiece?) ⟨_, whole.symm⟩ spelled rfl
    have noLead : p.leadPieces.filterMap Component.ofPiece? = [] := by
      unfold leadPieces
      split <;> rfl
    obtain ⟨component, own⟩ := Option.ne_none_iff_exists'.mp
      (fun nothing => absurd kept (by simp [isFiller, nothing]) : Component.ofPiece? last ≠ none)
    rw [List.forall_mem_append] at fillers
    rw [components_eq q, pieces, noLead, leadComponents, absolute, here, components, leadComponents,
      whole, List.filterMap_append, List.filterMap_append, filterMap_fillers fillers.1,
      List.filterMap_cons_some own, filterMap_fillers fillers.2, List.nil_append, List.nil_append,
      ← List.append_assoc, List.dropLast_concat]

theorem namedSteps_parent (above : p.parent? = some q) :
    q.isAbsolute = p.isAbsolute ∧ ∃ rest, rest ≠ [] ∧
      FileSystem.namedSteps p = FileSystem.namedSteps q ++ rest := by
  unfold FileSystem.namedSteps
  rw [pieces_body rfl p]
  rcases parent?_parts above with ⟨empty, here, fillers⟩ |
    ⟨front, between, last, after, whole, kept, fillers, spelled⟩
  · rw [relative_here here, empty, leadPieces, here]
    refine ⟨by rw [isAbsolute, empty]; rfl, _, ?_, (List.nil_append _).symm⟩
    exact List.cons_ne_nil _ _
  · obtain ⟨absolute, _, pieces⟩ :=
      shorter_parts (f := FileSystem.Step.ofPiece?) ⟨_, whole.symm⟩ spelled rfl
    refine ⟨absolute, (between ++ last :: after).filterMap FileSystem.Step.ofPiece?, ?_, ?_⟩
    · intro nothing
      have lost := List.filterMap_eq_nil_iff.mp nothing last
        (List.mem_append_right _ List.mem_cons_self)
      have empty : last = [] := by
        by_contra some
        unfold FileSystem.Step.ofPiece? at lost
        grind
      subst empty
      cases kept
    · rw [pieces, whole, List.filterMap_append, List.append_assoc]

theorem components_fileName (named : p.fileName? = some name) :
    p.components = p.components.dropLast ++ [.named name] := by
  unfold fileName? at named
  split at named
  · next own last =>
    cases Option.some.inj named
    exact (List.dropLast_append_getLast? _ last).symm
  · cases named

theorem body_fileName (named : p.fileName? = some name) :
    ∃ piece ∈ p.body, Component.ofPiece? piece = some (.named name) := by
  have member : .named name ∈ p.components := by
    rw [components_fileName named]
    exact List.mem_append_right _ (List.mem_singleton_self _)
  rcases List.mem_append.mp member with lead | own
  · unfold leadComponents at lead
    split at lead
    · cases List.mem_singleton.mp lead
    · split at lead
      · cases List.mem_singleton.mp lead
      · cases lead
  · exact List.mem_filterMap.mp own

theorem isPiece_fileName (named : p.fileName? = some name) : IsPiece name := by
  obtain ⟨piece, member, own⟩ := body_fileName named
  unfold Component.ofPiece? at own
  split at own
  · cases own
  · next kept =>
    split at own
    · cases own
    · next notUp =>
      cases own
      rw [not_or] at kept
      exact ⟨kept.1, kept.2, notUp, Text.separator_not_mem_splitOn member⟩

theorem parent?_fileName (named : p.fileName? = some name) : ∃ q, p.parent? = some q := by
  obtain ⟨piece, member, own⟩ := body_fileName named
  have some : trimFillers p.body ≠ [] := by
    intro nothing
    obtain ⟨fillers, whole, all⟩ := trimFillers_parts p.body
    rw [nothing, List.nil_append] at whole
    have filler := all piece (whole ▸ member)
    rw [isFiller, own] at filler
    cases filler
  unfold parent?
  split
  · next nothing => exact absurd nothing some
  · exact ⟨_, rfl⟩

theorem components_withFileName {other : Text} (named : p.fileName? = some name)
    (isPiece : IsPiece other) :
    (p.withFileName other).components = p.components.dropLast ++ [.named other] := by
  obtain ⟨q, above⟩ := parent?_fileName named
  rw [withFileName, named, above]
  dsimp only
  rw [components_join isPiece, components_parent above]

end Path
end DocAssembly
