import DocAssembly.Text.Basic
import Mathlib.Data.List.Infix

namespace DocAssembly.Text

structure FirstAt (mark text before after : Text) : Prop where
  whole : text = before ++ (mark ++ after)
  first : ∀ front behind, text = front ++ (mark ++ behind) → before.length ≤ front.length

theorem isPrefixOf?_eq_some {mark text after : Text} :
    mark.isPrefixOf? text = some after ↔ text = mark ++ after := by
  rw [List.isPrefixOf?_eq_some_iff_append_eq, eq_comm]

theorem isPrefixOf?_eq_none {mark text : Text} :
    mark.isPrefixOf? text = none ↔ ∀ after, text ≠ mark ++ after := by
  simp only [Option.eq_none_iff_forall_ne_some, ne_eq, isPrefixOf?_eq_some]

theorem FirstAt.cons {mark text before after : Text} {c : Char}
    (absent : ∀ behind, c :: text ≠ mark ++ behind) (found : FirstAt mark text before after) :
    FirstAt mark (c :: text) (c :: before) after := by
  refine ⟨by simp [found.whole], ?_⟩
  intro front behind split
  cases front with
  | nil => exact absurd split (absent behind)
  | cons d front =>
    have later := found.first front behind (by simpa using (List.cons.inj split).2)
    simpa using later

theorem cut?_firstAt {mark text before after : Text} (found : cut? mark text = some (before, after)) :
    FirstAt mark text before after := by
  induction text generalizing before with
  | nil =>
    cases mark with
    | nil => cases found; exact ⟨rfl, by simp⟩
    | cons m mark => simp [cut?] at found
  | cons c rest ih =>
    simp only [cut?] at found
    cases here : mark.isPrefixOf? (c :: rest) with
    | some behind =>
      simp only [here, Option.some.injEq, Prod.mk.injEq] at found
      obtain ⟨rfl, rfl⟩ := found
      have opening := isPrefixOf?_eq_some.mp here
      exact ⟨opening, by simp⟩
    | none =>
      simp only [here, Option.map_eq_some_iff] at found
      obtain ⟨⟨front, behind⟩, later, same⟩ := found
      cases same
      exact (ih later).cons (isPrefixOf?_eq_none.mp here)

theorem cut?_ne_none {mark text front behind : Text} (occurs : text = front ++ (mark ++ behind)) :
    cut? mark text ≠ none := by
  induction text generalizing front with
  | nil =>
    intro missing
    cases mark with
    | nil => cases missing
    | cons m mark => simp at occurs
  | cons c rest ih =>
    intro missing
    simp only [cut?] at missing
    cases here : mark.isPrefixOf? (c :: rest) with
    | some after => simp [here] at missing
    | none =>
      simp only [here, Option.map_eq_none_iff] at missing
      cases front with
      | nil => exact isPrefixOf?_eq_none.mp here behind occurs
      | cons d front => exact ih (List.cons.inj occurs).2 missing

theorem FirstAt.unique {mark text before after front behind : Text}
    (one : FirstAt mark text before after) (other : FirstAt mark text front behind) :
    before = front ∧ after = behind := by
  have same : before.length = front.length :=
    Nat.le_antisymm (one.first front behind other.whole) (other.first before after one.whole)
  obtain ⟨rfl, rest⟩ := List.append_inj (one.whole.symm.trans other.whole) same
  exact ⟨rfl, List.append_cancel_left rest⟩

theorem cut?_eq_some {mark text before after : Text} :
    cut? mark text = some (before, after) ↔ FirstAt mark text before after := by
  constructor
  · exact cut?_firstAt
  · intro first
    cases found : cut? mark text with
    | none => exact absurd found (cut?_ne_none first.whole)
    | some parts =>
      obtain ⟨rfl, rfl⟩ := first.unique (cut?_firstAt found)
      rfl

theorem cut?_eq_none {mark text : Text} : cut? mark text = none ↔ ¬ mark <:+: text := by
  constructor
  · rintro missing ⟨front, behind, occurs⟩
    exact cut?_ne_none (by rw [← occurs, List.append_assoc]) missing
  · intro absent
    cases found : cut? mark text with
    | none => rfl
    | some parts =>
      have whole := (cut?_firstAt found).whole
      exact absurd ⟨parts.1, parts.2, by rw [whole, List.append_assoc]⟩ absent

theorem cut?_here (mark rest : Text) : cut? mark (mark ++ rest) = some ([], rest) :=
  cut?_eq_some.mpr ⟨rfl, by simp⟩

theorem cut?_absent {c : Char} {text : Text} (absent : c ∉ text) (rest : Text) :
    cut? [c] (text ++ c :: rest) = some (text, rest) := by
  induction text with
  | nil => exact cut?_here [c] rest
  | cons d text ih =>
    rw [List.mem_cons, not_or] at absent
    simp [cut?, List.isPrefixOf?, absent.1, ih absent.2]

variable {mark : Text} {sep : Char}

theorem isPrefixOf?_separator (foreign : sep ∉ mark) (text rest : Text) :
    mark.isPrefixOf? (text ++ sep :: rest) = (mark.isPrefixOf? text).map (· ++ sep :: rest) := by
  induction mark generalizing text with
  | nil => rfl
  | cons m mark ih =>
    rw [List.mem_cons, not_or] at foreign
    cases text with
    | nil => simp [List.isPrefixOf?, Ne.symm foreign.1]
    | cons c text =>
      simp only [List.cons_append, List.isPrefixOf?]
      split
      · exact ih foreign.2 text
      · rfl

theorem startsWith_separator (foreign : sep ∉ mark) (text rest : Text) :
    startsWith (text ++ sep :: rest) mark = text.startsWith mark := by
  simp only [startsWith, ← List.isSome_isPrefixOf?_eq_isPrefixOf, isPrefixOf?_separator foreign,
    Option.isSome_map]

-- The first occurrence is before the character, or else the first one after it.
theorem cut?_separator (foreign : sep ∉ mark) (proper : mark ≠ []) (text rest : Text) :
    cut? mark (text ++ sep :: rest) =
      match cut? mark text with
      | some (before, after) => some (before, after ++ sep :: rest)
      | none => (cut? mark rest).map fun (before, after) => (text ++ sep :: before, after) := by
  induction text with
  | nil =>
    cases mark with
    | nil => exact absurd rfl proper
    | cons m mark =>
      rw [List.mem_cons, not_or] at foreign
      simp [cut?, List.isPrefixOf?, Ne.symm foreign.1]
  | cons c text ih =>
    have here := isPrefixOf?_separator foreign (c :: text) rest
    simp only [List.cons_append] at here ⊢
    simp only [cut?, here, ih]
    cases mark.isPrefixOf? (c :: text) with
    | some after => rfl
    | none =>
      cases cut? mark text with
      | some parts => rfl
      | none => cases cut? mark rest <;> rfl

theorem cut?_foreign {text : Text} (foreign : ∀ c ∈ text, c ∉ mark) (proper : mark ≠ []) :
    cut? mark text = none := by
  refine cut?_eq_none.mpr ?_
  intro occurs
  cases mark with
  | nil => exact proper rfl
  | cons m mark => exact foreign m (occurs.subset List.mem_cons_self) List.mem_cons_self

theorem between?_eq (text opening closing : Text) :
    text.between? opening closing =
      ((cut? opening text).map (·.2)).bind fun rest => (cut? closing rest).map (·.1) := by
  cases found : cut? opening text with
  | none => simp [between?, found]
  | some parts =>
    cases ended : cut? closing parts.2 with
    | none => simp [between?, found, ended]
    | some inside => simp [between?, found, ended]

theorem FirstAt.suffix {text before after front behind : Text} (first : FirstAt mark text before after)
    (occurs : text = front ++ (mark ++ behind)) : behind <:+ after := by
  have behindText : behind <:+ text := ⟨front ++ mark, by rw [occurs, List.append_assoc]⟩
  have afterText : after <:+ text := ⟨before ++ mark, by rw [first.whole, List.append_assoc]⟩
  refine List.suffix_of_suffix_length_le behindText afterText ?_
  have lengths := congrArg List.length (first.whole.symm.trans occurs)
  have earlier := first.first front behind occurs
  simp only [List.length_append] at lengths
  omega

def Delimited (opening closing text : Text) : Prop :=
  ∃ before inner after, text = before ++ (opening ++ (inner ++ (closing ++ after)))

-- What stands between the first opening in a text and the nearest closing after that.
def Between (opening closing text inner : Text) : Prop :=
  ∃ before rest after, FirstAt opening text before rest ∧ FirstAt closing rest inner after

variable {opening closing text inner : Text}

theorem between?_eq_some :
    text.between? opening closing = some inner ↔ Between opening closing text inner := by
  rw [between?_eq]
  constructor
  · intro found
    obtain ⟨rest, opened, closed⟩ := Option.bind_eq_some_iff.mp found
    obtain ⟨⟨before, rest⟩, cutAs, rfl⟩ := Option.map_eq_some_iff.mp opened
    obtain ⟨⟨inner, after⟩, cutAsToo, rfl⟩ := Option.map_eq_some_iff.mp closed
    exact ⟨before, rest, after, cut?_eq_some.mp cutAs, cut?_eq_some.mp cutAsToo⟩
  · rintro ⟨before, rest, after, opened, closed⟩
    rw [cut?_eq_some.mpr opened, Option.map_some, Option.bind_some, cut?_eq_some.mpr closed]
    rfl

theorem Between.delimited (between : Between opening closing text inner) :
    Delimited opening closing text := by
  obtain ⟨before, rest, after, opened, closed⟩ := between
  exact ⟨before, inner, after, by rw [opened.whole, closed.whole]⟩

-- Nothing is missed by searching for a closing after the first opening only.
theorem Delimited.between (delimited : Delimited opening closing text) :
    ∃ inner, Between opening closing text inner := by
  obtain ⟨before, inner, after, whole⟩ := delimited
  cases found : cut? opening text with
  | none => exact absurd found (cut?_ne_none whole)
  | some parts =>
    obtain ⟨front, rest⟩ := parts
    have opened := cut?_eq_some.mp found
    obtain ⟨skipped, same⟩ := opened.suffix whole
    have closes : rest = (skipped ++ inner) ++ (closing ++ after) := by
      rw [← same, List.append_assoc]
    cases closed : cut? closing rest with
    | none => exact absurd closed (cut?_ne_none closes)
    | some parts =>
      exact ⟨parts.1, front, rest, parts.2, opened, cut?_eq_some.mp closed⟩

theorem between?_eq_none :
    text.between? opening closing = none ↔ ¬ Delimited opening closing text := by
  rw [Option.eq_none_iff_forall_ne_some]
  constructor
  · intro missing delimited
    obtain ⟨inner, between⟩ := delimited.between
    exact missing inner (between?_eq_some.mpr between)
  · intro absent inner found
    exact absent (between?_eq_some.mp found).delimited

theorem Between.open {c : Char} (between : Between opening [c] text inner) : c ∉ inner := by
  obtain ⟨before, rest, after, opened, closed⟩ := between
  intro inside
  obtain ⟨front, behind, rfl⟩ := List.append_of_mem inside
  have nearer := closed.first front (behind ++ ([c] ++ after)) (by simp [closed.whole])
  simp only [List.length_append, List.length_cons] at nearer
  omega

-- What follows the last delimiter and has nothing of either does not matter.
theorem between?_append {tail : Text} (opens : opening ≠ []) (closes : closing ≠ [])
    (outside : ∀ c ∈ tail, c ∉ opening) (beyond : ∀ c ∈ tail, c ∉ closing) (text : Text) :
    between? (text ++ tail) opening closing = text.between? opening closing := by
  cases tail with
  | nil => rw [List.append_nil]
  | cons sep rest =>
    rw [List.forall_mem_cons] at outside beyond
    simp only [between?_eq, cut?_separator outside.1 opens, cut?_foreign outside.2 opens]
    cases cut? opening text with
    | none => rfl
    | some parts =>
      simp only [Option.map_some, Option.bind_some, cut?_separator beyond.1 closes,
        cut?_foreign beyond.2 closes]
      cases cut? closing parts.2 with
      | none => rfl
      | some inside => rfl

end DocAssembly.Text
