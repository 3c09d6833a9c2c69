import DocAssembly.Proofs.Overwriting
import DocAssembly.Proofs.Path.Order
import Mathlib

namespace DocAssembly.Project

structure Apart (documents chosen : List DocumentPair) : Prop where
  templates : ∀ a ∈ chosen, ∀ b ∈ documents, a.output.components ≠ b.template.components
  outputs : chosen.Pairwise fun a b => a.output.components ≠ b.output.components

inductive Refused (documents before : List DocumentPair) (document : DocumentPair) :
    Failure → Prop where
  | template (other : DocumentPair) (listed : other ∈ documents)
      (same : document.output.components = other.template.components) :
      Refused documents before document (.outputIsTemplate document.output)
  | duplicate (other : DocumentPair) (earlier : other ∈ before)
      (same : document.output.components = other.output.components)
      (noTemplate : ∀ other ∈ documents, document.output.components ≠ other.template.components) :
      Refused documents before document (.duplicateOutput document.output)

variable {documents before after first second : List DocumentPair} {templates seen : List Path}
  {document : DocumentPair} {failure : Failure}

theorem checkOutputsFrom_append : checkOutputsFrom templates seen (first ++ second) =
    match checkOutputsFrom templates seen first with
    | .error failure => .error failure
    | .ok () => checkOutputsFrom templates ((first.map (·.output)).reverse ++ seen) second := by
  induction first generalizing seen with
  | nil => rfl
  | cons document rest ih =>
    rw [List.cons_append, checkOutputsFrom, checkOutputsFrom]
    split
    · rfl
    · split
      · rfl
      · rw [ih]
        simp

-- By induction on the documents: the first one fails, or else the first failure is among the others.
theorem checkOutputsFrom_error : checkOutputsFrom templates seen documents = .error failure ↔
    ∃ before document after, documents = before ++ document :: after ∧
      checkOutputsFrom templates seen before = .ok () ∧
      checkOutputsFrom templates ((before.map (·.output)).reverse ++ seen) [document] =
        .error failure := by
  constructor
  · intro failed
    induction documents generalizing seen with
    | nil => cases failed
    | cons document rest ih =>
      cases own : checkOutputsFrom templates seen [document] with
      | error failure =>
        rw [← List.singleton_append, checkOutputsFrom_append, own] at failed
        cases failed
        exact ⟨[], document, rest, rfl, rfl, own⟩
      | ok passed =>
        rw [← List.singleton_append, checkOutputsFrom_append, own] at failed
        obtain ⟨before, other, after, rfl, passes, fails⟩ := ih failed
        refine ⟨document :: before, other, after, rfl, ?_, ?_⟩
        · rw [← List.singleton_append, checkOutputsFrom_append, own]
          exact passes
        · simpa using fails
  · intro found
    obtain ⟨before, document, after, rfl, passes, fails⟩ := found
    rw [checkOutputsFrom_append, passes, ← List.singleton_append, checkOutputsFrom_append, fails]

theorem any_template : (documents.map (·.template)).any document.output.same = true ↔
    ∃ other ∈ documents, document.output.components = other.template.components := by
  simp [Path.same_iff]

theorem any_output : (before.map (·.output)).reverse.any document.output.same = true ↔
    ∃ other ∈ before, document.output.components = other.output.components := by
  simp [Path.same_iff]

theorem checkOutputsFrom_refused :
    checkOutputsFrom (documents.map (·.template)) (before.map (·.output)).reverse [document] =
      .error failure ↔ Refused documents before document failure := by
  rw [checkOutputsFrom]
  constructor
  · intro failed
    split at failed
    · next clash =>
      obtain ⟨other, listed, same⟩ := any_template.mp clash
      cases failed
      exact .template other listed same
    · next free =>
      split at failed
      · next clash =>
        obtain ⟨other, earlier, same⟩ := any_output.mp clash
        cases failed
        refine .duplicate other earlier same ?_
        intro other listed same
        exact free (any_template.mpr ⟨other, listed, same⟩)
      · cases failed
  · intro refused
    cases refused with
    | template other listed same => rw [if_pos (any_template.mpr ⟨other, listed, same⟩)]
    | duplicate other earlier same noTemplate =>
      have free : ¬ (documents.map (·.template)).any document.output.same = true := by
        intro clash
        obtain ⟨other, listed, same⟩ := any_template.mp clash
        exact noTemplate other listed same
      rw [if_neg free, if_pos (any_output.mpr ⟨other, earlier, same⟩)]

theorem same_eq_false {p q : Path} : p.same q = false ↔ p.components ≠ q.components := by
  rw [← Bool.not_eq_true, Path.same_iff]

theorem checkOutputsFrom_apart_iff :
    checkOutputsFrom (documents.map (·.template)) [] before = .ok () ↔ Apart documents before := by
  rw [checkOutputsFrom_ok]
  simp only [List.append_nil, List.forall_mem_map, same_eq_false]
  constructor
  · rintro ⟨templates, outputs⟩
    exact ⟨templates, outputs.imp Ne.symm⟩
  · rintro ⟨templates, outputs⟩
    exact ⟨templates, outputs.imp Ne.symm⟩

theorem checkOutputs_exact (documents : List DocumentPair) :
    (checkOutputs documents = .ok () ↔ Apart documents documents) ∧
    ∀ failure, checkOutputs documents = .error failure ↔
      ∃ before document after, documents = before ++ document :: after ∧
        Apart documents before ∧ Refused documents before document failure := by
  refine ⟨checkOutputsFrom_apart_iff, ?_⟩
  intro failure
  rw [checkOutputs, checkOutputsFrom_error]
  simp only [List.append_nil, checkOutputsFrom_apart_iff, checkOutputsFrom_refused]

-- Paths count as one when they differ in nothing but their spelling.
example : checkOutputs [⟨⟨"a"⟩, ⟨"x/y"⟩⟩, ⟨⟨"b"⟩, ⟨"x//./y/"⟩⟩] =
    .error (.duplicateOutput ⟨"x//./y/"⟩) := by decide

end DocAssembly.Project
