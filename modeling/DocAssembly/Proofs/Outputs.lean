import DocAssembly.Project
import DocAssembly.Proofs.FileSystem.Writing
import DocAssembly.Proofs.Rendering
import Mathlib.Data.List.Pairwise

namespace DocAssembly.Project

variable {fs before after : FileSystem} {options : ContentsOptions} {pairs : List DocumentPair}

theorem renderDocument_ok {pair : DocumentPair} {document : RenderedDocument} :
    renderDocument fs options pair = .ok document ↔ document.pair = pair ∧
      Document.renderFile fs options pair.template = .ok document.content ∧
      document.current = (fs.readText pair.output).toOption := by
  unfold renderDocument
  obtain ⟨own, content, current⟩ := document
  cases Document.renderFile fs options pair.template with
  | error failure => simp
  | ok made =>
    simp only [Except.ok.injEq, RenderedDocument.mk.injEq]
    exact and_congr eq_comm (and_congr Iff.rfl eq_comm)

theorem renderAll_cons (pair : DocumentPair) (rest : List DocumentPair) :
    renderAll fs options (pair :: rest) = match renderDocument fs options pair with
      | .ok document => { renderAll fs options rest with
          documents := document :: (renderAll fs options rest).documents }
      | .error failure => { renderAll fs options rest with
          failures := failure :: (renderAll fs options rest).failures } := rfl

theorem mem_renderAll {document : RenderedDocument} :
    document ∈ (renderAll fs options pairs).documents ↔ document.pair ∈ pairs ∧
      Document.renderFile fs options document.pair.template = .ok document.content ∧
      document.current = (fs.readText document.pair.output).toOption := by
  induction pairs with
  | nil => simp [renderAll]
  | cons pair rest ih =>
    have one : renderDocument fs options pair = .ok document ↔ _ := renderDocument_ok
    rw [renderAll_cons]
    cases made : renderDocument fs options pair with
    | error failure =>
      rw [made] at one
      simp only [ih, List.mem_cons]
      refine ⟨fun found => ⟨.inr found.1, found.2⟩, ?_⟩
      rintro ⟨same | member, facts⟩
      · subst same
        exact absurd (one.mpr ⟨rfl, facts⟩) nofun
      · exact ⟨member, facts⟩
    | ok first =>
      rw [made, Except.ok.injEq] at one
      simp only [List.mem_cons, ih]
      constructor
      · rintro (rfl | ⟨member, facts⟩)
        · obtain ⟨same, facts⟩ := one.mp rfl
          exact ⟨.inl same, same ▸ facts⟩
        · exact ⟨.inr member, facts⟩
      · rintro ⟨same | member, facts⟩
        · subst same
          exact .inl (one.mpr ⟨rfl, facts⟩).symm
        · exact .inr ⟨member, facts⟩

theorem renderAll_failures : (renderAll fs options pairs).failures = [] ↔
    ∀ pair ∈ pairs, ∃ content, Document.renderFile fs options pair.template = .ok content := by
  induction pairs with
  | nil => simp [renderAll]
  | cons pair rest ih =>
    rw [List.forall_mem_cons, ← ih, renderAll_cons, renderDocument]
    cases Document.renderFile fs options pair.template <;> simp

theorem isStale_iff {document : RenderedDocument} :
    document.isStale = true ↔ document.current ≠ some document.content := by
  simp [RenderedDocument.isStale]

theorem makeWay_grows (written : Location → Prop) (before : FileSystem) (output : Path) :
    FileSystem.Grows written before (makeWay before output).fs := by
  unfold makeWay
  split
  · split
    · exact .refl _
    · exact FileSystem.makeDirectories_grows _ _ _
  · exact .refl _

theorem writeDocument_cases (before : FileSystem) (document : RenderedDocument) :
    (∃ error, (makeWay before document.pair.output).error = some error ∧
      writeDocument before document = makeWay before document.pair.output) ∨
    ((makeWay before document.pair.output).error = none ∧ writeDocument before document =
      (makeWay before document.pair.output).fs.write document.pair.output
        (.text document.content)) := by
  unfold writeDocument
  cases ready : (makeWay before document.pair.output).error with
  | some error => exact .inl ⟨error, rfl, by simp [ready]⟩
  | none => exact .inr ⟨rfl, by simp [ready]⟩

theorem writeDocument_stores {document : RenderedDocument}
    (done : (writeDocument before document).error = none) :
    FileSystem.Stores document.pair.output (.text document.content) before
      (writeDocument before document).fs := by
  rcases writeDocument_cases before document with ⟨error, failed, same⟩ | ⟨_, same⟩
  · rw [same, failed] at done
    cases done
  · rw [same] at done ⊢
    exact (FileSystem.write_stores done).of_way (makeWay_grows _ _ _)

structure Wrote (documents : List RenderedDocument) (before after : FileSystem) : Prop where
  grows : FileSystem.Grows
    (fun location => ∃ document ∈ documents, after.locate document.pair.output = .ok location)
    before after
  holds : ∀ document ∈ documents, ∃ location, after.locate document.pair.output = .ok location ∧
    ∃ last ∈ documents, after.locate last.pair.output = .ok location ∧
      after.node? location = some (.file (.text last.content))

theorem writeDocuments_cons (document : RenderedDocument) (rest : List RenderedDocument) :
    writeDocuments before (document :: rest) = match writeDocument before document with
      | { fs := middle, error := some error } => { fs := middle, error }
      | { fs := middle, error := none } => { writeDocuments middle rest with
          outputs := document.pair.output :: (writeDocuments middle rest).outputs } := rfl

theorem writeDocuments_cons_done {document : RenderedDocument} {rest : List RenderedDocument}
    (done : (writeDocuments before (document :: rest)).error = none) :
    (writeDocument before document).error = none ∧
      (writeDocuments (writeDocument before document).fs rest).error = none ∧
      (writeDocuments before (document :: rest)).fs =
        (writeDocuments (writeDocument before document).fs rest).fs := by
  rw [writeDocuments_cons] at done ⊢
  generalize writeDocument before document = first at done ⊢
  obtain ⟨middle, error⟩ := first
  cases error with
  | some error => cases done
  | none => exact ⟨rfl, done, rfl⟩

theorem writeDocuments_outputs {documents : List RenderedDocument}
    (done : (writeDocuments before documents).error = none) :
    (writeDocuments before documents).outputs = documents.map fun document => document.pair.output := by
  induction documents generalizing before with
  | nil => rfl
  | cons document rest ih =>
    have others := ih (writeDocuments_cons_done done).2.1
    rw [writeDocuments_cons] at done ⊢
    generalize writeDocument before document = first at done others ⊢
    obtain ⟨middle, error⟩ := first
    cases error with
    | some error => cases done
    | none => exact congrArg (document.pair.output :: ·) others

-- By induction on the documents: what is written first stays unless a later document goes to the
-- same place, which then holds that document's content.
theorem writeDocuments_wrote {documents : List RenderedDocument}
    (done : (writeDocuments before documents).error = none) :
    Wrote documents before (writeDocuments before documents).fs := by
  induction documents generalizing before with
  | nil => exact ⟨.refl _, nofun⟩
  | cons document rest ih =>
    obtain ⟨firstDone, restDone, same⟩ := writeDocuments_cons_done done
    rw [same]
    obtain ⟨location, grown, leads, there⟩ := writeDocument_stores firstDone
    obtain ⟨growsLater, holdsLater⟩ := ih restDone
    have leadsLater := growsLater.locate leads
    generalize (writeDocuments (writeDocument before document).fs rest).fs = after at *
    refine ⟨?_, ?_⟩
    · refine (grown.mono ?_).trans (growsLater.mono ?_)
      · rintro _ rfl
        exact ⟨document, List.mem_cons_self, leadsLater⟩
      · rintro place ⟨other, member, leadsThere⟩
        exact ⟨other, List.mem_cons_of_mem _ member, leadsThere⟩
    · intro other member
      rcases List.mem_cons.mp member with rfl | member
      · by_cases again : ∃ later ∈ rest, after.locate later.pair.output = .ok location
        · obtain ⟨later, member, leadsThere⟩ := again
          obtain ⟨place, leadsPlace, last, lastMember, lastLeads, holds⟩ := holdsLater later member
          cases leadsThere.symm.trans leadsPlace
          exact ⟨location, leadsLater, last, List.mem_cons_of_mem _ lastMember, lastLeads, holds⟩
        · exact ⟨location, leadsLater, other, List.mem_cons_self, leadsLater,
            growsLater.unwritten there again⟩
      · obtain ⟨place, leadsPlace, last, lastMember, facts⟩ := holdsLater other member
        exact ⟨place, leadsPlace, last, List.mem_cons_of_mem _ lastMember, facts⟩

theorem write_wrote {fs : FileSystem} {rendering : Rendering} {outputs : List Path}
    (written : write fs rendering = { fs := after, outputs }) :
    Wrote rendering.stale fs after := by
  have done : (writeDocuments fs rendering.stale).error = none := congrArg Written.error written
  have same : (writeDocuments fs rendering.stale).fs = after := congrArg Written.fs written
  exact same ▸ writeDocuments_wrote done

namespace Wrote

variable {documents : List RenderedDocument}

theorem readText {path : Path} {text : Text} (wrote : Wrote documents before after)
    (had : before.readText path = .ok text) :
    after.readText path = .ok text ∨ ∃ last ∈ documents,
      after.canonical? last.pair.output = after.canonical? path ∧
      after.readText path = .ok last.content := by
  obtain ⟨location, leads, there⟩ :=
    FileSystem.read_eq_ok.mp (FileSystem.readText_eq_ok.mp had)
  have still := wrote.grows.locate leads
  by_cases here : ∃ document ∈ documents, after.locate document.pair.output = .ok location
  · obtain ⟨document, member, leadsHere⟩ := here
    obtain ⟨place, leadsPlace, last, lastMember, lastLeads, holds⟩ := wrote.holds document member
    cases leadsHere.symm.trans leadsPlace
    refine Or.inr ⟨last, lastMember, FileSystem.canonical?_eq lastLeads still, ?_⟩
    exact FileSystem.readText_eq_ok.mpr (FileSystem.read_eq_ok.mpr ⟨location, still, holds⟩)
  · refine Or.inl (FileSystem.readText_eq_ok.mpr ?_)
    refine wrote.grows.read (FileSystem.readText_eq_ok.mp had) ?_
    intro place leadsPlace
    cases still.symm.trans leadsPlace
    exact here

theorem readText_output {document : RenderedDocument} (wrote : Wrote documents before after)
    (member : document ∈ documents) : ∃ last ∈ documents,
      after.canonical? last.pair.output = after.canonical? document.pair.output ∧
      after.readText document.pair.output = .ok last.content := by
  obtain ⟨location, leads, last, lastMember, lastLeads, there⟩ := wrote.holds document member
  refine ⟨last, lastMember, FileSystem.canonical?_eq lastLeads leads, ?_⟩
  exact FileSystem.readText_eq_ok.mpr (FileSystem.read_eq_ok.mpr ⟨location, leads, there⟩)

end Wrote

theorem eq_of_apart (apart : pairs.Pairwise fun a b => fs.canonical? a.output ≠ fs.canonical? b.output)
    {a b : DocumentPair} (aListed : a ∈ pairs) (bListed : b ∈ pairs)
    (same : fs.canonical? a.output = fs.canonical? b.output) : a = b := by
  by_contra other
  have : Std.Symm fun a b : DocumentPair => fs.canonical? a.output ≠ fs.canonical? b.output :=
    ⟨fun _ _ => Ne.symm⟩
  exact apart.forall aListed bListed other same

-- After the stale outputs of a rendering were written, each output, stale or not, holds the content
-- of a document that belongs to its place.
theorem render_write_output {project : Project} {outputs : List Path}
    (written : write before (project.render before) = { fs := after, outputs })
    {document : RenderedDocument} (member : document ∈ (project.render before).documents) :
    ∃ last ∈ (project.render before).documents,
      after.canonical? last.pair.output = after.canonical? document.pair.output ∧
      after.readText document.pair.output = .ok last.content := by
  have wrote := write_wrote written
  have among : ∀ stale ∈ (project.render before).stale, stale ∈ (project.render before).documents :=
    fun _ found => (List.mem_filter.mp found).1
  by_cases stale : document.isStale = true
  · obtain ⟨last, lastMember, facts⟩ :=
      wrote.readText_output (List.mem_filter.mpr ⟨member, stale⟩)
    exact ⟨last, among last lastMember, facts⟩
  · rw [isStale_iff, not_not] at stale
    have had : before.readText document.pair.output = .ok document.content := by
      rw [(mem_renderAll.mp member).2.2] at stale
      cases found : before.readText document.pair.output with
      | error error => simp [found, Except.toOption] at stale
      | ok text => simpa [found, Except.toOption] using stale
    rcases wrote.readText had with kept | ⟨last, lastMember, facts⟩
    · exact ⟨document, member, rfl, kept⟩
    · exact ⟨last, among last lastMember, facts⟩

end DocAssembly.Project
