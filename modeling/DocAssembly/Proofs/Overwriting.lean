import DocAssembly.Proofs.Outputs
import Mathlib

namespace DocAssembly

namespace Project

variable {before after : FileSystem} {root : Path} {project : Project} {outputs : List Path}

theorem checkOutputsFrom_cons {templates seen : List Path} {document : DocumentPair}
    {rest : List DocumentPair} : checkOutputsFrom templates seen (document :: rest) = .ok () ↔
      (∀ path ∈ templates ++ seen, document.output.same path = false) ∧
      checkOutputsFrom templates (document.output :: seen) rest = .ok () := by
  have absent : ∀ paths : List Path, (∀ path ∈ paths, document.output.same path = false) ↔
      ¬ paths.any document.output.same = true := by simp
  rw [List.forall_mem_append, absent, absent, checkOutputsFrom]
  split
  · next found => simp [found]
  · next newToTemplates =>
    split
    · next found => simp [found]
    · next newToSeen => simp [newToTemplates, newToSeen]

theorem checkOutputsFrom_ok {templates seen : List Path} {documents : List DocumentPair} :
    checkOutputsFrom templates seen documents = .ok () ↔
      (∀ document ∈ documents, ∀ path ∈ templates ++ seen, document.output.same path = false) ∧
      documents.Pairwise fun a b => b.output.same a.output = false := by
  induction documents generalizing seen with
  | nil => simp [checkOutputsFrom]
  | cons document rest ih =>
    rw [checkOutputsFrom_cons, ih, List.pairwise_cons, List.forall_mem_cons]
    simp only [List.mem_append, List.mem_cons, or_imp, forall_and, forall_eq]
    grind

theorem checkOutputs_ok {documents : List DocumentPair} :
    checkOutputs documents = .ok () ↔
      (∀ a ∈ documents, ∀ b ∈ documents, a.output.same b.template = false) ∧
      documents.Pairwise fun a b => b.output.same a.output = false := by
  rw [checkOutputs, checkOutputsFrom_ok]
  simp

theorem load_parts (loaded : load before root = .ok project) :
    ∃ config documents, Config.load? before root = .ok config ∧
      documentsFor before root (config.getD {}) = .ok documents ∧
      checkOutputs documents = .ok () ∧
      project = { root, configFile := Config.find? before root, documents,
                  contents := (config.getD {}).contents } := by
  unfold load at loaded
  obtain ⟨config, read, next⟩ := bind_eq_ok.mp loaded
  obtain ⟨documents, found, next⟩ := bind_eq_ok.mp next
  obtain ⟨_, checked, made⟩ := bind_eq_ok.mp next
  exact ⟨config, documents, read, found, checked, (pure_eq_ok.mp made).symm⟩

theorem load_of_parts {config : Config} {documents : List DocumentPair}
    (read : Config.load? before root = .ok (some config))
    (found : documentsFor before root config = .ok documents)
    (checked : checkOutputs documents = .ok ()) : load before root = .ok
      { root, configFile := Config.find? before root, documents, contents := config.contents } := by
  simp only [load, read, bind, Except.bind, Option.getD_some, found, checked]
  rfl

theorem load_checked (loaded : load before root = .ok project) :
    checkOutputs project.documents = .ok () := by
  obtain ⟨config, documents, _, _, checked, rfl⟩ := load_parts loaded
  exact checked

structure Intact (before after : FileSystem) (project : Project) : Prop where
  templates : ∀ pair ∈ project.documents, after.read pair.template = before.read pair.template
  outputs : ∀ document ∈ (project.render before).documents,
    after.readText document.pair.output = .ok document.content

structure Agreeing (before after : FileSystem) (project : Project) : Prop where
  templates : ∀ document ∈ (project.render before).documents, ∀ pair ∈ project.documents,
    after.canonical? document.pair.output = after.canonical? pair.template →
      before.readText pair.template = .ok document.content
  outputs : ∀ document ∈ (project.render before).documents,
    ∀ other ∈ (project.render before).documents,
      after.canonical? document.pair.output = after.canonical? other.pair.output →
        document.content = other.content

structure Separate (fs : FileSystem) (project : Project) : Prop where
  templates : ∀ a ∈ project.documents, ∀ b ∈ project.documents,
    fs.canonical? a.output ≠ fs.canonical? b.template
  outputs : project.documents.Pairwise fun a b => fs.canonical? a.output ≠ fs.canonical? b.output

-- Paths of the project with different components lead to different places.
def Spelled (fs : FileSystem) (project : Project) : Prop :=
  ∀ a ∈ project.documents, ∀ path, (∃ b ∈ project.documents, path = b.output ∨ path = b.template) →
    fs.canonical? a.output = fs.canonical? path → a.output.same path = true

theorem Intact.agreeing (rendered : (project.render before).failures = [])
    (intact : Intact before after project) : Agreeing before after project := by
  refine ⟨?_, ?_⟩
  · intro document member pair listed same
    obtain ⟨content, made⟩ := renderAll_failures.mp rendered pair listed
    have holds := FileSystem.readText_place same (intact.outputs document member)
    rw [FileSystem.readText_eq_ok] at holds ⊢
    exact (intact.templates pair listed).symm.trans holds
  · intro document member other otherMember same
    have holds := FileSystem.readText_place same (intact.outputs document member)
    exact Except.ok.inj (holds.symm.trans (intact.outputs other otherMember))

theorem Agreeing.intact (rendered : (project.render before).failures = [])
    (written : write before (project.render before) = { fs := after, outputs })
    (agreeing : Agreeing before after project) : Intact before after project := by
  refine ⟨?_, ?_⟩
  · intro pair listed
    obtain ⟨content, made⟩ := renderAll_failures.mp rendered pair listed
    obtain ⟨source, had, _⟩ := Document.renderFile_ok.mp made
    have still : after.readText pair.template = .ok source := by
      rcases (write_wrote written).readText had with kept | ⟨last, stale, same, holds⟩
      · exact kept
      · have agreed := agreeing.templates last (List.mem_filter.mp stale).1 pair listed same
        exact holds.trans (agreed.symm.trans had)
    rw [FileSystem.readText_eq_ok.mp still, FileSystem.readText_eq_ok.mp had]
  · intro document member
    obtain ⟨last, lastMember, same, holds⟩ := render_write_output written member
    rw [holds, agreeing.outputs last lastMember document member same]

theorem Separate.agreeing (separate : Separate after project) : Agreeing before after project := by
  refine ⟨?_, ?_⟩
  · intro document member pair listed same
    exact absurd same (separate.templates _ (mem_renderAll.mp member).1 pair listed)
  · intro document member other otherMember same
    obtain ⟨listed, made, _⟩ := mem_renderAll.mp member
    obtain ⟨otherListed, otherMade, _⟩ := mem_renderAll.mp otherMember
    have own : document.pair = other.pair :=
      eq_of_apart separate.outputs listed otherListed same
    rw [own, otherMade] at made
    exact (Except.ok.inj made).symm

-- The check suffices where the spelling of the project's paths tells places apart.
theorem Spelled.separate (loaded : load before root = .ok project)
    (spelled : Spelled after project) : Separate after project := by
  obtain ⟨noTemplate, once⟩ := checkOutputs_ok.mp (load_checked loaded)
  refine ⟨?_, ?_⟩
  · intro a aListed b bListed place
    have same := spelled a aListed b.template ⟨b, bListed, .inr rfl⟩ place
    exact absurd ((noTemplate a aListed b bListed).symm.trans same) nofun
  · refine once.imp_of_mem ?_
    intro a b aListed bListed differ place
    have same := spelled b bListed a.output ⟨a, aListed, .inl rfl⟩ place.symm
    exact absurd (differ.symm.trans same) nofun

theorem intact_iff_agreeing (loaded : load before root = .ok project)
    (rendered : (project.render before).failures = [])
    (written : write before (project.render before) = { fs := after, outputs }) :
    (Intact before after project ↔ Agreeing before after project) ∧
    (Separate after project → Intact before after project) ∧
    (Spelled after project → Separate after project) := by
  have whole : Intact before after project ↔ Agreeing before after project :=
    ⟨Intact.agreeing rendered, Agreeing.intact rendered written⟩
  refine ⟨whole, ?_, ?_⟩
  · intro separate
    exact whole.mpr separate.agreeing
  · intro spelled
    exact spelled.separate loaded

def oneDocument (output : Text) : FileSystem where
  nodes := [
    ([.of "mdsplice.toml"], .file (.text
      ("[[documents]]\ntemplate = \"a.src.md\"\noutput = \"" ++ output ++ "\"\n"))),
    ([.of "a.src.md"], .file (.text "[TOC]\n# A\n"))]

def oneDocumentProject (output : Text) : Project where
  root := ⟨"."⟩
  configFile := some ⟨"./mdsplice.toml"⟩
  documents := [⟨⟨"./a.src.md"⟩, ⟨"./" ++ output⟩⟩]
  contents := {}

def oneDocumentContent : Text := "<span id=\"TOC\"/></span>\n\n* [A](#a)\n# A\n"

theorem oneDocument_load {output : Text} (config : Config.load? (oneDocument output) ⟨"."⟩ =
      .ok (some { documents := [⟨⟨"a.src.md"⟩, ⟨output⟩⟩] }))
    (found : Config.find? (oneDocument output) ⟨"."⟩ = some ⟨"./mdsplice.toml"⟩)
    (relative : Path.isAbsolute ⟨output⟩ = false)
    (checked : checkOutputs [⟨⟨"./a.src.md"⟩, ⟨"./" ++ output⟩⟩] = .ok ()) :
    load (oneDocument output) ⟨"."⟩ = .ok (oneDocumentProject output) := by
  have joined : Path.join ⟨"."⟩ ⟨output⟩ = ⟨"./" ++ output⟩ := by
    simp only [Path.join, relative]
    rfl
  have template : Path.join ⟨"."⟩ ⟨"a.src.md"⟩ = ⟨"./a.src.md"⟩ := rfl
  simp only [load, config, bind, Except.bind, Option.getD, documentsFor, List.map, joined, template,
    checked, found, pure, Except.pure, oneDocumentProject]

theorem oneDocument_render {output : Text} {current : Except FileError Text}
    (had : (oneDocument output).readText ⟨"./a.src.md"⟩ = .ok "[TOC]\n# A\n")
    (now : (oneDocument output).readText ⟨"./" ++ output⟩ = current) :
    (oneDocumentProject output).render (oneDocument output) = { documents := [
      ⟨⟨⟨"./a.src.md"⟩, ⟨"./" ++ output⟩⟩, oneDocumentContent, current.toOption⟩] } := by
  have made : Document.renderFile (oneDocument output) {} ⟨"./a.src.md"⟩ =
      .ok oneDocumentContent := Document.renderFile_ok.mpr ⟨_, had, rfl⟩
  simp only [Project.render, oneDocumentProject, renderAll, renderDocument, made, now]

def oneDocumentWritten : FileSystem where
  nodes := (oneDocument "docs/a.md").nodes ++
    ([([.of "docs"], .directory), ([.of "a.md", .of "docs"], .file (.text oneDocumentContent))] :
      List (Location × Node))

theorem oneDocumentWritten_spelled :
    Spelled oneDocumentWritten (oneDocumentProject "docs/a.md") := by
  have output : oneDocumentWritten.canonical? ⟨"./docs/a.md"⟩ =
      some [.of "a.md", .of "docs"] := by cbv
  have template : oneDocumentWritten.canonical? ⟨"./a.src.md"⟩ = some [.of "a.src.md"] := by cbv
  intro a aListed path named place
  cases List.mem_singleton.mp aListed
  obtain ⟨b, bListed, rfl | rfl⟩ := named
  · cases List.mem_singleton.mp bListed
    rfl
  · cases List.mem_singleton.mp bListed
    exact absurd (output.symm.trans (place.trans template)) (by decide)

theorem intact_iff_agreeing_apart :
    load (oneDocument "docs/a.md") ⟨"."⟩ = .ok (oneDocumentProject "docs/a.md") ∧
    write (oneDocument "docs/a.md")
        ((oneDocumentProject "docs/a.md").render (oneDocument "docs/a.md")) =
      { fs := oneDocumentWritten, outputs := [⟨"./docs/a.md"⟩] } ∧
    Separate oneDocumentWritten (oneDocumentProject "docs/a.md") ∧
    Intact (oneDocument "docs/a.md") oneDocumentWritten (oneDocumentProject "docs/a.md") := by
  have loaded : load (oneDocument "docs/a.md") ⟨"."⟩ = .ok (oneDocumentProject "docs/a.md") :=
    oneDocument_load (by cbv) (by cbv) rfl rfl
  have missing : (oneDocument "docs/a.md").readText ⟨"./docs/a.md"⟩ = .error .notFound := by cbv
  have made := oneDocument_render (by cbv) missing
  have rendered : ((oneDocumentProject "docs/a.md").render (oneDocument "docs/a.md")).failures =
      [] := by rw [made]
  have written : write (oneDocument "docs/a.md")
      ((oneDocumentProject "docs/a.md").render (oneDocument "docs/a.md")) =
        { fs := oneDocumentWritten, outputs := [⟨"./docs/a.md"⟩] } := by
    rw [made]
    cbv
  obtain ⟨_, apart, told⟩ := intact_iff_agreeing loaded rendered written
  have separate := told oneDocumentWritten_spelled
  exact ⟨loaded, written, separate, apart separate⟩

-- The output goes back to the template by way of a directory that is made for it.
theorem template_overwritten :
    load (oneDocument "x/../a.src.md") ⟨"."⟩ = .ok (oneDocumentProject "x/../a.src.md") ∧
    ((oneDocumentProject "x/../a.src.md").render (oneDocument "x/../a.src.md")).failures = [] ∧
    ∃ after, write (oneDocument "x/../a.src.md")
        ((oneDocumentProject "x/../a.src.md").render (oneDocument "x/../a.src.md")) =
          { fs := after, outputs := [⟨"./x/../a.src.md"⟩] } ∧
      (oneDocument "x/../a.src.md").readText ⟨"./a.src.md"⟩ = .ok "[TOC]\n# A\n" ∧
      after.readText ⟨"./a.src.md"⟩ = .ok oneDocumentContent := by
  have loaded : load (oneDocument "x/../a.src.md") ⟨"."⟩ =
      .ok (oneDocumentProject "x/../a.src.md") := oneDocument_load (by cbv) (by cbv) rfl rfl
  have had : (oneDocument "x/../a.src.md").readText ⟨"./a.src.md"⟩ = .ok "[TOC]\n# A\n" := by cbv
  -- Nothing is at the output as long as the directory is missing, so it counts as stale.
  have missing : (oneDocument "x/../a.src.md").readText ⟨"./x/../a.src.md"⟩ = .error .notFound := by
    cbv
  have made := oneDocument_render had missing
  refine ⟨loaded, by rw [made], (oneDocument "x/../a.src.md").put [.of "x"] .directory |>.put
    [.of "a.src.md"] (.file (.text oneDocumentContent)), ?_, had, ?_⟩
  · rw [made]
    cbv
  · cbv

end Project
end DocAssembly
