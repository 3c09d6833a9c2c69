import DocAssembly.Proofs.Discovery.Ways
import DocAssembly.Proofs.Overwriting
import DocAssembly.Proofs.Path.Parents
import Mathlib

namespace DocAssembly

namespace Template

variable {p q output : Path} {stem : Text}

theorem output?_eq_some : output? p = some output ↔ ∃ stem : Text, stem ≠ [] ∧
    p.fileName? = some (stem ++ nameTail) ∧ output = p.withFileName (stem ++ ".md") := by
  unfold output?
  cases p.fileName? with
  | none => simp
  | some name =>
    dsimp only
    cases found : name.before? nameTail with
    | none =>
      simp only [reduceCtorEq, Option.some.injEq, false_iff]
      rintro ⟨stem, _, rfl, _⟩
      cases found.symm.trans (Text.before?_eq_some.mpr rfl)
    | some front =>
      have whole := Text.before?_eq_some.mp found
      cases front with
      | nil =>
        simp only [reduceCtorEq, Option.some.injEq, false_iff]
        rintro ⟨stem, some, rfl, _⟩
        exact some (List.append_cancel_right whole).symm
      | cons c rest =>
        simp only [Option.some.injEq]
        constructor
        · rintro rfl
          exact ⟨c :: rest, List.cons_ne_nil _ _, whole.symm, rfl⟩
        · rintro ⟨stem, _, rfl, rfl⟩
          rw [List.append_cancel_right whole]

theorem isPiece_long {text : Text} (long : 3 ≤ text.length) (single : '/' ∉ text) : IsPiece text := by
  refine ⟨?_, ?_, ?_, single⟩
  · rintro rfl
    contradiction
  · rintro rfl
    contradiction
  · rintro rfl
    contradiction

theorem isPiece_tail {tail : Text} (single : '/' ∉ stem) (long : 3 ≤ tail.length)
    (plain : '/' ∉ tail) : IsPiece (stem ++ tail) := by
  apply isPiece_long
  · rw [List.length_append]
    exact Nat.le_add_left_of_le long
  · rw [List.mem_append, not_or]
    exact ⟨single, plain⟩

-- The tails of a template whose output is a template, and of that output.
theorem longer_tail : stem ++ ".src" ++ nameTail = stem ++ ".src.src.md" := by
  rw [List.append_assoc]
  rfl

theorem shorter_tail : stem ++ ".src" ++ ".md" = stem ++ nameTail := by
  rw [List.append_assoc]
  rfl

theorem components_output (made : output? p = some output) : ∃ stem : Text, stem ≠ [] ∧
    p.components = p.components.dropLast ++ [.named (stem ++ nameTail)] ∧
    output.components = p.components.dropLast ++ [.named (stem ++ ".md")] := by
  obtain ⟨stem, some, named, rfl⟩ := output?_eq_some.mp made
  have single : '/' ∉ stem := fun separator =>
    (Path.isPiece_fileName named).noSeparator (List.mem_append_left _ separator)
  have isPiece : IsPiece (stem ++ ".md") := isPiece_tail single (by decide) (by decide)
  exact ⟨stem, some, Path.components_fileName named, Path.components_withFileName named isPiece⟩

theorem output?_injective {a b : Path} (made : output? p = some a) (madeToo : output? q = some b)
    (same : a.components = b.components) : p.components = q.components := by
  obtain ⟨stem, _, whole, output⟩ := components_output made
  obtain ⟨other, _, wholeToo, outputToo⟩ := components_output madeToo
  rw [output, outputToo] at same
  obtain ⟨directories, names⟩ := List.append_inj' same rfl
  have stems : stem = other := by
    simpa using names
  rw [whole, wholeToo, directories, stems]

end Template

namespace Project

variable {fs : FileSystem} {root directory p q output : Path} {templates seen : List Path}
  {documents : List DocumentPair} {stem : Text} {patterns : List Text} {disableGitignore : Bool}

-- Whether two templates stand in one directory, the output of the one in the place of the other.
structure Collides (templates : List Path) (directory : Path) (stem : Text) : Prop where
  nonempty : stem ≠ []
  single : '/' ∉ stem
  source : directory.join ⟨stem ++ ".src.src.md"⟩ ∈ templates
  target : directory.join ⟨stem ++ ".src.md"⟩ ∈ templates

theorem checkOutputsFrom_apart
    (apart : documents.Pairwise fun a b => b.output.same a.output = false)
    (new : ∀ document ∈ documents, ∀ path ∈ seen, document.output.same path = false) :
    checkOutputsFrom templates seen documents =
      match documents.find? fun document => templates.any document.output.same with
      | some document => .error (.outputIsTemplate document.output)
      | none => .ok () := by
  induction documents generalizing seen with
  | nil => rfl
  | cons document rest ih =>
    rw [List.pairwise_cons] at apart
    rw [List.forall_mem_cons] at new
    have notSeen : seen.any document.output.same = false := by simpa using new.1
    rw [checkOutputsFrom, List.find?_cons]
    cases clash : templates.any document.output.same with
    | true => rfl
    | false =>
      simp only [Bool.false_eq_true, if_false, notSeen]
      apply ih apart.2
      intro other member path listed
      rcases List.mem_cons.mp listed with rfl | before
      · exact apart.1 other member
      · exact new.2 other member path before

def pairOf (template : Path) : DocumentPair where
  template := template
  output := (Template.output? template).getD template

theorem pairOf_output (made : Template.output? p = some output) : (pairOf p).output = output := by
  rw [pairOf, made]
  rfl

theorem documentsFor_discovered {config : Config} (unlisted : config.documents = [])
    (found : Discovery.discover fs root config.excluded config.disableGitignore = .ok templates)
    (all : ∀ p ∈ templates, Template.isTemplate p = true) :
    documentsFor fs root config = .ok (templates.map pairOf) := by
  unfold documentsFor
  rw [unlisted]
  dsimp only
  rw [found]
  refine congrArg Except.ok ?_
  rw [← List.filterMap_eq_map]
  apply List.filterMap_congr
  intro p member
  obtain ⟨output, made⟩ := Option.isSome_iff_exists.mp (all p member)
  simp [pairOf, made]

-- What discovery promises of the templates it finds.
structure Discovered (root : Path) (templates : List Path) : Prop where
  strict : templates.Pairwise fun p q => p.le q = true ∧ p.same q = false
  names : ∀ p ∈ templates, ∃ above, ∃ name : Name,
    p = (root.descend above).join name ∧ Template.isTemplate p = true

theorem discovered (found : Discovery.discover fs root patterns disableGitignore = .ok templates) :
    Discovered root templates := by
  cases accepted : IgnoreList.ofPatterns root patterns with
  | error pattern =>
    rw [Discovery.discover, accepted] at found
    cases found
  | ok excluded =>
    rw [Discovery.discover_of_accepted accepted] at found
    cases found
    refine ⟨Discovery.Search.run_strict Discovery.storedOrder_keeps, ?_⟩
    intro p member
    exact Discovery.Search.run_names Discovery.storedOrder_keeps member

theorem Collides.meets (collides : Collides templates directory stem) : ∃ output,
    Template.output? (directory.join ⟨stem ++ ".src.src.md"⟩) = some output ∧
      output.components = (directory.join ⟨stem ++ ".src.md"⟩).components := by
  have source : IsPiece (stem ++ ".src.src.md") :=
    Template.isPiece_tail collides.single (by decide) (by decide)
  have target : IsPiece (stem ++ Template.nameTail) :=
    Template.isPiece_tail collides.single (by decide) (by decide)
  have named := Path.fileName?_join (p := directory) source
  refine ⟨_, Template.output?_eq_some.mpr ⟨stem ++ ".src", ?_, ?_, rfl⟩, ?_⟩
  · exact List.append_ne_nil_of_left_ne_nil collides.nonempty _
  · rw [named, Template.longer_tail]
  · rw [Template.shorter_tail, Path.components_withFileName named target,
      Path.components_join source, List.dropLast_concat]
    exact (Path.components_join target).symm

theorem Discovered.makes (all : Discovered root templates) (listed : p ∈ templates) :
    ∃ output, Template.output? p = some output := by
  obtain ⟨_, _, _, isTemplate⟩ := all.names p listed
  exact Option.isSome_iff_exists.mp isTemplate

theorem Discovered.parts (all : Discovered root templates) (listed : p ∈ templates) :
    ∃ above stem output, stem ≠ [] ∧ '/' ∉ stem ∧
      p = (root.descend above).join ⟨stem ++ Template.nameTail⟩ ∧
      Template.output? p = some output ∧
      output.components = (root.descend above).components ++ [.named (stem ++ ".md")] := by
  obtain ⟨above, name, spelled, _⟩ := all.names p listed
  obtain ⟨output, made⟩ := all.makes listed
  obtain ⟨stem, some, whole, beside⟩ := Template.components_output made
  have own : p.components = (root.descend above).components ++ [.named name.text] := by
    rw [spelled, Path.components_join name.isPiece]
  rw [own, List.dropLast_concat] at whole beside
  have named : name.text = stem ++ Template.nameTail := by simpa using whole
  rw [named] at spelled
  have single : '/' ∉ stem := fun separator =>
    name.isName.noSeparator (named ▸ List.mem_append_left _ separator)
  exact ⟨above, stem, output, some, single, spelled, made, beside⟩

-- By the names: the output has the last component of the other template, and that ends with the tail
-- of templates, so what stands before it is the stem of both.
theorem Discovered.collides (all : Discovered root templates) (listed : p ∈ templates)
    (listedToo : q ∈ templates) (made : Template.output? p = some output)
    (same : output.components = q.components) : ∃ directory stem,
      p = directory.join ⟨stem ++ ".src.src.md"⟩ ∧ Collides templates directory stem := by
  obtain ⟨above, front, own, _, _, spelled, madeOwn, beside⟩ := all.parts listed
  obtain ⟨aboveToo, stem, _, some, single, spelledToo, _⟩ := all.parts listedToo
  cases made.symm.trans madeOwn
  have target : IsPiece (stem ++ Template.nameTail) :=
    Template.isPiece_tail single (by decide) (by decide)
  rw [beside, spelledToo, Path.components_join target] at same
  obtain ⟨directories, names⟩ := List.append_inj' same rfl
  have common : front ++ ".md" = stem ++ Template.nameTail := by simpa using names
  cases Path.descend_injective directories
  have longer : front = stem ++ ".src" :=
    List.append_cancel_right (common.trans Template.shorter_tail.symm)
  rw [longer, Template.longer_tail] at spelled
  exact ⟨root.descend above, stem, spelled, some, single, spelled ▸ listed,
    spelledToo ▸ listedToo⟩

theorem load_eq {config : Option Config} (read : Config.load? fs root = .ok config)
    (found : documentsFor fs root (config.getD {}) = .ok documents) :
    load fs root = match checkOutputs documents with
      | .error failure => .error failure
      | .ok () => .ok { root, configFile := Config.find? fs root, documents,
                        contents := (config.getD {}).contents } := by
  simp only [load, read, bind, Except.bind, found]
  cases checkOutputs documents <;> rfl

theorem Discovered.checkOutputs (all : Discovered root templates) :
    checkOutputs (templates.map pairOf) =
      match templates.find? fun p => templates.any (pairOf p).output.same with
      | some p => .error (.outputIsTemplate (pairOf p).output)
      | none => .ok () := by
  have whole : (templates.map pairOf).map (·.template) = templates := by
    rw [List.map_map]
    exact List.map_id _
  have apart : (templates.map pairOf).Pairwise fun a b => b.output.same a.output = false := by
    rw [List.pairwise_map]
    refine all.strict.imp_of_mem ?_
    intro p q listed listedToo strict
    obtain ⟨a, made⟩ := all.makes listed
    obtain ⟨b, madeToo⟩ := all.makes listedToo
    rw [pairOf_output made, pairOf_output madeToo, Bool.eq_false_iff, Ne, Path.same_iff]
    intro same
    have alike := Path.same_iff.mpr (Template.output?_injective made madeToo same.symm)
    cases strict.2.symm.trans alike
  rw [Project.checkOutputs, whole, checkOutputsFrom_apart apart (by simp), List.find?_map]
  change (match (templates.find? fun p => templates.any (pairOf p).output.same).map pairOf with
    | some document => _
    | none => _) = _
  cases templates.find? fun p => templates.any (pairOf p).output.same <;> rfl

-- Whether a path is the output of the first template whose output is another template.
def FirstCollision (templates : List Path) (output : Path) : Prop :=
  ∃ front directory stem rest, Collides templates directory stem ∧
    templates = front ++ directory.join ⟨stem ++ ".src.src.md"⟩ :: rest ∧
    (∀ other x, Collides templates other x → other.join ⟨x ++ ".src.src.md"⟩ ∉ front) ∧
    Template.output? (directory.join ⟨stem ++ ".src.src.md"⟩) = some output ∧
    output.same (directory.join ⟨stem ++ ".src.md"⟩) = true

def Sibling (pair : DocumentPair) : Prop :=
  Template.output? pair.template = some pair.output ∧
    ∃ (directory : Path) (stem : Text), stem ≠ [] ∧ '/' ∉ stem ∧
      pair.template = directory.join ⟨stem ++ ".src.md"⟩ ∧
      pair.output.same (directory.join ⟨stem ++ ".md"⟩) = true

theorem Collides.clashes (collides : Collides templates directory stem) :
    templates.any (pairOf (directory.join ⟨stem ++ ".src.src.md"⟩)).output.same = true := by
  obtain ⟨output, made, same⟩ := collides.meets
  rw [pairOf_output made]
  exact List.any_eq_true.mpr ⟨_, collides.target, Path.same_iff.mpr same⟩

theorem Discovered.first (all : Discovered root templates)
    (clash : (templates.find? fun p => templates.any (pairOf p).output.same) = some p) :
    FirstCollision templates (pairOf p).output := by
  obtain ⟨meets, front, rest, whole, before⟩ := List.find?_eq_some_iff_append.mp clash
  have listed : p ∈ templates := by
    rw [whole]
    exact List.mem_append_right _ List.mem_cons_self
  obtain ⟨output, made⟩ := all.makes listed
  rw [pairOf_output made] at meets ⊢
  obtain ⟨q, listedToo, same⟩ := List.any_eq_true.mp meets
  rw [Path.same_iff] at same
  obtain ⟨directory, stem, rfl, collides⟩ := all.collides listed listedToo made same
  obtain ⟨own, madeOwn, target⟩ := collides.meets
  cases made.symm.trans madeOwn
  refine ⟨front, directory, stem, rest, collides, whole, ?_, made, Path.same_iff.mpr target⟩
  intro other x collidesToo earlier
  have free := before _ earlier
  rw [collidesToo.clashes] at free
  cases free

theorem Discovered.siblings (all : Discovered root templates) :
    ∀ pair ∈ templates.map pairOf, Sibling pair := by
  intro pair member
  obtain ⟨p, listed, rfl⟩ := List.mem_map.mp member
  obtain ⟨above, stem, output, some, single, spelled, made, beside⟩ := all.parts listed
  have target : IsPiece (stem ++ ".md") :=
    Template.isPiece_tail single (by decide) (by decide)
  unfold Sibling
  rw [pairOf_output made]
  refine ⟨made, root.descend above, stem, some, single, spelled, ?_⟩
  rw [Path.same_iff, beside, Path.components_join target]

-- Loading a project of discovered templates never finds two templates with one output. It fails just
-- when the output of a template is another template, at the first such template; otherwise each
-- template has its document, in the same order.
theorem load_discovered {config : Option Config}
    (read : Config.load? fs root = .ok config) (unlisted : (config.getD {}).documents = [])
    (found : Discovery.discover fs root (config.getD {}).excluded
      (config.getD {}).disableGitignore = .ok templates) :
    (∀ output, load fs root ≠ .error (.duplicateOutput output)) ∧
    ((∃ output, load fs root = .error (.outputIsTemplate output)) ↔
      ∃ directory stem, Collides templates directory stem) ∧
    (∀ output, load fs root = .error (.outputIsTemplate output) → FirstCollision templates output) ∧
    ((¬ ∃ directory stem, Collides templates directory stem) →
      ∃ project, load fs root = .ok project ∧ project.documents.map (·.template) = templates ∧
        ∀ pair ∈ project.documents, Sibling pair) ∧
    templates.Pairwise (fun p q => p.le q = true ∧ p.same q = false) ∧
    ∀ p q a b, Template.output? p = some a → Template.output? q = some b → a.same b = true →
      p.same q = true := by
  have all := discovered found
  have isTemplate : ∀ p ∈ templates, Template.isTemplate p = true := by
    intro p listed
    obtain ⟨_, _, _, isTemplate⟩ := all.names p listed
    exact isTemplate
  have injective : ∀ p q a b, Template.output? p = some a → Template.output? q = some b →
      a.same b = true → p.same q = true := by
    intro p q a b made madeToo same
    exact Path.same_iff.mpr (Template.output?_injective made madeToo (Path.same_iff.mp same))
  have loads := load_eq read (documentsFor_discovered unlisted found isTemplate)
  rw [all.checkOutputs] at loads
  cases clash : templates.find? fun p => templates.any (pairOf p).output.same with
  | some p =>
    rw [clash] at loads
    have first := all.first clash
    obtain ⟨_, directory, stem, _, collides, _⟩ := id first
    rw [loads]
    refine ⟨nofun, ⟨fun _ => ⟨directory, stem, collides⟩, fun _ => ⟨_, rfl⟩⟩, ?_, ?_, all.strict,
      injective⟩
    · intro output failed
      cases failed
      exact first
    · intro free
      exact absurd ⟨directory, stem, collides⟩ free
  | none =>
    rw [clash] at loads
    have free : ¬ ∃ directory stem, Collides templates directory stem := by
      rintro ⟨directory, stem, collides⟩
      exact List.find?_eq_none.mp clash _ collides.source collides.clashes
    rw [loads]
    refine ⟨nofun, ⟨nofun, fun collides => absurd collides free⟩, nofun, ?_, all.strict, injective⟩
    intro _
    refine ⟨_, rfl, ?_, all.siblings⟩
    dsimp only
    rw [List.map_map]
    exact List.map_id _

def flat (names : List Name) : FileSystem where
  nodes := names.map fun name => ([name], .file (.text []))

theorem flat_found {names : List Name} (listed : List Path)
    (below : (Discovery.searchBelow (flat names) ⟨"."⟩ (IgnoreList.new ⟨"."⟩ []) false).subdirectories
      ⟨"."⟩ [] = [])
    (inRoot : (Discovery.searchBelow (flat names) ⟨"."⟩ (IgnoreList.new ⟨"."⟩ []) false).templates
      ⟨"."⟩ [] = listed) :
    Discovery.discover (flat names) ⟨"."⟩ [] false = .ok (listed.mergeSort Path.le) := by
  have accepted : IgnoreList.ofPatterns ⟨"."⟩ [] = .ok (IgnoreList.new ⟨"."⟩ []) := rfl
  have atRoot : (flat names).directoryAt? ⟨"."⟩ = some [] := by
    have root : (flat names).node? [] = some .directory := rfl
    rw [FileSystem.directoryAt?_eq_some, FileSystem.locate_eq_ok]
    refine ⟨⟨rfl, ?_⟩, root⟩
    exact (FileSystem.follow_self root).trans FileSystem.follow_nil
  rw [Discovery.discover_of_accepted accepted, Discovery.Search.run,
    Discovery.Search.enter_new atRoot List.not_mem_nil, below, List.append_nil,
    Discovery.Search.enter]
  simp only [List.flatMap_cons, List.flatMap_nil, List.append_nil, inRoot]

theorem join_long (single : '/' ∉ stem) :
    directory.join ⟨stem ++ ".src.src.md"⟩ ≠ ⟨"./x.src.md"⟩ := by
  intro spelled
  have isPiece : IsPiece (stem ++ ".src.src.md") :=
    Template.isPiece_tail single (by decide) (by decide)
  have named := Path.fileName?_join (p := directory) isPiece
  rw [spelled] at named
  have own : Path.fileName? ⟨"./x.src.md"⟩ = some "x.src.md".toList := by decide
  have lengths := congrArg List.length (Option.some.inj (named.symm.trans own))
  rw [List.length_append] at lengths
  exact absurd lengths (Nat.ne_of_gt (Nat.lt_add_left _ (by decide)))

-- The output of the second template is the first one. The first alone has nothing in its way.
theorem load_discovered_flat :
    Config.load? (flat [.of "x.src.md", .of "x.src.src.md"]) ⟨"."⟩ = .ok none ∧
    Discovery.discover (flat [.of "x.src.md", .of "x.src.src.md"]) ⟨"."⟩ [] false =
      .ok [⟨"./x.src.md"⟩, ⟨"./x.src.src.md"⟩] ∧
    load (flat [.of "x.src.md", .of "x.src.src.md"]) ⟨"."⟩ = .error (.outputIsTemplate ⟨"./x.src.md"⟩) ∧
    Config.load? (flat [.of "x.src.md"]) ⟨"."⟩ = .ok none ∧
    Discovery.discover (flat [.of "x.src.md"]) ⟨"."⟩ [] false = .ok [⟨"./x.src.md"⟩] ∧
    ∃ project, load (flat [.of "x.src.md"]) ⟨"."⟩ = .ok project ∧
      project.documents = [⟨⟨"./x.src.md"⟩, ⟨"./x.md"⟩⟩] := by
  have read : Config.load? (flat [.of "x.src.md", .of "x.src.src.md"]) ⟨"."⟩ = .ok none := by cbv
  have found : Discovery.discover (flat [.of "x.src.md", .of "x.src.src.md"]) ⟨"."⟩ [] false =
      .ok [⟨"./x.src.md"⟩, ⟨"./x.src.src.md"⟩] := by
    rw [flat_found [⟨"./x.src.md"⟩, ⟨"./x.src.src.md"⟩] (by cbv) (by cbv)]
    rw [List.mergeSort_of_pairwise (by decide)]
  have readToo : Config.load? (flat [.of "x.src.md"]) ⟨"."⟩ = .ok none := by cbv
  have foundToo : Discovery.discover (flat [.of "x.src.md"]) ⟨"."⟩ [] false =
      .ok [⟨"./x.src.md"⟩] := by
    rw [flat_found [⟨"./x.src.md"⟩] (by cbv) (by cbv)]
    rw [List.mergeSort_singleton]
  refine ⟨read, found, ?_, readToo, foundToo, ?_⟩
  · have collides : Collides [⟨"./x.src.md"⟩, ⟨"./x.src.src.md"⟩] ⟨"."⟩ "x" :=
      ⟨by decide, by decide, by decide, by decide⟩
    obtain ⟨_, fails, reports, _⟩ := load_discovered read rfl found
    obtain ⟨output, failed⟩ := fails.mpr ⟨_, _, collides⟩
    obtain ⟨_, directory, stem, _, first, _, _, made, _⟩ := reports output failed
    have spelled : directory.join ⟨stem ++ ".src.src.md"⟩ = ⟨"./x.src.src.md"⟩ := by
      rcases List.mem_cons.mp first.source with short | other
      · cases join_long first.single short
      · exact List.mem_singleton.mp other
    have makes : Template.output? ⟨"./x.src.src.md"⟩ = some ⟨"./x.src.md"⟩ := by decide
    rw [spelled, makes] at made
    cases made
    exact failed
  · obtain ⟨_, _, _, loads, _⟩ := load_discovered readToo rfl foundToo
    obtain ⟨project, loaded, whole, siblings⟩ := loads (by
      rintro ⟨directory, stem, collides⟩
      exact join_long collides.single (List.mem_singleton.mp collides.source))
    refine ⟨project, loaded, ?_⟩
    obtain ⟨⟨template, output⟩, only, rfl⟩ := List.map_eq_singleton_iff.mp whole
    have beside := (siblings ⟨_, output⟩ (only ▸ List.mem_singleton_self _)).1
    have makes : Template.output? ⟨"./x.src.md"⟩ = some ⟨"./x.md"⟩ := by decide
    cases makes.symm.trans beside
    exact only

end Project
end DocAssembly
