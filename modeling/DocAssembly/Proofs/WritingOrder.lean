import DocAssembly.Proofs.FileSystem.Likeness
import DocAssembly.Proofs.Frame

namespace DocAssembly.Project

open FileSystem (Same Alike Made)

variable {before a b : FileSystem} {documents others : List RenderedDocument}
  {document : RenderedDocument} {location : Location} {node : Node} {p output : Path}

theorem wayTo_steps (on : p ∈ wayTo output) : p.isAbsolute = output.isAbsolute ∧
    ∃ rest, rest ≠ [] ∧ FileSystem.namedSteps output = FileSystem.namedSteps p ++ rest := by
  unfold wayTo at on
  cases above : output.parent? with
  | none =>
    rw [above] at on
    cases on
  | some parent =>
    rw [above] at on
    obtain ⟨absolute, rest, goesOn⟩ := FileSystem.ancestors_steps on
    obtain ⟨absoluteToo, last, further, goesOnToo⟩ := Path.namedSteps_parent above
    refine ⟨absolute.trans absoluteToo, rest ++ last, ?_, ?_⟩
    · exact List.append_ne_nil_of_right_ne_nil _ further
    · rw [goesOnToo, goesOn, List.append_assoc]

structure Settled (documents : List RenderedDocument) (before after : FileSystem) : Prop where
  wrote : Wrote documents before after
  made : Made (documents.flatMap fun document => wayTo document.pair.output) before after
  apart : ∀ a ∈ documents, ∀ b ∈ documents,
    after.canonical? a.pair.output = after.canonical? b.pair.output → a = b

theorem Settled.content (settled : Settled documents before a) (member : document ∈ documents)
    (leads : a.locate document.pair.output = .ok location) :
    a.node? location = some (.file (.text document.content)) := by
  obtain ⟨own, leadsOwn, last, listed, leadsLast, there⟩ := settled.wrote.holds document member
  cases leads.symm.trans leadsOwn
  cases settled.apart last listed document member (FileSystem.canonical?_eq leadsLast leads)
  exact there

theorem Wrote.alike (wrote : Wrote documents before a) (wroteToo : Wrote others before b) :
    Alike a b :=
  wrote.grows.alike.symm.trans wroteToo.grows.alike

theorem Wrote.locate (wrote : Wrote documents before a) (wroteToo : Wrote others before b)
    (member : document ∈ others) (leads : a.locate document.pair.output = .ok location) :
    b.locate document.pair.output = .ok location := by
  obtain ⟨place, leadsToo, _⟩ := wroteToo.holds document member
  cases FileSystem.locate_alike (wrote.alike wroteToo) leads leadsToo
  exact leadsToo

-- By where the node comes from: it was written, was there before, or is a directory that was made.
theorem Settled.carries (settled : Settled documents before a) (settledToo : Settled others before b)
    (listed : ∀ document, document ∈ documents ↔ document ∈ others)
    (there : a.node? location = some node) : b.node? location = some node := by
  by_cases output : ∃ document ∈ documents, a.locate document.pair.output = .ok location
  · obtain ⟨document, member, leads⟩ := output
    have leadsToo := settled.wrote.locate settledToo.wrote ((listed _).mp member) leads
    rw [settled.content member leads] at there
    cases there
    exact settledToo.content ((listed _).mp member) leadsToo
  · have noOutput : ¬ ∃ document ∈ others, b.locate document.pair.output = .ok location := by
      rintro ⟨document, member, leads⟩
      have leadsToo := settledToo.wrote.locate settled.wrote ((listed _).mpr member) leads
      exact output ⟨document, (listed _).mpr member, leadsToo⟩
    have becomes := settled.wrote.grows.places location
    cases had : before.node? location with
    | some old =>
      cases there.symm.trans (settled.wrote.grows.unwritten had output)
      exact settledToo.wrote.grows.unwritten had noOutput
    | none =>
      rw [had, there] at becomes
      cases becomes with
      | filed content here => exact absurd here output
      | made =>
        obtain ⟨p, on, leads⟩ := settled.made location had there
        obtain ⟨document, member, onWay⟩ := List.mem_flatMap.mp on
        obtain ⟨absolute, rest, further, goesOn⟩ := wayTo_steps onWay
        obtain ⟨_, leadsToo, _⟩ := settledToo.wrote.holds document ((listed _).mp member)
        exact FileSystem.directory_on_way (settled.wrote.alike settledToo.wrote) leads there
          absolute goesOn further leadsToo

theorem Settled.same (settled : Settled documents before a) (settledToo : Settled others before b)
    (listed : ∀ document, document ∈ documents ↔ document ∈ others) : Same a b := by
  refine ⟨(settled.wrote.alike settledToo.wrote).home, ?_, ?_⟩
  · exact settled.wrote.grows.room.trans settledToo.wrote.grows.room.symm
  · intro location
    apply Option.ext
    intro node
    exact ⟨settled.carries settledToo listed,
      settledToo.carries settled fun document => (listed document).symm⟩

-- Places that differ in one order differ in the other, since they are the same places.
theorem Settled.of_alike (settled : Settled documents before a) (wrote : Wrote others before b)
    (made : Made (others.flatMap fun document => wayTo document.pair.output) before b)
    (listed : ∀ document, document ∈ documents ↔ document ∈ others) : Settled others before b := by
  refine ⟨wrote, made, ?_⟩
  intro first member second memberToo same
  obtain ⟨place, leads, _⟩ := wrote.holds first member
  obtain ⟨placeToo, leadsToo, _⟩ := wrote.holds second memberToo
  rw [FileSystem.canonical?_eq_some.mpr leads, FileSystem.canonical?_eq_some.mpr leadsToo] at same
  cases same
  apply settled.apart first ((listed _).mpr member) second ((listed _).mpr memberToo)
  exact FileSystem.canonical?_eq
    (wrote.locate settled.wrote ((listed _).mpr member) leads)
    (wrote.locate settled.wrote ((listed _).mpr memberToo) leadsToo)

theorem write_parts {fs after : FileSystem} {rendering : Rendering} {outputs : List Path}
    (written : write fs rendering = { fs := after, outputs }) :
    outputs = rendering.stale.map (·.pair.output) ∧ Wrote rendering.stale fs after ∧
      Made (rendering.stale.flatMap fun document => wayTo document.pair.output) fs after := by
  have ends := writeDocuments_ends fs rendering.stale
  rw [write] at written
  rw [written] at ends
  cases ends with
  | done _ named all => exact ⟨named, write_wrote written, all.frame.directories⟩
  | stopped failed => cases failed

-- Documents that can be written in two orders leave the same file system in both, when their outputs
-- lead to different places in one of them.
theorem write_reordered {fs after afterToo : FileSystem} {rendering : Rendering}
    {outputs outputsToo : List Path} (reordered : documents.Perm rendering.documents)
    (written : write fs rendering = { fs := after, outputs })
    (writtenToo : write fs { rendering with documents } =
      { fs := afterToo, outputs := outputsToo })
    (apart : rendering.stale.Pairwise fun a b =>
      after.canonical? a.pair.output ≠ after.canonical? b.pair.output) :
    Same after afterToo ∧ outputs.Perm outputsToo := by
  have stale : rendering.stale.Perm (documents.filter (·.isStale)) := reordered.symm.filter _
  obtain ⟨rfl, wrote, made⟩ := write_parts written
  obtain ⟨rfl, wroteToo, madeToo⟩ := write_parts writtenToo
  have settled : Settled rendering.stale fs after :=
    ⟨wrote, made, fun _ member _ memberToo =>
      List.inj_on_of_nodup_map (List.pairwise_map.mpr apart) member memberToo⟩
  have listed : ∀ document, document ∈ rendering.stale ↔ document ∈ documents.filter (·.isStale) :=
    fun _ => stale.mem_iff
  refine ⟨settled.same (settled.of_alike wroteToo madeToo listed) listed, ?_⟩
  exact stale.map _

-- The second output is named by a way through a directory that is made for the first, and leads out
-- of it again.
def crossing : Rendering where
  documents := [
    ⟨⟨⟨"a.src.md"⟩, ⟨"d/a.md"⟩⟩, ['A'], none⟩,
    ⟨⟨⟨"b.src.md"⟩, ⟨"d/../b.md"⟩⟩, ['B'], none⟩]

def crossed : FileSystem where
  nodes := [
    ([.of "d"], .directory),
    ([.of "a.md", .of "d"], .file (.text ['A'])),
    ([.of "b.md"], .file (.text ['B']))]

def crossedBackwards : FileSystem where
  nodes := [
    ([.of "d"], .directory),
    ([.of "b.md"], .file (.text ['B'])),
    ([.of "a.md", .of "d"], .file (.text ['A']))]

theorem write_reordered_crossing :
    write {} crossing = { fs := crossed, outputs := [⟨"d/a.md"⟩, ⟨"d/../b.md"⟩] } ∧
    write {} { crossing with documents := crossing.documents.reverse } =
      { fs := crossedBackwards, outputs := [⟨"d/../b.md"⟩, ⟨"d/a.md"⟩] } ∧
    Same crossed crossedBackwards := by
  have written : write {} crossing =
      { fs := crossed, outputs := [⟨"d/a.md"⟩, ⟨"d/../b.md"⟩] } := by cbv
  have backwards : write {} { crossing with documents := crossing.documents.reverse } =
      { fs := crossedBackwards, outputs := [⟨"d/../b.md"⟩, ⟨"d/a.md"⟩] } := by cbv
  have first : crossed.canonical? ⟨"d/a.md"⟩ = some [.of "a.md", .of "d"] := by cbv
  have second : crossed.canonical? ⟨"d/../b.md"⟩ = some [.of "b.md"] := by cbv
  have apart : crossing.stale.Pairwise fun a b =>
      crossed.canonical? a.pair.output ≠ crossed.canonical? b.pair.output := by
    change List.Pairwise _ [_, _]
    rw [List.pairwise_pair]
    change crossed.canonical? ⟨"d/a.md"⟩ ≠ crossed.canonical? ⟨"d/../b.md"⟩
    rw [first, second]
    decide
  exact ⟨written, backwards,
    (write_reordered (List.reverse_perm crossing.documents) written backwards apart).1⟩

end DocAssembly.Project
