import DocAssembly.Proofs.FileSystem.Paths

namespace DocAssembly

-- What may become of a place: it may be taken by a directory or, where files are written, hold
-- a file.
inductive Node.Becomes (written : Prop) : Option Node → Option Node → Prop where
  | same (node : Option Node) : Becomes written node node
  | made : Becomes written none (some .directory)
  | filed (content : Content) : written → Becomes written none (some (.file content))
  | rewritten (old new : Content) : written → Becomes written (some (.file old)) (some (.file new))

theorem Node.Becomes.mono {written wider : Prop} {before after : Option Node}
    (wide : written → wider) (becomes : Becomes written before after) :
    Becomes wider before after := by
  cases becomes with
  | same => exact .same _
  | made => exact .made
  | filed content here => exact .filed content (wide here)
  | rewritten old new here => exact .rewritten old new (wide here)

theorem Node.Becomes.trans {written : Prop} {before middle after : Option Node}
    (first : Becomes written before middle) (last : Becomes written middle after) :
    Becomes written before after := by
  cases first with
  | same => exact last
  | made => cases last; exact .made
  | filed content here =>
    cases last with
    | same => exact .filed content here
    | rewritten old new => exact .filed new here
  | rewritten old new here =>
    cases last with
    | same => exact .rewritten old new here
    | rewritten middle newest => exact .rewritten old newest here

namespace FileSystem

theorem lookup_cons_other (nodes : List (Location × Node)) {location key : Location} (node : Node)
    (other : location ≠ key) :
    List.lookup location ((key, node) :: nodes) = nodes.lookup location := by
  rw [List.lookup_cons, beq_false_of_ne other]

theorem lookup_replaced (nodes : List (Location × Node)) (location place : Location) (node : Node) :
    (nodes.map fun (l, n) => (l, if l = location then node else n)).lookup place =
      if place = location then (nodes.lookup location).map fun _ => node
      else nodes.lookup place := by
  induction nodes with
  | nil => simp
  | cons head rest ih =>
    obtain ⟨key, old⟩ := head
    rw [List.map_cons]
    by_cases here : place = key
    · subst here
      rw [List.lookup_cons_self, List.lookup_cons_self]
      by_cases same : place = location
      · subst same
        simp
      · simp [same]
    · rw [lookup_cons_other _ _ here, lookup_cons_other _ _ here, ih]
      by_cases same : place = location
      · subst same
        rw [lookup_cons_other _ _ here]
      · simp [same]

theorem lookup_added (nodes : List (Location × Node)) (location place : Location) (node : Node)
    (free : nodes.lookup location = none) :
    (nodes ++ [(location, node)]).lookup place =
      if place = location then some node else nodes.lookup place := by
  rw [List.lookup_append]
  by_cases here : place = location
  · subst here
    simp [free]
  · rw [lookup_cons_other _ _ here]
    simp [here]

theorem node?_put (fs : FileSystem) {location : Location} (inside : location ≠ [])
    (node : Node) (place : Location) :
    (fs.put location node).node? place = if place = location then some node else fs.node? place := by
  by_cases root : place = []
  · subst root
    simp [node?, Ne.symm inside]
  · simp only [node?, root, if_false, put]
    split
    · next taken =>
      obtain ⟨old, taken⟩ := Option.isSome_iff_exists.mp taken
      rw [lookup_replaced, taken]
      rfl
    · next free =>
      rw [Bool.not_eq_true, Option.isSome_eq_false_iff, Option.isNone_iff_eq_none] at free
      exact lookup_added _ _ _ _ free

@[simp] theorem put_workingDirectory (fs : FileSystem) (location : Location) (node : Node) :
    (fs.put location node).workingDirectory = fs.workingDirectory := by
  unfold put
  split <;> rfl

@[simp] theorem put_room (fs : FileSystem) (location : Location) (node : Node) :
    (fs.put location node).room = fs.room := by
  unfold put
  split <;> rfl

theorem replaced_again (nodes : List (Location × Node)) (location : Location) (first last : Node) :
    (nodes.map fun (l, n) => (l, if l = location then first else n)).map
      (fun (l, n) => (l, if l = location then last else n)) =
        nodes.map fun (l, n) => (l, if l = location then last else n) := by
  rw [List.map_map]
  apply List.map_congr_left
  intro entry _
  by_cases here : entry.1 = location <;> simp [here]

theorem replaced_absent {nodes : List (Location × Node)} {location : Location} (node : Node)
    (absent : nodes.lookup location = none) :
    (nodes.map fun (l, n) => (l, if l = location then node else n)) = nodes := by
  rw [List.lookup_eq_none_iff] at absent
  apply Eq.trans _ (List.map_id nodes)
  apply List.map_congr_left
  intro entry member
  have other : location ≠ entry.1 := by simpa using absent entry member
  simp [other.symm]

theorem put_put (fs : FileSystem) (location : Location) (first last : Node) :
    (fs.put location first).put location last = fs.put location last := by
  obtain ⟨nodes, workingDirectory, room⟩ := fs
  cases there : nodes.lookup location with
  | some old =>
    have still := lookup_replaced nodes location location first
    rw [if_pos rfl, there] at still
    simp only [put, there, still, Option.map_some, Option.isSome_some, if_true, replaced_again]
  | none =>
    have now := lookup_added nodes location location first there
    rw [if_pos rfl] at now
    simp [put, there, now, replaced_absent last there]

-- A file system after another, in which files were written at some places only.
structure Grows (written : Location → Prop) (before after : FileSystem) : Prop where
  home : after.workingDirectory = before.workingDirectory
  room : after.room = before.room
  places : ∀ location,
    Node.Becomes (written location) (before.node? location) (after.node? location)

namespace Grows

variable {written wider : Location → Prop} {before middle after : FileSystem}

theorem refl (fs : FileSystem) : Grows written fs fs := ⟨rfl, rfl, fun _ => .same _⟩

theorem mono (wide : ∀ location, written location → wider location)
    (grown : Grows written before after) : Grows wider before after :=
  ⟨grown.home, grown.room, fun location => (grown.places location).mono (wide location)⟩

theorem trans (first : Grows written before middle) (last : Grows written middle after) :
    Grows written before after :=
  ⟨last.home.trans first.home, last.room.trans first.room,
    fun location => (first.places location).trans (last.places location)⟩

theorem put {location : Location} {node : Node} (inside : location ≠ [])
    (becomes : Node.Becomes (written location) (before.node? location) (some node)) :
    Grows written before (before.put location node) := by
  refine ⟨put_workingDirectory _ _ _, put_room _ _ _, ?_⟩
  intro place
  rw [node?_put before inside]
  split
  · next here => exact here ▸ becomes
  · exact .same _

theorem directory {location : Location} (grown : Grows written before after)
    (there : before.node? location = some .directory) :
    after.node? location = some .directory := by
  have becomes := grown.places location
  rw [there] at becomes
  generalize after.node? location = now at becomes
  cases becomes
  rfl

theorem link {location : Location} {target : Path} (grown : Grows written before after)
    (there : before.node? location = some (.link target)) :
    after.node? location = some (.link target) := by
  have becomes := grown.places location
  rw [there] at becomes
  generalize after.node? location = now at becomes
  cases becomes
  rfl

theorem file {location : Location} {content : Content} (grown : Grows written before after)
    (there : before.node? location = some (.file content)) :
    ∃ new, after.node? location = some (.file new) := by
  have becomes := grown.places location
  rw [there] at becomes
  generalize after.node? location = now at becomes
  cases becomes with
  | same => exact ⟨content, rfl⟩
  | rewritten old new => exact ⟨new, rfl⟩

theorem unwritten {location : Location} {node : Node} (grown : Grows written before after)
    (there : before.node? location = some node) (kept : ¬ written location) :
    after.node? location = some node := by
  have becomes := grown.places location
  rw [there] at becomes
  generalize after.node? location = now at becomes
  cases becomes with
  | same => rfl
  | rewritten old new here => exact absurd here kept

-- A path leads where it led, and to the new file where it ended at a free name that is one now.
theorem follow (grown : Grows written before after) {links : Nat} {location : Location}
    {todo : List Step} {place : Place} (reached : before.follow links location todo = .ok place)
    (filled : ∀ directory name, place = .vacant directory name →
      ∃ content, after.node? (name :: directory) = some (.file content)) :
    after.follow links location todo = .ok (.occupied place.location) := by
  fun_induction FileSystem.follow before links location todo with
  | case1 =>
    cases reached
    exact follow_nil
  | case2 => cases reached
  | case3 _ _ _ there ih =>
    rw [follow_self (grown.directory (Decidable.not_not.mp there))]
    exact ih reached
  | case4 _ _ _ there ih =>
    rw [follow_up (grown.directory (Decidable.not_not.mp there))]
    exact ih reached
  | case5 => cases reached
  | case6 _ _ there _ _ named _ =>
    cases reached
    obtain ⟨content, file⟩ := filled _ _ rfl
    rw [follow_entry (grown.directory (Decidable.not_not.mp there)) named file (by simp)]
    exact follow_nil
  | case7 => cases reached
  | case8 => cases reached
  | case9 _ _ there _ _ named _ link _ ih =>
    rw [follow_link (grown.directory (Decidable.not_not.mp there)) named (grown.link link)]
    exact ih reached
  | case10 links place rest there piece name named node noLink entry ih =>
    have stays := grown.directory (Decidable.not_not.mp there)
    cases node with
    | link target => exact absurd rfl (noLink target)
    | directory =>
      rw [follow_entry stays named (grown.directory entry) (by simp)]
      exact ih reached
    | file content =>
      obtain ⟨new, file⟩ := grown.file entry
      rw [follow_entry stays named file (by simp)]
      exact ih reached

theorem locate {p : Path} {location : Location} (grown : Grows written before after)
    (leads : before.locate p = .ok location) : after.locate p = .ok location := by
  obtain ⟨spelled, reached⟩ := locate_eq_ok.mp leads
  refine locate_eq_ok.mpr ⟨spelled, ?_⟩
  rw [grown.home]
  exact grown.follow reached nofun

theorem read {p : Path} {content : Content} (grown : Grows written before after)
    (had : before.read p = .ok content)
    (kept : ∀ location, after.locate p = .ok location → ¬ written location) :
    after.read p = .ok content := by
  obtain ⟨location, leads, there⟩ := read_eq_ok.mp had
  have still := grown.locate leads
  exact read_eq_ok.mpr ⟨location, still, grown.unwritten there (kept location still)⟩

end Grows
end FileSystem
end DocAssembly
