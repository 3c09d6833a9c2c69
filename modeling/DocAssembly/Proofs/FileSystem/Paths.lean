import DocAssembly.FileSystem
import Mathlib.Logic.Basic

namespace DocAssembly

section

variable {ε α β : Type}

@[simp] theorem bind_eq_ok {step : Except ε α} {next : α → Except ε β} {result : β} :
    (step >>= next) = .ok result ↔ ∃ value, step = .ok value ∧ next value = .ok result := by
  cases step <;> simp [bind, Except.bind]

@[simp] theorem pure_eq_ok {value result : α} :
    (pure value : Except ε α) = .ok result ↔ value = result := by
  simp [pure, Except.pure]

@[simp] theorem throw_ne_ok {error : ε} {result : α} : (throw error : Except ε α) ≠ .ok result :=
  nofun

end

namespace FileSystem

def Place.location : Place → Location
  | .occupied location => location
  | .vacant directory name => name :: directory

variable {fs : FileSystem} {links : Nat} {location : Location} {rest : List Step} {name : Name}
  {piece : Text}

theorem follow_nil : fs.follow links location [] = .ok (.occupied location) := by
  rw [follow]

theorem follow_self (there : fs.node? location = some .directory) :
    fs.follow links location (.self :: rest) = fs.follow links location rest := by
  rw [follow]
  simp [there]

theorem follow_up (there : fs.node? location = some .directory) :
    fs.follow links location (.up :: rest) = fs.follow links location.tail rest := by
  rw [follow]
  simp [there]

theorem follow_link {target : Path} (there : fs.node? location = some .directory)
    (named : Name.ofPiece piece = .ok name)
    (entry : fs.node? (name :: location) = some (.link target)) :
    fs.follow (links + 1) location (.down piece :: rest) =
      fs.follow links (start target location) (steps target ++ rest) := by
  rw [follow]
  simp [there, named, entry]

theorem follow_entry {node : Node} (there : fs.node? location = some .directory)
    (named : Name.ofPiece piece = .ok name)
    (entry : fs.node? (name :: location) = some node) (noLink : ∀ target, node ≠ .link target) :
    fs.follow links location (.down piece :: rest) = fs.follow links (name :: location) rest := by
  rw [follow]
  cases node with
  | link target => exact absurd rfl (noLink target)
  | file content => simp [there, named, entry]
  | directory => simp [there, named, entry]

-- A path ends at a free name only in a directory that lacks the name.
theorem follow_vacant {start : Location} {todo : List Step} {directory : Location}
    (reached : fs.follow links start todo = .ok (.vacant directory name)) :
    fs.node? directory = some .directory ∧ fs.node? (name :: directory) = none := by
  fun_induction follow fs links start todo with
  | case1 => cases reached
  | case2 => cases reached
  | case3 _ _ _ _ ih => exact ih reached
  | case4 _ _ _ _ ih => exact ih reached
  | case5 => cases reached
  | case6 _ _ there _ _ _ free =>
    cases reached
    exact ⟨Decidable.not_not.mp there, free⟩
  | case7 => cases reached
  | case8 => cases reached
  | case9 _ _ _ _ _ _ _ _ _ ih => exact ih reached
  | case10 _ _ _ _ _ _ _ _ _ _ ih => exact ih reached

theorem locate_eq_ok {p : Path} : fs.locate p = .ok location ↔
    checkSpelling p = .ok () ∧
      fs.follow maxLinks (start p fs.workingDirectory) (steps p) = .ok (.occupied location) := by
  unfold locate
  rw [bind_eq_ok]
  constructor
  · rintro ⟨_, spelled, found⟩
    obtain ⟨place, reached, ends⟩ := bind_eq_ok.mp found
    cases place with
    | occupied location => exact ⟨spelled, pure_eq_ok.mp ends ▸ reached⟩
    | vacant directory name => exact absurd ends throw_ne_ok
  · rintro ⟨spelled, reached⟩
    exact ⟨(), spelled, bind_eq_ok.mpr ⟨_, reached, rfl⟩⟩

theorem canonical?_eq_some {p : Path} :
    fs.canonical? p = some location ↔ fs.locate p = .ok location := by
  unfold canonical?
  cases fs.locate p <;> simp [Except.toOption]

theorem read_eq_ok {p : Path} {content : Content} : fs.read p = .ok content ↔
    ∃ location, fs.locate p = .ok location ∧ fs.node? location = some (.file content) := by
  unfold read
  rw [bind_eq_ok]
  refine exists_congr fun location => and_congr_right fun _ => ?_
  cases fs.node? location with
  | none => simp
  | some node => cases node <;> simp

theorem readText_eq_ok {p : Path} {text : Text} :
    fs.readText p = .ok text ↔ fs.read p = .ok (.text text) := by
  have asText : ∀ content : Content, content.text? = some text ↔ content = .text text := by
    intro content
    cases content <;> simp [Content.text?]
  unfold readText
  rw [bind_eq_ok]
  constructor
  · rintro ⟨content, had, ends⟩
    cases is : content.text? with
    | none => simp [is] at ends
    | some own =>
      simp only [is, pure_eq_ok] at ends
      exact (asText content).mp (ends ▸ is) ▸ had
  · intro had
    exact ⟨_, had, rfl⟩

theorem canonical?_eq {p q : Path} (first : fs.locate p = .ok location)
    (second : fs.locate q = .ok location) : fs.canonical? p = fs.canonical? q := by
  rw [canonical?_eq_some.mpr first, canonical?_eq_some.mpr second]

theorem readText_place {p q : Path} {text : Text} (same : fs.canonical? p = fs.canonical? q)
    (had : fs.readText p = .ok text) : fs.readText q = .ok text := by
  rw [readText_eq_ok] at had ⊢
  obtain ⟨location, leads, there⟩ := read_eq_ok.mp had
  rw [canonical?_eq_some.mpr leads, eq_comm, canonical?_eq_some] at same
  exact read_eq_ok.mpr ⟨location, same, there⟩

end FileSystem
end DocAssembly
