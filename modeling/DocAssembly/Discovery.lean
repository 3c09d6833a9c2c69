import DocAssembly.Config
import DocAssembly.Ignore

namespace DocAssembly

namespace Template

def nameTail : Text := ".src.md"

def output? (p : Path) : Option Path :=
  match p.fileName? with
  | none => none
  | some name =>
    match name.before? nameTail with
    | none => none
    | some [] => none
    | some stem => some (p.withFileName (stem ++ ".md"))

def isTemplate (p : Path) : Bool := (output? p).isSome

end Template

namespace FileSystem

def directories (fs : FileSystem) : List Location :=
  [] :: fs.nodes.filterMap fun (location, node) =>
    if node = .directory then some location else none

theorem mem_directories (fs : FileSystem) (location : Location)
    (there : fs.node? location = some .directory) : location ∈ fs.directories := by
  unfold node? at there
  split at there
  · next root => simp [directories, root]
  · refine List.mem_cons_of_mem _ (List.mem_filterMap.mpr ⟨(location, .directory), ?_, by simp⟩)
    obtain ⟨before, after, listed, _⟩ := List.lookup_eq_some_iff.mp there
    simp [listed]

theorem directoryAt?_directory (fs : FileSystem) (p : Path) (location : Location)
    (leads : fs.directoryAt? p = some location) : fs.node? location = some .directory := by
  unfold directoryAt? at leads
  split at leads
  · split at leads
    · next directory => cases Option.some.inj leads; exact directory
    · cases leads
  · cases leads

theorem directoryAt?_short (fs : FileSystem) (p : Path) (location : Location)
    (leads : fs.directoryAt? p = some location) : p.spelling.utf8.length < pathLengthLimit := by
  by_cases long : pathLengthLimit ≤ p.spelling.utf8.length
  · have refused : ∀ located, fs.locate p ≠ .ok located := by
      intro located reached
      unfold locate checkSpelling at reached
      simp only [long, if_true] at reached
      split at reached
      · cases reached
      · split at reached
        · cases reached
        · cases reached
    have lost : fs.canonical? p = none := by
      unfold canonical?
      cases reached : fs.locate p with
      | error failure => rfl
      | ok located => exact absurd reached (refused located)
    simp [directoryAt?, lost] at leads
  · exact Nat.not_le.mp long

theorem resolve?_directory (fs : FileSystem) (p : Path) {location there : Location}
    (leads : fs.directoryAt? p = some location) (told : fs.resolve? p = some there) :
    there = location := by
  unfold resolve? at told
  unfold directoryAt? at leads
  split at told
  · rw [told] at leads
    dsimp only at leads
    split at leads
    · exact Option.some.inj leads
    · cases leads
  · cases told

end FileSystem

namespace Text

def characters : List Char := (List.range 0x110000).map Char.ofNat

theorem mem_characters (c : Char) : c ∈ characters := by
  have inRange : c.toNat < 0x110000 := by
    rcases c.valid with low | high
    · exact Nat.lt_trans low (by decide)
    · exact high.2
  exact List.mem_map.mpr ⟨c.toNat, List.mem_range.mpr inRange, Char.ofNat_toNat c⟩

def upTo : Nat → List Text
  | 0 => [[]]
  | n + 1 => [] :: characters.flatMap fun c => (upTo n).map (c :: ·)

theorem mem_upTo {n : Nat} {t : Text} (short : t.length ≤ n) : t ∈ upTo n := by
  induction n generalizing t with
  | zero => simp [upTo, List.length_eq_zero_iff.mp (Nat.le_zero.mp short)]
  | succ n ih =>
    cases t with
    | nil => exact List.mem_cons_self
    | cons c rest =>
      refine List.mem_cons_of_mem _ (List.mem_flatMap.mpr ⟨c, mem_characters c, ?_⟩)
      exact List.mem_map.mpr ⟨rest, ih (Nat.le_of_succ_le_succ short), rfl⟩

theorem length_le_utf8 (t : Text) : t.length ≤ t.utf8.length := by
  induction t with
  | nil => exact Nat.le_refl _
  | cons c rest ih =>
    have one : 0 < (String.utf8EncodeChar c).length := by
      rw [String.length_utf8EncodeChar]
      exact c.utf8Size_pos
    rw [utf8, List.flatMap_cons, List.length_append, List.length_cons, Nat.add_comm]
    exact Nat.add_le_add one ih

end Text

namespace Discovery

-- What a directory is known by once it has been entered: its place, or its path where the system
-- cannot tell the place. The paths of a search go on from one root, so two of them are the same only
-- when they are spelled the same.
inductive Key where
  | place (location : Location)
  | path (p : Path)
deriving DecidableEq

abbrev ListingOrder := Location → List Name → List Name

def storedOrder : ListingOrder := fun _ names => names

structure Search where
  fs : FileSystem
  lists : List IgnoreList
  order : ListingOrder := storedOrder

def isPassedOver (name : Text) : Bool :=
  name.startsWith "." || name == "node_modules" || name == "target"

namespace Search

def admits (search : Search) (directory : Path) (name : Name) : Bool :=
  let p := directory.join name
  !isPassedOver name.text && !search.lists.any (·.ignores p (search.fs.isDirectory p))

def entries (search : Search) (directory : Path) (location : Location) : List Path :=
  (search.order location (search.fs.names location)).filter (search.admits directory) |>.map
    fun name : Name => directory.join name

def subdirectories (search : Search) (directory : Path) (location : Location) : List Path :=
  (search.entries directory location).filter fun p =>
    search.fs.isDirectory p && (Config.find? search.fs p).isNone

def templates (search : Search) (directory : Path) (location : Location) : List Path :=
  (search.entries directory location).filter fun p =>
    !search.fs.isDirectory p && Template.isTemplate p

def key (search : Search) (directory : Path) : Key :=
  match search.fs.resolve? directory with
  | some location => .place location
  | none => .path directory

def keys (search : Search) : List Key :=
  search.fs.directories.map .place ++
    (Text.upTo FileSystem.pathLengthLimit).map fun t => .path ⟨t⟩

theorem key_mem_keys (search : Search) (directory : Path) (location : Location)
    (leads : search.fs.directoryAt? directory = some location) :
    search.key directory ∈ search.keys := by
  unfold key
  split
  · next there told =>
    cases search.fs.resolve?_directory directory leads told
    exact List.mem_append_left _ (List.mem_map.mpr ⟨location,
      search.fs.mem_directories _ (search.fs.directoryAt?_directory _ _ leads), rfl⟩)
  · refine List.mem_append_right _ (List.mem_map.mpr ⟨directory.spelling, Text.mem_upTo ?_, rfl⟩)
    exact Nat.le_trans (Text.length_le_utf8 _)
      (Nat.le_of_lt (search.fs.directoryAt?_short _ _ leads))

def unvisited (search : Search) (visited : List Key) : Nat :=
  (search.keys.filter (· ∉ visited)).length

theorem unvisited_cons (search : Search) (visited : List Key) (key : Key)
    (known : key ∈ search.keys) (new : key ∉ visited) :
    search.unvisited (key :: visited) < search.unvisited visited := by
  have split : search.keys.filter (· ∉ key :: visited) =
      (search.keys.filter (· ∉ visited)).filter (· ≠ key) := by
    simp [List.filter_filter]
  rw [unvisited, split, unvisited, List.length_filter_lt_length_iff_exists]
  exact ⟨key, List.mem_filter.mpr ⟨known, by simpa using new⟩, by simp⟩

-- The directories that the search enters, each with its place, in the order of entering. `pending`
-- are the paths still to be looked at.
def enter (search : Search) (visited : List Key) : (pending : List Path) → List (Path × Location)
  | [] => []
  | directory :: rest =>
    match _leads : search.fs.directoryAt? directory with
    | none => enter search visited rest
    | some location =>
      if _old : search.key directory ∈ visited then enter search visited rest
      else (directory, location) ::
        enter search (search.key directory :: visited)
          (search.subdirectories directory location ++ rest)
termination_by pending => (search.unvisited visited, pending.length)
decreasing_by
  · exact Prod.Lex.right _ (by simp)
  · exact Prod.Lex.right _ (by simp)
  · exact Prod.Lex.left _ _ (unvisited_cons _ _ _
      (search.key_mem_keys _ _ _leads) _old)

def run (search : Search) (root : Path) : List Path :=
  ((search.enter [] [root]).flatMap fun (directory, location) =>
    search.templates directory location).mergeSort Path.le

end Search

-- The templates below a directory. The patterns leave out paths on top of what the ignore file of
-- the directory leaves out; that file may be left aside.
def discover (fs : FileSystem) (root : Path) (patterns : List Text) (disableGitignore : Bool)
    (order : ListingOrder := storedOrder) : Except Failure (List Path) :=
  match IgnoreList.ofPatterns root patterns with
  | .error pattern => .error (.badExcludePattern pattern)
  | .ok excluded =>
    let fromFile := if disableGitignore then [] else [IgnoreList.ofDirectory fs root]
    .ok (Search.run { fs, lists := fromFile ++ [excluded], order } root)

end Discovery
end DocAssembly
