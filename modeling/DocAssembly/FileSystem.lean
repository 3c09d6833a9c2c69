import DocAssembly.Path

namespace DocAssembly

inductive FileError where
  | notFound
  | isADirectory
  | notADirectory
  | alreadyExists
  | nameTooLong
  | tooManyLinks
  | nulInPath
  | notText
  | noSpace
deriving DecidableEq, Repr

def FileError.message : FileError → Text
  | .notFound => "No such file or directory (os error 2)"
  | .isADirectory => "Is a directory (os error 21)"
  | .notADirectory => "Not a directory (os error 20)"
  | .alreadyExists => "File exists (os error 17)"
  | .nameTooLong => "File name too long (os error 36)"
  | .tooManyLinks => "Too many levels of symbolic links (os error 40)"
  | .nulInPath => "file name contained an unexpected NUL byte"
  | .notText => "stream did not contain valid UTF-8"
  | .noSpace => "No space left on device (os error 28)"

inductive Content where
  | text (t : Text)
  | binary (bytes : List UInt8) (notText : Text.ofUtf8? bytes = none)
deriving DecidableEq

namespace Content

def ofBytes (bytes : List UInt8) : Content :=
  match read : Text.ofUtf8? bytes with
  | some t => .text t
  | none => .binary bytes read

def bytes : Content → List UInt8
  | .text t => t.utf8
  | .binary bytes _ => bytes

def text? : Content → Option Text
  | .text t => some t
  | .binary .. => none

end Content

def maxNameLength : Nat := 255

structure IsName (name : Text) : Prop where
  nonempty : name ≠ []
  notHere : name ≠ ['.']
  notUp : name ≠ ['.', '.']
  noSeparator : '/' ∉ name
  noNul : '\x00' ∉ name
  short : name.utf8.length ≤ maxNameLength

theorem isName_iff {name : Text} : IsName name ↔
    (name ≠ [] ∧ name ≠ ['.'] ∧ name ≠ ['.', '.']) ∧
      ('/' ∉ name ∧ '\x00' ∉ name ∧ name.utf8.length ≤ maxNameLength) := by
  constructor
  · rintro ⟨nonempty, notHere, notUp, noSeparator, noNul, short⟩
    exact ⟨⟨nonempty, notHere, notUp⟩, noSeparator, noNul, short⟩
  · rintro ⟨⟨nonempty, notHere, notUp⟩, noSeparator, noNul, short⟩
    exact ⟨nonempty, notHere, notUp, noSeparator, noNul, short⟩

instance (name : Text) : Decidable (IsName name) := decidable_of_iff' _ isName_iff

@[ext] structure Name where
  text : Text
  isName : IsName text
deriving DecidableEq

namespace Name

abbrev of (text : Text) (allowed : decide (IsName text) = true := by exact Eq.refl true) : Name :=
  ⟨text, of_decide_eq_true allowed⟩

-- The name that a piece of a path stands for. Of what makes a text no name, only its length is left
-- in such a piece: the other pieces ask for no entry, and no path can hold the null character.
def ofPiece (piece : Text) : Except FileError Name :=
  if isName : IsName piece then .ok ⟨piece, isName⟩ else .error .nameTooLong

@[simp] theorem ofPiece_text (name : Name) : ofPiece name.text = .ok name := by
  simp [ofPiece, name.isName]

theorem ofPiece_eq_ok {piece : Text} {name : Name} :
    ofPiece piece = .ok name ↔ piece = name.text := by
  constructor
  · unfold ofPiece
    split
    · rintro ⟨⟩
      rfl
    · nofun
  · rintro rfl
    exact ofPiece_text name

end Name

instance : Coe Name Path := ⟨fun name => ⟨name.text⟩⟩

-- The names that lead from the root to a place, innermost first.
abbrev Location := List Name

inductive Node where
  | file (content : Content)
  | directory
  | link (target : Path)
deriving DecidableEq

-- The nodes of a file system and its working directory. The first node listed for a location is
-- the one there; nodes below anything but a directory cannot be reached. The root is always a
-- directory, and all directories can be read.
structure FileSystem where
  nodes : List (Location × Node) := []
  workingDirectory : Location := []
  -- How many bytes the file at a place can come to hold, none where there is no limit. That may
  -- depend on all that is stored.
  room : List (Location × Node) → Location → Option Nat := fun _ _ => none

namespace FileSystem

def pathTo (location : Location) : Path :=
  ⟨'/' :: Path.ofPieces (location.reverse.map Name.text)⟩

def workingPath (fs : FileSystem) : Path := pathTo fs.workingDirectory

def node? (fs : FileSystem) (location : Location) : Option Node :=
  if location = [] then some .directory else fs.nodes.lookup location

def names (fs : FileSystem) (directory : Location) : List Name :=
  (fs.nodes.filterMap fun (location, _) =>
    match location with
    | name :: parent => if parent = directory then some name else none
    | [] => none).eraseDups

def put (fs : FileSystem) (location : Location) (node : Node) : FileSystem :=
  if (fs.nodes.lookup location).isSome then
    { fs with nodes := fs.nodes.map fun (l, n) => (l, if l = location then node else n) }
  else { fs with nodes := fs.nodes ++ [(location, node)] }

def discard (fs : FileSystem) (location : Location) : FileSystem :=
  { fs with nodes := fs.nodes.filter fun (l, _) => !location.isSuffixOf l }

inductive Step where
  | self
  | up
  | down (piece : Text)
deriving DecidableEq, Repr

def Step.ofPiece? (piece : Text) : Option Step :=
  if piece = [] then none
  else if piece = ['.'] then some .self
  else if piece = ['.', '.'] then some .up
  else some (.down piece)

-- The steps of a path, without the demand for a directory that a separator at its end makes.
def namedSteps (p : Path) : List Step := (p.spelling.splitOn '/').filterMap Step.ofPiece?

def steps (p : Path) : List Step :=
  namedSteps p ++ if p.spelling.endsWith "/" then [.self] else []

def start (p : Path) (directory : Location) : Location := if p.isAbsolute then [] else directory

inductive Place where
  | occupied (location : Location)
  | vacant (directory : Location) (name : Name)
deriving DecidableEq

-- Paths are shorter than this, in bytes.
def pathLengthLimit : Nat := 4096

def maxLinks : Nat := 40

def follow (fs : FileSystem) (links : Nat) (location : Location) :
    List Step → Except FileError Place
  | [] => .ok (.occupied location)
  | step :: rest =>
    if fs.node? location ≠ some .directory then .error .notADirectory
    else match step with
    | .self => follow fs links location rest
    | .up => follow fs links location.tail rest
    | .down piece =>
      match Name.ofPiece piece with
      | .error error => .error error
      | .ok name =>
        match fs.node? (name :: location) with
        | none => if rest = [] then .ok (.vacant location name) else .error .notFound
        | some (.link target) =>
          match links with
          | 0 => .error .tooManyLinks
          | links + 1 => follow fs links (start target location) (steps target ++ rest)
        | some _ => follow fs links (name :: location) rest
termination_by todo => (links, todo.length)

-- The places that steps from a location look up on their way.
def lookups (fs : FileSystem) (links : Nat) (location : Location) : List Step → List Location
  | [] => []
  | .self :: rest => lookups fs links location rest
  | .up :: rest => lookups fs links location.tail rest
  | .down piece :: rest =>
    match Name.ofPiece piece with
    | .error _ => []
    | .ok name =>
      match fs.node? (name :: location) with
      | some (.link target) =>
        match links with
        | 0 => [name :: location]
        | links + 1 =>
          (name :: location) :: lookups fs links (start target location) (steps target ++ rest)
      | _ => (name :: location) :: lookups fs links (name :: location) rest
termination_by todo => (links, todo.length)

def checkSpelling (p : Path) : Except FileError Unit :=
  if p.spelling.contains '\x00' then .error .nulInPath
  else if p.spelling = [] then .error .notFound
  else if pathLengthLimit ≤ p.spelling.utf8.length then .error .nameTooLong
  else .ok ()

def locate (fs : FileSystem) (p : Path) : Except FileError Location := do
  checkSpelling p
  match ← fs.follow maxLinks (start p fs.workingDirectory) (steps p) with
  | .occupied location => return location
  | .vacant .. => throw .notFound

def locateParent (fs : FileSystem) (p : Path) (before : List Step) : Except FileError Location := do
  match ← fs.follow maxLinks (start p fs.workingDirectory) before with
  | .occupied location =>
    if fs.node? location = some .directory then return location else throw .notADirectory
  | .vacant .. => throw .notFound

def canonical? (fs : FileSystem) (p : Path) : Option Location := (fs.locate p).toOption

def isAddressable (location : Location) : Bool :=
  (pathTo location).spelling.utf8.length < pathLengthLimit

-- The place that a path means, as far as the system can tell: it looks up each place on the way
-- under its path from the root, however short the path is that leads there.
def resolve? (fs : FileSystem) (p : Path) : Option Location :=
  if (fs.lookups maxLinks (start p fs.workingDirectory) (steps p)).all isAddressable then
    fs.canonical? p
  else none

def directoryAt? (fs : FileSystem) (p : Path) : Option Location :=
  match fs.canonical? p with
  | some location => if fs.node? location = some .directory then some location else none
  | none => none

def nodeAt? (fs : FileSystem) (p : Path) : Option Node := (fs.canonical? p).bind fs.node?

def isDirectory (fs : FileSystem) (p : Path) : Bool := (fs.directoryAt? p).isSome

def isFile (fs : FileSystem) (p : Path) : Bool :=
  match fs.nodeAt? p with
  | some (.file _) => true
  | _ => false

def read (fs : FileSystem) (p : Path) : Except FileError Content := do
  match fs.node? (← fs.locate p) with
  | some (.file content) => return content
  | some .directory => throw .isADirectory
  | _ => throw .notFound

def readText (fs : FileSystem) (p : Path) : Except FileError Text := do
  match (← fs.read p).text? with
  | some text => return text
  | none => throw .notText

-- Where the file that is written under a path goes. A path that ends with a separator can only
-- mean a directory.
def locateForWriting (fs : FileSystem) (p : Path) : Except FileError Place := do
  checkSpelling p
  if p.spelling.endsWith "/" then
    let _ ← fs.locateParent p (namedSteps p).dropLast
    throw .isADirectory
  else fs.follow maxLinks (start p fs.workingDirectory) (steps p)

def placeToWrite (fs : FileSystem) (p : Path) : Except FileError Location := do
  match ← fs.locateForWriting p with
  | .vacant directory name => return name :: directory
  | .occupied location =>
    match fs.node? location with
    | some (.file _) => return location
    | _ => throw .isADirectory

-- What an operation leaves behind: the file system after it, and why it failed if it did. A failed
-- operation may have changed something before.
structure Outcome (ε : Type) where
  fs : FileSystem
  error : Option ε := none

def openFile (fs : FileSystem) (location : Location) : FileSystem :=
  fs.put location (.file (.text []))

-- How much of a content there is room for at a place, when that is not all of it.
def shortage? (fs : FileSystem) (location : Location) (content : Content) : Option Nat :=
  (fs.room fs.nodes location).filter (· < content.bytes.length)

def fill (fs : FileSystem) (location : Location) (content : Content) : Outcome FileError :=
  match fs.shortage? location content with
  | none => { fs := fs.put location (.file content) }
  | some room =>
    { fs := fs.put location (.file (.ofBytes (content.bytes.take room))), error := some .noSpace }

def write (fs : FileSystem) (p : Path) (content : Content) : Outcome FileError :=
  match fs.placeToWrite p with
  | .error error => { fs, error }
  | .ok location => (fs.openFile location).fill location content

def create (fs : FileSystem) (p : Path) (node : Node) : Except FileError FileSystem := do
  checkSpelling p
  let way := namedSteps p
  let parent ← fs.locateParent p way.dropLast
  match way.getLast? with
  | some (.down piece) =>
    let name ← Name.ofPiece piece
    if (fs.node? (name :: parent)).isSome then throw .alreadyExists
    else return fs.put (name :: parent) node
  | _ => throw .alreadyExists

def makeDirectory (fs : FileSystem) (p : Path) : Except FileError FileSystem :=
  fs.create p .directory

def ancestors (p : Path) : List Path :=
  go p.components.length p
where
  go : Nat → Path → List Path
    | 0, p => [p]
    | n + 1, p => p :: match p.parent? with
      | some parent => go n parent
      | none => []

-- Makes a directory under the first of some paths, making the later ones first where that is
-- needed. A directory that is already there will do.
def makeFirst (fs : FileSystem) : List Path → Outcome FileError
  | [] => { fs }
  | p :: shorter =>
    if p.components = [] then { fs }
    else match fs.makeDirectory p with
    | .ok made => { fs := made }
    | .error .notFound =>
      match fs.makeFirst shorter with
      | { fs := below, error := some error } => { fs := below, error }
      | { fs := below, error := none } =>
        match below.makeDirectory p with
        | .ok made => { fs := made }
        | .error error => { fs := below, error := if below.isDirectory p then none else error }
    | .error error => { fs, error := if fs.isDirectory p then none else error }

def makeDirectories (fs : FileSystem) (p : Path) : Outcome FileError := fs.makeFirst (ancestors p)

def makeLink (fs : FileSystem) (target p : Path) : Except FileError FileSystem := do
  checkSpelling target
  fs.create p (.link target)

def remove (fs : FileSystem) (p : Path) : Except FileError FileSystem := do
  checkSpelling p
  let way := namedSteps p
  let parent ← fs.locateParent p way.dropLast
  match way.getLast? with
  | some (.down piece) =>
    let name ← Name.ofPiece piece
    if (fs.node? (name :: parent)).isSome then return fs.discard (name :: parent)
    else throw .notFound
  | _ => throw .isADirectory

def below (fs : FileSystem) (directory : Location) : List (Text × Node) :=
  (fs.nodes.filterMap fun (location, node) =>
    if directory.isSuffixOf location && location.length ≠ directory.length then
      let names := location.take (location.length - directory.length)
      some (Path.ofPieces (names.reverse.map Name.text), node)
    else none).mergeSort fun a b => a.1.le b.1

end FileSystem
end DocAssembly
