import DocAssembly.Text.Basic

namespace DocAssembly

structure Path where
  spelling : Text
deriving DecidableEq, Repr

inductive Component where
  | root
  | here
  | up
  | named (name : Text)
deriving DecidableEq, Repr

namespace Component

def le : Component → Component → Bool
  | .root, _ => true
  | .here, .root => false
  | .here, _ => true
  | .up, .root => false
  | .up, .here => false
  | .up, _ => true
  | .named a, .named b => a.le b
  | .named _, _ => false

-- The component that a piece of a path stands for after the first. Empty pieces and `.` stand
-- for none.
def ofPiece? (piece : Text) : Option Component :=
  if piece = [] ∨ piece = ['.'] then none
  else if piece = ['.', '.'] then some .up
  else some (.named piece)

end Component

namespace Path

def isAbsolute (p : Path) : Bool := p.spelling.startsWith "/"

def startsHere (p : Path) : Bool := p.spelling == ['.'] || p.spelling.startsWith "./"

def lead (p : Path) : Text :=
  if p.isAbsolute then ['/'] else if p.startsHere then ['.'] else []

def body (p : Path) : List Text := (p.spelling.drop p.lead.length).splitOn '/'

def leadComponents (p : Path) : List Component :=
  if p.isAbsolute then [.root] else if p.startsHere then [.here] else []

def components (p : Path) : List Component := p.leadComponents ++ p.body.filterMap Component.ofPiece?

def same (p q : Path) : Bool := p.components == q.components

def componentsLe : List Component → List Component → Bool
  | [], _ => true
  | _ :: _, [] => false
  | a :: as, b :: bs => if a = b then componentsLe as bs else a.le b

def le (p q : Path) : Bool := componentsLe p.components q.components

def isFiller (piece : Text) : Bool := (Component.ofPiece? piece).isNone

def trimFillers (pieces : List Text) : List Text := (pieces.reverse.dropWhile isFiller).reverse

abbrev ofPieces (pieces : List Text) : Text := List.intercalate ['/'] pieces

def join (p other : Path) : Path :=
  if other.isAbsolute then other
  else if p.spelling.isEmpty || p.spelling.endsWith "/" then ⟨p.spelling ++ other.spelling⟩
  else ⟨p.spelling ++ ['/'] ++ other.spelling⟩

-- The path without its last component, in its own spelling.
def parent? (p : Path) : Option Path :=
  match trimFillers p.body with
  | [] => if p.lead = ['.'] then some ⟨[]⟩ else none
  | pieces => some ⟨p.lead ++ ofPieces (trimFillers pieces.dropLast)⟩

def fileName? (p : Path) : Option Text :=
  match p.components.getLast? with
  | some (.named name) => some name
  | _ => none

def withFileName (p : Path) (name : Text) : Path :=
  match p.fileName?, p.parent? with
  | some _, some dir => dir.join ⟨name⟩
  | _, _ => p.join ⟨name⟩

def dropPieces : Nat → List Text → List Text
  | 0, pieces => pieces
  | _ + 1, [] => []
  | n + 1, piece :: rest => if isFiller piece then dropPieces (n + 1) rest else dropPieces n rest

-- How `p` is shown to someone who knows `root`: what follows the components of `root`, or all of
-- `p` when it does not start with them.
def relativeTo (p root : Path) : Text :=
  if root.components.isPrefixOf p.components then
    match root.components.length with
    | 0 => p.lead ++ ofPieces (trimFillers p.body)
    | n => ofPieces (trimFillers ((dropPieces (n - p.leadComponents.length) p.body).dropWhile isFiller))
  else p.spelling

end Path
end DocAssembly
