import DocAssembly.Failure
import DocAssembly.Log

namespace DocAssembly

inductive LineKind where
  | directive
  | placeholder
  | header
  | text
deriving DecidableEq, Repr

-- Directives come before placeholders, and both before headers.
def LineKind.ofLine (line : Text) : LineKind :=
  if line.startsWith Directive.keyword then .directive
  else if line.startsWith Contents.placeholder then .placeholder
  else if Header.isLine line then .header
  else .text

def FileSystem.readSource (fs : FileSystem) (path : Path) : Except Failure Text :=
  match fs.readText path with
  | .ok source => .ok source
  | .error error => .error (.unreadable path error)

namespace Document

def importBlock (fs : FileSystem) (path : Path) (block : Text) : Except Failure Text :=
  match fs.readSource path with
  | .ok content => .ok (Block.extract content block)
  | .error failure => .error failure

def importedFile (document : Path) (directive : Directive) : Path :=
  ((document.parent?).getD ⟨[]⟩).join ⟨directive.file⟩

def copyHeader (options : ContentsOptions) (line : Text) : Text :=
  if options.backLinks then
    (if line.endsWith "\n" then line else line ++ "\n") ++ Contents.backLink options
  else line

def renderLine (fs : FileSystem) (document : Path) (options : ContentsOptions) (table : Text)
    (number : Nat) (line : Text) : Except Failure Text :=
  match LineKind.ofLine line with
  | .directive =>
    match Directive.parse line with
    | .ok directive => importBlock fs (importedFile document directive) directive.block
    | .error missing =>
      .error (.malformedDirective document number line.stripLineEnding missing)
  | .placeholder => .ok table
  | .header => .ok (copyHeader options line)
  | .text => .ok line

def renderLines (fs : FileSystem) (document : Path) (options : ContentsOptions) (table : Text) :
    Nat → List Text → Except Failure Text
  | _, [] => .ok []
  | number, line :: rest =>
    match renderLine fs document options table number line with
    | .error failure => .error failure
    | .ok first =>
      match renderLines fs document options table (number + 1) rest with
      | .error failure => .error failure
      | .ok others => .ok (first ++ others)

def render (fs : FileSystem) (options : ContentsOptions) (document : Path) (source : Text) :
    Except Failure Text :=
  renderLines fs document options (Contents.ofLines source.lines) 1 source.lines

def renderFile (fs : FileSystem) (options : ContentsOptions) (document : Path) :
    Except Failure Text :=
  match fs.readSource document with
  | .ok source => render fs options document source
  | .error failure => .error failure

def process (fs : FileSystem) (options : ContentsOptions) (document output : Path) :
    FileSystem.Outcome Failure :=
  match renderFile fs options document with
  | .error failure => { fs, error := some failure }
  | .ok content =>
    let wrote := fs.write output (.text content)
    { fs := wrote.fs, error := wrote.error.map .io }

def importTarget : Text := "mdsplice_core::import"

def importLog (fs : FileSystem) (path : Path) (block : Text) : List LogRecord :=
  match fs.readText path with
  | .error _ => []
  | .ok content =>
    let fields : List (Text × Text) := [("path", path.spelling), ("block_id", Text.quote block)]
    match Block.find? content block with
    | some _ => [⟨.debug, importTarget, "imported tagged block", fields⟩]
    | none => [⟨.warn, importTarget, "no tagged block found, importing nothing", fields⟩]

def lineLog (fs : FileSystem) (document : Path) (line : Text) : List LogRecord :=
  match LineKind.ofLine line with
  | .directive =>
    match Directive.parse line with
    | .ok directive => importLog fs (importedFile document directive) directive.block
    | .error _ => []
  | _ => []

def rendersLine (fs : FileSystem) (document : Path) (line : Text) : Bool :=
  (renderLine fs document {} [] 0 line).isOk

-- The records of a document's lines, up to the first that cannot be rendered.
def renderLog (fs : FileSystem) (document : Path) (source : Text) : List LogRecord :=
  (source.lines.takeWhile (rendersLine fs document)).flatMap (lineLog fs document)

def renderFileLog (fs : FileSystem) (document : Path) : List LogRecord :=
  match fs.readText document with
  | .error _ => []
  | .ok source =>
    ⟨.debug, "mdsplice_core::engine", "transforming document", [("path", document.spelling)]⟩ ::
      renderLog fs document source

end Document
end DocAssembly
