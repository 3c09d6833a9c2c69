import DocAssembly.Discovery
import DocAssembly.Document

namespace DocAssembly

structure DocumentPair where
  template : Path
  output : Path
deriving DecidableEq, Repr

structure Project where
  root : Path
  configFile : Option Path
  documents : List DocumentPair
  contents : ContentsOptions
deriving Repr

namespace Project

def documentsFor (fs : FileSystem) (root : Path) (config : Config) :
    Except Failure (List DocumentPair) :=
  match config.documents with
  | [] =>
    match Discovery.discover fs root config.excluded config.disableGitignore with
    | .error failure => .error failure
    | .ok templates => .ok <| templates.filterMap fun template =>
      (Template.output? template).map fun output => { template, output }
  | listed => .ok <| listed.map fun entry =>
    { template := root.join entry.template, output := root.join entry.output }

-- Checks the outputs of documents in order, `seen` being the outputs of those before.
def checkOutputsFrom (templates seen : List Path) : List DocumentPair → Except Failure Unit
  | [] => .ok ()
  | document :: rest =>
    if templates.any document.output.same then .error (.outputIsTemplate document.output)
    else if seen.any document.output.same then .error (.duplicateOutput document.output)
    else checkOutputsFrom templates (document.output :: seen) rest

def checkOutputs (documents : List DocumentPair) : Except Failure Unit :=
  checkOutputsFrom (documents.map (·.template)) [] documents

def load (fs : FileSystem) (root : Path) : Except Failure Project := do
  let config := (← Config.load? fs root).getD {}
  let documents ← documentsFor fs root config
  checkOutputs documents
  return { root, configFile := Config.find? fs root, documents, contents := config.contents }

def projectTarget : Text := "mdsplice_core::project"

def loadLog (fs : FileSystem) (root : Path) : List LogRecord :=
  Config.loadLog fs root ++
    match load fs root with
    | .ok project => [⟨.debug, projectTarget, "loaded project",
        [("root", root.spelling), ("documents", Text.ofNat project.documents.length)]⟩]
    | .error _ => []

end Project

structure RenderedDocument where
  pair : DocumentPair
  content : Text
  -- The text of the output as it was when the document was rendered, if it could be read.
  current : Option Text
deriving DecidableEq, Repr

def RenderedDocument.isStale (document : RenderedDocument) : Bool :=
  document.current != some document.content

structure DocumentFailure where
  pair : DocumentPair
  failure : Failure
deriving DecidableEq, Repr

structure Rendering where
  documents : List RenderedDocument := []
  failures : List DocumentFailure := []
deriving DecidableEq, Repr

namespace Rendering

def stale (rendering : Rendering) : List RenderedDocument :=
  rendering.documents.filter (·.isStale)

def hasFailures (rendering : Rendering) : Bool := !rendering.failures.isEmpty

def isClean (rendering : Rendering) : Bool := rendering.stale.isEmpty && !rendering.hasFailures

end Rendering

namespace Project

def renderDocument (fs : FileSystem) (options : ContentsOptions) (pair : DocumentPair) :
    Except DocumentFailure RenderedDocument :=
  match Document.renderFile fs options pair.template with
  | .ok content => .ok { pair, content, current := (fs.readText pair.output).toOption }
  | .error failure => .error { pair, failure }

def renderAll (fs : FileSystem) (options : ContentsOptions) : List DocumentPair → Rendering
  | [] => {}
  | pair :: rest =>
    let others := renderAll fs options rest
    match renderDocument fs options pair with
    | .ok document => { others with documents := document :: others.documents }
    | .error failure => { others with failures := failure :: others.failures }

def render (fs : FileSystem) (project : Project) : Rendering :=
  renderAll fs project.contents project.documents

def renderDocumentLog (fs : FileSystem) (options : ContentsOptions) (pair : DocumentPair) :
    List LogRecord :=
  Document.renderFileLog fs pair.template ++
    match Document.renderFile fs options pair.template with
    | .ok _ => []
    | .error failure => [⟨.debug, projectTarget, "failed to render document",
        [("template", pair.template.spelling), ("error", failure.message)]⟩]

def renderLog (fs : FileSystem) (project : Project) : List LogRecord :=
  project.documents.flatMap (renderDocumentLog fs project.contents)

def makeWay (fs : FileSystem) (output : Path) : FileSystem.Outcome FileError :=
  match output.parent? with
  | some parent => if parent.spelling.isEmpty then { fs } else fs.makeDirectories parent
  | none => { fs }

def writeDocument (fs : FileSystem) (document : RenderedDocument) : FileSystem.Outcome FileError :=
  let output := document.pair.output
  let prepared := makeWay fs output
  match prepared.error with
  | some _ => prepared
  | none => prepared.fs.write output (.text document.content)

structure Written where
  fs : FileSystem
  outputs : List Path := []
  error : Option FileError := none

def writeDocuments (fs : FileSystem) : List RenderedDocument → Written
  | [] => { fs }
  | document :: rest =>
    match writeDocument fs document with
    | { fs := after, error := some error } => { fs := after, error }
    | { fs := after, error := none } =>
      let others := writeDocuments after rest
      { others with outputs := document.pair.output :: others.outputs }

def write (fs : FileSystem) (rendering : Rendering) : Written := writeDocuments fs rendering.stale

def writeLog (written : Written) : List LogRecord :=
  written.outputs.map fun output =>
    ⟨.debug, projectTarget, "wrote output", [("output", output.spelling)]⟩

end Project
end DocAssembly
