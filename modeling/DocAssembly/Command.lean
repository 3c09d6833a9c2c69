import DocAssembly.Arguments
import DocAssembly.Message
import DocAssembly.Project

namespace DocAssembly

inductive Status where
  | success
  | stale
  | failed
deriving DecidableEq, Repr

def Status.code : Status → Nat
  | .success => 0
  | .stale => 1
  | .failed => 2

structure Run where
  messages : List Message
  code : Nat
  fs : FileSystem

namespace Run

def saying (fs : FileSystem) (messages : List Message) (status : Status) : Run :=
  { messages, code := status.code, fs }

def after (messages : List Message) (run : Run) : Run :=
  { run with messages := messages ++ run.messages }

end Run

namespace Project

def display (project : Project) (path : Path) : Text := path.relativeTo project.root

def introduction (project : Project) (verbose : Bool) : List Message :=
  if verbose then
    [.configuration (project.configFile.map project.display),
      .documentCount project.documents.length]
  else []

def renderRecords (fs : FileSystem) (project : Project) : List Message :=
  (project.renderLog fs).map .record

def failureReports (project : Project) (rendering : Rendering) : List Message :=
  rendering.failures.map fun document =>
    .failedDocument (project.display document.pair.template) document.failure

def renderStatus (rendering : Rendering) : Status :=
  if rendering.hasFailures then .failed else .success

def staleNames (project : Project) (rendering : Rendering) : List Text :=
  (rendering.stale.map fun document => project.display document.pair.output).mergeSort Text.le

def runList (fs : FileSystem) (project : Project) : Run :=
  if project.documents.isEmpty then .saying fs [.noTemplates] .success
  else
    let entries : List Message := project.documents.map fun pair =>
      .document (project.display pair.template) (project.display pair.output)
    .saying fs (.documentsHeading :: entries) .success

-- Writes the outputs that are stale. A failure to write stops the program at once.
def runWrite (fs : FileSystem) (project : Project) (verbose : Bool) (rendering : Rendering) : Run :=
  let written := Project.write fs rendering
  let records : List Message := (writeLog written).map .record
  match written.error with
  | some error =>
    { messages := records ++ [.stopped (.io error)], code := Status.failed.code, fs := written.fs }
  | none =>
    let names : List Message :=
      if verbose then (project.staleNames rendering).map .updatedOutput else []
    { messages := records ++ .updated written.outputs.length :: names ++
        project.failureReports rendering
      code := (renderStatus rendering).code
      fs := written.fs }

def runUpdate (fs : FileSystem) (project : Project) (verbose dryRun : Bool) : Run :=
  let rendering := project.render fs
  let names := project.staleNames rendering
  let reports := project.failureReports rendering
  .after (project.renderRecords fs) <|
    if names.isEmpty then
      let news : List Message := if rendering.hasFailures then [] else [.upToDate]
      .saying fs (news ++ reports) (renderStatus rendering)
    else if dryRun then .saying fs (.dryRun names :: reports) (renderStatus rendering)
    else project.runWrite fs verbose rendering

def staleMessages (project : Project) (diff : Bool) (document : RenderedDocument) : List Message :=
  .staleOutput (project.display document.pair.output) (project.display document.pair.template)
      document.current.isNone ::
    if diff then [.difference (document.current.getD []) document.content] else []

def sortedStale (project : Project) (rendering : Rendering) : List RenderedDocument :=
  rendering.stale.mergeSort fun a b =>
    (project.display a.pair.output).le (project.display b.pair.output)

def runCheck (fs : FileSystem) (project : Project) (diff : Bool) : Run :=
  let rendering := project.render fs
  .after (project.renderRecords fs) <|
    if rendering.isClean then .saying fs [.checkPassed] .success
    else
      let stale : List Message :=
        if rendering.stale.isEmpty then []
        else .staleHeading :: (project.sortedStale rendering).flatMap (project.staleMessages diff)
          ++ [.staleEnd]
      let summary : Message :=
        .checkSummary rendering.stale.length rendering.failures.length
      .saying fs (stale ++ project.failureReports rendering ++ [summary])
        (if rendering.hasFailures then .failed else .stale)

end Project

namespace Command

def runOn (fs : FileSystem) (project : Project) (verbose : Bool) : Command → Run
  | .list => project.runList fs
  | .update dryRun => project.runUpdate fs verbose dryRun
  | .check diff => project.runCheck fs diff

def run (fs : FileSystem) (root : Path) (verbose : Bool) (command : Command) : Run :=
  let records : List Message := (Project.loadLog fs root).map .record
  match Project.load fs root with
  | .error failure => .saying fs (records ++ [.stopped failure]) .failed
  | .ok project =>
    .after (records ++ project.introduction verbose) (command.runOn fs project verbose)

end Command

end DocAssembly
