import DocAssembly.Session

namespace DocAssembly.Main

def absolute (location : Location) : String :=
  String.ofList (FileSystem.pathTo location).spelling

def locationOf (p : String) : Location :=
  ((p.toList.splitOn '/').filterMap fun piece => (Name.ofPiece piece).toOption).reverse

-- A path that leads nowhere, for links that do.
def nowhere : Path := ⟨['/', '\x00']⟩

-- Reads the node at a location, unless that has been done. What cannot be read counts as absent.
def readNode (fs : FileSystem) (location : Location) : IO FileSystem := do
  if (fs.node? location).isSome then return fs
  let p := (← IO.currentDir) / absolute location
  match ← p.symlinkMetadata.toBaseIO with
  | .error _ => return fs
  | .ok metadata =>
    match metadata.type with
    | .dir => return fs.put location .directory
    | .symlink =>
      match ← (IO.FS.realPath p).toBaseIO with
      | .ok target => return fs.put location (.link ⟨target.toString.toList⟩)
      | .error _ => return fs.put location (.link nowhere)
    | _ =>
      match ← (IO.FS.readBinFile p).toBaseIO with
      | .ok bytes => return fs.put location (.file (.ofBytes bytes.toList))
      | .error _ => return fs

def readWay (fs : FileSystem) : Location → IO FileSystem
  | [] => return fs
  | name :: parent => do readNode (← readWay fs parent) (name :: parent)

-- Reads the nodes that some steps lead through. The targets of links are read as a whole, since
-- they are given without links.
def readSteps (fs : FileSystem) (location : Location) : List FileSystem.Step → IO FileSystem
  | [] => return fs
  | .self :: rest => readSteps fs location rest
  | .up :: rest => readSteps fs location.tail rest
  | .down piece :: rest => do
    match Name.ofPiece piece with
    | .error _ => return fs
    | .ok name =>
      let fs ← readNode fs (name :: location)
      match fs.node? (name :: location) with
      | some (.link target) =>
        let place := locationOf (String.ofList target.spelling)
        readSteps (← readWay fs place) place rest
      | _ => readSteps fs (name :: location) rest

def readPath (fs : FileSystem) (p : Path) : IO FileSystem :=
  readSteps fs (FileSystem.start p fs.workingDirectory) (FileSystem.namedSteps p)

def readConfigs (fs : FileSystem) (root : Path) : IO FileSystem :=
  (Config.fileNames.map root.join).foldlM readPath fs

partial def readTree (fs : FileSystem) (visited : List Location) (directory : Path) :
    IO (FileSystem × List Location) := do
  match fs.directoryAt? directory with
  | none => return (fs, visited)
  | some location =>
    if location ∈ visited then return (fs, visited)
    let mut fs := fs
    let mut visited := location :: visited
    for entry in ← ((← IO.currentDir) / absolute location).readDir do
      let name := entry.fileName.toList
      if !Discovery.isPassedOver name then
        let p := directory.join ⟨name⟩
        if Template.isTemplate p || (← entry.path.isDir) then fs ← readPath fs p
        if fs.isDirectory p then
          fs ← readConfigs fs p
          if (Config.find? fs p).isNone then (fs, visited) ← readTree fs visited p
    return (fs, visited)

def readDocument (fs : FileSystem) (pair : DocumentPair) : IO FileSystem := do
  let fs ← readPath (← readPath fs pair.template) pair.output
  match fs.readText pair.template with
  | .error _ => return fs
  | .ok source =>
    let imported := source.lines.filterMap fun line =>
      (Directive.parse line).toOption.map (Document.importedFile pair.template)
    imported.foldlM readPath fs

def readProject (fs : FileSystem) (root : Path) : IO FileSystem := do
  let fs ← readConfigs (← readPath fs root) root
  let fs ← match Config.load? fs root with
    | .ok config =>
      if (config.getD {}).documents.isEmpty then
        pure (← readTree (← readPath fs (root.join IgnoreList.fileName)) [] root).1
      else pure fs
    | .error _ => pure fs
  match Project.load fs root with
  | .ok project => project.documents.foldlM readDocument fs
  | .error _ => return fs

def writeBack (before after : FileSystem) : IO Unit := do
  for (location, node) in after.nodes do
    if before.node? location ≠ some node then
      let p := (← IO.currentDir) / absolute location
      match node with
      | .directory => IO.FS.createDir p
      | .file content => IO.FS.writeBinFile p ⟨content.bytes.toArray⟩
      | .link _ => pure ()

def run (arguments : List Text) : IO UInt32 := do
  let workingDirectory := locationOf (← IO.currentDir).toString
  let fs ← readWay { workingDirectory } workingDirectory
  let fs ← match Arguments.read arguments with
    | .ok invocation =>
      if invocation.command.isSome then readProject fs (invocation.rootPath fs) else pure fs
    | .error _ => pure fs
  let environment : Environment :=
    { logSetting := (← IO.getEnv "RUST_LOG").map String.toList
      noColor := (← IO.getEnv "NO_COLOR").isSome }
  let session := Session.start fs environment arguments
  match ← (writeBack fs session.fs).toBaseIO with
  | .error error =>
    IO.eprintln ("error: " ++ toString error)
    return Status.failed.code.toUInt32
  | .ok _ =>
    IO.print (String.ofList session.output)
    IO.eprint (String.ofList session.errors)
    return session.code.toUInt32

end DocAssembly.Main

def main (arguments : List String) : IO UInt32 := DocAssembly.Main.run (arguments.map String.toList)
