import DocAssembly.Command

namespace DocAssembly

namespace Invocation

def rootPath (fs : FileSystem) (invocation : Invocation) : Path :=
  match invocation.root with
  | some root => ⟨root⟩
  | none => fs.workingPath

def noCommandCode : Nat := 1

def run (fs : FileSystem) (invocation : Invocation) : Run :=
  match invocation.command with
  | some command => command.run fs (invocation.rootPath fs) invocation.verbose
  | none => { messages := [.noCommand], code := noCommandCode, fs }

end Invocation

def Refusal.run (fs : FileSystem) : Refusal → Run
  | .help => .saying fs [.help] .success
  | .version => .saying fs [.version] .success
  | .misuse => .saying fs [.misuse] .failed

structure Environment where
  logSetting : Option Text := none
  noColor : Bool := false
deriving DecidableEq, Repr

namespace Environment

-- The filter for log records. A setting that cannot be read counts as none.
def logFilter (environment : Environment) (verbose : Bool) : LogFilter :=
  if verbose then .detailed
  else ((environment.logSetting.bind LogFilter.parse?)).getD .warnings

end Environment

structure Session where
  code : Nat
  output : Text
  errors : Text
  fs : FileSystem

namespace Session

def ofRun (filter : LogFilter) (colored : Bool) (run : Run) : Session where
  code := run.code
  output := Channel.output.transcript filter colored run.messages
  errors := Channel.error.transcript filter colored run.messages
  fs := run.fs

def start (fs : FileSystem) (environment : Environment) (arguments : List Text) : Session :=
  match Arguments.read arguments with
  | .error refusal => ofRun .warnings false (refusal.run fs)
  | .ok invocation =>
    ofRun (environment.logFilter invocation.verbose)
      (!(invocation.noColor || environment.noColor)) (invocation.run fs)

end Session
end DocAssembly
