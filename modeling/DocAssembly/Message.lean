import DocAssembly.Diff
import DocAssembly.Log
import DocAssembly.Failure

namespace DocAssembly

inductive Message where
  | record (entry : LogRecord)
  | configuration (file : Option Text)
  | documentCount (count : Nat)
  | upToDate
  | dryRun (outputs : List Text)
  | updated (count : Nat)
  | updatedOutput (output : Text)
  | checkPassed
  | staleHeading
  | staleOutput (output template : Text) (missing : Bool)
  | difference (current expected : Text)
  | staleEnd
  | failedDocument (template : Text) (failure : Failure)
  | stopped (failure : Failure)
  | checkSummary (stale failed : Nat)
  | noTemplates
  | documentsHeading
  | document (template output : Text)
  | noCommand
  | help
  | version
  | misuse
deriving DecidableEq, Repr

inductive Channel where
  | output
  | error
deriving DecidableEq, Repr

namespace Message

def channel : Message → Channel
  | .configuration _ | .documentCount _ | .upToDate | .dryRun _ | .updated _ | .updatedOutput _
  | .checkPassed | .noTemplates | .documentsHeading | .document .. | .help | .version => .output
  | .record _ | .staleHeading | .staleOutput .. | .difference .. | .staleEnd | .failedDocument ..
  | .stopped _ | .checkSummary .. | .noCommand | .misuse => .error

def countText (count : Nat) : Text := Text.ofNat count ++ " document(s)"

def summaryParts (stale failed : Nat) : List Text :=
  (if failed = 0 then [] else [countText failed ++ " failed to render"]) ++
    if stale = 0 then [] else [countText stale ++ " are out of date"]

def outputLine (output : Text) : Text := "  " ++ output ++ "\n"

def usage : Text :=
  "Usage: mdsplice [-p PATH] [-v] [--no-color] (update [--dry-run] | check [--diff] | list)\n"

def helpText : Text :=
  "mdsplice renders `*.src.md` templates into final markdown documents.\n\n" ++ usage ++
  "\nCommands:\n" ++
  "  update   Render every template and write the outputs that changed\n" ++
  "           --dry-run  Preview which outputs would change without writing files\n" ++
  "  check    Check that every generated document is up to date\n" ++
  "           --diff     Show the difference for each stale output\n" ++
  "  list     List the template and output pairs of the project\n" ++
  "  help     Print this text\n" ++
  "\nOptions:\n" ++
  "  -p, --path PATH  Path to the project root directory\n" ++
  "  -v, --verbose    Enable verbose output, including debug logs\n" ++
  "      --no-color   Disable colored output\n" ++
  "  -h, --help       Print this text\n" ++
  "  -V, --version    Print the version\n"

def render (colored : Bool) : Message → Text
  | .record entry => entry.render colored
  | .configuration (some file) => "Using config: " ++ file ++ "\n"
  | .configuration none => "No config file found, discovering `*.src.md` templates.\n"
  | .documentCount count => "Found " ++ countText count ++ ".\n"
  | .upToDate => "All documents are already up to date.\n"
  | .dryRun outputs =>
    "Dry run: would update " ++ countText outputs.length ++ ":\n" ++
      outputs.flatMap outputLine
  | .updated count => "Updated " ++ countText count ++ ".\n"
  | .updatedOutput output => outputLine output
  | .checkPassed => "Check passed: all documents are up to date.\n"
  | .staleHeading => "Stale documents:\n"
  | .staleOutput output template missing =>
    "  " ++ output ++ " (from " ++ template ++
      (if missing then ") is missing\n" else ") is out of date\n" : Text)
  | .difference current expected => Diff.render colored current expected
  | .staleEnd => "\n"
  | .failedDocument template failure =>
    Report.render colored (some ("failed to render `" ++ template ++ "`")) failure
  | .stopped failure => Report.render colored none failure
  | .checkSummary stale failed =>
    List.intercalate " and ".toList (summaryParts stale failed) ++
      ". Run `mdsplice update` to fix.\n"
  | .noTemplates => "No templates found.\n"
  | .documentsHeading => Text.dye colored "1" "Documents:" ++ "\n"
  | .document template output => "  " ++ template ++ " -> " ++ output ++ "\n"
  | .noCommand => "No subcommand specified. Run `mdsplice --help` for usage.\n"
  | .help => helpText
  | .version => "mdsplice_cli 0.1.0\n"
  | .misuse => "error: these arguments have no meaning\n\n" ++ usage

def isShown (filter : LogFilter) : Message → Bool
  | .record entry => filter.shows entry
  | _ => true

end Message

def Channel.transcript (channel : Channel) (filter : LogFilter) (colored : Bool)
    (messages : List Message) : Text :=
  (messages.filter fun message => message.channel = channel && message.isShown filter).flatMap
    (Message.render colored)

end DocAssembly
