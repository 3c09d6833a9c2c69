import DocAssembly.Markup
import DocAssembly.Failure
import DocAssembly.Log
import DocAssembly.Toml.Grammar

namespace DocAssembly

-- A template and its output, as a configuration lists them: relative to the root of the project.
structure DocumentEntry where
  template : Path
  output : Path
deriving DecidableEq, Repr

structure Config where
  -- When empty, templates are searched for.
  documents : List DocumentEntry := []
  contents : ContentsOptions := {}
  excluded : List Text := []
  disableGitignore : Bool := false
deriving DecidableEq, Repr

namespace Config

open Toml (Value)

-- How the fields of a record are found in a value: by name in a table, by position in an array.
-- A date counts as a record without known fields.
def fields? : Value → Option (Text → Nat → Option Value)
  | .table entries => some fun name _ => entries.lookup name
  | .array items => some fun _ position => items[position]?
  | .datetime _ => some fun _ _ => none
  | _ => none

def text? : Value → Option Text
  | .string text => some text
  | _ => none

def boolean? : Value → Option Bool
  | .boolean value => some value
  | _ => none

def items? : Value → Option (List Value)
  | .array items => some items
  | _ => none

def optional (field : Option Value) (read : Value → Option α) (default : α) : Option α :=
  match field with
  | some value => read value
  | none => some default

def documentEntry? (value : Value) : Option DocumentEntry := do
  let field ← fields? value
  let template ← text? (← field "template" 0)
  let output ← text? (← field "output" 1)
  return { template := ⟨template⟩, output := ⟨output⟩ }

def contentsOptions? (value : Value) : Option ContentsOptions := do
  let field ← fields? value
  let plain : ContentsOptions := {}
  let backLinks ← optional (field "back_links" 0) boolean? plain.backLinks
  let backLinkImage ← optional (field "back_link_image" 1) text? plain.backLinkImage
  return { backLinks, backLinkImage }

def excluded? (value : Value) : Option (List Text) := do
  let field ← fields? value
  optional (field "patterns" 0) (fun patterns => do (← items? patterns).mapM text?) []

def ofValue? : Value → Option Config
  | .table entries => do
    let field (name : Text) : Option Value := entries.lookup name
    let documents ← optional (field "documents")
      (fun value => do (← items? value).mapM documentEntry?) []
    let contents ← optional (field "toc") contentsOptions? {}
    let excluded ← optional (field "exclude") excluded? []
    let disableGitignore ← optional (field "disable_gitignore") boolean? false
    return { documents, contents, excluded, disableGitignore }
  | _ => none

def parse (text : Text) : Except Failure Config :=
  match (Toml.parse? text).bind ofValue? with
  | some config => .ok config
  | none => .error .malformedConfig

def fileNames : List Path := [⟨"mdsplice.toml"⟩, ⟨".mdsplice.toml"⟩, ⟨".config/mdsplice.toml"⟩]

def find? (fs : FileSystem) (root : Path) : Option Path :=
  (fileNames.map root.join).find? fs.isFile

def load? (fs : FileSystem) (root : Path) : Except Failure (Option Config) :=
  match find? fs root with
  | none => .ok none
  | some path =>
    match fs.readText path with
    | .error error => .error (.unreadable path error)
    | .ok text =>
      match parse text with
      | .ok config => .ok (some config)
      | .error failure => .error failure

def loadLog (fs : FileSystem) (root : Path) : List LogRecord :=
  match find? fs root, load? fs root with
  | some path, .ok _ =>
    [⟨.debug, "mdsplice_core::config", "loaded config", [("path", path.spelling)]⟩]
  | _, _ => []

end Config
end DocAssembly
