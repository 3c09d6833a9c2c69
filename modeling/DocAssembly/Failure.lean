import DocAssembly.FileSystem
import DocAssembly.Markup
import DocAssembly.Text.Wrap

namespace DocAssembly

inductive Failure where
  | io (error : FileError)
  | unreadable (path : Path) (error : FileError)
  -- Lines count from one; the directive is the line without its terminator.
  | malformedDirective (document : Path) (line : Nat) (directive : Text) (missing : MissingPart)
  | malformedConfig
  | badExcludePattern (pattern : Text)
  | duplicateOutput (output : Path)
  | outputIsTemplate (output : Path)
deriving DecidableEq, Repr

namespace Failure

def code : Failure → Text
  | .io _ => "mdsplice::io_error"
  | .unreadable .. => "mdsplice::unreadable_file"
  | .malformedDirective .. => "mdsplice::malformed_directive"
  | .malformedConfig => "mdsplice::config_parse"
  | .badExcludePattern _ => "mdsplice::invalid_exclude_pattern"
  | .duplicateOutput _ => "mdsplice::duplicate_output"
  | .outputIsTemplate _ => "mdsplice::output_is_template"

def message : Failure → Text
  | .io error => error.message
  | .unreadable path _ => "unable to read `" ++ path.spelling ++ "`"
  | .malformedDirective document line _ missing =>
    "malformed import directive at " ++ document.spelling ++ ":" ++ Text.ofNat line ++
      ": missing " ++ missing.describe
  -- This message and the next would go on in the words of the readers of TOML and of globs.
  | .malformedConfig => "failed to parse config file: "
  | .badExcludePattern pattern => "invalid exclude pattern `" ++ pattern ++ "`: "
  | .duplicateOutput output =>
    "output `" ++ output.spelling ++ "` is generated by more than one template"
  | .outputIsTemplate output => "output `" ++ output.spelling ++ "` would overwrite a template"

def cause? : Failure → Option Text
  | .unreadable _ error => some error.message
  | _ => none

def help? : Failure → Option Text
  | .io _ => none
  | .unreadable .. =>
    some "check that the file exists and that import paths are relative to the importing document"
  | .malformedDirective .. =>
    some "import directives have the shape `@import \"relative/path\" \x7bmd_id=BlockId\x7d`"
  | .malformedConfig =>
    some ("check that mdsplice.toml is valid TOML with [[documents]], [toc] and/or [exclude] " ++
      "sections")
  | .badExcludePattern _ => none
  | .duplicateOutput _ => some "each [[documents]] entry must write to a distinct output file"
  | .outputIsTemplate _ =>
    some "rename the template so its output does not collide with another template"

end Failure

namespace Report

def columns : Nat := 80

structure Signs where
  failure : Text
  bar : Text
  cause : Text
  lastCause : Text

def plainSigns : Signs := ⟨"x", "|", "|->", "`->"⟩

def fancySigns : Signs := ⟨"×", "│", "├─▶", "╰─▶"⟩

def margin : Nat := 2

def paragraph (plain shown : Text.Indent) (text : Text) : Text :=
  Text.wrap (columns - margin) plain shown text ++ "\n"

def headline (colored : Bool) (text : Text) : Text :=
  let signs := if colored then fancySigns else plainSigns
  let indent (dye : Text → Text) : Text.Indent :=
    ⟨"  " ++ dye signs.failure ++ " ", "  " ++ dye signs.bar ++ " "⟩
  paragraph (indent id) (indent (Text.dye colored "31")) text

def causeLine (colored last : Bool) (text : Text) : Text :=
  let signs := if colored then fancySigns else plainSigns
  let indent (dye : Text → Text) : Text.Indent :=
    ⟨dye ("  " ++ (if last then signs.lastCause else signs.cause) ++ " "),
      dye ("  " ++ (if last then [' '] else signs.bar) ++ "   ")⟩
  paragraph (indent id) (indent (Text.dye colored "31")) text

def causeLines (colored : Bool) : List Text → Text
  | [] => []
  | [text] => causeLine colored true text
  | text :: rest => causeLine colored false text ++ causeLines colored rest

def helpLine (colored : Bool) (text : Text) : Text :=
  let indent (dye : Text → Text) : Text.Indent := ⟨dye "  help: ", "        "⟩
  paragraph (indent id) (indent (Text.dye colored "36")) text

def render (colored : Bool) (context : Option Text) (failure : Failure) : Text :=
  let messages := context.toList ++ [failure.message] ++ failure.cause?.toList
  Text.dye colored "31" failure.code ++ "\n\n" ++
    headline colored (messages.headD []) ++ causeLines colored messages.tail ++
    ((failure.help?.map (helpLine colored)).getD []) ++ "\n"

end Report
end DocAssembly
