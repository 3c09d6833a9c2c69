import DocAssembly.Text.Basic

namespace DocAssembly

inductive Command where
  | update (dryRun : Bool)
  | check (diff : Bool)
  | list
deriving DecidableEq, Repr

structure Invocation where
  command : Option Command := none
  root : Option Text := none
  verbose : Bool := false
  noColor : Bool := false
deriving DecidableEq, Repr

inductive Refusal where
  | help
  | version
  | misuse
deriving DecidableEq, Repr

namespace Arguments

-- Which part of the command line is read: before the name of a command or after it.
inductive Level where
  | top
  | update
  | check
  | list
deriving DecidableEq, Repr

def Level.named? (name : Text) : Option Level :=
  if name = "update" then some .update
  else if name = "check" then some .check
  else if name = "list" then some .list
  else none

structure Options where
  root : Option Text := none
  verbose : Bool := false
  noColor : Bool := false
  own : Bool := false
  -- The values of a `--path` that has been read but not yet taken in.
  pending : Option (Option Text) := none
deriving Repr

inductive Flag where
  | help
  | version
  | verbose
  | noColor
  | own
deriving DecidableEq, Repr

namespace Options

def takeRoot (options : Options) (value : Text) : Except Refusal Options :=
  if value.isEmpty || options.root.isSome then .error .misuse
  else .ok { options with root := some value }

def settle (options : Options) : Except Refusal Options :=
  match options.pending with
  | none => .ok options
  | some none => .error .misuse
  | some (some value) => takeRoot { options with pending := none } value

def takeFlag (options : Options) (flag : Flag) : Except Refusal Options := do
  let options ← options.settle
  match flag with
  | .help => throw .help
  | .version => throw .version
  | .verbose => if options.verbose then throw .misuse else return { options with verbose := true }
  | .noColor => if options.noColor then throw .misuse else return { options with noColor := true }
  | .own => if options.own then throw .misuse else return { options with own := true }

def notePath (options : Options) (value : Option Text) : Except Refusal Options := do
  let options ← options.settle
  match value with
  | some value => options.takeRoot value
  | none => return { options with pending := some none }

end Options

def longFlag? (level : Level) (name : Text) : Option Flag :=
  if name = "help" then some .help
  else if name = "version" ∧ level = .top then some .version
  else if name = "verbose" then some .verbose
  else if name = "no-color" then some .noColor
  else if name = "dry-run" ∧ level = .update then some .own
  else if name = "diff" ∧ level = .check then some .own
  else none

def shortFlag? (level : Level) (letter : Char) : Option Flag :=
  if letter = 'h' then some .help
  else if letter = 'V' ∧ level = .top then some .version
  else if letter = 'v' then some .verbose
  else none

def long (level : Level) (options : Options) (text : Text) : Except Refusal Options :=
  let (name, value) := match Text.cut? "=" text with
    | some (name, value) => (name, some value)
    | none => (text, none)
  if name = "path" then options.notePath value
  else match longFlag? level name, value with
    | some flag, none => options.takeFlag flag
    | _, _ => .error .misuse

-- Reads the letters of an argument after its hyphen. What follows the letter of an option with a
-- value is the value.
def short (level : Level) (options : Options) : Text → Except Refusal Options
  | [] => .ok options
  | 'p' :: [] => options.notePath none
  | 'p' :: '=' :: value => options.notePath (some value)
  | 'p' :: value => options.notePath (some value)
  | letter :: rest =>
    match shortFlag? level letter with
    | some flag => do short level (← options.takeFlag flag) rest
    | none => .error .misuse

inductive Rest where
  | nothing
  | command (level : Level) (arguments : List Text)
  | help (names : List Text)
deriving Repr

-- Reads the arguments of a part. After `--` there are only values, of which no command has any.
def readPart (level : Level) (options : Options) : List Text → Except Refusal (Options × Rest)
  | [] => .ok (options, .nothing)
  | argument :: rest =>
    if options.pending ≠ some none ∧ level = .top ∧ argument = "help" then .ok (options, .help rest)
    else match if options.pending ≠ some none ∧ level = .top then Level.named? argument else none with
    | some command => .ok (options, .command command rest)
    | none =>
      if argument = "--" then if rest.isEmpty then .ok (options, .nothing) else .error .misuse
      else match argument with
      | '-' :: '-' :: text => do readPart level (← long level options text) rest
      | '-' :: letter :: text => do readPart level (← short level options (letter :: text)) rest
      | value =>
        match options.pending with
        | some none => readPart level { options with pending := some (some value) } rest
        | _ => .error .misuse

def readHelp (names : List Text) : Refusal :=
  match names with
  | [] => .help
  | [name] => if (Level.named? name).isSome ∨ name = "help" then .help else .misuse
  | _ => .misuse

def commandOf (level : Level) (options : Options) : Option Command :=
  match level with
  | .top => none
  | .update => some (.update options.own)
  | .check => some (.check options.own)
  | .list => some .list

def read (arguments : List Text) : Except Refusal Invocation := do
  let (before, rest) ← readPart .top {} arguments
  match rest with
  | .help names => throw (readHelp names)
  | .nothing =>
    let before ← before.settle
    return { root := before.root, verbose := before.verbose, noColor := before.noColor }
  | .command level arguments =>
    let (after, _) ← readPart level {} arguments
    let after ← after.settle
    let before ← before.settle
    return {
      command := commandOf level after
      root := after.root.or before.root
      verbose := before.verbose || after.verbose
      noColor := before.noColor || after.noColor }

end Arguments
end DocAssembly
