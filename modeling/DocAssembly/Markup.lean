import DocAssembly.Text.Lowercase

namespace DocAssembly

structure Header where
  level : Nat
  title : Text
  anchor : Text
deriving DecidableEq, Repr

namespace Header

def anchorOmits : List Char := [':', '+', ',', '!', '"', '(', ')']

def slug (title : Text) : Text :=
  (title.lowercase.filter (!anchorOmits.contains ·)).map fun c => if c = ' ' then '-' else c

def isLine (line : Text) : Bool := line.startsWith "#" && !line.startsWith "#include"

-- Reads a line as a header: the word up to the first space gives the level, the rest the title.
def ofLine (line : Text) : Header :=
  let line := line.stripLineEnding
  let (marks, rest) := (Text.cut? " " line).getD (line, [])
  let title := rest.trimEnd
  { level := marks.length, title, anchor := slug title }

def collect (lines : List Text) : List Header := (lines.filter isLine).map ofLine

end Header

structure ContentsOptions where
  backLinks : Bool := false
  backLinkImage : Text := "docs/toc.png"
deriving DecidableEq, Repr

namespace Contents

def anchorLine : Text := "<span id=\"TOC\"/></span>\n"

def placeholder : Text := "[TOC]"

def entry (header : Header) : Text :=
  List.replicate (2 * (header.level - 1)) ' ' ++ "* [" ++ header.title ++ "](#" ++ header.anchor ++
    ")\n"

def entries (lines : List Text) : Text := (Header.collect lines).flatMap entry

def ofLines (lines : List Text) : Text := anchorLine ++ "\n" ++ entries lines

def backLink (options : ContentsOptions) : Text :=
  "[![TOC](" ++ options.backLinkImage ++ ")](#TOC)\n"

end Contents

structure Directive where
  file : Text
  block : Text
deriving DecidableEq, Repr

inductive MissingPart where
  | file
  | block
deriving DecidableEq, Repr

def MissingPart.describe : MissingPart → Text
  | .file => "the quoted path after `@import`"
  | .block => "the `md_id=...\x7d` block identifier"

namespace Directive

def keyword : Text := "@import"

def fileOpening : Text := "@import \""
def fileClosing : Text := "\""
def blockOpening : Text := "md_id="
def blockClosing : Text := "\x7d"

-- Reads a directive. Without a path it does not matter whether the block is there.
def parse (line : Text) : Except MissingPart Directive :=
  match line.between? fileOpening fileClosing with
  | none => .error .file
  | some file =>
    match line.between? blockOpening blockClosing with
    | none => .error .block
    | some block => .ok { file, block }

end Directive

structure TaggedBlock where
  id : Text
  body : Text
deriving DecidableEq, Repr

namespace Block

def marker : Text := "@@md"

-- Whether a line opens the block `id`. Its tag only has to start with `id`.
def opens (id line : Text) : Bool :=
  match line.trim.after? marker with
  | some ('#' :: tag) => Text.startsWith tag id
  | _ => false

-- Whether a line closes the block before it. Every marker does.
def closes (line : Text) : Bool := line.trim.startsWith marker

def bodyLines? (id : Text) : List Text → Option (List Text)
  | [] => none
  | line :: rest => if opens id line then some (rest.takeWhile (!closes ·)) else bodyLines? id rest

-- The first block `id` of a file. Whatever more its tag says, it goes by the identifier `id`.
def find? (content id : Text) : Option TaggedBlock :=
  (bodyLines? id content.lines).map fun body => { id, body := body.flatten }

def extract (content id : Text) : Text := ((find? content id).map (·.body)).getD []

end Block

end DocAssembly
