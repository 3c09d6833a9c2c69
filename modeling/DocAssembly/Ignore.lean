import DocAssembly.FileSystem
import DocAssembly.Glob

namespace DocAssembly

structure IgnoreRule where
  glob : Glob
  keeps : Bool
  directoriesOnly : Bool

namespace IgnoreRule

def cutMark (mark text : Text) : Bool × Text :=
  match text.after? mark with
  | some rest => (true, rest)
  | none => (false, text)

inductive Reading where
  | rule (rule : IgnoreRule)
  | nothing
  | malformed

-- The glob of a rule. One without a `/` fits names in any directory, and one that ends with `/**`
-- fits only what is inside.
def globText (anchored : Bool) (text : Text) : Text :=
  let anywhere := !anchored && !text.contains '/' && text ≠ "**"
  let glob : Text := if anywhere then "**/" ++ text else text
  if glob.endsWith "/**" then glob ++ "/*" else glob

-- Reads a line. Blanks at its end do not count unless there is a backslash before the last one.
def ofLine (line : Text) : Reading :=
  if line.startsWith "#" then .nothing
  else
    let line := if line.endsWith "\\ " then line else line.trimEnd
    if line.isEmpty then .nothing
    else
      let (keeps, anchored, text) :=
        if line.startsWith "\\!" ∨ line.startsWith "\\#" then (false, false, line.drop 1)
        else
          let (keeps, text) := cutMark "!" line
          let (anchored, text) := cutMark "/" text
          (keeps, anchored, text)
      let (directoriesOnly, text) := match Text.before? text "/" with
        | some text => (true, Text.dropTail text "\\")
        | none => (false, text)
      match Glob.parse? (globText anchored text) with
      | some glob => .rule { glob, keeps, directoriesOnly }
      | none => .malformed

end IgnoreRule

structure IgnoreList where
  root : Path
  rules : List IgnoreRule

namespace IgnoreList

def dropHere (text : Text) : Text := (text.after? "./").getD text

def new (root : Path) (rules : List IgnoreRule) : IgnoreList := ⟨⟨dropHere root.spelling⟩, rules⟩

def relative (list : IgnoreList) (p : Path) : Text :=
  let text := dropHere p.spelling
  if list.root.same ⟨"."⟩ || !text.contains '/' then text
  else match text.after? list.root.spelling with
  | some rest => (rest.after? "/").getD rest
  | none => text

def ignores (list : IgnoreList) (p : Path) (isDirectory : Bool) : Bool :=
  let text := (list.relative p).utf8
  let fits (rule : IgnoreRule) : Bool :=
    (!rule.directoriesOnly || isDirectory) && rule.glob.matchesBytes text
  match list.rules.reverse.find? fits with
  | some rule => !rule.keeps
  | none => false

def ofPatterns (root : Path) (patterns : List Text) : Except Text IgnoreList :=
  go patterns [] |>.map (new root)
where
  go : List Text → List IgnoreRule → Except Text (List IgnoreRule)
    | [], rules => .ok rules.reverse
    | pattern :: rest, rules =>
      match IgnoreRule.ofLine pattern with
      | .rule rule => go rest (rule :: rules)
      | .nothing => go rest rules
      | .malformed => .error pattern

def ofLines (root : Path) (lines : List Text) : IgnoreList :=
  new root <| lines.filterMap fun line =>
    match IgnoreRule.ofLine line with
    | .rule rule => some rule
    | _ => none

end IgnoreList

namespace Content

def byteLines : List UInt8 → List (List UInt8)
  | [] => []
  | b :: rest =>
    if b = 0x0A then [b] :: byteLines rest
    else match byteLines rest with
      | [] => [[b]]
      | line :: others => (b :: line) :: others

def leadingTexts : List (List UInt8) → List Text
  | [] => []
  | bytes :: rest =>
    match Text.ofUtf8? bytes with
    | some line => line :: leadingTexts rest
    | none => []

def dropTerminator (line : Text) : Text :=
  match line.before? "\n" with
  | some line => Text.dropTail line "\r"
  | none => line

def leadingLines : Content → List Text
  | .text t => t.lines.map dropTerminator
  | .binary bytes _ => (leadingTexts (byteLines bytes)).map dropTerminator

end Content

namespace IgnoreList

def dropMarks : List Text → List Text
  | [] => []
  | first :: rest => first.dropWhile (· = '\ufeff') :: rest

def fileName : Path := ⟨".gitignore"⟩

def ofDirectory (fs : FileSystem) (root : Path) : IgnoreList :=
  match fs.read (root.join fileName) with
  | .ok content => ofLines root (dropMarks content.leadingLines)
  | .error _ => ofLines root []

end IgnoreList
end DocAssembly
