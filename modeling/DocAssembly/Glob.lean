import DocAssembly.Text.Basic

namespace DocAssembly

namespace Glob

inductive Token where
  | literal (c : Char)
  | any
  | star
  -- Directories before a name, or none: `**/` at the start.
  | leading
  -- Everything inside a directory: `/**` at the end.
  | inside
  -- Directories between two names, or none: `/**/`.
  | between
  | oneOf (negated : Bool) (ranges : List (Char × Char))
  | alternatives (choices : List (List Token))

inductive ClassReading where
  | closed (negated : Bool) (ranges : List (Char × Char)) (length : Nat)
  | unclosed
  | reversed

-- Reads the members of a class. `ranges` holds those before, the last one first; `open` tells that
-- a hyphen waits for the end of a range; `length` counts the characters.
def readMembers (negated first waiting : Bool) (ranges : List (Char × Char)) (length : Nat) :
    Text → ClassReading
  | [] => .unclosed
  | c :: rest =>
    if c = ']' ∧ !first then
      .closed negated (if waiting then ('-', '-') :: ranges else ranges).reverse (length + 1)
    else if c = '-' ∧ !first ∧ !waiting then
      readMembers negated false true ranges (length + 1) rest
    else match waiting, ranges with
    | true, (start, _) :: others =>
      if c < start then .reversed
      else readMembers negated false false ((start, c) :: others) (length + 1) rest
    | _, _ => readMembers negated false false ((c, c) :: ranges) (length + 1) rest

def readClass : Text → ClassReading
  | '!' :: rest => readMembers true true false [] 1 rest
  | '^' :: rest => readMembers true true false [] 1 rest
  | text => readMembers false true false [] 0 text

-- A group of alternatives that is still open: its choices so far and the tokens before it, both
-- with the last one first.
structure Group where
  choices : List (List Token)
  outer : List Token

-- What has been read: the tokens of the current choice, the last one first, and the groups around
-- it, the innermost first.
structure State where
  tokens : List Token := []
  groups : List Group := []
  -- After a bracket that is never closed, brackets are literal.
  literalBrackets : Bool := false

namespace State

def push (state : State) (token : Token) : State := { state with tokens := token :: state.tokens }

def openGroup (state : State) : State :=
  { state with tokens := [], groups := ⟨[], state.tokens⟩ :: state.groups }

def closeGroup? (state : State) : Option State :=
  match state.groups with
  | [] => none
  | group :: groups =>
    let choices := (state.tokens.reverse :: group.choices).reverse
    some { state with tokens := .alternatives choices :: group.outer, groups }

def comma (state : State) : State :=
  match state.groups with
  | [] => state.push (.literal ',')
  | group :: groups =>
    { state with
      tokens := [], groups := ⟨state.tokens.reverse :: group.choices, group.outer⟩ :: groups }

-- Puts a token for whole directories in place of the separator before it.
def pushDirectories (state : State) (atEnd : Bool) : State :=
  match state.tokens with
  | .leading :: _ => state
  | .inside :: _ => state
  | _ :: others =>
    { state with tokens := (if atEnd then .inside else .between) :: others }
  | [] => state

-- Reads stars after the first, given the character before them and the text after the first. The
-- second part of the result counts the characters that belong to them.
def stars (state : State) (previous : Option Char) (rest : Text) : State × Nat :=
  match rest with
  | '*' :: after =>
    let twoStars := ((state.push .star).push .star, 1)
    if state.tokens.isEmpty then
      match after with
      | [] => (state.push .leading, 1)
      | '/' :: _ => (state.push .leading, 2)
      | _ => twoStars
    else if previous ≠ some '/' ∧
        (state.groups.isEmpty ∨ (previous ≠ some ',' ∧ previous ≠ some '{')) then twoStars
    else match after with
    | [] => (state.pushDirectories true, 1)
    | '/' :: _ => (state.pushDirectories false, 2)
    | c :: _ =>
      if !state.groups.isEmpty ∧ (c = ',' ∨ c = '}') then (state.pushDirectories true, 1)
      else twoStars
  | _ => (state.push .star, 0)

end State

-- Reads a glob on from a state, given the character before the text. The first `skip` characters
-- belong to what was read before.
def readFrom (state : State) (previous : Option Char) (skip : Nat) : Text → Option State
  | [] => some state
  | c :: rest =>
    match skip with
    | skip + 1 => readFrom state (some c) skip rest
    | 0 =>
      if c = '?' then readFrom (state.push .any) (some c) 0 rest
      else if c = '*' then
        let (state, skip) := state.stars previous rest
        readFrom state (some c) skip rest
      else if c = '[' ∧ !state.literalBrackets then
        match readClass rest with
        | .closed negated ranges length =>
          readFrom (state.push (.oneOf negated ranges)) (some c) length rest
        | .unclosed =>
          readFrom { state.push (.literal c) with literalBrackets := true } (some c) 0 rest
        | .reversed => none
      else if c = '{' then readFrom state.openGroup (some c) 0 rest
      else if c = '}' then do readFrom (← state.closeGroup?) (some c) 0 rest
      else if c = ',' then readFrom state.comma (some c) 0 rest
      else if c = '\\' then do
        readFrom (state.push (.literal (← rest.head?))) (some c) 1 rest
      else readFrom (state.push (.literal c)) (some c) 0 rest

end Glob

structure Glob where
  tokens : List Glob.Token

namespace Glob

def parse? (text : Text) : Option Glob := do
  let state ← readFrom {} none 0 text
  if state.groups.isEmpty then some ⟨state.tokens.reverse⟩ else none

def slash : UInt8 := 0x2F

def afterSlashes : List UInt8 → List (List UInt8)
  | [] => []
  | b :: rest => if b = slash then rest :: afterSlashes rest else afterSlashes rest

def withinName : List UInt8 → List (List UInt8)
  | [] => [[]]
  | b :: rest => if b = slash then [b :: rest] else (b :: rest) :: withinName rest

def suffixes : List UInt8 → List (List UInt8)
  | [] => [[]]
  | b :: rest => (b :: rest) :: suffixes rest

-- Whether a byte is in the range between two characters. Of a character of several bytes, those
-- on the far side of the range are members on their own.
def inRange (b : UInt8) (range : Char × Char) : Bool :=
  let first := String.utf8EncodeChar range.1
  let last := String.utf8EncodeChar range.2
  if range.1 = range.2 then first.contains b
  else first.dropLast.contains b || last.tail.contains b ||
    (first.getLastD 0 ≤ b && b ≤ last.headD 0)

-- The texts, each once. They are ends of one text, so their lengths tell them apart.
def distinct (texts : List (List UInt8)) : List (List UInt8) :=
  texts.foldl (fun kept text => if kept.any (·.length = text.length) then kept else kept ++ [text]) []

mutual

def Token.isVoid : Token → Bool
  | .alternatives choices => allVoid choices
  | _ => false

def allVoid : List (List Token) → Bool
  | [] => true
  | choice :: others => isVoid choice && allVoid others

def isVoid : List Token → Bool
  | [] => true
  | token :: rest => token.isVoid && isVoid rest

end

mutual

def Token.after (token : Token) (text : List UInt8) : List (List UInt8) :=
  match token with
  | .literal c => ((String.utf8EncodeChar c).isPrefixOf? text).toList
  | .any => match text with
    | b :: rest => if b = slash then [] else [rest]
    | [] => []
  | .star => withinName text
  | .leading => text :: afterSlashes text
  | .inside => match text with
    | b :: rest => if b = slash then suffixes rest else []
    | [] => []
  | .between => match text with
    | b :: rest => if b = slash then rest :: afterSlashes rest else []
    | [] => []
  | .oneOf negated ranges => match text with
    | b :: rest => if ranges.any (inRange b) != negated then [rest] else []
    | [] => []
  | .alternatives choices => if allVoid choices then [text] else distinct (afterChoices choices text)

-- What can be left after one of several globs. Choices that stand for nothing do not count.
def afterChoices (choices : List (List Token)) (text : List UInt8) : List (List UInt8) :=
  match choices with
  | [] => []
  | choice :: others =>
    (if isVoid choice then [] else afterAll choice [text]) ++ afterChoices others text

def afterAll (tokens : List Token) (texts : List (List UInt8)) : List (List UInt8) :=
  match tokens with
  | [] => texts
  | token :: rest => afterAll rest (distinct (texts.flatMap token.after))

end

def matchesBytes (glob : Glob) (text : List UInt8) : Bool :=
  match glob.tokens with
  | [.leading] => true
  | tokens => (afterAll tokens [text]).any List.isEmpty

end Glob
end DocAssembly
