import DocAssembly.Toml.Scalar

namespace DocAssembly.Toml

inductive Origin where
  -- By a header of its own.
  | header
  -- On the way to a table with a header.
  | implied
  -- By a key with dots.
  | dotted
deriving DecidableEq

inductive Node where
  | leaf (value : Value)
  | branch (origin : Origin) (entries : List (Text × Node))
  | elements (tables : List (List (Text × Node)))

abbrev Table := List (Text × Node)

namespace Table

def replace (table : Table) (key : Text) (node : Node) : Table :=
  table.map fun (k, n) => (k, if k = key then node else n)

-- Gives a key with dots a value. Tables on the way are made as needed; the one that gets the value
-- must be the table itself (`own`) or have been made by such keys too.
def assign (table : Table) (own : Bool) (origin : Origin) : List Text → Value → Option Table
  | [], _ => none
  | [key], value =>
    if (own || origin == .dotted) && (table.lookup key).isNone then
      some (table ++ [(key, .leaf value)])
    else none
  | key :: next :: path, value =>
    match table.lookup key with
    | none => do
      let inner ← assign [] false .dotted (next :: path) value
      return table ++ [(key, .branch .dotted inner)]
    | some (.branch .header _) => none
    | some (.branch inner entries) => do
      let entries ← assign entries false inner (next :: path) value
      return replace table key (.branch inner entries)
    | some _ => none

def define (table : Table) (element : Bool) : List Text → Option Table
  | [] => none
  | [key] =>
    match table.lookup key, element with
    | none, false => some (table ++ [(key, .branch .header [])])
    | none, true => some (table ++ [(key, .elements [[]])])
    | some (.branch .implied entries), false =>
      some (replace table key (.branch .header entries))
    | some (.elements tables), true => some (replace table key (.elements (tables ++ [[]])))
    | some _, _ => none
  | key :: next :: path =>
    match table.lookup key with
    | none => do
      let inner ← define [] element (next :: path)
      return table ++ [(key, .branch .implied inner)]
    | some (.branch origin entries) => do
      let entries ← define entries element (next :: path)
      return replace table key (.branch origin entries)
    | some (.elements tables) => do
      let entries ← define (← tables.getLast?) element (next :: path)
      return replace table key (.elements (tables.dropLast ++ [entries]))
    | some (.leaf _) => none

def assignIn (table : Table) (key : List Text) (value : Value) : List Text → Option Table
  | [] => assign table true .header key value
  | step :: path =>
    match table.lookup step with
    | some (.branch origin entries) => do
      return replace table step (.branch origin (← assignIn entries key value path))
    | some (.elements tables) => do
      let entries ← assignIn (← tables.getLast?) key value path
      return replace table step (.elements (tables.dropLast ++ [entries]))
    | _ => none

end Table

mutual

def Node.value : Node → Value
  | .leaf value => value
  | .branch _ entries => .table (valueEntries entries)
  | .elements tables => .array (valueTables tables)

def valueEntries : List (Text × Node) → List (Text × Value)
  | [] => []
  | (key, node) :: rest => (key, node.value) :: valueEntries rest

def valueTables : List (List (Text × Node)) → List Value
  | [] => []
  | entries :: rest => .table (valueEntries entries) :: valueTables rest

end

def isBareKeyChar (c : Char) : Bool := c.isAlphanum || c == '_' || c == '-'

def keyPart? : Text → Option (Text × Text)
  | '"' :: rest => basicString rest
  | '\'' :: rest => literalString rest
  | text =>
    let part := text.takeWhile isBareKeyChar
    if part.isEmpty then none else some (part, text.drop part.length)

def keyParts? : (fuel : Nat) → Text → Option (List Text × Text)
  | 0, _ => none
  | fuel + 1, text => do
    let (part, rest) ← keyPart? (skipSpace text)
    match skipSpace rest with
    | '.' :: rest => do
      let (parts, rest) ← keyParts? fuel rest
      return (part :: parts, rest)
    | rest => return ([part], rest)

-- A key, perhaps with dots. Every part takes up some of the text.
def key? (text : Text) : Option (List Text × Text) := keyParts? (text.length + 1) text

-- The items of an array after its bracket, each read by `item`; `fuel` bounds their number.
def arrayItems? (item : Text → Option (Value × Text)) :
    (fuel : Nat) → Text → Option (List Value × Text)
  | 0, _ => none
  | fuel + 1, text => do
    match ← skipGap false text with
    | ']' :: rest => return ([], rest)
    | text =>
      let (first, rest) ← item text
      match ← skipGap false rest with
      | ']' :: rest => return ([first], rest)
      | ',' :: rest =>
        let (others, rest) ← arrayItems? item fuel rest
        return (first :: others, rest)
      | _ => none

def inlineEntries? (item : Text → Option (Value × Text)) (table : Table) :
    (fuel : Nat) → Text → Option (Table × Text)
  | 0, _ => none
  | fuel + 1, text => do
    match ← skipGap false text with
    | '}' :: rest => return (table, rest)
    | text =>
      let (key, rest) ← key? text
      let (value, rest) ← item (skipSpace (← expect? '=' rest))
      let table ← table.assign true .header key value
      match ← skipGap false rest with
      | '}' :: rest => return (table, rest)
      | ',' :: rest => inlineEntries? item table fuel rest
      | _ => none

def value? : (depth : Nat) → Text → Option (Value × Text)
  | depth, text =>
    match text with
    | '[' :: rest =>
      match depth with
      | 0 => none
      | depth + 1 => (arrayItems? (value? depth) (text.length + 1) rest).map fun (items, rest) =>
        (.array items, rest)
    | '{' :: rest =>
      match depth with
      | 0 => none
      | depth + 1 =>
        (inlineEntries? (value? depth) [] (text.length + 1) rest).map fun (table, rest) =>
          (.table (valueEntries table), rest)
    | c :: _ =>
      if c = '"' ∨ c = '\'' then (string? text).map fun (string, rest) => (.string string, rest)
      else
        let written := word text
        (wordValue? written).map fun value => (value, text.drop written.length)
    | [] => none

def maxDepth : Nat := 80

inductive Statement where
  | assign (key : List Text) (value : Value)
  | header (path : List Text)
  | element (path : List Text)

def statement? : Text → Option (Statement × Text)
  | '[' :: '[' :: rest => do
    let (path, rest) ← key? rest
    return (.element path, ← expect? ']' (← expect? ']' rest))
  | '[' :: rest => do
    let (path, rest) ← key? rest
    return (.header path, ← expect? ']' rest)
  | text => do
    let (key, rest) ← key? text
    let (value, rest) ← value? maxDepth (skipSpace (← expect? '=' rest))
    return (.assign key value, rest)

def statements? : (fuel : Nat) → Text → Option (List Statement)
  | 0, _ => none
  | fuel + 1, text =>
    match skipSpace text with
    | [] => some []
    | c :: rest => do
      if c = '#' ∨ c = '\n' ∨ c = '\r' then statements? fuel (← endOfLine? (c :: rest))
      else
        let (statement, rest) ← statement? (c :: rest)
        return statement :: (← statements? fuel (← endOfLine? rest))

-- Carries out statements on the table of the file; `open` is the path of the table that was opened
-- last.
def run? : (table : Table) → (current : List Text) → List Statement → Option Table
  | table, _, [] => some table
  | table, current, .assign key value :: rest => do
    run? (← table.assignIn key value current) current rest
  | table, _, .header path :: rest => do run? (← table.define false path) path rest
  | table, _, .element path :: rest => do run? (← table.define true path) path rest

def parse? (text : Text) : Option Value := do
  let text := match text with
    | '\ufeff' :: rest => rest
    | text => text
  let statements ← statements? (text.length + 1) text
  return .table (valueEntries (← run? [] [] statements))

end DocAssembly.Toml
