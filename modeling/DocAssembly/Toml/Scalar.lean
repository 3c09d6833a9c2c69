import DocAssembly.Text.Basic

namespace DocAssembly.Toml

-- Keys stand in the order in which they first appear. Floats and dates keep their spelling.
inductive Value where
  | string (text : Text)
  | integer (value : Int)
  | float (written : Text)
  | boolean (value : Bool)
  | datetime (written : Text)
  | array (items : List Value)
  | table (entries : List (Text × Value))

def isSpace (c : Char) : Bool := c == ' ' || c == '\t'

-- Control characters; only the tab may stand in comments and strings.
def isControl (c : Char) : Bool := (c.toNat < 0x20 && c != '\t') || c.toNat == 0x7F

def skipSpace (text : Text) : Text := text.dropWhile isSpace

def newline? : Text → Option Text
  | '\n' :: rest => some rest
  | '\r' :: '\n' :: rest => some rest
  | _ => none

def endOfLine? (text : Text) : Option Text :=
  let rest := match skipSpace text with
    | '#' :: comment => comment.dropWhile (!isControl ·)
    | other => other
  if rest.isEmpty then some [] else newline? rest

def skipGap (inComment : Bool) : Text → Option Text
  | [] => some []
  | c :: rest =>
    if c = '\n' then skipGap false rest
    else if c = '\r' then if rest.head? = some '\n' then skipGap inComment rest else none
    else if inComment then if isControl c then none else skipGap true rest
    else if isSpace c then skipGap false rest
    else if c = '#' then skipGap true rest
    else some (c :: rest)

def isHexDigit (c : Char) : Bool := c.isDigit || ('a' ≤ c && c ≤ 'f') || ('A' ≤ c && c ≤ 'F')

def charOf? (digits : Text) : Option Char :=
  let n := CharSet.hexValue digits
  if digits.all isHexDigit ∧ n.isValidChar then some (Char.ofNat n) else none

def shortEscape? : Char → Option Char
  | 'b' => some '\x08'
  | 't' => some '\t'
  | 'n' => some '\n'
  | 'f' => some '\x0c'
  | 'r' => some '\r'
  | 'e' => some '\x1b'
  | '"' => some '"'
  | '\\' => some '\\'
  | _ => none

def before (c : Char) (read : Option (Text × Text)) : Option (Text × Text) :=
  read.map fun (text, rest) => (c :: text, rest)

def basicString : Text → Option (Text × Text)
  | [] => none
  | '"' :: rest => some ([], rest)
  | '\\' :: 'x' :: a :: b :: rest => (charOf? [a, b]).bind (before · (basicString rest))
  | '\\' :: 'u' :: a :: b :: c :: d :: rest =>
    (charOf? [a, b, c, d]).bind (before · (basicString rest))
  | '\\' :: 'U' :: a :: b :: c :: d :: e :: f :: g :: h :: rest =>
    (charOf? [a, b, c, d, e, f, g, h]).bind (before · (basicString rest))
  | '\\' :: c :: rest => (shortEscape? c).bind (before · (basicString rest))
  | c :: rest => if isControl c || c = '\\' then none else before c (basicString rest)

def literalString : Text → Option (Text × Text)
  | [] => none
  | '\'' :: rest => some ([], rest)
  | c :: rest => if isControl c then none else before c (literalString rest)

-- The rest of a string in three single quotes. Two quotes may stand before the closing ones.
def multiLiteralString : Text → Option (Text × Text)
  | [] => none
  | '\'' :: '\'' :: '\'' :: '\'' :: '\'' :: rest => some (['\'', '\''], rest)
  | '\'' :: '\'' :: '\'' :: '\'' :: rest => some (['\''], rest)
  | '\'' :: '\'' :: '\'' :: rest => some ([], rest)
  | '\r' :: '\n' :: rest => before '\r' (before '\n' (multiLiteralString rest))
  | c :: rest =>
    if isControl c && c ≠ '\n' then none else before c (multiLiteralString rest)

inductive Skip where
  | nothing
  -- Blanks up to the end of the line, which has to come.
  | toLineEnd
  | blanks
deriving DecidableEq

def multiBasicString : Skip → Text → Option (Text × Text)
  | _, [] => none
  | .toLineEnd, c :: rest =>
    if c = '\n' then multiBasicString .blanks rest
    else if isSpace c || (c = '\r' && rest.head? = some '\n') then multiBasicString .toLineEnd rest
    else none
  | .blanks, c :: rest =>
    if isSpace c || c = '\n' || (c = '\r' && rest.head? = some '\n') then
      multiBasicString .blanks rest
    else multiBasicString .nothing (c :: rest)
  | .nothing, '"' :: '"' :: '"' :: '"' :: '"' :: rest => some (['"', '"'], rest)
  | .nothing, '"' :: '"' :: '"' :: '"' :: rest => some (['"'], rest)
  | .nothing, '"' :: '"' :: '"' :: rest => some ([], rest)
  | .nothing, '\r' :: '\n' :: rest => before '\r' (before '\n' (multiBasicString .nothing rest))
  | .nothing, '\\' :: 'x' :: a :: b :: rest =>
    (charOf? [a, b]).bind (before · (multiBasicString .nothing rest))
  | .nothing, '\\' :: 'u' :: a :: b :: c :: d :: rest =>
    (charOf? [a, b, c, d]).bind (before · (multiBasicString .nothing rest))
  | .nothing, '\\' :: 'U' :: a :: b :: c :: d :: e :: f :: g :: h :: rest =>
    (charOf? [a, b, c, d, e, f, g, h]).bind (before · (multiBasicString .nothing rest))
  | .nothing, '\\' :: c :: rest =>
    match shortEscape? c with
    | some escaped => before escaped (multiBasicString .nothing rest)
    | none => multiBasicString .toLineEnd (c :: rest)
  | .nothing, c :: rest =>
    if (isControl c && c ≠ '\n') || c = '\\' then none
    else before c (multiBasicString .nothing rest)
termination_by skip text => (text.length, if skip = .blanks then 1 else 0)

def skipNewline (text : Text) : Text := (newline? text).getD text

def string? : Text → Option (Text × Text)
  | '"' :: '"' :: '"' :: rest => multiBasicString .nothing (skipNewline rest)
  | '"' :: rest => basicString rest
  | '\'' :: '\'' :: '\'' :: rest => multiLiteralString (skipNewline rest)
  | '\'' :: rest => literalString rest
  | _ => none

def isWordChar (c : Char) : Bool := c.isAlphanum || c == '+' || c == '-' || c == '_' || c == '.' || c == ':'

def digits? (isDigit : Char → Bool) (text : Text) : Option Text :=
  let groups := text.splitOn '_'
  if groups.all fun group => !group.isEmpty && group.all isDigit then some groups.flatten else none

def sign : Text → Bool × Text
  | '-' :: rest => (true, rest)
  | '+' :: rest => (false, rest)
  | text => (false, text)

def wholeDigits? (text : Text) : Option Text := do
  let digits ← digits? Char.isDigit text
  if digits.head? = some '0' ∧ digits ≠ ['0'] then none else some digits

def decimalValue (digits : Text) : Nat :=
  digits.foldl (fun n c => 10 * n + (c.toNat - '0'.toNat)) 0

def integerInRange (n : Int) : Bool :=
  -(Int.ofNat (Nat.pow 2 127)) ≤ n && n < Int.ofNat (Nat.pow 2 128)

def based? (isDigit : Char → Bool) (base : Nat) (text : Text) : Option Int := do
  let digits ← digits? isDigit text
  return Int.ofNat (digits.foldl (fun n c => base * n + CharSet.digitValue c) 0)

def integer? (word : Text) : Option Value := do
  let n ← match word with
    | '0' :: 'x' :: rest => based? isHexDigit 16 rest
    | '0' :: 'o' :: rest => based? (fun c => '0' ≤ c && c ≤ '7') 8 rest
    | '0' :: 'b' :: rest => based? (fun c => c == '0' || c == '1') 2 rest
    | _ =>
      let (negative, rest) := sign word
      (wholeDigits? rest).map fun digits =>
        if negative then -(Int.ofNat (decimalValue digits)) else Int.ofNat (decimalValue digits)
  if integerInRange n then some (.integer n) else none

-- Whether `mantissa · 10 ^ exponent` is too large for a float of 64 bits: it would round to
-- `2 ^ 1024` or more.
def overflows (mantissa : Nat) (exponent : Int) : Bool :=
  let magnitude : Int := (Nat.toDigits 10 mantissa).length + exponent
  if mantissa = 0 ∨ magnitude < 300 then false
  else if 320 < magnitude then true
  else
    let limit := Nat.pow 2 1024 - Nat.pow 2 970
    if 0 ≤ exponent then limit ≤ mantissa * Nat.pow 10 exponent.toNat
    else limit * Nat.pow 10 (-exponent).toNat ≤ mantissa

def float? (word : Text) : Option Value := do
  let (_, rest) := sign word
  if rest = "inf" ∨ rest = "nan" then return .float word
  let whole := rest.takeWhile fun c => c.isDigit || c == '_'
  let after := rest.drop whole.length
  let wholeDigits ← wholeDigits? whole
  let fraction := match after with
    | '.' :: rest => rest.takeWhile fun c => c.isDigit || c == '_'
    | _ => []
  let after := match after with
    | '.' :: rest => rest.drop fraction.length
    | other => other
  let hasFraction := rest.drop whole.length ≠ after
  let fractionDigits ← if hasFraction then digits? Char.isDigit fraction else some []
  let exponent ← match after with
    | [] => if hasFraction then some 0 else none
    | e :: rest =>
      if e = 'e' ∨ e = 'E' then
        let (negative, rest) := sign rest
        (digits? Char.isDigit rest).map fun digits =>
          if negative then -(Int.ofNat (decimalValue digits)) else Int.ofNat (decimalValue digits)
      else none
  if overflows (decimalValue (wholeDigits ++ fractionDigits)) (exponent - fractionDigits.length) then
    none
  else return .float word

def two? (limit : Nat) : Text → Option (Nat × Text)
  | a :: b :: rest =>
    if a.isDigit ∧ b.isDigit ∧ decimalValue [a, b] ≤ limit then some (decimalValue [a, b], rest)
    else none
  | _ => none

def expect? (c : Char) : Text → Option Text
  | d :: rest => if d = c then some rest else none
  | [] => none

def isLeapYear (year : Nat) : Bool := year % 4 == 0 && (year % 100 != 0 || year % 400 == 0)

def daysIn (year month : Nat) : Nat :=
  if month = 2 then if isLeapYear year then 29 else 28
  else if month = 4 ∨ month = 6 ∨ month = 9 ∨ month = 11 then 30
  else 31

def date? (text : Text) : Option Text := do
  let year := text.take 4
  if year.length < 4 ∨ !year.all Char.isDigit then none
  let rest ← expect? '-' (text.drop 4)
  let (month, rest) ← two? 12 rest
  let rest ← expect? '-' rest
  let (day, rest) ← two? 31 rest
  if month = 0 ∨ day = 0 ∨ daysIn (decimalValue year) month < day then none
  return rest

def time? (text : Text) : Option Text := do
  let (_, rest) ← two? 23 text
  let rest ← expect? ':' rest
  let (_, rest) ← two? 59 rest
  match rest with
  | ':' :: rest => do
    let (_, rest) ← two? 60 rest
    match rest with
    | '.' :: fraction =>
      let digits := fraction.takeWhile Char.isDigit
      if digits.isEmpty then none else return fraction.drop digits.length
    | rest => return rest
  | rest => return rest

def isOffset : Text → Bool
  | [] => true
  | ['Z'] => true
  | ['z'] => true
  | c :: rest =>
    (c == '+' || c == '-') && ((do
      let (_, rest) ← two? 23 rest
      let rest ← expect? ':' rest
      let (_, rest) ← two? 59 rest
      return rest.isEmpty).getD false)

def datetime? (word : Text) : Option Value :=
  match date? word with
  | none => if time? word = some [] then some (.datetime word) else none
  | some [] => some (.datetime word)
  | some (sep :: rest) =>
    if sep = 'T' ∨ sep = 't' ∨ sep = ' ' then
      match time? rest with
      | some zone => if isOffset zone then some (.datetime word) else none
      | none => none
    else none

-- The word at the start of a text. A time after a date and a space belongs to the word.
def word (text : Text) : Text :=
  let first := text.takeWhile isWordChar
  match text.drop first.length with
  | ' ' :: c :: rest =>
    if c.isDigit ∧ date? first = some [] then first ++ ' ' :: (c :: rest).takeWhile isWordChar
    else first
  | _ => first

def wordValue? (word : Text) : Option Value :=
  if word = "true" then some (.boolean true)
  else if word = "false" then some (.boolean false)
  else (integer? word).or ((float? word).or (datetime? word))

end DocAssembly.Toml
