namespace DocAssembly

abbrev Text := List Char

instance : Coe String Text := ⟨String.toList⟩

namespace Text

def lines : Text → List Text
  | [] => []
  | c :: rest =>
    if c = '\n' then [c] :: lines rest
    else match lines rest with
      | [] => [[c]]
      | line :: others => (c :: line) :: others

def after? (text lead : Text) : Option Text := lead.isPrefixOf? text

def startsWith (text lead : Text) : Bool := lead.isPrefixOf text

def endsWith (text tail : Text) : Bool := tail.isSuffixOf text

def before? (text tail : Text) : Option Text := tail.isSuffixOf? text

def dropTail (text tail : Text) : Text := (text.before? tail).getD text

def cut? (mark : Text) : Text → Option (Text × Text)
  | [] => if mark.isEmpty then some ([], []) else none
  | c :: rest =>
    match mark.isPrefixOf? (c :: rest) with
    | some after => some ([], after)
    | none => (cut? mark rest).map fun (before, after) => (c :: before, after)

def between? (text opening closing : Text) : Option Text := do
  let (_, rest) ← cut? opening text
  let (inner, _) ← cut? closing rest
  return inner

def isBlank (c : Char) : Bool :=
  let n := c.toNat
  (0x09 ≤ n && n ≤ 0x0D) || n == 0x20 || n == 0x85 || n == 0xA0 || n == 0x1680 ||
  (0x2000 ≤ n && n ≤ 0x200A) || n == 0x2028 || n == 0x2029 || n == 0x202F || n == 0x205F ||
  n == 0x3000

def trimStart (text : Text) : Text := text.dropWhile isBlank

def trimEnd (text : Text) : Text := (text.reverse.dropWhile isBlank).reverse

def trim (text : Text) : Text := text.trimStart.trimEnd

-- A line without its terminator, `\n` or `\r\n`; a lone `\r` at the end goes too.
def stripLineEnding (line : Text) : Text := (line.dropTail "\n").dropTail "\r"

def utf8 (text : Text) : List UInt8 := text.flatMap String.utf8EncodeChar

def ofUtf8? (bytes : List UInt8) : Option Text :=
  (String.fromUTF8? ⟨bytes.toArray⟩).map String.toList

-- Character by character order, which is also the order of the bytes in UTF-8.
def le : Text → Text → Bool
  | [], _ => true
  | _ :: _, [] => false
  | a :: as, b :: bs => if a = b then le as bs else a.toNat < b.toNat

def ofNat (n : Nat) : Text := Nat.toDigits 10 n

def switch (code : Text) : Text := "\x1b[" ++ code ++ "m"

def dye (colored : Bool) (code text : Text) : Text :=
  if colored then switch code ++ text ++ switch "0" else text

def tint (colored : Bool) (code text : Text) : Text :=
  if colored then switch code ++ text ++ switch "39" else text

@[simp] theorem flatten_lines (text : Text) : text.lines.flatten = text := by
  induction text with
  | nil => rfl
  | cons c rest ih =>
    unfold lines
    split
    · simp [ih]
    · split
      · next nothing => simp [nothing] at ih; simp [← ih]
      · next line others cutAs => simp [cutAs] at ih; simp [← ih]

theorem nil_not_mem_lines (text : Text) : [] ∉ text.lines := by
  induction text with
  | nil => simp [lines]
  | cons c rest ih =>
    unfold lines
    split
    · simp [ih]
    · split
      · simp
      · next line others cutAs =>
        rw [cutAs] at ih
        simp_all

end Text

structure CharSet where
  ranges : Array (Nat × Nat)

namespace CharSet

def digitValue (c : Char) : Nat :=
  if '0' ≤ c ∧ c ≤ '9' then c.toNat - '0'.toNat
  else if 'A' ≤ c ∧ c ≤ 'F' then c.toNat - 'A'.toNat + 10
  else if 'a' ≤ c ∧ c ≤ 'f' then c.toNat - 'a'.toNat + 10
  else 0

def hexValue (digits : Text) : Nat := digits.foldl (fun n c => 16 * n + digitValue c) 0

def ofRanges (written : Text) : CharSet where
  ranges := ((written.splitOn '\n').flatMap (List.splitOn ' ')).toArray.filter (!·.isEmpty) |>.map
    fun item =>
    match Text.cut? "-" item with
    | some (first, last) => (hexValue first, hexValue last)
    | none => (hexValue item, hexValue item)

def contains (set : CharSet) (c : Char) : Bool :=
  set.ranges.any fun (first, last) => first ≤ c.toNat && c.toNat ≤ last

end CharSet

end DocAssembly
