import DocAssembly.Text.Alphanumeric
import DocAssembly.Text.LineBreak

namespace DocAssembly.Text

def wideChars : CharSet := .ofRanges
  "1100-115F 17A4 231A-231B 2329-232A 23E9-23EC 23F0 23F3 25FD-25FE 2614-2615 2648-2653 267F 2693
   26A1 26AA-26AB 26BD-26BE 26C4-26C5 26CE 26D4 26EA 26F2-26F3 26F5 26FA 26FD 2705 270A-270B 2728
   274C 274E 2753-2755 2757 2795-2797 27B0 27BF 2B1B-2B1C 2B50 2B55 2E80-2E99 2E9B-2EF3 2F00-2FD5
   2FF0-2FFB 3000-3029 3030-303E 3041-3096 309B-30FF 3105-312F 3131-3163 3165-318E 3190-31E3
   31F0-321E 3220-3247 3250-4DBF 4E00-A48C A490-A4C6 A960-A97C AC00-D7A3 F900-FAFF FE10-FE19
   FE30-FE52 FE54-FE66 FE68-FE6B FF01-FF60 FFE0-FFE6 16FE0-16FE3 16FF0-16FF1 17000-187F7
   18800-18CD5 18D00-18D08 1AFF0-1AFF3 1AFF5-1AFFB 1AFFD-1AFFE 1B000-1B122 1B132 1B150-1B152
   1B155 1B164-1B167 1B170-1B2FB 1F004 1F0CF 1F18E 1F191-1F19A 1F200-1F202 1F210-1F23B
   1F240-1F248 1F250-1F251 1F260-1F265 1F300-1F320 1F32D-1F335 1F337-1F37C 1F37E-1F393
   1F3A0-1F3CA 1F3CF-1F3D3 1F3E0-1F3F0 1F3F4 1F3F8-1F43E 1F440 1F442-1F4FC 1F4FF-1F53D
   1F54B-1F54E 1F550-1F567 1F57A 1F595-1F596 1F5A4 1F5FB-1F64F 1F680-1F6C5 1F6CC 1F6D0-1F6D2
   1F6D5-1F6D7 1F6DC-1F6DF 1F6EB-1F6EC 1F6F4-1F6FC 1F7E0-1F7EB 1F7F0 1F90C-1F93A 1F93C-1F945
   1F947-1F9FF 1FA70-1FA7C 1FA80-1FA88 1FA90-1FABD 1FABF-1FAC5 1FACE-1FADB 1FAE0-1FAE8
   1FAF0-1FAF8 20000-2FFFD 30000-3FFFD"

-- Characters without a column of their own: marks, joiners and other ignorable ones.
def zeroWidthChars : CharSet := .ofRanges
  "00AD 0300-036F 0483-0489 0591-05BD 05BF 05C1-05C2 05C4-05C5 05C7 0605 0610-061A 061C 064B-065F
   0670 06D6-06DC 06DF-06E4 06E7-06E8 06EA-06ED 070F 0711 0730-074A 07A6-07B0 07EB-07F3 07FD
   0816-0819 081B-0823 0825-0827 0829-082D 0859-085B 0890-0891 0898-089F 08CA-0902 093A 093C
   0941-0948 094D 0951-0957 0962-0963 0981 09BC 09BE 09C1-09C4 09CD 09D7 09E2-09E3 09FE 0A01-0A02
   0A3C 0A41-0A42 0A47-0A48 0A4B-0A4D 0A51 0A70-0A71 0A75 0A81-0A82 0ABC 0AC1-0AC5 0AC7-0AC8 0ACD
   0AE2-0AE3 0AFA-0AFF 0B01 0B3C 0B3E-0B3F 0B41-0B44 0B4D 0B55-0B57 0B62-0B63 0B82 0BBE 0BC0 0BCD
   0BD7 0C00 0C04 0C3C 0C3E-0C40 0C46-0C48 0C4A-0C4D 0C55-0C56 0C62-0C63 0C81 0CBC 0CBF 0CC2 0CC6
   0CCC-0CCD 0CD5-0CD6 0CE2-0CE3 0D00-0D01 0D3B-0D3C 0D3E 0D41-0D44 0D4D 0D57 0D62-0D63 0D81 0DCA
   0DCF 0DD2-0DD4 0DD6 0DDF 0E31 0E34-0E3A 0E47-0E4E 0EB1 0EB4-0EBC 0EC8-0ECE 0F18-0F19 0F35 0F37
   0F39 0F71-0F7E 0F80-0F84 0F86-0F87 0F8D-0F97 0F99-0FBC 0FC6 102D-1030 1032-1037 1039-103A
   103D-103E 1058-1059 105E-1060 1071-1074 1082 1085-1086 108D 109D 1160-11FF 135D-135F 1712-1714
   1732-1733 1752-1753 1772-1773 17B4-17B5 17B7-17BD 17C6 17C9-17D3 17DD 180B-180F 1885-1886 18A9
   1920-1922 1927-1928 1932 1939-193B 1A17-1A18 1A1B 1A56 1A58-1A5E 1A60 1A62 1A65-1A6C 1A73-1A7C
   1A7F 1AB0-1ACE 1B00-1B03 1B34-1B3A 1B3C 1B42 1B6B-1B73 1B80-1B81 1BA2-1BA5 1BA8-1BA9 1BAB-1BAD
   1BE6 1BE8-1BE9 1BED 1BEF-1BF1 1C2C-1C33 1C36-1C37 1CD0-1CD2 1CD4-1CE0 1CE2-1CE8 1CED 1CF4
   1CF8-1CF9 1DC0-1DFF 200B-200F 202A-202E 2060-206F 20D0-20F0 2CEF-2CF1 2DE0-2DFF 302A-302F
   3099-309A 3164 A66F-A672 A674-A67D A69E-A69F A6F0-A6F1 A802 A806 A80B A825-A826 A82C A8C4-A8C5
   A8E0-A8F1 A8FA A8FF A926-A92D A947-A951 A980-A982 A9B3 A9B6-A9B9 A9BC-A9BD A9E5 AA29-AA2E
   AA31-AA32 AA35-AA36 AA43 AA4C AA7C AAB0 AAB2-AAB4 AAB7-AAB8 AABE-AABF AAC1 AAEC-AAED AAF6 ABE5
   ABE8 ABED D7B0-D7C6 D7CB-D7FB FB1E FE00-FE0F FE20-FE2F FEFF FF9E-FFA0 FFF0-FFF8 101FD 102E0
   10376-1037A 10A01-10A03 10A05-10A06 10A0C-10A0F 10A38-10A3A 10A3F 10AE5-10AE6 10D24-10D27
   10EAB-10EAC 10EFD-10EFF 10F46-10F50 10F82-10F85 11001 11038-11046 11070 11073-11074
   1107F-11081 110B3-110B6 110B9-110BA 110C2 11100-11102 11127-1112B 1112D-11134 11173
   11180-11181 111B6-111BE 111C9-111CC 111CF 1122F-11231 11234 11236-11237 1123E 11241 112DF
   112E3-112EA 11300-11301 1133B-1133C 1133E 11340 11357 11366-1136C 11370-11374 11438-1143F
   11442-11444 11446 1145E 114B0 114B3-114B8 114BA 114BD 114BF-114C0 114C2-114C3 115AF
   115B2-115B5 115BC-115BD 115BF-115C0 115DC-115DD 11633-1163A 1163D 1163F-11640 116AB 116AD
   116B0-116B5 116B7 1171D-1171F 11722-11725 11727-1172B 1182F-11837 11839-1183A 11930
   1193B-1193C 1193E 11943 119D4-119D7 119DA-119DB 119E0 11A01-11A0A 11A33-11A38 11A3B-11A3E
   11A47 11A51-11A56 11A59-11A5B 11A8A-11A96 11A98-11A99 11C30-11C36 11C38-11C3D 11C3F
   11C92-11CA7 11CAA-11CB0 11CB2-11CB3 11CB5-11CB6 11D31-11D36 11D3A 11D3C-11D3D 11D3F-11D45
   11D47 11D90-11D91 11D95 11D97 11EF3-11EF4 11F00-11F01 11F36-11F3A 11F40 11F42 13440
   13447-13455 16AF0-16AF4 16B30-16B36 16F4F 16F8F-16F92 16FE4 1BC9D-1BC9E 1BCA0-1BCA3
   1CF00-1CF2D 1CF30-1CF46 1D165 1D167-1D169 1D16E-1D182 1D185-1D18B 1D1AA-1D1AD 1D242-1D244
   1DA00-1DA36 1DA3B-1DA6C 1DA75 1DA84 1DA9B-1DA9F 1DAA1-1DAAF 1E000-1E006 1E008-1E018
   1E01B-1E021 1E023-1E024 1E026-1E02A 1E08F 1E130-1E136 1E2AE 1E2EC-1E2EF 1E4EC-1E4EF
   1E8D0-1E8D6 1E944-1E94A E0000-E0FFF"

def charWidth (c : Char) : Nat :=
  let n := c.toNat
  if n < 0x20 then 0
  else if n < 0x7F then 1
  else if n < 0xA0 then 0
  else if n = 0x17D8 then 3
  else if zeroWidthChars.contains c then 0
  else if wideChars.contains c then 2
  else 1

def width : Text → Nat
  | [] => 0
  | c :: rest => charWidth c + width rest

structure Word where
  text : Text
  spaces : Nat := 0
deriving DecidableEq, Repr

namespace Word

def ofPart (part : Text) : Word :=
  let text := (part.reverse.dropWhile (· == ' ')).reverse
  { text, spaces := part.length - text.length }

def splitHyphens (previous : Option Char) : Text → Text × List Text
  | [] => ([], [])
  | c :: rest =>
    let (part, others) := splitHyphens (some c) rest
    let between := (previous.any isAlphanumeric) && (rest.head?.any isAlphanumeric)
    if c = '-' ∧ between then ([c], part :: others) else (c :: part, others)

-- Cuts a text into pieces that are at most `limit` columns wide. `used` is the width of the piece
-- that has been begun.
def splitWidth (limit used : Nat) : Text → Text × List Text
  | [] => ([], [])
  | c :: rest =>
    if 0 < used ∧ limit < used + charWidth c then
      let (part, others) := splitWidth limit (charWidth c) rest
      ([], (c :: part) :: others)
    else
      let (part, others) := splitWidth limit (used + charWidth c) rest
      (c :: part, others)

def ofPieces (pieces : Text × List Text) (spaces : Nat) : List Word :=
  match pieces.2.reverse with
  | [] => [{ text := pieces.1, spaces }]
  | last :: others =>
    { text := pieces.1 } :: (others.reverse.map fun text => { text }) ++ [{ text := last, spaces }]

def splitAtHyphens (word : Word) : List Word := ofPieces (splitHyphens none word.text) word.spaces

def splitToWidth (limit : Nat) (word : Word) : List Word :=
  if limit < word.text.width then ofPieces (splitWidth limit 0 word.text) word.spaces else [word]

end Word

def joinHyphens : List Text → List Text
  | [] => []
  | part :: others =>
    match joinHyphens others with
    | [] => [part]
    | next :: rest =>
      if part.getLast? = some '-' ∨ part.getLast? = some '\u00ad' then (part ++ next) :: rest
      else part :: next :: rest

-- The words of a line of text, none wider than `limit`. An empty word stands before them, so that
-- the first one may go to the second line.
def words (limit : Nat) (line : Text) : List Word :=
  {text := []} :: (((joinHyphens (breakParts line)).map Word.ofPart).flatMap Word.splitAtHyphens)
    |>.flatMap (Word.splitToWidth limit)

def joinWords : List Word → Text
  | [] => []
  | [word] => word.text
  | word :: rest => word.text ++ List.replicate word.spaces ' ' ++ joinWords rest

-- Puts words on lines. `room` is the width of the first line and `rest` of the others; `used` is the
-- width of the words that are on the line already, which stand in `line`, the last one first.
def fillLines (room rest used : Nat) (line : List Word) : List Word → List (List Word)
  | [] => [line.reverse]
  | word :: others =>
    let width := word.text.width
    if room < used + width ∧ !line.isEmpty then
      line.reverse :: fillLines rest rest (width + word.spaces) [word] others
    else fillLines room rest (used + width + word.spaces) (word :: line) others

structure Indent where
  first : Text
  rest : Text
deriving DecidableEq, Repr

-- Wraps a text to lines of a width, which includes the indent. Widths of the indents are given by
-- `plain`; `shown` is what is written.
def wrap (width : Nat) (plain shown : Indent) (text : Text) : Text :=
  let limit := width - plain.rest.width
  let lines := (text.splitOn '\n').flatMap fun line =>
    (fillLines (width - plain.first.width) limit 0 [] (words limit line)).map joinWords
  match lines with
  | [] => []
  | first :: others => shown.first ++ first ++ others.flatMap fun line => '\n' :: shown.rest ++ line

end DocAssembly.Text
