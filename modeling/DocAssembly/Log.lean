import DocAssembly.Text.Alphanumeric
import DocAssembly.Text.Quoted
import DocAssembly.Text.Basic

namespace DocAssembly

inductive LogLevel where
  | error
  | warn
  | info
  | debug
  | trace
deriving DecidableEq, Repr

namespace LogLevel

-- A level and those above it have a lower rank than the ones below; `0` is kept for silence.
def rank : LogLevel → Nat
  | .error => 1
  | .warn => 2
  | .info => 3
  | .debug => 4
  | .trace => 5

def name : LogLevel → Text
  | .error => "ERROR"
  | .warn => " WARN"
  | .info => " INFO"
  | .debug => "DEBUG"
  | .trace => "TRACE"

def color : LogLevel → Text
  | .error => "31"
  | .warn => "33"
  | .info => "32"
  | .debug => "34"
  | .trace => "35"

end LogLevel

structure LogRecord where
  level : LogLevel
  target : Text
  message : Text
  fields : List (Text × Text)
deriving DecidableEq, Repr

namespace LogRecord

def renderField (colored : Bool) (field : Text × Text) : Text :=
  " " ++ Text.dye colored "3" field.1 ++ Text.dye colored "2" "=" ++ field.2

def render (colored : Bool) (record : LogRecord) : Text :=
  Text.dye colored record.level.color record.level.name ++ " " ++
    Text.dye colored "2" record.target ++ Text.dye colored "2" ":" ++ " " ++ record.message ++
    record.fields.flatMap (renderField colored) ++ "\n"

end LogRecord

structure LogRule where
  target : Text
  rank : Nat
deriving DecidableEq, Repr

structure LogFilter where
  rules : List LogRule
deriving Repr

namespace LogFilter

-- Of two rules that fit, the one with the longer target counts, and of equally long ones the later.
def stronger (a b : LogRule) : LogRule :=
  if a.target.length ≤ b.target.length then b else a

def ruleFor? (filter : LogFilter) (target : Text) : Option LogRule :=
  (filter.rules.filter (target.startsWith ·.target)).foldl
    (fun best rule => match best with
      | none => some rule
      | some best => some (stronger best rule)) none

def shows (filter : LogFilter) (record : LogRecord) : Bool :=
  match filter.ruleFor? record.target with
  | some rule => record.level.rank ≤ rule.rank
  | none => false

def number? (text : Text) : Option Nat :=
  let digits := (text.after? "+").getD text
  if digits.isEmpty || !digits.all Char.isDigit then none
  else some (digits.foldl (fun n c => 10 * n + (c.toNat - '0'.toNat)) 0)

def rank? (text : Text) : Option Nat :=
  match number? text with
  | some n => if n ≤ 5 then some n else none
  | none => [("off", 0), ("error", 1), ("warn", 2), ("info", 3), ("debug", 4), ("trace", 5)].lookup
      (String.ofList (text.map Char.toLower))

-- What one item of a written filter asks for: a rule, or something about the spans that records
-- stand in. There are no spans here, so the latter shows nothing.
inductive Item where
  | rule (rule : LogRule)
  | span
deriving Repr

def item? (text : Text) : Option Item :=
  match text.trim with
  | [] => none
  | first :: _ =>
    if first = '[' then some .span
    else if !(Text.isAlphanumeric first || first = '-' || first = ':' || first = '_') then none
    else
      let target := text.trim.takeWhile fun c => c != '=' && c != '['
      match text.drop target.length with
      | '[' :: _ => some .span
      | '=' :: rank =>
        if text.trim.length = target.length then some (.rule ⟨text, 5⟩)
        else if rank.isEmpty then some (.rule ⟨text.take target.length, 5⟩)
        else (rank? rank).map fun n => .rule ⟨text.take target.length, n⟩
      | _ => match rank? text with
        | some n => some (.rule ⟨[], n⟩)
        | none => some (.rule ⟨text, 5⟩)

-- Reads a filter: items separated by commas. No items at all mean errors only.
def parse? (text : Text) : Option LogFilter := do
  let items ← ((text.splitOn ',').filter (!·.isEmpty)).mapM item?
  if items.isEmpty then return ⟨[⟨[], LogLevel.error.rank⟩]⟩
  return ⟨items.filterMap fun | .rule rule => some rule | .span => none⟩

def warnings : LogFilter := ⟨[⟨[], LogLevel.warn.rank⟩]⟩

def detailed : LogFilter := ⟨[⟨"mdsplice", LogLevel.debug.rank⟩]⟩

end LogFilter
end DocAssembly
