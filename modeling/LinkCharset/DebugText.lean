import LinkCharset.DebugText.Unprintable

/-! # The diagnostic text of values

How options, states and optional labels are written for a reader of logs. -/
namespace LinkCharset.DebugText

def hexDigits (n : Nat) : String := String.ofList (Nat.toDigits 16 n)

def isPrintable (c : Char) : Bool := !unprintable.any fun r => r.1 ≤ c.toNat && c.toNat ≤ r.2

/-- Quotes, backslashes and what cannot be printed are escaped. -/
def escapeChar (c : Char) : String :=
  if c = '"' then "\\\""
  else if c = '\\' then "\\\\"
  else if c = '\n' then "\\n"
  else if c = '\r' then "\\r"
  else if c = '\t' then "\\t"
  else if c.toNat = 0 then "\\0"
  else if isPrintable c then c.toString
  else "\\u\x7b" ++ hexDigits c.toNat ++ "\x7d"

def quoted (s : String) : String := "\"" ++ String.join (s.toList.map escapeChar) ++ "\""

def optional : Option String → String
  | none => "None"
  | some s => "Some(" ++ quoted s ++ ")"

def flag (b : Bool) : String := if b then "true" else "false"

/-- A record as `Name { field: value, … }`; `open` records have fields that are not shown. -/
def record (name : String) (fields : List (String × String)) (isOpen : Bool) : String :=
  let shown := fields.map fun f => f.1 ++ ": " ++ f.2
  let items := if isOpen then shown ++ [".."] else shown
  name ++ " \x7b " ++ String.intercalate ", " items ++ " \x7d"

end LinkCharset.DebugText
