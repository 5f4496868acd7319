import LinkCharset.Options

/-! # Options as JSON

Reads options from an object with the keys `encoding-remote`, `locale` and `enable-iri`, or from an
array of their values in that order. The text of values that are not used is only passed over. -/
namespace LinkCharset.Options.Json

/-- A text and a result read from its front. -/
abbrev Reader (α : Type) := List Char → Option (α × List Char)

def isBlank (c : Char) : Bool := c == ' ' || c == '\t' || c == '\n' || c == '\r'

def skipBlanks (cs : List Char) : List Char := cs.dropWhile isBlank

/-- Passes over a literal word. -/
def word? (w : List Char) (cs : List Char) : Option (List Char) :=
  if w.isPrefixOf cs then some (cs.drop w.length) else none

/-! ## Strings -/

/-- A string holds characters and the code units that are written as numbers. -/
inductive Piece where
  | char (c : Char)
  | unit (n : Nat)
  deriving DecidableEq, Repr

def hexValue? (c : Char) : Option Nat :=
  let n := c.toNat
  if 0x30 ≤ n ∧ n ≤ 0x39 then some (n - 0x30)
  else if 0x41 ≤ n ∧ n ≤ 0x46 then some (n - 0x41 + 10)
  else if 0x61 ≤ n ∧ n ≤ 0x66 then some (n - 0x61 + 10)
  else none

def unit? (a b c d : Char) : Option Nat := do
  return 0x1000 * (← hexValue? a) + 0x100 * (← hexValue? b) + 0x10 * (← hexValue? c) +
    (← hexValue? d)

def escaped? : Char → Option Char
  | '"' => some '"'
  | '\\' => some '\\'
  | '/' => some '/'
  | 'b' => some '\x08'
  | 'f' => some '\x0c'
  | 'n' => some '\n'
  | 'r' => some '\r'
  | 't' => some '\t'
  | _ => none

/-- Reads a string whose opening quote is behind. -/
def pieces : Reader (List Piece)
  | [] => none
  | '"' :: rest => some ([], rest)
  | '\\' :: 'u' :: a :: b :: c :: d :: rest => do
    let n ← unit? a b c d
    let (ps, after) ← pieces rest
    return (.unit n :: ps, after)
  | '\\' :: e :: rest => do
    let c ← escaped? e
    let (ps, after) ← pieces rest
    return (.char c :: ps, after)
  | c :: rest =>
    if c = '\\' ∨ c.toNat < 0x20 then none
    else do
      let (ps, after) ← pieces rest
      return (.char c :: ps, after)

def isHigh (n : Nat) : Bool := 0xD800 ≤ n && n < 0xDC00

def isLow (n : Nat) : Bool := 0xDC00 ≤ n && n < 0xE000

/-- The characters of a string, in which surrogates must come in pairs. -/
def chars? : List Piece → Option (List Char)
  | [] => some []
  | .char c :: rest => (chars? rest).map (c :: ·)
  | .unit high :: .unit low :: rest =>
    if isHigh high then
      if isLow low then
        (chars? rest).map (Char.ofNat (0x10000 + 0x400 * (high - 0xD800) + (low - 0xDC00)) :: ·)
      else none
    else if isLow high then none
    else (chars? (.unit low :: rest)).map (Char.ofNat high :: ·)
  | .unit n :: rest =>
    if isHigh n || isLow n then none else (chars? rest).map (Char.ofNat n :: ·)

def string : Reader String
  | '"' :: rest => do
    let (ps, after) ← pieces rest
    return (String.ofList (← chars? ps), after)
  | _ => none

/-! ## Values that are passed over -/

def isDigit (c : Char) : Bool := '0' ≤ c && c ≤ '9'

/-- Passes over one digit or more. -/
def skipDigits : List Char → Option (List Char)
  | c :: rest => if isDigit c then some (rest.dropWhile isDigit) else none
  | [] => none

def skipInteger : List Char → Option (List Char)
  | '0' :: c :: rest => if isDigit c then none else some (c :: rest)
  | cs => skipDigits cs

def skipFraction : List Char → Option (List Char)
  | '.' :: rest => skipDigits rest
  | cs => some cs

def skipExponent : List Char → Option (List Char)
  | c :: rest =>
    if c = 'e' ∨ c = 'E' then
      match rest with
      | '+' :: digits => skipDigits digits
      | '-' :: digits => skipDigits digits
      | digits => skipDigits digits
    else some (c :: rest)
  | [] => some []

def skipNumber (cs : List Char) : Option (List Char) := do
  let unsigned := match cs with
    | '-' :: rest => rest
    | _ => cs
  skipExponent (← skipFraction (← skipInteger unsigned))

def skipScalar (cs : List Char) : Option (List Char) :=
  match cs with
  | '"' :: rest => (pieces rest).map (·.2)
  | 'n' :: _ => word? "null".toList cs
  | 't' :: _ => word? "true".toList cs
  | 'f' :: _ => word? "false".toList cs
  | _ => skipNumber cs

/-- Passes over a key and its colon. -/
def skipKey (cs : List Char) : Option (List Char) :=
  match skipBlanks cs with
  | '"' :: rest => do
    let (_, after) ← pieces rest
    word? [':'] (skipBlanks after)
  | _ => none

/-- What a value may stand inside. -/
inductive Frame where
  | array
  | object
  deriving DecidableEq, Repr

/-- What comes next: a value, or the comma or bracket after one. -/
inductive Expected where
  | value
  | separator
  deriving DecidableEq, Repr

/-- Passes over one value, however deeply nested. Every step takes a character, so as many steps as
the text is long are enough. -/
def skipFrom : Nat → Expected → List Frame → List Char → Option (List Char)
  | 0, _, _, _ => none
  | fuel + 1, .value, stack, cs =>
    match skipBlanks cs with
    | '[' :: rest =>
      match skipBlanks rest with
      | ']' :: after => skipFrom fuel .separator stack after
      | _ => skipFrom fuel .value (.array :: stack) rest
    | '{' :: rest =>
      match skipBlanks rest with
      | '}' :: after => skipFrom fuel .separator stack after
      | _ => do skipFrom fuel .value (.object :: stack) (← skipKey rest)
    | cs => do skipFrom fuel .separator stack (← skipScalar cs)
  | _ + 1, .separator, [], cs => some cs
  | fuel + 1, .separator, .array :: stack, cs =>
    match skipBlanks cs with
    | ',' :: rest => skipFrom fuel .value (.array :: stack) rest
    | ']' :: rest => skipFrom fuel .separator stack rest
    | _ => none
  | fuel + 1, .separator, .object :: stack, cs =>
    match skipBlanks cs with
    | ',' :: rest => do skipFrom fuel .value (.object :: stack) (← skipKey rest)
    | '}' :: rest => skipFrom fuel .separator stack rest
    | _ => none

def skipValue (cs : List Char) : Option (List Char) := skipFrom (cs.length + 2) .value [] cs

/-! ## Options -/

def optionalString (cs : List Char) : Option (Option String × List Char) :=
  match skipBlanks cs with
  | 'n' :: rest => do return (none, ← word? "ull".toList rest)
  | cs => do
    let (s, after) ← string cs
    return (some s, after)

def flag (cs : List Char) : Option (Bool × List Char) :=
  match skipBlanks cs with
  | 't' :: rest => do return (true, ← word? "rue".toList rest)
  | 'f' :: rest => do return (false, ← word? "alse".toList rest)
  | _ => none

inductive Field where
  | encodingRemote
  | locale
  | enableIri
  deriving DecidableEq, Repr

def Field.ofKey? (key : String) : Option Field :=
  if key = "encoding-remote" then some .encodingRemote
  else if key = "locale" then some .locale
  else if key = "enable-iri" then some .enableIri
  else none

/-- Reads the value of a field into the options. -/
def Field.read (f : Field) (o : Options) (cs : List Char) : Option (Options × List Char) :=
  match f with
  | .encodingRemote => do
    let (s, after) ← optionalString cs
    return ({ o with encodingRemote := s }, after)
  | .locale => do
    let (s, after) ← optionalString cs
    return ({ o with locale := s }, after)
  | .enableIri => do
    let (b, after) ← flag cs
    return ({ o with enableIri := b }, after)

/-- Reads fields in order, up to the end of the array. -/
def elements (o : Options) : List Field → (isFirst : Bool) → Reader Options
  | [], _, cs => do return (o, ← word? [']'] (skipBlanks cs))
  | f :: fields, isFirst, cs =>
    match skipBlanks cs with
    | ']' :: after => some (o, after)
    | ',' :: rest =>
      if isFirst then none
      else do
        let (o, after) ← f.read o rest
        elements o fields false after
    | cs =>
      if isFirst then do
        let (o, after) ← f.read o cs
        elements o fields false after
      else none

/-- Reads one member whose key is no field yet seen, or passes over one whose key is no field. -/
def member (seen : List Field) (o : Options) (cs : List Char) :
    Option (List Field × Options × List Char) := do
  let (key, afterKey) ← string (skipBlanks cs)
  let value ← word? [':'] (skipBlanks afterKey)
  match Field.ofKey? key with
  | none => return (seen, o, ← skipValue value)
  | some f =>
    if f ∈ seen then none
    else
      let (o, after) ← f.read o value
      return (f :: seen, o, after)

/-- Reads the members after the first, up to the end of the object. -/
def members : Nat → List Field → Options → Reader Options
  | 0, _, _, _ => none
  | fuel + 1, seen, o, cs =>
    match skipBlanks cs with
    | '}' :: after => some (o, after)
    | ',' :: rest => do
      let (seen, o, after) ← member seen o rest
      members fuel seen o after
    | _ => none

def object (cs : List Char) : Option (Options × List Char) :=
  match skipBlanks cs with
  | '}' :: after => some ({}, after)
  | _ => do
    let (seen, o, after) ← member [] {} cs
    members cs.length seen o after

def options (cs : List Char) : Option (Options × List Char) :=
  match skipBlanks cs with
  | '[' :: rest => elements {} [.encodingRemote, .locale, .enableIri] true rest
  | '{' :: rest => object rest
  | _ => none

end LinkCharset.Options.Json

namespace LinkCharset.Options

/-- The options that a JSON text stands for. -/
def ofJson? (text : String) : Option Options := do
  let (o, after) ← Json.options text.toList
  if (Json.skipBlanks after).isEmpty then some o else none

end LinkCharset.Options
