import LinkCharset.Bytes

/-! # UTF-8

The encoding of characters, the reading of one character at the front of arbitrary bytes, and the
two ways in which bytes fail to be UTF-8: a subpart that no character continues, and a character
that the end of the bytes cuts short. -/
namespace LinkCharset.Utf8

def continuation (n : Nat) : UInt8 := .ofNat (0x80 + n % 0x40)

def encodeChar (c : Char) : Bytes :=
  let n := c.toNat
  if n < 0x80 then [.ofNat n]
  else if n < 0x800 then [.ofNat (0xC0 + n / 0x40), continuation n]
  else if n < 0x10000 then
    [.ofNat (0xE0 + n / 0x1000), continuation (n / 0x40), continuation n]
  else
    [.ofNat (0xF0 + n / 0x40000), continuation (n / 0x1000), continuation (n / 0x40),
      continuation n]

def encode (cs : List Char) : Bytes := cs.flatMap encodeChar

/-- The closed range in which a byte must lie. -/
abbrev Range := UInt8 × UInt8

/-- The ranges of the bytes that a lead byte calls for, or nothing if no character starts so.
Only the first of them is ever narrower than a continuation byte. -/
def owed (lead : UInt8) : Option (List Range) :=
  if lead < 0x80 then some []
  else if lead < 0xC2 then none
  else if lead < 0xE0 then some [(0x80, 0xBF)]
  else if lead = 0xE0 then some [(0xA0, 0xBF), (0x80, 0xBF)]
  else if lead = 0xED then some [(0x80, 0x9F), (0x80, 0xBF)]
  else if lead < 0xF0 then some [(0x80, 0xBF), (0x80, 0xBF)]
  else if lead = 0xF0 then some [(0x90, 0xBF), (0x80, 0xBF), (0x80, 0xBF)]
  else if lead < 0xF4 then some [(0x80, 0xBF), (0x80, 0xBF), (0x80, 0xBF)]
  else if lead = 0xF4 then some [(0x80, 0x8F), (0x80, 0xBF), (0x80, 0xBF)]
  else none

/-- The bits of the code point that a lead byte holds. -/
def payload (lead : UInt8) : Nat :=
  if lead < 0x80 then lead.toNat
  else if lead < 0xE0 then lead.toNat % 0x20
  else if lead < 0xF0 then lead.toNat % 0x10
  else lead.toNat % 0x08

/-- What stands at the front of some bytes. -/
inductive Front where
  | char (c : Char) (length : Nat)
  /-- The maximal subpart that starts a character and does not complete it; `truncated` if the
  bytes end there. -/
  | illFormed (length : Nat) (truncated : Bool)
  deriving DecidableEq, Repr

/-- Continues a character of which `taken` bytes, holding `value`, have been read. -/
def follow (value taken : Nat) : List Range → Bytes → Front
  | [], _ => .char (Char.ofNat value) taken
  | _ :: _, [] => .illFormed taken true
  | r :: ranges, b :: rest =>
    if r.1 ≤ b && b ≤ r.2 then follow (value * 0x40 + b.toNat % 0x40) (taken + 1) ranges rest
    else .illFormed taken false

def front (lead : UInt8) (rest : Bytes) : Front :=
  match owed lead with
  | none => .illFormed 1 false
  | some ranges => follow (payload lead) 1 ranges rest

/-- Where bytes stop being UTF-8: the length of the valid part before, and the length of the
ill-formed subpart, absent if the bytes end inside it. -/
structure Fault where
  validUpTo : Nat
  length : Option Nat
  deriving DecidableEq, Repr

def Fault.message (f : Fault) : String :=
  match f.length with
  | some n => s!"invalid utf-8 sequence of {n} bytes from index {f.validUpTo}"
  | none => s!"incomplete utf-8 byte sequence from index {f.validUpTo}"

/-- The characters of the longest valid part, which starts at `offset`, and what ends it. -/
def scanFrom (offset : Nat) : Bytes → List Char × Option Fault
  | [] => ([], none)
  | b :: rest =>
    match front b rest with
    | .char c n =>
      let (cs, fault) := scanFrom (offset + n) (rest.drop (n - 1))
      (c :: cs, fault)
    | .illFormed n truncated => ([], some ⟨offset, if truncated then none else some n⟩)
termination_by bytes => bytes.length

def scan (bytes : Bytes) : List Char × Option Fault := scanFrom 0 bytes

def validate (bytes : Bytes) : Except Fault (List Char) :=
  match scan bytes with
  | (cs, none) => .ok cs
  | (_, some fault) => .error fault

def decode? (bytes : Bytes) : Option String :=
  match validate bytes with
  | .ok cs => some (String.ofList cs)
  | .error _ => none

/-- Every ill-formed subpart becomes one replacement character. -/
def decodeLossy : Bytes → List Char
  | [] => []
  | b :: rest =>
    match front b rest with
    | .char c n => c :: decodeLossy (rest.drop (n - 1))
    | .illFormed n _ => Char.ofNat 0xFFFD :: decodeLossy (rest.drop (n - 1))
termination_by bytes => bytes.length

end LinkCharset.Utf8

namespace LinkCharset

/-- The UTF-8 form of a text. -/
def utf8 (s : String) : Bytes := Utf8.encode s.toList

end LinkCharset
