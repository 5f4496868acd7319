import LinkCharset.Codec.Decoder

/-! # The replacement encoding

Stands in for encodings that are unsafe to decode: one malformed byte, and nothing after it. -/
namespace LinkCharset.Replacement

/-- Whether the one malformed byte has been reported. -/
inductive Mode where
  | fresh
  | spent
  deriving DecidableEq, Repr

def read (mode : Mode) (_ : UInt8) (rest : Bytes) : Reading Mode :=
  match mode with
  | .fresh => .malformed 1 0 .spent
  | .spent => .text [] (rest.length + 1) .spent

def decoder : Decoder := ⟨Mode, .fresh, read, fun _ _ _ => 0, fun _ _ => false⟩

end LinkCharset.Replacement
