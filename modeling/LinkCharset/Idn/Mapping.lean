import LinkCharset.Encoding.Chart

/-! # Mapping of host names

What each character of a host name becomes before anything else is done with it: itself, other
characters, nothing at all, or an error. -/
namespace LinkCharset.Idn

/-- Characters that become one other character: capitals, compatibility forms and the full stops
of other scripts. -/
def singleMappings : Chart :=
  [⟨0x41, 26, 0x61⟩, ⟨0xA0, 1, 0x20⟩, ⟨0xAA, 1, 0x61⟩, ⟨0xB2, 2, 0x32⟩, ⟨0xB5, 1, 0x3BC⟩,
   ⟨0xB9, 1, 0x31⟩, ⟨0xBA, 1, 0x6F⟩, ⟨0xC0, 23, 0xE0⟩, ⟨0xD8, 7, 0xF8⟩, ⟨0x100, 1, 0x101⟩,
   ⟨0x102, 1, 0x103⟩, ⟨0x104, 1, 0x105⟩, ⟨0x106, 1, 0x107⟩, ⟨0x108, 1, 0x109⟩, ⟨0x10A, 1, 0x10B⟩,
   ⟨0x10C, 1, 0x10D⟩, ⟨0x10E, 1, 0x10F⟩, ⟨0x110, 1, 0x111⟩, ⟨0x112, 1, 0x113⟩, ⟨0x114, 1, 0x115⟩,
   ⟨0x116, 1, 0x117⟩, ⟨0x118, 1, 0x119⟩, ⟨0x11A, 1, 0x11B⟩, ⟨0x11C, 1, 0x11D⟩, ⟨0x11E, 1, 0x11F⟩,
   ⟨0x120, 1, 0x121⟩, ⟨0x122, 1, 0x123⟩, ⟨0x124, 1, 0x125⟩, ⟨0x126, 1, 0x127⟩, ⟨0x128, 1, 0x129⟩,
   ⟨0x12A, 1, 0x12B⟩, ⟨0x12C, 1, 0x12D⟩, ⟨0x12E, 1, 0x12F⟩, ⟨0x134, 1, 0x135⟩, ⟨0x136, 1, 0x137⟩,
   ⟨0x139, 1, 0x13A⟩, ⟨0x13B, 1, 0x13C⟩, ⟨0x13D, 1, 0x13E⟩, ⟨0x141, 1, 0x142⟩, ⟨0x143, 1, 0x144⟩,
   ⟨0x145, 1, 0x146⟩, ⟨0x147, 1, 0x148⟩, ⟨0x14A, 1, 0x14B⟩, ⟨0x14C, 1, 0x14D⟩, ⟨0x14E, 1, 0x14F⟩,
   ⟨0x150, 1, 0x151⟩, ⟨0x152, 1, 0x153⟩, ⟨0x154, 1, 0x155⟩, ⟨0x156, 1, 0x157⟩, ⟨0x158, 1, 0x159⟩,
   ⟨0x15A, 1, 0x15B⟩, ⟨0x15C, 1, 0x15D⟩, ⟨0x15E, 1, 0x15F⟩, ⟨0x160, 1, 0x161⟩, ⟨0x162, 1, 0x163⟩,
   ⟨0x164, 1, 0x165⟩, ⟨0x166, 1, 0x167⟩, ⟨0x168, 1, 0x169⟩, ⟨0x16A, 1, 0x16B⟩, ⟨0x16C, 1, 0x16D⟩,
   ⟨0x16E, 1, 0x16F⟩, ⟨0x170, 1, 0x171⟩, ⟨0x172, 1, 0x173⟩, ⟨0x174, 1, 0x175⟩, ⟨0x176, 1, 0x177⟩,
   ⟨0x178, 1, 0xFF⟩, ⟨0x179, 1, 0x17A⟩, ⟨0x17B, 1, 0x17C⟩, ⟨0x17D, 1, 0x17E⟩, ⟨0x17F, 1, 0x73⟩,
   ⟨0x181, 1, 0x253⟩, ⟨0x182, 1, 0x183⟩, ⟨0x184, 1, 0x185⟩, ⟨0x186, 1, 0x254⟩, ⟨0x187, 1, 0x188⟩,
   ⟨0x189, 2, 0x256⟩, ⟨0x18B, 1, 0x18C⟩, ⟨0x18E, 1, 0x1DD⟩, ⟨0x18F, 1, 0x259⟩, ⟨0x190, 1, 0x25B⟩,
   ⟨0x191, 1, 0x192⟩, ⟨0x193, 1, 0x260⟩, ⟨0x194, 1, 0x263⟩, ⟨0x196, 1, 0x269⟩, ⟨0x197, 1, 0x268⟩,
   ⟨0x198, 1, 0x199⟩, ⟨0x19C, 1, 0x26F⟩, ⟨0x19D, 1, 0x272⟩, ⟨0x19F, 1, 0x275⟩, ⟨0x1A0, 1, 0x1A1⟩,
   ⟨0x1A2, 1, 0x1A3⟩, ⟨0x1A4, 1, 0x1A5⟩, ⟨0x1A6, 1, 0x280⟩, ⟨0x1A7, 1, 0x1A8⟩, ⟨0x1A9, 1, 0x283⟩,
   ⟨0x1AC, 1, 0x1AD⟩, ⟨0x1AE, 1, 0x288⟩, ⟨0x1AF, 1, 0x1B0⟩, ⟨0x1B1, 2, 0x28A⟩, ⟨0x1B3, 1, 0x1B4⟩,
   ⟨0x1B5, 1, 0x1B6⟩, ⟨0x1B7, 1, 0x292⟩, ⟨0x1B8, 1, 0x1B9⟩, ⟨0x1BC, 1, 0x1BD⟩, ⟨0x1CD, 1, 0x1CE⟩,
   ⟨0x218, 1, 0x219⟩, ⟨0x21A, 1, 0x21B⟩, ⟨0x386, 1, 0x3AC⟩, ⟨0x388, 3, 0x3AD⟩, ⟨0x38C, 1, 0x3CC⟩,
   ⟨0x38E, 2, 0x3CD⟩, ⟨0x391, 17, 0x3B1⟩, ⟨0x3A3, 9, 0x3C3⟩, ⟨0x401, 12, 0x451⟩,
   ⟨0x40E, 2, 0x45E⟩, ⟨0x410, 32, 0x430⟩, ⟨0x490, 1, 0x491⟩, ⟨0x1E02, 1, 0x1E03⟩,
   ⟨0x1E0A, 1, 0x1E0B⟩, ⟨0x1E1E, 1, 0x1E1F⟩, ⟨0x1E40, 1, 0x1E41⟩, ⟨0x1E56, 1, 0x1E57⟩,
   ⟨0x1E60, 1, 0x1E61⟩, ⟨0x1E6A, 1, 0x1E6B⟩, ⟨0x1E80, 1, 0x1E81⟩, ⟨0x1E82, 1, 0x1E83⟩,
   ⟨0x1E84, 1, 0x1E85⟩, ⟨0x1E9E, 1, 0xDF⟩, ⟨0x1EF2, 1, 0x1EF3⟩, ⟨0x205F, 1, 0x20⟩,
   ⟨0x2070, 1, 0x30⟩, ⟨0x2071, 1, 0x69⟩, ⟨0x2074, 6, 0x34⟩, ⟨0x207A, 1, 0x2B⟩,
   ⟨0x207B, 1, 0x2212⟩, ⟨0x207C, 1, 0x3D⟩, ⟨0x207D, 2, 0x28⟩, ⟨0x207F, 1, 0x6E⟩,
   ⟨0x2080, 10, 0x30⟩, ⟨0x208A, 1, 0x2B⟩, ⟨0x208B, 1, 0x2212⟩, ⟨0x208C, 1, 0x3D⟩,
   ⟨0x208D, 2, 0x28⟩, ⟨0x2090, 1, 0x61⟩, ⟨0x2091, 1, 0x65⟩, ⟨0x2092, 1, 0x6F⟩, ⟨0x2093, 1, 0x78⟩,
   ⟨0x2094, 1, 0x259⟩, ⟨0x2095, 1, 0x68⟩, ⟨0x2096, 4, 0x6B⟩, ⟨0x209A, 1, 0x70⟩, ⟨0x209B, 2, 0x73⟩,
   ⟨0x2460, 1, 0x31⟩, ⟨0x3000, 1, 0x20⟩, ⟨0x3002, 1, 0x2E⟩, ⟨0x3131, 2, 0x1100⟩,
   ⟨0x3133, 1, 0x11AA⟩, ⟨0x3134, 1, 0x1102⟩, ⟨0x3135, 2, 0x11AC⟩, ⟨0x3137, 3, 0x1103⟩,
   ⟨0x313A, 6, 0x11B0⟩, ⟨0x3140, 1, 0x111A⟩, ⟨0x3141, 3, 0x1106⟩, ⟨0x3144, 1, 0x1121⟩,
   ⟨0x3145, 10, 0x1109⟩, ⟨0x314F, 21, 0x1161⟩, ⟨0xF99A, 1, 0x9023⟩, ⟨0xFA93, 1, 0x671B⟩,
   ⟨0xFF01, 3, 0x21⟩, ⟨0xFF05, 28, 0x25⟩, ⟨0xFF21, 26, 0x61⟩, ⟨0xFF3B, 36, 0x5B⟩,
   ⟨0xFF61, 1, 0x2E⟩, ⟨0xFF62, 2, 0x300C⟩, ⟨0xFF64, 1, 0x3001⟩, ⟨0xFF65, 1, 0x30FB⟩,
   ⟨0xFF66, 1, 0x30F2⟩, ⟨0xFF67, 1, 0x30A1⟩, ⟨0xFF68, 1, 0x30A3⟩, ⟨0xFF69, 1, 0x30A5⟩,
   ⟨0xFF6A, 1, 0x30A7⟩, ⟨0xFF6B, 1, 0x30A9⟩, ⟨0xFF6C, 1, 0x30E3⟩, ⟨0xFF6D, 1, 0x30E5⟩,
   ⟨0xFF6E, 1, 0x30E7⟩, ⟨0xFF6F, 1, 0x30C3⟩, ⟨0xFF70, 1, 0x30FC⟩, ⟨0xFF71, 1, 0x30A2⟩,
   ⟨0xFF72, 1, 0x30A4⟩, ⟨0xFF73, 1, 0x30A6⟩, ⟨0xFF74, 1, 0x30A8⟩, ⟨0xFF75, 2, 0x30AA⟩,
   ⟨0xFF77, 1, 0x30AD⟩, ⟨0xFF78, 1, 0x30AF⟩, ⟨0xFF79, 1, 0x30B1⟩, ⟨0xFF7A, 1, 0x30B3⟩,
   ⟨0xFF7B, 1, 0x30B5⟩, ⟨0xFF7C, 1, 0x30B7⟩, ⟨0xFF7D, 1, 0x30B9⟩, ⟨0xFF7E, 1, 0x30BB⟩,
   ⟨0xFF7F, 1, 0x30BD⟩, ⟨0xFF80, 1, 0x30BF⟩, ⟨0xFF81, 1, 0x30C1⟩, ⟨0xFF82, 1, 0x30C4⟩,
   ⟨0xFF83, 1, 0x30C6⟩, ⟨0xFF84, 1, 0x30C8⟩, ⟨0xFF85, 6, 0x30CA⟩, ⟨0xFF8B, 1, 0x30D2⟩,
   ⟨0xFF8C, 1, 0x30D5⟩, ⟨0xFF8D, 1, 0x30D8⟩, ⟨0xFF8E, 1, 0x30DB⟩, ⟨0xFF8F, 5, 0x30DE⟩,
   ⟨0xFF94, 1, 0x30E4⟩, ⟨0xFF95, 1, 0x30E6⟩, ⟨0xFF96, 6, 0x30E8⟩, ⟨0xFF9C, 1, 0x30EF⟩,
   ⟨0xFF9D, 1, 0x30F3⟩, ⟨0xFF9E, 2, 0x3099⟩, ⟨0xFFE5, 1, 0xA5⟩, ⟨0xFFE6, 1, 0x20A9⟩,
   ⟨0xFFE8, 1, 0x2502⟩, ⟨0xFFE9, 4, 0x2190⟩, ⟨0xFFED, 1, 0x25A0⟩, ⟨0xFFEE, 1, 0x25CB⟩]

/-- Characters that become several, or nothing. -/
def expansions : List (Nat × List Nat) :=
  [(0x00A8, [0x20, 0x308]), (0x00AD, []), (0x00AF, [0x20, 0x304]), (0x00B4, [0x20, 0x301]),
   (0x00B8, [0x20, 0x327]), (0x00BC, [0x31, 0x2044, 0x34]), (0x00BD, [0x31, 0x2044, 0x32]),
   (0x00BE, [0x33, 0x2044, 0x34]), (0x0130, [0x69, 0x307]), (0x0132, [0x69, 0x6A]),
   (0x0133, [0x69, 0x6A]), (0x013F, [0x6C, 0xB7]), (0x0140, [0x6C, 0xB7]),
   (0x0149, [0x2BC, 0x6E]), (0x01C4, [0x64, 0x17E]), (0x01C5, [0x64, 0x17E]),
   (0x01C6, [0x64, 0x17E]), (0x01C7, [0x6C, 0x6A]), (0x01C8, [0x6C, 0x6A]),
   (0x01C9, [0x6C, 0x6A]), (0x01CA, [0x6E, 0x6A]), (0x01CB, [0x6E, 0x6A]), (0x01CC, [0x6E, 0x6A]),
   (0x02D8, [0x20, 0x306]), (0x02D9, [0x20, 0x307]), (0x02DA, [0x20, 0x30A]),
   (0x02DB, [0x20, 0x328]), (0x02DC, [0x20, 0x303]), (0x02DD, [0x20, 0x30B]), (0x034F, []),
   (0x037A, [0x20, 0x3B9]), (0x0384, [0x20, 0x301]), (0x0385, [0x20, 0x308, 0x301]),
   (0x0E33, [0xE4D, 0xE32]), (0x200B, []), (0x2017, [0x20, 0x333]), (0x203C, [0x21, 0x21]),
   (0x203E, [0x20, 0x305]), (0x2047, [0x3F, 0x3F]), (0x2048, [0x3F, 0x21]),
   (0x2049, [0x21, 0x3F]), (0x2057, [0x2032, 0x2032, 0x2032, 0x2032]), (0x2060, []),
   (0x20A8, [0x72, 0x73]), (0x2103, [0xB0, 0x63]), (0x2116, [0x6E, 0x6F]),
   (0x2121, [0x74, 0x65, 0x6C]), (0x2122, [0x74, 0x6D]), (0x2167, [0x76, 0x69, 0x69, 0x69]),
   (0x2173, [0x69, 0x76]), (0x2474, [0x28, 0x31, 0x29]), (0x2485, [0x28, 0x31, 0x38, 0x29]),
   (0x309B, [0x20, 0x3099]), (0x309C, [0x20, 0x309A]), (0x33A1, [0x6D, 0x32]),
   (0xFB01, [0x66, 0x69]), (0xFB02, [0x66, 0x6C]), (0xFC62, [0x20, 0x650, 0x651]),
   (0xFDFA, [0x635, 0x644, 0x649, 0x20, 0x627, 0x644, 0x644, 0x647,
     0x20, 0x639, 0x644, 0x64A, 0x647, 0x20, 0x648, 0x633, 0x644, 0x645]),
   (0xFFE3, [0x20, 0x304])]

/-- Controls, unassigned and private code points, and characters that stand for a full stop and
more. The replacement character stands for an error that has already happened. -/
def disallowed : List (Nat × Nat) :=
  [(0x80, 0x9F), (0x200E, 0x200F), (0x2024, 0x2026), (0x202A, 0x202E), (0x2061, 0x206F),
   (0x2072, 0x2073), (0x208F, 0x208F), (0x209D, 0x209F), (0x2488, 0x249B), (0x2E5E, 0x2E7F),
   (0xE000, 0xF8FF), (0xFFE7, 0xFFE7), (0xFFEF, 0xFFFF), (0xE0001, 0xE0001)]

def isDisallowed (c : Char) : Bool :=
  disallowed.any fun r => r.1 ≤ c.toNat && c.toNat ≤ r.2

/-- What a character becomes, unless it is an error. -/
def mapChar? (c : Char) : Option (List Char) :=
  if isDisallowed c then none
  else
    match expansions.find? (·.1 == c.toNat) with
    | some (_, codePoints) => some (codePoints.map Char.ofNat)
    | none => some [(singleMappings.char? c.toNat).getD c]

/-- A character that may stand in a label: one that becomes itself. -/
def isStable (c : Char) : Bool := mapChar? c == some [c]

end LinkCharset.Idn
