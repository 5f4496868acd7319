import LinkCharset.Codec.Encoder
import LinkCharset.Encoding.Chart
import LinkCharset.Encoding.Gb.Rows
import LinkCharset.Encoding.Grid
import LinkCharset.Encoding.Pair

/-! # GBK and gb18030

Both are decoded alike: ASCII, the euro sign at `0x80`, pairs, and groups of four bytes whose
second and fourth are digits. Only gb18030 encodes into groups of four. -/
namespace LinkCharset.Gb

/-- Pairs, 190 positions to a lead, two rows each. -/
def pairs : Grid := .ofText 95 pairRows

/-- The pairs for private use. -/
def privateUse : Chart :=
  [⟨6080, 96, 0xE4C6⟩, ⟨6270, 96, 0xE526⟩, ⟨6376, 6, 0xE766⟩, ⟨6433, 1, 0xE76D⟩, ⟨6444, 2, 0xE76E⟩,
   ⟨6458, 2, 0xE770⟩, ⟨6460, 95, 0xE586⟩, ⟨6650, 96, 0xE5E6⟩, ⟨6829, 11, 0xE772⟩,
   ⟨6840, 96, 0xE646⟩, ⟨7022, 8, 0xE77D⟩, ⟨7030, 96, 0xE6A6⟩, ⟨7150, 8, 0xE785⟩, ⟨7211, 9, 0xE797⟩,
   ⟨7220, 96, 0xE706⟩, ⟨7349, 15, 0xE7A0⟩, ⟨7397, 13, 0xE7AF⟩, ⟨7495, 11, 0xE7BC⟩,
   ⟨7538, 4, 0xE7C9⟩, ⟨7579, 21, 0xE7CD⟩, ⟨7624, 1, 0xE7E2⟩, ⟨7627, 1, 0xE7E3⟩, ⟨7629, 3, 0xE7E4⟩,
   ⟨7686, 13, 0xE7F4⟩, ⟨7775, 15, 0xE801⟩, ⟨7886, 94, 0xE000⟩, ⟨8076, 94, 0xE05E⟩,
   ⟨8266, 94, 0xE0BC⟩, ⟨8456, 94, 0xE11A⟩, ⟨8646, 94, 0xE178⟩, ⟨8836, 94, 0xE1D6⟩,
   ⟨16525, 5, 0xE810⟩, ⟨22706, 94, 0xE234⟩, ⟨22896, 94, 0xE292⟩, ⟨23086, 94, 0xE2F0⟩,
   ⟨23276, 94, 0xE34E⟩, ⟨23466, 94, 0xE3AC⟩, ⟨23656, 94, 0xE40A⟩, ⟨23846, 94, 0xE468⟩]

/-- Code points that pairs stood for before these had characters of their own. They are still
encoded so. -/
def formerPrivateUse : Chart :=
  [⟨7182, 7, 0xE78D⟩, ⟨7201, 2, 0xE794⟩, ⟨7208, 1, 0xE796⟩, ⟨23775, 1, 0xE81E⟩, ⟨23783, 1, 0xE826⟩,
   ⟨23788, 2, 0xE82B⟩, ⟨23795, 1, 0xE832⟩, ⟨23812, 1, 0xE843⟩, ⟨23829, 1, 0xE854⟩,
   ⟨23845, 1, 0xE864⟩]

/-- Groups of four count the code points that have no pair. From each of these positions on, they
stand for consecutive code points. -/
def steps : List (Nat × Nat) :=
  [(0, 0x0080), (36, 0x00A5), (38, 0x00A9), (45, 0x00B2), (50, 0x00B8), (81, 0x00D8), (89, 0x00E2),
   (95, 0x00EB), (96, 0x00EE), (100, 0x00F4), (103, 0x00F8), (104, 0x00FB), (105, 0x00FD),
   (109, 0x0102), (126, 0x0114), (133, 0x011C), (148, 0x012C), (172, 0x0145), (175, 0x0149),
   (179, 0x014E), (208, 0x016C), (306, 0x01CF), (307, 0x01D1), (308, 0x01D3), (309, 0x01D5),
   (310, 0x01D7), (311, 0x01D9), (312, 0x01DB), (313, 0x01DD), (341, 0x01FA), (428, 0x0252),
   (443, 0x0262), (544, 0x02C8), (545, 0x02CC), (558, 0x02DA), (741, 0x03A2), (742, 0x03AA),
   (749, 0x03C2), (750, 0x03CA), (805, 0x0402), (819, 0x0450), (820, 0x0452), (7922, 0x2011),
   (7924, 0x2017), (7925, 0x201A), (7927, 0x201E), (7934, 0x2027), (7943, 0x2031), (7944, 0x2034),
   (7945, 0x2036), (7950, 0x203C), (8062, 0x20AD), (8148, 0x2104), (8149, 0x2106), (8152, 0x210A),
   (8164, 0x2117), (8174, 0x2122), (8236, 0x216C), (8240, 0x217A), (8262, 0x2194), (8264, 0x219A),
   (8374, 0x2209), (8380, 0x2210), (8381, 0x2212), (8384, 0x2216), (8388, 0x221B), (8390, 0x2221),
   (8392, 0x2224), (8393, 0x2226), (8394, 0x222C), (8396, 0x222F), (8401, 0x2238), (8406, 0x223E),
   (8416, 0x2249), (8419, 0x224D), (8424, 0x2253), (8437, 0x2262), (8439, 0x2268), (8445, 0x2270),
   (8482, 0x2296), (8485, 0x229A), (8496, 0x22A6), (8521, 0x22C0), (8603, 0x2313), (8936, 0x246A),
   (8946, 0x249C), (9046, 0x254C), (9050, 0x2574), (9063, 0x2590), (9066, 0x2596), (9076, 0x25A2),
   (9092, 0x25B4), (9100, 0x25BE), (9108, 0x25C8), (9111, 0x25CC), (9113, 0x25D0), (9131, 0x25E6),
   (9162, 0x2607), (9164, 0x260A), (9218, 0x2641), (9219, 0x2643), (11329, 0x2E82),
   (11331, 0x2E85), (11334, 0x2E89), (11336, 0x2E8D), (11346, 0x2E98), (11361, 0x2EA8),
   (11363, 0x2EAB), (11366, 0x2EAF), (11370, 0x2EB4), (11372, 0x2EB8), (11375, 0x2EBC),
   (11389, 0x2ECB), (11682, 0x2FFC), (11686, 0x3004), (11687, 0x3018), (11692, 0x301F),
   (11694, 0x302A), (11714, 0x303F), (11716, 0x3094), (11723, 0x309F), (11725, 0x30F7),
   (11730, 0x30FF), (11736, 0x312A), (11982, 0x322A), (11989, 0x3232), (12102, 0x32A4),
   (12336, 0x3390), (12348, 0x339F), (12350, 0x33A2), (12384, 0x33C5), (12393, 0x33CF),
   (12395, 0x33D3), (12397, 0x33D6), (12510, 0x3448), (12553, 0x3474), (12851, 0x359F),
   (12962, 0x360F), (12973, 0x361B), (13738, 0x3919), (13823, 0x396F), (13919, 0x39D1),
   (13933, 0x39E0), (14080, 0x3A74), (14298, 0x3B4F), (14585, 0x3C6F), (14698, 0x3CE1),
   (15583, 0x4057), (15847, 0x4160), (16318, 0x4338), (16434, 0x43AD), (16438, 0x43B2),
   (16481, 0x43DE), (16729, 0x44D7), (17102, 0x464D), (17122, 0x4662), (17315, 0x4724),
   (17320, 0x472A), (17402, 0x477D), (17418, 0x478E), (17859, 0x4948), (17909, 0x497B),
   (17911, 0x497E), (17915, 0x4984), (17916, 0x4987), (17936, 0x499C), (17939, 0x49A0),
   (17961, 0x49B8), (18664, 0x4C78), (18703, 0x4CA4), (18814, 0x4D1A), (18962, 0x4DAF),
   (19043, 0x9FA6), (33469, 0xE76C), (33470, 0xE7C8), (33471, 0xE7E7), (33484, 0xE815),
   (33485, 0xE819), (33490, 0xE81F), (33497, 0xE827), (33501, 0xE82D), (33505, 0xE833),
   (33513, 0xE83C), (33520, 0xE844), (33536, 0xE856), (33550, 0xE865), (37845, 0xF92D),
   (37921, 0xF97A), (37948, 0xF996), (38029, 0xF9E8), (38038, 0xF9F2), (38064, 0xFA10),
   (38065, 0xFA12), (38066, 0xFA15), (38069, 0xFA19), (38075, 0xFA22), (38076, 0xFA25),
   (38078, 0xFA2A), (39108, 0xFE32), (39109, 0xFE45), (39113, 0xFE53), (39114, 0xFE58),
   (39115, 0xFE67), (39116, 0xFE6C), (39265, 0xFF5F), (39394, 0xFFE6), (189000, 0x10000)]

/-- The step that a position belongs to. -/
def stepAt? (position : Nat) : Option (Nat × Nat) :=
  (steps.takeWhile fun s => s.1 ≤ position).getLast?

/-- The step that a code point belongs to. -/
def stepOf? (codePoint : Nat) : Option (Nat × Nat) :=
  (steps.takeWhile fun s => s.2 ≤ codePoint).getLast?

/-- The place of a code point for private use whose pair went to a character of a group. -/
def swapped : Nat × Nat := (7457, 0xE7C7)

/-- The code point that has no encoding: its pair is one more ideographic space. -/
def unencoded : Nat := 0xE5E5

def groupChar? (position : Nat) : Option Char :=
  if position = swapped.1 then some (Char.ofNat swapped.2)
  else if (39420 ≤ position ∧ position < 189000) ∨ 1237576 ≤ position then none
  else (stepAt? position).map fun s => Char.ofNat (s.2 + (position - s.1))

def groupPosition? (c : Char) : Option Nat :=
  if c.toNat = swapped.2 then some swapped.1
  else if c.toNat = unencoded then none
  else (stepOf? c.toNat).map fun s => s.1 + (c.toNat - s.2)

def pairChar? (position : Nat) : Option Char :=
  (pairs.char? position).or (privateUse.char? position)

def pairPosition? (c : Char) : Option Nat :=
  (formerPrivateUse.position? c).or ((privateUse.position? c).or (pairs.position? c))

def isLead (b : UInt8) : Bool := 0x81 ≤ b && b ≤ 0xFE

def isDigit (b : UInt8) : Bool := 0x30 ≤ b && b ≤ 0x39

def isTrail (b : UInt8) : Bool := (0x40 ≤ b && b ≤ 0x7E) || (0x80 ≤ b && b ≤ 0xFE)

def pair? (lead trail : UInt8) : Option Char :=
  if isTrail trail then
    let cell := trail.toNat - (if trail < 0x7F then 0x40 else 0x41)
    pairChar? (190 * (lead.toNat - 0x81) + cell)
  else none

def groupPosition (first second third fourth : UInt8) : Nat :=
  12600 * (first.toNat - 0x81) + 1260 * (second.toNat - 0x30) + 10 * (third.toNat - 0x81) +
    (fourth.toNat - 0x30)

/-- Reads the two bytes after a lead and a digit. -/
def readGroup (first second : UInt8) : Bytes → Reading Unit
  | [] => .bad 2
  | [third] => if isLead third then .bad 3 else .malformed 1 1 ()
  | third :: fourth :: _ =>
    if !isLead third then .malformed 1 1 ()
    else if !isDigit fourth then .malformed 1 2 ()
    else
      match groupChar? (groupPosition first second third fourth) with
      | some c => .char c 4
      | none => .bad 4

def readLead (lead : UInt8) : Bytes → Reading Unit
  | [] => .bad 1
  | second :: rest =>
    if isDigit second then readGroup lead second rest
    else .pair (fun trail => (pair? lead trail).map ([·])) (second :: rest)

def read (b : UInt8) (rest : Bytes) : Reading Unit :=
  if isAscii b then .char (Char.ofNat b.toNat) 1
  else if b = 0x80 then .char (Char.ofNat 0x20AC) 1
  else if isLead b then readLead b rest
  else .bad 1

/-- The euro sign, a single byte, does not leave the decoder busy. -/
def decoder : Decoder := { Decoder.stateless (.uneven 4 false) read with busies := fun _ b => isLead b }

def pairBytes (position : Nat) : Bytes :=
  let cell := position % 190
  [.ofNat (0x81 + position / 190), .ofNat (cell + (if cell < 0x3F then 0x40 else 0x41))]

def groupBytes (position : Nat) : Bytes :=
  [.ofNat (0x81 + position / 12600), .ofNat (0x30 + position % 12600 / 1260),
    .ofNat (0x81 + position % 1260 / 10), .ofNat (0x30 + position % 10)]

def gbkBytes? (c : Char) : Option Bytes :=
  if c.toNat < 0x80 then some [.ofNat c.toNat]
  else if c.toNat = 0x20AC then some [0x80]
  else (pairPosition? c).map pairBytes

def gb18030Bytes? (c : Char) : Option Bytes :=
  if c.toNat < 0x80 then some [.ofNat c.toNat]
  else
    match pairPosition? c with
    | some p => some (pairBytes p)
    | none => (groupPosition? c).map groupBytes

def gbkEncoder : Encoder := .stateless (.uneven 4 false) gbkBytes?

def gb18030Encoder : Encoder := .stateless (.uneven 4 false) gb18030Bytes?

end LinkCharset.Gb
