/-! # Composed characters and marks

The characters that are made of two others, and the combining classes of marks, for the scripts that
the single-byte and the double-byte encodings cover. -/
namespace LinkCharset.Normalization

/-- A composed character and the two it is made of. -/
structure Composition where
  composed : Nat
  first : Nat
  second : Nat
  deriving DecidableEq, Repr

def compositions : List Composition :=
  [⟨0x00C0, 0x0041, 0x0300⟩, ⟨0x00C1, 0x0041, 0x0301⟩, ⟨0x00C2, 0x0041, 0x0302⟩,
   ⟨0x00C3, 0x0041, 0x0303⟩, ⟨0x00C4, 0x0041, 0x0308⟩, ⟨0x00C5, 0x0041, 0x030A⟩,
   ⟨0x00C7, 0x0043, 0x0327⟩, ⟨0x00C8, 0x0045, 0x0300⟩, ⟨0x00C9, 0x0045, 0x0301⟩,
   ⟨0x00CA, 0x0045, 0x0302⟩, ⟨0x00CB, 0x0045, 0x0308⟩, ⟨0x00CC, 0x0049, 0x0300⟩,
   ⟨0x00CD, 0x0049, 0x0301⟩, ⟨0x00CE, 0x0049, 0x0302⟩, ⟨0x00CF, 0x0049, 0x0308⟩,
   ⟨0x00D1, 0x004E, 0x0303⟩, ⟨0x00D2, 0x004F, 0x0300⟩, ⟨0x00D3, 0x004F, 0x0301⟩,
   ⟨0x00D4, 0x004F, 0x0302⟩, ⟨0x00D5, 0x004F, 0x0303⟩, ⟨0x00D6, 0x004F, 0x0308⟩,
   ⟨0x00D9, 0x0055, 0x0300⟩, ⟨0x00DA, 0x0055, 0x0301⟩, ⟨0x00DB, 0x0055, 0x0302⟩,
   ⟨0x00DC, 0x0055, 0x0308⟩, ⟨0x00DD, 0x0059, 0x0301⟩, ⟨0x00E0, 0x0061, 0x0300⟩,
   ⟨0x00E1, 0x0061, 0x0301⟩, ⟨0x00E2, 0x0061, 0x0302⟩, ⟨0x00E3, 0x0061, 0x0303⟩,
   ⟨0x00E4, 0x0061, 0x0308⟩, ⟨0x00E5, 0x0061, 0x030A⟩, ⟨0x00E7, 0x0063, 0x0327⟩,
   ⟨0x00E8, 0x0065, 0x0300⟩, ⟨0x00E9, 0x0065, 0x0301⟩, ⟨0x00EA, 0x0065, 0x0302⟩,
   ⟨0x00EB, 0x0065, 0x0308⟩, ⟨0x00EC, 0x0069, 0x0300⟩, ⟨0x00ED, 0x0069, 0x0301⟩,
   ⟨0x00EE, 0x0069, 0x0302⟩, ⟨0x00EF, 0x0069, 0x0308⟩, ⟨0x00F1, 0x006E, 0x0303⟩,
   ⟨0x00F2, 0x006F, 0x0300⟩, ⟨0x00F3, 0x006F, 0x0301⟩, ⟨0x00F4, 0x006F, 0x0302⟩,
   ⟨0x00F5, 0x006F, 0x0303⟩, ⟨0x00F6, 0x006F, 0x0308⟩, ⟨0x00F9, 0x0075, 0x0300⟩,
   ⟨0x00FA, 0x0075, 0x0301⟩, ⟨0x00FB, 0x0075, 0x0302⟩, ⟨0x00FC, 0x0075, 0x0308⟩,
   ⟨0x00FD, 0x0079, 0x0301⟩, ⟨0x00FF, 0x0079, 0x0308⟩, ⟨0x0100, 0x0041, 0x0304⟩,
   ⟨0x0101, 0x0061, 0x0304⟩, ⟨0x0102, 0x0041, 0x0306⟩, ⟨0x0103, 0x0061, 0x0306⟩,
   ⟨0x0104, 0x0041, 0x0328⟩, ⟨0x0105, 0x0061, 0x0328⟩, ⟨0x0106, 0x0043, 0x0301⟩,
   ⟨0x0107, 0x0063, 0x0301⟩, ⟨0x0108, 0x0043, 0x0302⟩, ⟨0x0109, 0x0063, 0x0302⟩,
   ⟨0x010A, 0x0043, 0x0307⟩, ⟨0x010B, 0x0063, 0x0307⟩, ⟨0x010C, 0x0043, 0x030C⟩,
   ⟨0x010D, 0x0063, 0x030C⟩, ⟨0x010E, 0x0044, 0x030C⟩, ⟨0x010F, 0x0064, 0x030C⟩,
   ⟨0x0112, 0x0045, 0x0304⟩, ⟨0x0113, 0x0065, 0x0304⟩, ⟨0x0114, 0x0045, 0x0306⟩,
   ⟨0x0115, 0x0065, 0x0306⟩, ⟨0x0116, 0x0045, 0x0307⟩, ⟨0x0117, 0x0065, 0x0307⟩,
   ⟨0x0118, 0x0045, 0x0328⟩, ⟨0x0119, 0x0065, 0x0328⟩, ⟨0x011A, 0x0045, 0x030C⟩,
   ⟨0x011B, 0x0065, 0x030C⟩, ⟨0x011C, 0x0047, 0x0302⟩, ⟨0x011D, 0x0067, 0x0302⟩,
   ⟨0x011E, 0x0047, 0x0306⟩, ⟨0x011F, 0x0067, 0x0306⟩, ⟨0x0120, 0x0047, 0x0307⟩,
   ⟨0x0121, 0x0067, 0x0307⟩, ⟨0x0122, 0x0047, 0x0327⟩, ⟨0x0123, 0x0067, 0x0327⟩,
   ⟨0x0124, 0x0048, 0x0302⟩, ⟨0x0125, 0x0068, 0x0302⟩, ⟨0x0128, 0x0049, 0x0303⟩,
   ⟨0x0129, 0x0069, 0x0303⟩, ⟨0x012A, 0x0049, 0x0304⟩, ⟨0x012B, 0x0069, 0x0304⟩,
   ⟨0x012C, 0x0049, 0x0306⟩, ⟨0x012D, 0x0069, 0x0306⟩, ⟨0x012E, 0x0049, 0x0328⟩,
   ⟨0x012F, 0x0069, 0x0328⟩, ⟨0x0130, 0x0049, 0x0307⟩, ⟨0x0134, 0x004A, 0x0302⟩,
   ⟨0x0135, 0x006A, 0x0302⟩, ⟨0x0136, 0x004B, 0x0327⟩, ⟨0x0137, 0x006B, 0x0327⟩,
   ⟨0x0139, 0x004C, 0x0301⟩, ⟨0x013A, 0x006C, 0x0301⟩, ⟨0x013B, 0x004C, 0x0327⟩,
   ⟨0x013C, 0x006C, 0x0327⟩, ⟨0x013D, 0x004C, 0x030C⟩, ⟨0x013E, 0x006C, 0x030C⟩,
   ⟨0x0143, 0x004E, 0x0301⟩, ⟨0x0144, 0x006E, 0x0301⟩, ⟨0x0145, 0x004E, 0x0327⟩,
   ⟨0x0146, 0x006E, 0x0327⟩, ⟨0x0147, 0x004E, 0x030C⟩, ⟨0x0148, 0x006E, 0x030C⟩,
   ⟨0x014C, 0x004F, 0x0304⟩, ⟨0x014D, 0x006F, 0x0304⟩, ⟨0x014E, 0x004F, 0x0306⟩,
   ⟨0x014F, 0x006F, 0x0306⟩, ⟨0x0150, 0x004F, 0x030B⟩, ⟨0x0151, 0x006F, 0x030B⟩,
   ⟨0x0154, 0x0052, 0x0301⟩, ⟨0x0155, 0x0072, 0x0301⟩, ⟨0x0156, 0x0052, 0x0327⟩,
   ⟨0x0157, 0x0072, 0x0327⟩, ⟨0x0158, 0x0052, 0x030C⟩, ⟨0x0159, 0x0072, 0x030C⟩,
   ⟨0x015A, 0x0053, 0x0301⟩, ⟨0x015B, 0x0073, 0x0301⟩, ⟨0x015C, 0x0053, 0x0302⟩,
   ⟨0x015D, 0x0073, 0x0302⟩, ⟨0x015E, 0x0053, 0x0327⟩, ⟨0x015F, 0x0073, 0x0327⟩,
   ⟨0x0160, 0x0053, 0x030C⟩, ⟨0x0161, 0x0073, 0x030C⟩, ⟨0x0162, 0x0054, 0x0327⟩,
   ⟨0x0163, 0x0074, 0x0327⟩, ⟨0x0164, 0x0054, 0x030C⟩, ⟨0x0165, 0x0074, 0x030C⟩,
   ⟨0x0168, 0x0055, 0x0303⟩, ⟨0x0169, 0x0075, 0x0303⟩, ⟨0x016A, 0x0055, 0x0304⟩,
   ⟨0x016B, 0x0075, 0x0304⟩, ⟨0x016C, 0x0055, 0x0306⟩, ⟨0x016D, 0x0075, 0x0306⟩,
   ⟨0x016E, 0x0055, 0x030A⟩, ⟨0x016F, 0x0075, 0x030A⟩, ⟨0x0170, 0x0055, 0x030B⟩,
   ⟨0x0171, 0x0075, 0x030B⟩, ⟨0x0172, 0x0055, 0x0328⟩, ⟨0x0173, 0x0075, 0x0328⟩,
   ⟨0x0174, 0x0057, 0x0302⟩, ⟨0x0175, 0x0077, 0x0302⟩, ⟨0x0176, 0x0059, 0x0302⟩,
   ⟨0x0177, 0x0079, 0x0302⟩, ⟨0x0178, 0x0059, 0x0308⟩, ⟨0x0179, 0x005A, 0x0301⟩,
   ⟨0x017A, 0x007A, 0x0301⟩, ⟨0x017B, 0x005A, 0x0307⟩, ⟨0x017C, 0x007A, 0x0307⟩,
   ⟨0x017D, 0x005A, 0x030C⟩, ⟨0x017E, 0x007A, 0x030C⟩, ⟨0x01A0, 0x004F, 0x031B⟩,
   ⟨0x01A1, 0x006F, 0x031B⟩, ⟨0x01AF, 0x0055, 0x031B⟩, ⟨0x01B0, 0x0075, 0x031B⟩,
   ⟨0x01CD, 0x0041, 0x030C⟩, ⟨0x01CE, 0x0061, 0x030C⟩, ⟨0x0218, 0x0053, 0x0326⟩,
   ⟨0x0219, 0x0073, 0x0326⟩, ⟨0x021A, 0x0054, 0x0326⟩, ⟨0x021B, 0x0074, 0x0326⟩,
   ⟨0x0385, 0x00A8, 0x0301⟩, ⟨0x0386, 0x0391, 0x0301⟩, ⟨0x0388, 0x0395, 0x0301⟩,
   ⟨0x0389, 0x0397, 0x0301⟩, ⟨0x038A, 0x0399, 0x0301⟩, ⟨0x038C, 0x039F, 0x0301⟩,
   ⟨0x038E, 0x03A5, 0x0301⟩, ⟨0x038F, 0x03A9, 0x0301⟩, ⟨0x0390, 0x03CA, 0x0301⟩,
   ⟨0x03AA, 0x0399, 0x0308⟩, ⟨0x03AB, 0x03A5, 0x0308⟩, ⟨0x03AC, 0x03B1, 0x0301⟩,
   ⟨0x03AD, 0x03B5, 0x0301⟩, ⟨0x03AE, 0x03B7, 0x0301⟩, ⟨0x03AF, 0x03B9, 0x0301⟩,
   ⟨0x03B0, 0x03CB, 0x0301⟩, ⟨0x03CA, 0x03B9, 0x0308⟩, ⟨0x03CB, 0x03C5, 0x0308⟩,
   ⟨0x03CC, 0x03BF, 0x0301⟩, ⟨0x03CD, 0x03C5, 0x0301⟩, ⟨0x03CE, 0x03C9, 0x0301⟩,
   ⟨0x0401, 0x0415, 0x0308⟩, ⟨0x0403, 0x0413, 0x0301⟩, ⟨0x0407, 0x0406, 0x0308⟩,
   ⟨0x040C, 0x041A, 0x0301⟩, ⟨0x040E, 0x0423, 0x0306⟩, ⟨0x0419, 0x0418, 0x0306⟩,
   ⟨0x0439, 0x0438, 0x0306⟩, ⟨0x0451, 0x0435, 0x0308⟩, ⟨0x0453, 0x0433, 0x0301⟩,
   ⟨0x0457, 0x0456, 0x0308⟩, ⟨0x045C, 0x043A, 0x0301⟩, ⟨0x045E, 0x0443, 0x0306⟩,
   ⟨0x0622, 0x0627, 0x0653⟩, ⟨0x0623, 0x0627, 0x0654⟩, ⟨0x0624, 0x0648, 0x0654⟩,
   ⟨0x0625, 0x0627, 0x0655⟩, ⟨0x0626, 0x064A, 0x0654⟩, ⟨0x1E02, 0x0042, 0x0307⟩,
   ⟨0x1E03, 0x0062, 0x0307⟩, ⟨0x1E0A, 0x0044, 0x0307⟩, ⟨0x1E0B, 0x0064, 0x0307⟩,
   ⟨0x1E1E, 0x0046, 0x0307⟩, ⟨0x1E1F, 0x0066, 0x0307⟩, ⟨0x1E40, 0x004D, 0x0307⟩,
   ⟨0x1E41, 0x006D, 0x0307⟩, ⟨0x1E56, 0x0050, 0x0307⟩, ⟨0x1E57, 0x0070, 0x0307⟩,
   ⟨0x1E60, 0x0053, 0x0307⟩, ⟨0x1E61, 0x0073, 0x0307⟩, ⟨0x1E6A, 0x0054, 0x0307⟩,
   ⟨0x1E6B, 0x0074, 0x0307⟩, ⟨0x1E80, 0x0057, 0x0300⟩, ⟨0x1E81, 0x0077, 0x0300⟩,
   ⟨0x1E82, 0x0057, 0x0301⟩, ⟨0x1E83, 0x0077, 0x0301⟩, ⟨0x1E84, 0x0057, 0x0308⟩,
   ⟨0x1E85, 0x0077, 0x0308⟩, ⟨0x1EF2, 0x0059, 0x0300⟩, ⟨0x1EF3, 0x0079, 0x0300⟩,
   ⟨0x2224, 0x2223, 0x0338⟩, ⟨0x2260, 0x003D, 0x0338⟩, ⟨0x304C, 0x304B, 0x3099⟩,
   ⟨0x304E, 0x304D, 0x3099⟩, ⟨0x3050, 0x304F, 0x3099⟩, ⟨0x3052, 0x3051, 0x3099⟩,
   ⟨0x3054, 0x3053, 0x3099⟩, ⟨0x3056, 0x3055, 0x3099⟩, ⟨0x3058, 0x3057, 0x3099⟩,
   ⟨0x305A, 0x3059, 0x3099⟩, ⟨0x305C, 0x305B, 0x3099⟩, ⟨0x305E, 0x305D, 0x3099⟩,
   ⟨0x3060, 0x305F, 0x3099⟩, ⟨0x3062, 0x3061, 0x3099⟩, ⟨0x3065, 0x3064, 0x3099⟩,
   ⟨0x3067, 0x3066, 0x3099⟩, ⟨0x3069, 0x3068, 0x3099⟩, ⟨0x3070, 0x306F, 0x3099⟩,
   ⟨0x3071, 0x306F, 0x309A⟩, ⟨0x3073, 0x3072, 0x3099⟩, ⟨0x3074, 0x3072, 0x309A⟩,
   ⟨0x3076, 0x3075, 0x3099⟩, ⟨0x3077, 0x3075, 0x309A⟩, ⟨0x3079, 0x3078, 0x3099⟩,
   ⟨0x307A, 0x3078, 0x309A⟩, ⟨0x307C, 0x307B, 0x3099⟩, ⟨0x307D, 0x307B, 0x309A⟩,
   ⟨0x30AC, 0x30AB, 0x3099⟩, ⟨0x30AE, 0x30AD, 0x3099⟩, ⟨0x30B0, 0x30AF, 0x3099⟩,
   ⟨0x30B2, 0x30B1, 0x3099⟩, ⟨0x30B4, 0x30B3, 0x3099⟩, ⟨0x30B6, 0x30B5, 0x3099⟩,
   ⟨0x30B8, 0x30B7, 0x3099⟩, ⟨0x30BA, 0x30B9, 0x3099⟩, ⟨0x30BC, 0x30BB, 0x3099⟩,
   ⟨0x30BE, 0x30BD, 0x3099⟩, ⟨0x30C0, 0x30BF, 0x3099⟩, ⟨0x30C2, 0x30C1, 0x3099⟩,
   ⟨0x30C5, 0x30C4, 0x3099⟩, ⟨0x30C7, 0x30C6, 0x3099⟩, ⟨0x30C9, 0x30C8, 0x3099⟩,
   ⟨0x30D0, 0x30CF, 0x3099⟩, ⟨0x30D1, 0x30CF, 0x309A⟩, ⟨0x30D3, 0x30D2, 0x3099⟩,
   ⟨0x30D4, 0x30D2, 0x309A⟩, ⟨0x30D6, 0x30D5, 0x3099⟩, ⟨0x30D7, 0x30D5, 0x309A⟩,
   ⟨0x30D9, 0x30D8, 0x3099⟩, ⟨0x30DA, 0x30D8, 0x309A⟩, ⟨0x30DC, 0x30DB, 0x3099⟩,
   ⟨0x30DD, 0x30DB, 0x309A⟩, ⟨0x30F4, 0x30A6, 0x3099⟩]

/-- Closed ranges of marks and their class. -/
def combiningClasses : List (Nat × Nat × Nat) :=
  [(0x0300, 0x030C, 230), (0x031B, 0x031B, 216), (0x0323, 0x0326, 220), (0x0327, 0x0328, 202),
   (0x0333, 0x0333, 220), (0x0338, 0x0338, 1), (0x05B0, 0x05B0, 10), (0x05B1, 0x05B1, 11),
   (0x05B2, 0x05B2, 12), (0x05B3, 0x05B3, 13), (0x05B4, 0x05B4, 14), (0x05B5, 0x05B5, 15),
   (0x05B6, 0x05B6, 16), (0x05B7, 0x05B7, 17), (0x05B8, 0x05B8, 18), (0x05B9, 0x05BA, 19),
   (0x05BB, 0x05BB, 20), (0x05BC, 0x05BC, 21), (0x05BD, 0x05BD, 22), (0x05BF, 0x05BF, 23),
   (0x05C1, 0x05C1, 24), (0x05C2, 0x05C2, 25), (0x064B, 0x064B, 27), (0x064C, 0x064C, 28),
   (0x064D, 0x064D, 29), (0x064E, 0x064E, 30), (0x064F, 0x064F, 31), (0x0650, 0x0650, 32),
   (0x0651, 0x0651, 33), (0x0652, 0x0652, 34), (0x0653, 0x0654, 230), (0x0655, 0x0655, 220),
   (0x094D, 0x094D, 9), (0x0E38, 0x0E39, 103), (0x0E3A, 0x0E3A, 9), (0x0E48, 0x0E4B, 107),
   (0x3099, 0x309A, 8)]

/-- Closed ranges of the marks, whether they have a class or not. -/
def marks : List (Nat × Nat) :=
  [(0x0300, 0x034F), (0x05B0, 0x05BD), (0x05BF, 0x05BF), (0x05C1, 0x05C2), (0x064B, 0x0655),
   (0x094D, 0x094D), (0x0E31, 0x0E31), (0x0E34, 0x0E3A), (0x0E47, 0x0E4E), (0x3099, 0x309A)]

end LinkCharset.Normalization
