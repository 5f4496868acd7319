import LinkCharset.Encoding.Chart

/-! # The upper halves of the single-byte encodings

Position 0 of a chart is byte `0x80`. A position that no span covers is unassigned. -/
namespace LinkCharset.SingleByte.Charts

def ibm866 : Chart :=
  [⟨0, 48, 0x0410⟩, ⟨48, 3, 0x2591⟩, ⟨51, 1, 0x2502⟩, ⟨52, 1, 0x2524⟩, ⟨53, 2, 0x2561⟩,
   ⟨55, 1, 0x2556⟩, ⟨56, 1, 0x2555⟩, ⟨57, 1, 0x2563⟩, ⟨58, 1, 0x2551⟩, ⟨59, 1, 0x2557⟩,
   ⟨60, 1, 0x255D⟩, ⟨61, 1, 0x255C⟩, ⟨62, 1, 0x255B⟩, ⟨63, 1, 0x2510⟩, ⟨64, 1, 0x2514⟩,
   ⟨65, 1, 0x2534⟩, ⟨66, 1, 0x252C⟩, ⟨67, 1, 0x251C⟩, ⟨68, 1, 0x2500⟩, ⟨69, 1, 0x253C⟩,
   ⟨70, 2, 0x255E⟩, ⟨72, 1, 0x255A⟩, ⟨73, 1, 0x2554⟩, ⟨74, 1, 0x2569⟩, ⟨75, 1, 0x2566⟩,
   ⟨76, 1, 0x2560⟩, ⟨77, 1, 0x2550⟩, ⟨78, 1, 0x256C⟩, ⟨79, 2, 0x2567⟩, ⟨81, 2, 0x2564⟩,
   ⟨83, 1, 0x2559⟩, ⟨84, 1, 0x2558⟩, ⟨85, 2, 0x2552⟩, ⟨87, 1, 0x256B⟩, ⟨88, 1, 0x256A⟩,
   ⟨89, 1, 0x2518⟩, ⟨90, 1, 0x250C⟩, ⟨91, 1, 0x2588⟩, ⟨92, 1, 0x2584⟩, ⟨93, 1, 0x258C⟩,
   ⟨94, 1, 0x2590⟩, ⟨95, 1, 0x2580⟩, ⟨96, 16, 0x0440⟩, ⟨112, 1, 0x0401⟩, ⟨113, 1, 0x0451⟩,
   ⟨114, 1, 0x0404⟩, ⟨115, 1, 0x0454⟩, ⟨116, 1, 0x0407⟩, ⟨117, 1, 0x0457⟩, ⟨118, 1, 0x040E⟩,
   ⟨119, 1, 0x045E⟩, ⟨120, 1, 0x00B0⟩, ⟨121, 1, 0x2219⟩, ⟨122, 1, 0x00B7⟩, ⟨123, 1, 0x221A⟩,
   ⟨124, 1, 0x2116⟩, ⟨125, 1, 0x00A4⟩, ⟨126, 1, 0x25A0⟩, ⟨127, 1, 0x00A0⟩]

def iso8859_2 : Chart :=
  [⟨0, 33, 0x0080⟩, ⟨33, 1, 0x0104⟩, ⟨34, 1, 0x02D8⟩, ⟨35, 1, 0x0141⟩, ⟨36, 1, 0x00A4⟩,
   ⟨37, 1, 0x013D⟩, ⟨38, 1, 0x015A⟩, ⟨39, 2, 0x00A7⟩, ⟨41, 1, 0x0160⟩, ⟨42, 1, 0x015E⟩,
   ⟨43, 1, 0x0164⟩, ⟨44, 1, 0x0179⟩, ⟨45, 1, 0x00AD⟩, ⟨46, 1, 0x017D⟩, ⟨47, 1, 0x017B⟩,
   ⟨48, 1, 0x00B0⟩, ⟨49, 1, 0x0105⟩, ⟨50, 1, 0x02DB⟩, ⟨51, 1, 0x0142⟩, ⟨52, 1, 0x00B4⟩,
   ⟨53, 1, 0x013E⟩, ⟨54, 1, 0x015B⟩, ⟨55, 1, 0x02C7⟩, ⟨56, 1, 0x00B8⟩, ⟨57, 1, 0x0161⟩,
   ⟨58, 1, 0x015F⟩, ⟨59, 1, 0x0165⟩, ⟨60, 1, 0x017A⟩, ⟨61, 1, 0x02DD⟩, ⟨62, 1, 0x017E⟩,
   ⟨63, 1, 0x017C⟩, ⟨64, 1, 0x0154⟩, ⟨65, 2, 0x00C1⟩, ⟨67, 1, 0x0102⟩, ⟨68, 1, 0x00C4⟩,
   ⟨69, 1, 0x0139⟩, ⟨70, 1, 0x0106⟩, ⟨71, 1, 0x00C7⟩, ⟨72, 1, 0x010C⟩, ⟨73, 1, 0x00C9⟩,
   ⟨74, 1, 0x0118⟩, ⟨75, 1, 0x00CB⟩, ⟨76, 1, 0x011A⟩, ⟨77, 2, 0x00CD⟩, ⟨79, 1, 0x010E⟩,
   ⟨80, 1, 0x0110⟩, ⟨81, 1, 0x0143⟩, ⟨82, 1, 0x0147⟩, ⟨83, 2, 0x00D3⟩, ⟨85, 1, 0x0150⟩,
   ⟨86, 2, 0x00D6⟩, ⟨88, 1, 0x0158⟩, ⟨89, 1, 0x016E⟩, ⟨90, 1, 0x00DA⟩, ⟨91, 1, 0x0170⟩,
   ⟨92, 2, 0x00DC⟩, ⟨94, 1, 0x0162⟩, ⟨95, 1, 0x00DF⟩, ⟨96, 1, 0x0155⟩, ⟨97, 2, 0x00E1⟩,
   ⟨99, 1, 0x0103⟩, ⟨100, 1, 0x00E4⟩, ⟨101, 1, 0x013A⟩, ⟨102, 1, 0x0107⟩, ⟨103, 1, 0x00E7⟩,
   ⟨104, 1, 0x010D⟩, ⟨105, 1, 0x00E9⟩, ⟨106, 1, 0x0119⟩, ⟨107, 1, 0x00EB⟩, ⟨108, 1, 0x011B⟩,
   ⟨109, 2, 0x00ED⟩, ⟨111, 1, 0x010F⟩, ⟨112, 1, 0x0111⟩, ⟨113, 1, 0x0144⟩, ⟨114, 1, 0x0148⟩,
   ⟨115, 2, 0x00F3⟩, ⟨117, 1, 0x0151⟩, ⟨118, 2, 0x00F6⟩, ⟨120, 1, 0x0159⟩, ⟨121, 1, 0x016F⟩,
   ⟨122, 1, 0x00FA⟩, ⟨123, 1, 0x0171⟩, ⟨124, 2, 0x00FC⟩, ⟨126, 1, 0x0163⟩, ⟨127, 1, 0x02D9⟩]

def iso8859_3 : Chart :=
  [⟨0, 33, 0x0080⟩, ⟨33, 1, 0x0126⟩, ⟨34, 1, 0x02D8⟩, ⟨35, 2, 0x00A3⟩, ⟨38, 1, 0x0124⟩,
   ⟨39, 2, 0x00A7⟩, ⟨41, 1, 0x0130⟩, ⟨42, 1, 0x015E⟩, ⟨43, 1, 0x011E⟩, ⟨44, 1, 0x0134⟩,
   ⟨45, 1, 0x00AD⟩, ⟨47, 1, 0x017B⟩, ⟨48, 1, 0x00B0⟩, ⟨49, 1, 0x0127⟩, ⟨50, 4, 0x00B2⟩,
   ⟨54, 1, 0x0125⟩, ⟨55, 2, 0x00B7⟩, ⟨57, 1, 0x0131⟩, ⟨58, 1, 0x015F⟩, ⟨59, 1, 0x011F⟩,
   ⟨60, 1, 0x0135⟩, ⟨61, 1, 0x00BD⟩, ⟨63, 1, 0x017C⟩, ⟨64, 3, 0x00C0⟩, ⟨68, 1, 0x00C4⟩,
   ⟨69, 1, 0x010A⟩, ⟨70, 1, 0x0108⟩, ⟨71, 9, 0x00C7⟩, ⟨81, 4, 0x00D1⟩, ⟨85, 1, 0x0120⟩,
   ⟨86, 2, 0x00D6⟩, ⟨88, 1, 0x011C⟩, ⟨89, 4, 0x00D9⟩, ⟨93, 1, 0x016C⟩, ⟨94, 1, 0x015C⟩,
   ⟨95, 4, 0x00DF⟩, ⟨100, 1, 0x00E4⟩, ⟨101, 1, 0x010B⟩, ⟨102, 1, 0x0109⟩, ⟨103, 9, 0x00E7⟩,
   ⟨113, 4, 0x00F1⟩, ⟨117, 1, 0x0121⟩, ⟨118, 2, 0x00F6⟩, ⟨120, 1, 0x011D⟩, ⟨121, 4, 0x00F9⟩,
   ⟨125, 1, 0x016D⟩, ⟨126, 1, 0x015D⟩, ⟨127, 1, 0x02D9⟩]

def iso8859_4 : Chart :=
  [⟨0, 33, 0x0080⟩, ⟨33, 1, 0x0104⟩, ⟨34, 1, 0x0138⟩, ⟨35, 1, 0x0156⟩, ⟨36, 1, 0x00A4⟩,
   ⟨37, 1, 0x0128⟩, ⟨38, 1, 0x013B⟩, ⟨39, 2, 0x00A7⟩, ⟨41, 1, 0x0160⟩, ⟨42, 1, 0x0112⟩,
   ⟨43, 1, 0x0122⟩, ⟨44, 1, 0x0166⟩, ⟨45, 1, 0x00AD⟩, ⟨46, 1, 0x017D⟩, ⟨47, 2, 0x00AF⟩,
   ⟨49, 1, 0x0105⟩, ⟨50, 1, 0x02DB⟩, ⟨51, 1, 0x0157⟩, ⟨52, 1, 0x00B4⟩, ⟨53, 1, 0x0129⟩,
   ⟨54, 1, 0x013C⟩, ⟨55, 1, 0x02C7⟩, ⟨56, 1, 0x00B8⟩, ⟨57, 1, 0x0161⟩, ⟨58, 1, 0x0113⟩,
   ⟨59, 1, 0x0123⟩, ⟨60, 1, 0x0167⟩, ⟨61, 1, 0x014A⟩, ⟨62, 1, 0x017E⟩, ⟨63, 1, 0x014B⟩,
   ⟨64, 1, 0x0100⟩, ⟨65, 6, 0x00C1⟩, ⟨71, 1, 0x012E⟩, ⟨72, 1, 0x010C⟩, ⟨73, 1, 0x00C9⟩,
   ⟨74, 1, 0x0118⟩, ⟨75, 1, 0x00CB⟩, ⟨76, 1, 0x0116⟩, ⟨77, 2, 0x00CD⟩, ⟨79, 1, 0x012A⟩,
   ⟨80, 1, 0x0110⟩, ⟨81, 1, 0x0145⟩, ⟨82, 1, 0x014C⟩, ⟨83, 1, 0x0136⟩, ⟨84, 5, 0x00D4⟩,
   ⟨89, 1, 0x0172⟩, ⟨90, 3, 0x00DA⟩, ⟨93, 1, 0x0168⟩, ⟨94, 1, 0x016A⟩, ⟨95, 1, 0x00DF⟩,
   ⟨96, 1, 0x0101⟩, ⟨97, 6, 0x00E1⟩, ⟨103, 1, 0x012F⟩, ⟨104, 1, 0x010D⟩, ⟨105, 1, 0x00E9⟩,
   ⟨106, 1, 0x0119⟩, ⟨107, 1, 0x00EB⟩, ⟨108, 1, 0x0117⟩, ⟨109, 2, 0x00ED⟩, ⟨111, 1, 0x012B⟩,
   ⟨112, 1, 0x0111⟩, ⟨113, 1, 0x0146⟩, ⟨114, 1, 0x014D⟩, ⟨115, 1, 0x0137⟩, ⟨116, 5, 0x00F4⟩,
   ⟨121, 1, 0x0173⟩, ⟨122, 3, 0x00FA⟩, ⟨125, 1, 0x0169⟩, ⟨126, 1, 0x016B⟩, ⟨127, 1, 0x02D9⟩]

def iso8859_5 : Chart :=
  [⟨0, 33, 0x0080⟩, ⟨33, 12, 0x0401⟩, ⟨45, 1, 0x00AD⟩, ⟨46, 66, 0x040E⟩, ⟨112, 1, 0x2116⟩,
   ⟨113, 12, 0x0451⟩, ⟨125, 1, 0x00A7⟩, ⟨126, 2, 0x045E⟩]

def iso8859_6 : Chart :=
  [⟨0, 33, 0x0080⟩, ⟨36, 1, 0x00A4⟩, ⟨44, 1, 0x060C⟩, ⟨45, 1, 0x00AD⟩, ⟨59, 1, 0x061B⟩,
   ⟨63, 1, 0x061F⟩, ⟨65, 26, 0x0621⟩, ⟨96, 19, 0x0640⟩]

def iso8859_7 : Chart :=
  [⟨0, 33, 0x0080⟩, ⟨33, 2, 0x2018⟩, ⟨35, 1, 0x00A3⟩, ⟨36, 1, 0x20AC⟩, ⟨37, 1, 0x20AF⟩,
   ⟨38, 4, 0x00A6⟩, ⟨42, 1, 0x037A⟩, ⟨43, 3, 0x00AB⟩, ⟨47, 1, 0x2015⟩, ⟨48, 4, 0x00B0⟩,
   ⟨52, 3, 0x0384⟩, ⟨55, 1, 0x00B7⟩, ⟨56, 3, 0x0388⟩, ⟨59, 1, 0x00BB⟩, ⟨60, 1, 0x038C⟩,
   ⟨61, 1, 0x00BD⟩, ⟨62, 20, 0x038E⟩, ⟨83, 44, 0x03A3⟩]

def iso8859_8 : Chart :=
  [⟨0, 33, 0x0080⟩, ⟨34, 8, 0x00A2⟩, ⟨42, 1, 0x00D7⟩, ⟨43, 15, 0x00AB⟩, ⟨58, 1, 0x00F7⟩,
   ⟨59, 4, 0x00BB⟩, ⟨95, 1, 0x2017⟩, ⟨96, 27, 0x05D0⟩, ⟨125, 2, 0x200E⟩]

def iso8859_10 : Chart :=
  [⟨0, 33, 0x0080⟩, ⟨33, 1, 0x0104⟩, ⟨34, 1, 0x0112⟩, ⟨35, 1, 0x0122⟩, ⟨36, 1, 0x012A⟩,
   ⟨37, 1, 0x0128⟩, ⟨38, 1, 0x0136⟩, ⟨39, 1, 0x00A7⟩, ⟨40, 1, 0x013B⟩, ⟨41, 1, 0x0110⟩,
   ⟨42, 1, 0x0160⟩, ⟨43, 1, 0x0166⟩, ⟨44, 1, 0x017D⟩, ⟨45, 1, 0x00AD⟩, ⟨46, 1, 0x016A⟩,
   ⟨47, 1, 0x014A⟩, ⟨48, 1, 0x00B0⟩, ⟨49, 1, 0x0105⟩, ⟨50, 1, 0x0113⟩, ⟨51, 1, 0x0123⟩,
   ⟨52, 1, 0x012B⟩, ⟨53, 1, 0x0129⟩, ⟨54, 1, 0x0137⟩, ⟨55, 1, 0x00B7⟩, ⟨56, 1, 0x013C⟩,
   ⟨57, 1, 0x0111⟩, ⟨58, 1, 0x0161⟩, ⟨59, 1, 0x0167⟩, ⟨60, 1, 0x017E⟩, ⟨61, 1, 0x2015⟩,
   ⟨62, 1, 0x016B⟩, ⟨63, 1, 0x014B⟩, ⟨64, 1, 0x0100⟩, ⟨65, 6, 0x00C1⟩, ⟨71, 1, 0x012E⟩,
   ⟨72, 1, 0x010C⟩, ⟨73, 1, 0x00C9⟩, ⟨74, 1, 0x0118⟩, ⟨75, 1, 0x00CB⟩, ⟨76, 1, 0x0116⟩,
   ⟨77, 4, 0x00CD⟩, ⟨81, 1, 0x0145⟩, ⟨82, 1, 0x014C⟩, ⟨83, 4, 0x00D3⟩, ⟨87, 1, 0x0168⟩,
   ⟨88, 1, 0x00D8⟩, ⟨89, 1, 0x0172⟩, ⟨90, 6, 0x00DA⟩, ⟨96, 1, 0x0101⟩, ⟨97, 6, 0x00E1⟩,
   ⟨103, 1, 0x012F⟩, ⟨104, 1, 0x010D⟩, ⟨105, 1, 0x00E9⟩, ⟨106, 1, 0x0119⟩, ⟨107, 1, 0x00EB⟩,
   ⟨108, 1, 0x0117⟩, ⟨109, 4, 0x00ED⟩, ⟨113, 1, 0x0146⟩, ⟨114, 1, 0x014D⟩, ⟨115, 4, 0x00F3⟩,
   ⟨119, 1, 0x0169⟩, ⟨120, 1, 0x00F8⟩, ⟨121, 1, 0x0173⟩, ⟨122, 5, 0x00FA⟩, ⟨127, 1, 0x0138⟩]

def iso8859_13 : Chart :=
  [⟨0, 33, 0x0080⟩, ⟨33, 1, 0x201D⟩, ⟨34, 3, 0x00A2⟩, ⟨37, 1, 0x201E⟩, ⟨38, 2, 0x00A6⟩,
   ⟨40, 1, 0x00D8⟩, ⟨41, 1, 0x00A9⟩, ⟨42, 1, 0x0156⟩, ⟨43, 4, 0x00AB⟩, ⟨47, 1, 0x00C6⟩,
   ⟨48, 4, 0x00B0⟩, ⟨52, 1, 0x201C⟩, ⟨53, 3, 0x00B5⟩, ⟨56, 1, 0x00F8⟩, ⟨57, 1, 0x00B9⟩,
   ⟨58, 1, 0x0157⟩, ⟨59, 4, 0x00BB⟩, ⟨63, 1, 0x00E6⟩, ⟨64, 1, 0x0104⟩, ⟨65, 1, 0x012E⟩,
   ⟨66, 1, 0x0100⟩, ⟨67, 1, 0x0106⟩, ⟨68, 2, 0x00C4⟩, ⟨70, 1, 0x0118⟩, ⟨71, 1, 0x0112⟩,
   ⟨72, 1, 0x010C⟩, ⟨73, 1, 0x00C9⟩, ⟨74, 1, 0x0179⟩, ⟨75, 1, 0x0116⟩, ⟨76, 1, 0x0122⟩,
   ⟨77, 1, 0x0136⟩, ⟨78, 1, 0x012A⟩, ⟨79, 1, 0x013B⟩, ⟨80, 1, 0x0160⟩, ⟨81, 1, 0x0143⟩,
   ⟨82, 1, 0x0145⟩, ⟨83, 1, 0x00D3⟩, ⟨84, 1, 0x014C⟩, ⟨85, 3, 0x00D5⟩, ⟨88, 1, 0x0172⟩,
   ⟨89, 1, 0x0141⟩, ⟨90, 1, 0x015A⟩, ⟨91, 1, 0x016A⟩, ⟨92, 1, 0x00DC⟩, ⟨93, 1, 0x017B⟩,
   ⟨94, 1, 0x017D⟩, ⟨95, 1, 0x00DF⟩, ⟨96, 1, 0x0105⟩, ⟨97, 1, 0x012F⟩, ⟨98, 1, 0x0101⟩,
   ⟨99, 1, 0x0107⟩, ⟨100, 2, 0x00E4⟩, ⟨102, 1, 0x0119⟩, ⟨103, 1, 0x0113⟩, ⟨104, 1, 0x010D⟩,
   ⟨105, 1, 0x00E9⟩, ⟨106, 1, 0x017A⟩, ⟨107, 1, 0x0117⟩, ⟨108, 1, 0x0123⟩, ⟨109, 1, 0x0137⟩,
   ⟨110, 1, 0x012B⟩, ⟨111, 1, 0x013C⟩, ⟨112, 1, 0x0161⟩, ⟨113, 1, 0x0144⟩, ⟨114, 1, 0x0146⟩,
   ⟨115, 1, 0x00F3⟩, ⟨116, 1, 0x014D⟩, ⟨117, 3, 0x00F5⟩, ⟨120, 1, 0x0173⟩, ⟨121, 1, 0x0142⟩,
   ⟨122, 1, 0x015B⟩, ⟨123, 1, 0x016B⟩, ⟨124, 1, 0x00FC⟩, ⟨125, 1, 0x017C⟩, ⟨126, 1, 0x017E⟩,
   ⟨127, 1, 0x2019⟩]

def iso8859_14 : Chart :=
  [⟨0, 33, 0x0080⟩, ⟨33, 2, 0x1E02⟩, ⟨35, 1, 0x00A3⟩, ⟨36, 2, 0x010A⟩, ⟨38, 1, 0x1E0A⟩,
   ⟨39, 1, 0x00A7⟩, ⟨40, 1, 0x1E80⟩, ⟨41, 1, 0x00A9⟩, ⟨42, 1, 0x1E82⟩, ⟨43, 1, 0x1E0B⟩,
   ⟨44, 1, 0x1EF2⟩, ⟨45, 2, 0x00AD⟩, ⟨47, 1, 0x0178⟩, ⟨48, 2, 0x1E1E⟩, ⟨50, 2, 0x0120⟩,
   ⟨52, 2, 0x1E40⟩, ⟨54, 1, 0x00B6⟩, ⟨55, 1, 0x1E56⟩, ⟨56, 1, 0x1E81⟩, ⟨57, 1, 0x1E57⟩,
   ⟨58, 1, 0x1E83⟩, ⟨59, 1, 0x1E60⟩, ⟨60, 1, 0x1EF3⟩, ⟨61, 2, 0x1E84⟩, ⟨63, 1, 0x1E61⟩,
   ⟨64, 16, 0x00C0⟩, ⟨80, 1, 0x0174⟩, ⟨81, 6, 0x00D1⟩, ⟨87, 1, 0x1E6A⟩, ⟨88, 6, 0x00D8⟩,
   ⟨94, 1, 0x0176⟩, ⟨95, 17, 0x00DF⟩, ⟨112, 1, 0x0175⟩, ⟨113, 6, 0x00F1⟩, ⟨119, 1, 0x1E6B⟩,
   ⟨120, 6, 0x00F8⟩, ⟨126, 1, 0x0177⟩, ⟨127, 1, 0x00FF⟩]

def iso8859_15 : Chart :=
  [⟨0, 36, 0x0080⟩, ⟨36, 1, 0x20AC⟩, ⟨37, 1, 0x00A5⟩, ⟨38, 1, 0x0160⟩, ⟨39, 1, 0x00A7⟩,
   ⟨40, 1, 0x0161⟩, ⟨41, 11, 0x00A9⟩, ⟨52, 1, 0x017D⟩, ⟨53, 3, 0x00B5⟩, ⟨56, 1, 0x017E⟩,
   ⟨57, 3, 0x00B9⟩, ⟨60, 2, 0x0152⟩, ⟨62, 1, 0x0178⟩, ⟨63, 65, 0x00BF⟩]

def iso8859_16 : Chart :=
  [⟨0, 33, 0x0080⟩, ⟨33, 2, 0x0104⟩, ⟨35, 1, 0x0141⟩, ⟨36, 1, 0x20AC⟩, ⟨37, 1, 0x201E⟩,
   ⟨38, 1, 0x0160⟩, ⟨39, 1, 0x00A7⟩, ⟨40, 1, 0x0161⟩, ⟨41, 1, 0x00A9⟩, ⟨42, 1, 0x0218⟩,
   ⟨43, 1, 0x00AB⟩, ⟨44, 1, 0x0179⟩, ⟨45, 1, 0x00AD⟩, ⟨46, 2, 0x017A⟩, ⟨48, 2, 0x00B0⟩,
   ⟨50, 1, 0x010C⟩, ⟨51, 1, 0x0142⟩, ⟨52, 1, 0x017D⟩, ⟨53, 1, 0x201D⟩, ⟨54, 2, 0x00B6⟩,
   ⟨56, 1, 0x017E⟩, ⟨57, 1, 0x010D⟩, ⟨58, 1, 0x0219⟩, ⟨59, 1, 0x00BB⟩, ⟨60, 2, 0x0152⟩,
   ⟨62, 1, 0x0178⟩, ⟨63, 1, 0x017C⟩, ⟨64, 3, 0x00C0⟩, ⟨67, 1, 0x0102⟩, ⟨68, 1, 0x00C4⟩,
   ⟨69, 1, 0x0106⟩, ⟨70, 10, 0x00C6⟩, ⟨80, 1, 0x0110⟩, ⟨81, 1, 0x0143⟩, ⟨82, 3, 0x00D2⟩,
   ⟨85, 1, 0x0150⟩, ⟨86, 1, 0x00D6⟩, ⟨87, 1, 0x015A⟩, ⟨88, 1, 0x0170⟩, ⟨89, 4, 0x00D9⟩,
   ⟨93, 1, 0x0118⟩, ⟨94, 1, 0x021A⟩, ⟨95, 4, 0x00DF⟩, ⟨99, 1, 0x0103⟩, ⟨100, 1, 0x00E4⟩,
   ⟨101, 1, 0x0107⟩, ⟨102, 10, 0x00E6⟩, ⟨112, 1, 0x0111⟩, ⟨113, 1, 0x0144⟩, ⟨114, 3, 0x00F2⟩,
   ⟨117, 1, 0x0151⟩, ⟨118, 1, 0x00F6⟩, ⟨119, 1, 0x015B⟩, ⟨120, 1, 0x0171⟩, ⟨121, 4, 0x00F9⟩,
   ⟨125, 1, 0x0119⟩, ⟨126, 1, 0x021B⟩, ⟨127, 1, 0x00FF⟩]

def koi8R : Chart :=
  [⟨0, 1, 0x2500⟩, ⟨1, 1, 0x2502⟩, ⟨2, 1, 0x250C⟩, ⟨3, 1, 0x2510⟩, ⟨4, 1, 0x2514⟩, ⟨5, 1, 0x2518⟩,
   ⟨6, 1, 0x251C⟩, ⟨7, 1, 0x2524⟩, ⟨8, 1, 0x252C⟩, ⟨9, 1, 0x2534⟩, ⟨10, 1, 0x253C⟩,
   ⟨11, 1, 0x2580⟩, ⟨12, 1, 0x2584⟩, ⟨13, 1, 0x2588⟩, ⟨14, 1, 0x258C⟩, ⟨15, 4, 0x2590⟩,
   ⟨19, 1, 0x2320⟩, ⟨20, 1, 0x25A0⟩, ⟨21, 2, 0x2219⟩, ⟨23, 1, 0x2248⟩, ⟨24, 2, 0x2264⟩,
   ⟨26, 1, 0x00A0⟩, ⟨27, 1, 0x2321⟩, ⟨28, 1, 0x00B0⟩, ⟨29, 1, 0x00B2⟩, ⟨30, 1, 0x00B7⟩,
   ⟨31, 1, 0x00F7⟩, ⟨32, 3, 0x2550⟩, ⟨35, 1, 0x0451⟩, ⟨36, 15, 0x2553⟩, ⟨51, 1, 0x0401⟩,
   ⟨52, 11, 0x2562⟩, ⟨63, 1, 0x00A9⟩, ⟨64, 1, 0x044E⟩, ⟨65, 2, 0x0430⟩, ⟨67, 1, 0x0446⟩,
   ⟨68, 2, 0x0434⟩, ⟨70, 1, 0x0444⟩, ⟨71, 1, 0x0433⟩, ⟨72, 1, 0x0445⟩, ⟨73, 8, 0x0438⟩,
   ⟨81, 1, 0x044F⟩, ⟨82, 4, 0x0440⟩, ⟨86, 1, 0x0436⟩, ⟨87, 1, 0x0432⟩, ⟨88, 1, 0x044C⟩,
   ⟨89, 1, 0x044B⟩, ⟨90, 1, 0x0437⟩, ⟨91, 1, 0x0448⟩, ⟨92, 1, 0x044D⟩, ⟨93, 1, 0x0449⟩,
   ⟨94, 1, 0x0447⟩, ⟨95, 1, 0x044A⟩, ⟨96, 1, 0x042E⟩, ⟨97, 2, 0x0410⟩, ⟨99, 1, 0x0426⟩,
   ⟨100, 2, 0x0414⟩, ⟨102, 1, 0x0424⟩, ⟨103, 1, 0x0413⟩, ⟨104, 1, 0x0425⟩, ⟨105, 8, 0x0418⟩,
   ⟨113, 1, 0x042F⟩, ⟨114, 4, 0x0420⟩, ⟨118, 1, 0x0416⟩, ⟨119, 1, 0x0412⟩, ⟨120, 1, 0x042C⟩,
   ⟨121, 1, 0x042B⟩, ⟨122, 1, 0x0417⟩, ⟨123, 1, 0x0428⟩, ⟨124, 1, 0x042D⟩, ⟨125, 1, 0x0429⟩,
   ⟨126, 1, 0x0427⟩, ⟨127, 1, 0x042A⟩]

def koi8U : Chart :=
  [⟨0, 1, 0x2500⟩, ⟨1, 1, 0x2502⟩, ⟨2, 1, 0x250C⟩, ⟨3, 1, 0x2510⟩, ⟨4, 1, 0x2514⟩, ⟨5, 1, 0x2518⟩,
   ⟨6, 1, 0x251C⟩, ⟨7, 1, 0x2524⟩, ⟨8, 1, 0x252C⟩, ⟨9, 1, 0x2534⟩, ⟨10, 1, 0x253C⟩,
   ⟨11, 1, 0x2580⟩, ⟨12, 1, 0x2584⟩, ⟨13, 1, 0x2588⟩, ⟨14, 1, 0x258C⟩, ⟨15, 4, 0x2590⟩,
   ⟨19, 1, 0x2320⟩, ⟨20, 1, 0x25A0⟩, ⟨21, 2, 0x2219⟩, ⟨23, 1, 0x2248⟩, ⟨24, 2, 0x2264⟩,
   ⟨26, 1, 0x00A0⟩, ⟨27, 1, 0x2321⟩, ⟨28, 1, 0x00B0⟩, ⟨29, 1, 0x00B2⟩, ⟨30, 1, 0x00B7⟩,
   ⟨31, 1, 0x00F7⟩, ⟨32, 3, 0x2550⟩, ⟨35, 1, 0x0451⟩, ⟨36, 1, 0x0454⟩, ⟨37, 1, 0x2554⟩,
   ⟨38, 2, 0x0456⟩, ⟨40, 5, 0x2557⟩, ⟨45, 1, 0x0491⟩, ⟨46, 1, 0x045E⟩, ⟨47, 4, 0x255E⟩,
   ⟨51, 1, 0x0401⟩, ⟨52, 1, 0x0404⟩, ⟨53, 1, 0x2563⟩, ⟨54, 2, 0x0406⟩, ⟨56, 5, 0x2566⟩,
   ⟨61, 1, 0x0490⟩, ⟨62, 1, 0x040E⟩, ⟨63, 1, 0x00A9⟩, ⟨64, 1, 0x044E⟩, ⟨65, 2, 0x0430⟩,
   ⟨67, 1, 0x0446⟩, ⟨68, 2, 0x0434⟩, ⟨70, 1, 0x0444⟩, ⟨71, 1, 0x0433⟩, ⟨72, 1, 0x0445⟩,
   ⟨73, 8, 0x0438⟩, ⟨81, 1, 0x044F⟩, ⟨82, 4, 0x0440⟩, ⟨86, 1, 0x0436⟩, ⟨87, 1, 0x0432⟩,
   ⟨88, 1, 0x044C⟩, ⟨89, 1, 0x044B⟩, ⟨90, 1, 0x0437⟩, ⟨91, 1, 0x0448⟩, ⟨92, 1, 0x044D⟩,
   ⟨93, 1, 0x0449⟩, ⟨94, 1, 0x0447⟩, ⟨95, 1, 0x044A⟩, ⟨96, 1, 0x042E⟩, ⟨97, 2, 0x0410⟩,
   ⟨99, 1, 0x0426⟩, ⟨100, 2, 0x0414⟩, ⟨102, 1, 0x0424⟩, ⟨103, 1, 0x0413⟩, ⟨104, 1, 0x0425⟩,
   ⟨105, 8, 0x0418⟩, ⟨113, 1, 0x042F⟩, ⟨114, 4, 0x0420⟩, ⟨118, 1, 0x0416⟩, ⟨119, 1, 0x0412⟩,
   ⟨120, 1, 0x042C⟩, ⟨121, 1, 0x042B⟩, ⟨122, 1, 0x0417⟩, ⟨123, 1, 0x0428⟩, ⟨124, 1, 0x042D⟩,
   ⟨125, 1, 0x0429⟩, ⟨126, 1, 0x0427⟩, ⟨127, 1, 0x042A⟩]

def macintosh : Chart :=
  [⟨0, 2, 0x00C4⟩, ⟨2, 1, 0x00C7⟩, ⟨3, 1, 0x00C9⟩, ⟨4, 1, 0x00D1⟩, ⟨5, 1, 0x00D6⟩, ⟨6, 1, 0x00DC⟩,
   ⟨7, 1, 0x00E1⟩, ⟨8, 1, 0x00E0⟩, ⟨9, 1, 0x00E2⟩, ⟨10, 1, 0x00E4⟩, ⟨11, 1, 0x00E3⟩,
   ⟨12, 1, 0x00E5⟩, ⟨13, 1, 0x00E7⟩, ⟨14, 1, 0x00E9⟩, ⟨15, 1, 0x00E8⟩, ⟨16, 2, 0x00EA⟩,
   ⟨18, 1, 0x00ED⟩, ⟨19, 1, 0x00EC⟩, ⟨20, 2, 0x00EE⟩, ⟨22, 1, 0x00F1⟩, ⟨23, 1, 0x00F3⟩,
   ⟨24, 1, 0x00F2⟩, ⟨25, 1, 0x00F4⟩, ⟨26, 1, 0x00F6⟩, ⟨27, 1, 0x00F5⟩, ⟨28, 1, 0x00FA⟩,
   ⟨29, 1, 0x00F9⟩, ⟨30, 2, 0x00FB⟩, ⟨32, 1, 0x2020⟩, ⟨33, 1, 0x00B0⟩, ⟨34, 2, 0x00A2⟩,
   ⟨36, 1, 0x00A7⟩, ⟨37, 1, 0x2022⟩, ⟨38, 1, 0x00B6⟩, ⟨39, 1, 0x00DF⟩, ⟨40, 1, 0x00AE⟩,
   ⟨41, 1, 0x00A9⟩, ⟨42, 1, 0x2122⟩, ⟨43, 1, 0x00B4⟩, ⟨44, 1, 0x00A8⟩, ⟨45, 1, 0x2260⟩,
   ⟨46, 1, 0x00C6⟩, ⟨47, 1, 0x00D8⟩, ⟨48, 1, 0x221E⟩, ⟨49, 1, 0x00B1⟩, ⟨50, 2, 0x2264⟩,
   ⟨52, 1, 0x00A5⟩, ⟨53, 1, 0x00B5⟩, ⟨54, 1, 0x2202⟩, ⟨55, 1, 0x2211⟩, ⟨56, 1, 0x220F⟩,
   ⟨57, 1, 0x03C0⟩, ⟨58, 1, 0x222B⟩, ⟨59, 1, 0x00AA⟩, ⟨60, 1, 0x00BA⟩, ⟨61, 1, 0x03A9⟩,
   ⟨62, 1, 0x00E6⟩, ⟨63, 1, 0x00F8⟩, ⟨64, 1, 0x00BF⟩, ⟨65, 1, 0x00A1⟩, ⟨66, 1, 0x00AC⟩,
   ⟨67, 1, 0x221A⟩, ⟨68, 1, 0x0192⟩, ⟨69, 1, 0x2248⟩, ⟨70, 1, 0x2206⟩, ⟨71, 1, 0x00AB⟩,
   ⟨72, 1, 0x00BB⟩, ⟨73, 1, 0x2026⟩, ⟨74, 1, 0x00A0⟩, ⟨75, 1, 0x00C0⟩, ⟨76, 1, 0x00C3⟩,
   ⟨77, 1, 0x00D5⟩, ⟨78, 2, 0x0152⟩, ⟨80, 2, 0x2013⟩, ⟨82, 2, 0x201C⟩, ⟨84, 2, 0x2018⟩,
   ⟨86, 1, 0x00F7⟩, ⟨87, 1, 0x25CA⟩, ⟨88, 1, 0x00FF⟩, ⟨89, 1, 0x0178⟩, ⟨90, 1, 0x2044⟩,
   ⟨91, 1, 0x20AC⟩, ⟨92, 2, 0x2039⟩, ⟨94, 2, 0xFB01⟩, ⟨96, 1, 0x2021⟩, ⟨97, 1, 0x00B7⟩,
   ⟨98, 1, 0x201A⟩, ⟨99, 1, 0x201E⟩, ⟨100, 1, 0x2030⟩, ⟨101, 1, 0x00C2⟩, ⟨102, 1, 0x00CA⟩,
   ⟨103, 1, 0x00C1⟩, ⟨104, 1, 0x00CB⟩, ⟨105, 1, 0x00C8⟩, ⟨106, 3, 0x00CD⟩, ⟨109, 1, 0x00CC⟩,
   ⟨110, 2, 0x00D3⟩, ⟨112, 1, 0xF8FF⟩, ⟨113, 1, 0x00D2⟩, ⟨114, 2, 0x00DA⟩, ⟨116, 1, 0x00D9⟩,
   ⟨117, 1, 0x0131⟩, ⟨118, 1, 0x02C6⟩, ⟨119, 1, 0x02DC⟩, ⟨120, 1, 0x00AF⟩, ⟨121, 3, 0x02D8⟩,
   ⟨124, 1, 0x00B8⟩, ⟨125, 1, 0x02DD⟩, ⟨126, 1, 0x02DB⟩, ⟨127, 1, 0x02C7⟩]

def windows874 : Chart :=
  [⟨0, 1, 0x20AC⟩, ⟨1, 4, 0x0081⟩, ⟨5, 1, 0x2026⟩, ⟨6, 11, 0x0086⟩, ⟨17, 2, 0x2018⟩,
   ⟨19, 2, 0x201C⟩, ⟨21, 1, 0x2022⟩, ⟨22, 2, 0x2013⟩, ⟨24, 9, 0x0098⟩, ⟨33, 58, 0x0E01⟩,
   ⟨95, 29, 0x0E3F⟩]

def windows1250 : Chart :=
  [⟨0, 1, 0x20AC⟩, ⟨1, 1, 0x0081⟩, ⟨2, 1, 0x201A⟩, ⟨3, 1, 0x0083⟩, ⟨4, 1, 0x201E⟩, ⟨5, 1, 0x2026⟩,
   ⟨6, 2, 0x2020⟩, ⟨8, 1, 0x0088⟩, ⟨9, 1, 0x2030⟩, ⟨10, 1, 0x0160⟩, ⟨11, 1, 0x2039⟩,
   ⟨12, 1, 0x015A⟩, ⟨13, 1, 0x0164⟩, ⟨14, 1, 0x017D⟩, ⟨15, 1, 0x0179⟩, ⟨16, 1, 0x0090⟩,
   ⟨17, 2, 0x2018⟩, ⟨19, 2, 0x201C⟩, ⟨21, 1, 0x2022⟩, ⟨22, 2, 0x2013⟩, ⟨24, 1, 0x0098⟩,
   ⟨25, 1, 0x2122⟩, ⟨26, 1, 0x0161⟩, ⟨27, 1, 0x203A⟩, ⟨28, 1, 0x015B⟩, ⟨29, 1, 0x0165⟩,
   ⟨30, 1, 0x017E⟩, ⟨31, 1, 0x017A⟩, ⟨32, 1, 0x00A0⟩, ⟨33, 1, 0x02C7⟩, ⟨34, 1, 0x02D8⟩,
   ⟨35, 1, 0x0141⟩, ⟨36, 1, 0x00A4⟩, ⟨37, 1, 0x0104⟩, ⟨38, 4, 0x00A6⟩, ⟨42, 1, 0x015E⟩,
   ⟨43, 4, 0x00AB⟩, ⟨47, 1, 0x017B⟩, ⟨48, 2, 0x00B0⟩, ⟨50, 1, 0x02DB⟩, ⟨51, 1, 0x0142⟩,
   ⟨52, 5, 0x00B4⟩, ⟨57, 1, 0x0105⟩, ⟨58, 1, 0x015F⟩, ⟨59, 1, 0x00BB⟩, ⟨60, 1, 0x013D⟩,
   ⟨61, 1, 0x02DD⟩, ⟨62, 1, 0x013E⟩, ⟨63, 1, 0x017C⟩, ⟨64, 1, 0x0154⟩, ⟨65, 2, 0x00C1⟩,
   ⟨67, 1, 0x0102⟩, ⟨68, 1, 0x00C4⟩, ⟨69, 1, 0x0139⟩, ⟨70, 1, 0x0106⟩, ⟨71, 1, 0x00C7⟩,
   ⟨72, 1, 0x010C⟩, ⟨73, 1, 0x00C9⟩, ⟨74, 1, 0x0118⟩, ⟨75, 1, 0x00CB⟩, ⟨76, 1, 0x011A⟩,
   ⟨77, 2, 0x00CD⟩, ⟨79, 1, 0x010E⟩, ⟨80, 1, 0x0110⟩, ⟨81, 1, 0x0143⟩, ⟨82, 1, 0x0147⟩,
   ⟨83, 2, 0x00D3⟩, ⟨85, 1, 0x0150⟩, ⟨86, 2, 0x00D6⟩, ⟨88, 1, 0x0158⟩, ⟨89, 1, 0x016E⟩,
   ⟨90, 1, 0x00DA⟩, ⟨91, 1, 0x0170⟩, ⟨92, 2, 0x00DC⟩, ⟨94, 1, 0x0162⟩, ⟨95, 1, 0x00DF⟩,
   ⟨96, 1, 0x0155⟩, ⟨97, 2, 0x00E1⟩, ⟨99, 1, 0x0103⟩, ⟨100, 1, 0x00E4⟩, ⟨101, 1, 0x013A⟩,
   ⟨102, 1, 0x0107⟩, ⟨103, 1, 0x00E7⟩, ⟨104, 1, 0x010D⟩, ⟨105, 1, 0x00E9⟩, ⟨106, 1, 0x0119⟩,
   ⟨107, 1, 0x00EB⟩, ⟨108, 1, 0x011B⟩, ⟨109, 2, 0x00ED⟩, ⟨111, 1, 0x010F⟩, ⟨112, 1, 0x0111⟩,
   ⟨113, 1, 0x0144⟩, ⟨114, 1, 0x0148⟩, ⟨115, 2, 0x00F3⟩, ⟨117, 1, 0x0151⟩, ⟨118, 2, 0x00F6⟩,
   ⟨120, 1, 0x0159⟩, ⟨121, 1, 0x016F⟩, ⟨122, 1, 0x00FA⟩, ⟨123, 1, 0x0171⟩, ⟨124, 2, 0x00FC⟩,
   ⟨126, 1, 0x0163⟩, ⟨127, 1, 0x02D9⟩]

def windows1251 : Chart :=
  [⟨0, 2, 0x0402⟩, ⟨2, 1, 0x201A⟩, ⟨3, 1, 0x0453⟩, ⟨4, 1, 0x201E⟩, ⟨5, 1, 0x2026⟩, ⟨6, 2, 0x2020⟩,
   ⟨8, 1, 0x20AC⟩, ⟨9, 1, 0x2030⟩, ⟨10, 1, 0x0409⟩, ⟨11, 1, 0x2039⟩, ⟨12, 1, 0x040A⟩,
   ⟨13, 1, 0x040C⟩, ⟨14, 1, 0x040B⟩, ⟨15, 1, 0x040F⟩, ⟨16, 1, 0x0452⟩, ⟨17, 2, 0x2018⟩,
   ⟨19, 2, 0x201C⟩, ⟨21, 1, 0x2022⟩, ⟨22, 2, 0x2013⟩, ⟨24, 1, 0x0098⟩, ⟨25, 1, 0x2122⟩,
   ⟨26, 1, 0x0459⟩, ⟨27, 1, 0x203A⟩, ⟨28, 1, 0x045A⟩, ⟨29, 1, 0x045C⟩, ⟨30, 1, 0x045B⟩,
   ⟨31, 1, 0x045F⟩, ⟨32, 1, 0x00A0⟩, ⟨33, 1, 0x040E⟩, ⟨34, 1, 0x045E⟩, ⟨35, 1, 0x0408⟩,
   ⟨36, 1, 0x00A4⟩, ⟨37, 1, 0x0490⟩, ⟨38, 2, 0x00A6⟩, ⟨40, 1, 0x0401⟩, ⟨41, 1, 0x00A9⟩,
   ⟨42, 1, 0x0404⟩, ⟨43, 4, 0x00AB⟩, ⟨47, 1, 0x0407⟩, ⟨48, 2, 0x00B0⟩, ⟨50, 1, 0x0406⟩,
   ⟨51, 1, 0x0456⟩, ⟨52, 1, 0x0491⟩, ⟨53, 3, 0x00B5⟩, ⟨56, 1, 0x0451⟩, ⟨57, 1, 0x2116⟩,
   ⟨58, 1, 0x0454⟩, ⟨59, 1, 0x00BB⟩, ⟨60, 1, 0x0458⟩, ⟨61, 1, 0x0405⟩, ⟨62, 1, 0x0455⟩,
   ⟨63, 1, 0x0457⟩, ⟨64, 64, 0x0410⟩]

def windows1252 : Chart :=
  [⟨0, 1, 0x20AC⟩, ⟨1, 1, 0x0081⟩, ⟨2, 1, 0x201A⟩, ⟨3, 1, 0x0192⟩, ⟨4, 1, 0x201E⟩, ⟨5, 1, 0x2026⟩,
   ⟨6, 2, 0x2020⟩, ⟨8, 1, 0x02C6⟩, ⟨9, 1, 0x2030⟩, ⟨10, 1, 0x0160⟩, ⟨11, 1, 0x2039⟩,
   ⟨12, 1, 0x0152⟩, ⟨13, 1, 0x008D⟩, ⟨14, 1, 0x017D⟩, ⟨15, 2, 0x008F⟩, ⟨17, 2, 0x2018⟩,
   ⟨19, 2, 0x201C⟩, ⟨21, 1, 0x2022⟩, ⟨22, 2, 0x2013⟩, ⟨24, 1, 0x02DC⟩, ⟨25, 1, 0x2122⟩,
   ⟨26, 1, 0x0161⟩, ⟨27, 1, 0x203A⟩, ⟨28, 1, 0x0153⟩, ⟨29, 1, 0x009D⟩, ⟨30, 1, 0x017E⟩,
   ⟨31, 1, 0x0178⟩, ⟨32, 96, 0x00A0⟩]

def windows1253 : Chart :=
  [⟨0, 1, 0x20AC⟩, ⟨1, 1, 0x0081⟩, ⟨2, 1, 0x201A⟩, ⟨3, 1, 0x0192⟩, ⟨4, 1, 0x201E⟩, ⟨5, 1, 0x2026⟩,
   ⟨6, 2, 0x2020⟩, ⟨8, 1, 0x0088⟩, ⟨9, 1, 0x2030⟩, ⟨10, 1, 0x008A⟩, ⟨11, 1, 0x2039⟩,
   ⟨12, 5, 0x008C⟩, ⟨17, 2, 0x2018⟩, ⟨19, 2, 0x201C⟩, ⟨21, 1, 0x2022⟩, ⟨22, 2, 0x2013⟩,
   ⟨24, 1, 0x0098⟩, ⟨25, 1, 0x2122⟩, ⟨26, 1, 0x009A⟩, ⟨27, 1, 0x203A⟩, ⟨28, 5, 0x009C⟩,
   ⟨33, 2, 0x0385⟩, ⟨35, 7, 0x00A3⟩, ⟨43, 4, 0x00AB⟩, ⟨47, 1, 0x2015⟩, ⟨48, 4, 0x00B0⟩,
   ⟨52, 1, 0x0384⟩, ⟨53, 3, 0x00B5⟩, ⟨56, 3, 0x0388⟩, ⟨59, 1, 0x00BB⟩, ⟨60, 1, 0x038C⟩,
   ⟨61, 1, 0x00BD⟩, ⟨62, 20, 0x038E⟩, ⟨83, 44, 0x03A3⟩]

def windows1254 : Chart :=
  [⟨0, 1, 0x20AC⟩, ⟨1, 1, 0x0081⟩, ⟨2, 1, 0x201A⟩, ⟨3, 1, 0x0192⟩, ⟨4, 1, 0x201E⟩, ⟨5, 1, 0x2026⟩,
   ⟨6, 2, 0x2020⟩, ⟨8, 1, 0x02C6⟩, ⟨9, 1, 0x2030⟩, ⟨10, 1, 0x0160⟩, ⟨11, 1, 0x2039⟩,
   ⟨12, 1, 0x0152⟩, ⟨13, 4, 0x008D⟩, ⟨17, 2, 0x2018⟩, ⟨19, 2, 0x201C⟩, ⟨21, 1, 0x2022⟩,
   ⟨22, 2, 0x2013⟩, ⟨24, 1, 0x02DC⟩, ⟨25, 1, 0x2122⟩, ⟨26, 1, 0x0161⟩, ⟨27, 1, 0x203A⟩,
   ⟨28, 1, 0x0153⟩, ⟨29, 2, 0x009D⟩, ⟨31, 1, 0x0178⟩, ⟨32, 48, 0x00A0⟩, ⟨80, 1, 0x011E⟩,
   ⟨81, 12, 0x00D1⟩, ⟨93, 1, 0x0130⟩, ⟨94, 1, 0x015E⟩, ⟨95, 17, 0x00DF⟩, ⟨112, 1, 0x011F⟩,
   ⟨113, 12, 0x00F1⟩, ⟨125, 1, 0x0131⟩, ⟨126, 1, 0x015F⟩, ⟨127, 1, 0x00FF⟩]

def windows1255 : Chart :=
  [⟨0, 1, 0x20AC⟩, ⟨1, 1, 0x0081⟩, ⟨2, 1, 0x201A⟩, ⟨3, 1, 0x0192⟩, ⟨4, 1, 0x201E⟩, ⟨5, 1, 0x2026⟩,
   ⟨6, 2, 0x2020⟩, ⟨8, 1, 0x02C6⟩, ⟨9, 1, 0x2030⟩, ⟨10, 1, 0x008A⟩, ⟨11, 1, 0x2039⟩,
   ⟨12, 5, 0x008C⟩, ⟨17, 2, 0x2018⟩, ⟨19, 2, 0x201C⟩, ⟨21, 1, 0x2022⟩, ⟨22, 2, 0x2013⟩,
   ⟨24, 1, 0x02DC⟩, ⟨25, 1, 0x2122⟩, ⟨26, 1, 0x009A⟩, ⟨27, 1, 0x203A⟩, ⟨28, 8, 0x009C⟩,
   ⟨36, 1, 0x20AA⟩, ⟨37, 5, 0x00A5⟩, ⟨42, 1, 0x00D7⟩, ⟨43, 15, 0x00AB⟩, ⟨58, 1, 0x00F7⟩,
   ⟨59, 5, 0x00BB⟩, ⟨64, 20, 0x05B0⟩, ⟨84, 5, 0x05F0⟩, ⟨96, 27, 0x05D0⟩, ⟨125, 2, 0x200E⟩]

def windows1256 : Chart :=
  [⟨0, 1, 0x20AC⟩, ⟨1, 1, 0x067E⟩, ⟨2, 1, 0x201A⟩, ⟨3, 1, 0x0192⟩, ⟨4, 1, 0x201E⟩, ⟨5, 1, 0x2026⟩,
   ⟨6, 2, 0x2020⟩, ⟨8, 1, 0x02C6⟩, ⟨9, 1, 0x2030⟩, ⟨10, 1, 0x0679⟩, ⟨11, 1, 0x2039⟩,
   ⟨12, 1, 0x0152⟩, ⟨13, 1, 0x0686⟩, ⟨14, 1, 0x0698⟩, ⟨15, 1, 0x0688⟩, ⟨16, 1, 0x06AF⟩,
   ⟨17, 2, 0x2018⟩, ⟨19, 2, 0x201C⟩, ⟨21, 1, 0x2022⟩, ⟨22, 2, 0x2013⟩, ⟨24, 1, 0x06A9⟩,
   ⟨25, 1, 0x2122⟩, ⟨26, 1, 0x0691⟩, ⟨27, 1, 0x203A⟩, ⟨28, 1, 0x0153⟩, ⟨29, 2, 0x200C⟩,
   ⟨31, 1, 0x06BA⟩, ⟨32, 1, 0x00A0⟩, ⟨33, 1, 0x060C⟩, ⟨34, 8, 0x00A2⟩, ⟨42, 1, 0x06BE⟩,
   ⟨43, 15, 0x00AB⟩, ⟨58, 1, 0x061B⟩, ⟨59, 4, 0x00BB⟩, ⟨63, 1, 0x061F⟩, ⟨64, 1, 0x06C1⟩,
   ⟨65, 22, 0x0621⟩, ⟨87, 1, 0x00D7⟩, ⟨88, 4, 0x0637⟩, ⟨92, 4, 0x0640⟩, ⟨96, 1, 0x00E0⟩,
   ⟨97, 1, 0x0644⟩, ⟨98, 1, 0x00E2⟩, ⟨99, 4, 0x0645⟩, ⟨103, 5, 0x00E7⟩, ⟨108, 2, 0x0649⟩,
   ⟨110, 2, 0x00EE⟩, ⟨112, 4, 0x064B⟩, ⟨116, 1, 0x00F4⟩, ⟨117, 2, 0x064F⟩, ⟨119, 1, 0x00F7⟩,
   ⟨120, 1, 0x0651⟩, ⟨121, 1, 0x00F9⟩, ⟨122, 1, 0x0652⟩, ⟨123, 2, 0x00FB⟩, ⟨125, 2, 0x200E⟩,
   ⟨127, 1, 0x06D2⟩]

def windows1257 : Chart :=
  [⟨0, 1, 0x20AC⟩, ⟨1, 1, 0x0081⟩, ⟨2, 1, 0x201A⟩, ⟨3, 1, 0x0083⟩, ⟨4, 1, 0x201E⟩, ⟨5, 1, 0x2026⟩,
   ⟨6, 2, 0x2020⟩, ⟨8, 1, 0x0088⟩, ⟨9, 1, 0x2030⟩, ⟨10, 1, 0x008A⟩, ⟨11, 1, 0x2039⟩,
   ⟨12, 1, 0x008C⟩, ⟨13, 1, 0x00A8⟩, ⟨14, 1, 0x02C7⟩, ⟨15, 1, 0x00B8⟩, ⟨16, 1, 0x0090⟩,
   ⟨17, 2, 0x2018⟩, ⟨19, 2, 0x201C⟩, ⟨21, 1, 0x2022⟩, ⟨22, 2, 0x2013⟩, ⟨24, 1, 0x0098⟩,
   ⟨25, 1, 0x2122⟩, ⟨26, 1, 0x009A⟩, ⟨27, 1, 0x203A⟩, ⟨28, 1, 0x009C⟩, ⟨29, 1, 0x00AF⟩,
   ⟨30, 1, 0x02DB⟩, ⟨31, 2, 0x009F⟩, ⟨34, 3, 0x00A2⟩, ⟨38, 2, 0x00A6⟩, ⟨40, 1, 0x00D8⟩,
   ⟨41, 1, 0x00A9⟩, ⟨42, 1, 0x0156⟩, ⟨43, 4, 0x00AB⟩, ⟨47, 1, 0x00C6⟩, ⟨48, 8, 0x00B0⟩,
   ⟨56, 1, 0x00F8⟩, ⟨57, 1, 0x00B9⟩, ⟨58, 1, 0x0157⟩, ⟨59, 4, 0x00BB⟩, ⟨63, 1, 0x00E6⟩,
   ⟨64, 1, 0x0104⟩, ⟨65, 1, 0x012E⟩, ⟨66, 1, 0x0100⟩, ⟨67, 1, 0x0106⟩, ⟨68, 2, 0x00C4⟩,
   ⟨70, 1, 0x0118⟩, ⟨71, 1, 0x0112⟩, ⟨72, 1, 0x010C⟩, ⟨73, 1, 0x00C9⟩, ⟨74, 1, 0x0179⟩,
   ⟨75, 1, 0x0116⟩, ⟨76, 1, 0x0122⟩, ⟨77, 1, 0x0136⟩, ⟨78, 1, 0x012A⟩, ⟨79, 1, 0x013B⟩,
   ⟨80, 1, 0x0160⟩, ⟨81, 1, 0x0143⟩, ⟨82, 1, 0x0145⟩, ⟨83, 1, 0x00D3⟩, ⟨84, 1, 0x014C⟩,
   ⟨85, 3, 0x00D5⟩, ⟨88, 1, 0x0172⟩, ⟨89, 1, 0x0141⟩, ⟨90, 1, 0x015A⟩, ⟨91, 1, 0x016A⟩,
   ⟨92, 1, 0x00DC⟩, ⟨93, 1, 0x017B⟩, ⟨94, 1, 0x017D⟩, ⟨95, 1, 0x00DF⟩, ⟨96, 1, 0x0105⟩,
   ⟨97, 1, 0x012F⟩, ⟨98, 1, 0x0101⟩, ⟨99, 1, 0x0107⟩, ⟨100, 2, 0x00E4⟩, ⟨102, 1, 0x0119⟩,
   ⟨103, 1, 0x0113⟩, ⟨104, 1, 0x010D⟩, ⟨105, 1, 0x00E9⟩, ⟨106, 1, 0x017A⟩, ⟨107, 1, 0x0117⟩,
   ⟨108, 1, 0x0123⟩, ⟨109, 1, 0x0137⟩, ⟨110, 1, 0x012B⟩, ⟨111, 1, 0x013C⟩, ⟨112, 1, 0x0161⟩,
   ⟨113, 1, 0x0144⟩, ⟨114, 1, 0x0146⟩, ⟨115, 1, 0x00F3⟩, ⟨116, 1, 0x014D⟩, ⟨117, 3, 0x00F5⟩,
   ⟨120, 1, 0x0173⟩, ⟨121, 1, 0x0142⟩, ⟨122, 1, 0x015B⟩, ⟨123, 1, 0x016B⟩, ⟨124, 1, 0x00FC⟩,
   ⟨125, 1, 0x017C⟩, ⟨126, 1, 0x017E⟩, ⟨127, 1, 0x02D9⟩]

def windows1258 : Chart :=
  [⟨0, 1, 0x20AC⟩, ⟨1, 1, 0x0081⟩, ⟨2, 1, 0x201A⟩, ⟨3, 1, 0x0192⟩, ⟨4, 1, 0x201E⟩, ⟨5, 1, 0x2026⟩,
   ⟨6, 2, 0x2020⟩, ⟨8, 1, 0x02C6⟩, ⟨9, 1, 0x2030⟩, ⟨10, 1, 0x008A⟩, ⟨11, 1, 0x2039⟩,
   ⟨12, 1, 0x0152⟩, ⟨13, 4, 0x008D⟩, ⟨17, 2, 0x2018⟩, ⟨19, 2, 0x201C⟩, ⟨21, 1, 0x2022⟩,
   ⟨22, 2, 0x2013⟩, ⟨24, 1, 0x02DC⟩, ⟨25, 1, 0x2122⟩, ⟨26, 1, 0x009A⟩, ⟨27, 1, 0x203A⟩,
   ⟨28, 1, 0x0153⟩, ⟨29, 2, 0x009D⟩, ⟨31, 1, 0x0178⟩, ⟨32, 35, 0x00A0⟩, ⟨67, 1, 0x0102⟩,
   ⟨68, 8, 0x00C4⟩, ⟨76, 1, 0x0300⟩, ⟨77, 3, 0x00CD⟩, ⟨80, 1, 0x0110⟩, ⟨81, 1, 0x00D1⟩,
   ⟨82, 1, 0x0309⟩, ⟨83, 2, 0x00D3⟩, ⟨85, 1, 0x01A0⟩, ⟨86, 7, 0x00D6⟩, ⟨93, 1, 0x01AF⟩,
   ⟨94, 1, 0x0303⟩, ⟨95, 4, 0x00DF⟩, ⟨99, 1, 0x0103⟩, ⟨100, 8, 0x00E4⟩, ⟨108, 1, 0x0301⟩,
   ⟨109, 3, 0x00ED⟩, ⟨112, 1, 0x0111⟩, ⟨113, 1, 0x00F1⟩, ⟨114, 1, 0x0323⟩, ⟨115, 2, 0x00F3⟩,
   ⟨117, 1, 0x01A1⟩, ⟨118, 7, 0x00F6⟩, ⟨125, 1, 0x01B0⟩, ⟨126, 1, 0x20AB⟩, ⟨127, 1, 0x00FF⟩]

def macCyrillic : Chart :=
  [⟨0, 32, 0x0410⟩, ⟨32, 1, 0x2020⟩, ⟨33, 1, 0x00B0⟩, ⟨34, 1, 0x0490⟩, ⟨35, 1, 0x00A3⟩,
   ⟨36, 1, 0x00A7⟩, ⟨37, 1, 0x2022⟩, ⟨38, 1, 0x00B6⟩, ⟨39, 1, 0x0406⟩, ⟨40, 1, 0x00AE⟩,
   ⟨41, 1, 0x00A9⟩, ⟨42, 1, 0x2122⟩, ⟨43, 1, 0x0402⟩, ⟨44, 1, 0x0452⟩, ⟨45, 1, 0x2260⟩,
   ⟨46, 1, 0x0403⟩, ⟨47, 1, 0x0453⟩, ⟨48, 1, 0x221E⟩, ⟨49, 1, 0x00B1⟩, ⟨50, 2, 0x2264⟩,
   ⟨52, 1, 0x0456⟩, ⟨53, 1, 0x00B5⟩, ⟨54, 1, 0x0491⟩, ⟨55, 1, 0x0408⟩, ⟨56, 1, 0x0404⟩,
   ⟨57, 1, 0x0454⟩, ⟨58, 1, 0x0407⟩, ⟨59, 1, 0x0457⟩, ⟨60, 1, 0x0409⟩, ⟨61, 1, 0x0459⟩,
   ⟨62, 1, 0x040A⟩, ⟨63, 1, 0x045A⟩, ⟨64, 1, 0x0458⟩, ⟨65, 1, 0x0405⟩, ⟨66, 1, 0x00AC⟩,
   ⟨67, 1, 0x221A⟩, ⟨68, 1, 0x0192⟩, ⟨69, 1, 0x2248⟩, ⟨70, 1, 0x2206⟩, ⟨71, 1, 0x00AB⟩,
   ⟨72, 1, 0x00BB⟩, ⟨73, 1, 0x2026⟩, ⟨74, 1, 0x00A0⟩, ⟨75, 1, 0x040B⟩, ⟨76, 1, 0x045B⟩,
   ⟨77, 1, 0x040C⟩, ⟨78, 1, 0x045C⟩, ⟨79, 1, 0x0455⟩, ⟨80, 2, 0x2013⟩, ⟨82, 2, 0x201C⟩,
   ⟨84, 2, 0x2018⟩, ⟨86, 1, 0x00F7⟩, ⟨87, 1, 0x201E⟩, ⟨88, 1, 0x040E⟩, ⟨89, 1, 0x045E⟩,
   ⟨90, 1, 0x040F⟩, ⟨91, 1, 0x045F⟩, ⟨92, 1, 0x2116⟩, ⟨93, 1, 0x0401⟩, ⟨94, 1, 0x0451⟩,
   ⟨95, 1, 0x044F⟩, ⟨96, 31, 0x0430⟩, ⟨127, 1, 0x20AC⟩]

def userDefined : Chart := [⟨0, 128, 0xF780⟩]

end LinkCharset.SingleByte.Charts
