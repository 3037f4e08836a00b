import ItemModels.Text.CharSet

namespace ItemModels
namespace Text
namespace Script

/-!
The scripts, each with its names and the runs in which its characters lie.  The
runs reach across code points that are unassigned.
-/

/-- The scripts in the order of their first character. -/
def writings : List (List String × List Run) :=
  [(["latn", "latin"],
    [⟨0x41, 0x5A, 1⟩, ⟨0x61, 0x7A, 1⟩, ⟨0xAA, 0xAA, 1⟩, ⟨0xBA, 0xBA, 1⟩, ⟨0xC0, 0xD6, 1⟩,
     ⟨0xD8, 0xF6, 1⟩, ⟨0xF8, 0x2B8, 1⟩, ⟨0x2E0, 0x2E4, 1⟩, ⟨0x1D00, 0x1D25, 1⟩, ⟨0x1D2C, 0x1D5C, 1⟩,
     ⟨0x1D62, 0x1D65, 1⟩, ⟨0x1D6B, 0x1D77, 1⟩, ⟨0x1D79, 0x1DBE, 1⟩, ⟨0x1E00, 0x1EFF, 1⟩,
     ⟨0x2071, 0x2071, 1⟩, ⟨0x207F, 0x207F, 1⟩, ⟨0x2090, 0x209C, 1⟩, ⟨0x212A, 0x212B, 1⟩,
     ⟨0x2132, 0x2132, 1⟩, ⟨0x214E, 0x214E, 1⟩, ⟨0x2160, 0x2188, 1⟩, ⟨0x2C60, 0x2C7F, 1⟩,
     ⟨0xA722, 0xA787, 1⟩, ⟨0xA78B, 0xA7FF, 1⟩, ⟨0xAB30, 0xAB5A, 1⟩, ⟨0xAB5C, 0xAB64, 1⟩,
     ⟨0xAB66, 0xAB69, 1⟩, ⟨0xFB00, 0xFB06, 1⟩, ⟨0xFF21, 0xFF3A, 1⟩, ⟨0xFF41, 0xFF5A, 1⟩,
     ⟨0x10780, 0x107BA, 1⟩, ⟨0x1DF00, 0x1DF2A, 1⟩]),
   (["bopo", "bopomofo"], [⟨0x2EA, 0x2EB, 1⟩, ⟨0x3105, 0x312F, 1⟩, ⟨0x31A0, 0x31BF, 1⟩]),
   (["zinh", "inherited", "qaai"],
    [⟨0x300, 0x36F, 1⟩, ⟨0x485, 0x486, 1⟩, ⟨0x64B, 0x655, 1⟩, ⟨0x670, 0x670, 1⟩, ⟨0x951, 0x954, 1⟩,
     ⟨0x1AB0, 0x1ACE, 1⟩, ⟨0x1CD0, 0x1CD2, 1⟩, ⟨0x1CD4, 0x1CE0, 1⟩, ⟨0x1CE2, 0x1CE8, 1⟩,
     ⟨0x1CED, 0x1CED, 1⟩, ⟨0x1CF4, 0x1CF4, 1⟩, ⟨0x1CF8, 0x1CF9, 1⟩, ⟨0x1DC0, 0x1DFF, 1⟩,
     ⟨0x200C, 0x200D, 1⟩, ⟨0x20D0, 0x20F0, 1⟩, ⟨0x302A, 0x302D, 1⟩, ⟨0x3099, 0x309A, 1⟩,
     ⟨0xFE00, 0xFE0F, 1⟩, ⟨0xFE20, 0xFE2D, 1⟩, ⟨0x101FD, 0x101FD, 1⟩, ⟨0x102E0, 0x102E0, 1⟩,
     ⟨0x1133B, 0x1133B, 1⟩, ⟨0x1CF00, 0x1CF46, 1⟩, ⟨0x1D167, 0x1D169, 1⟩, ⟨0x1D17B, 0x1D182, 1⟩,
     ⟨0x1D185, 0x1D18B, 1⟩, ⟨0x1D1AA, 0x1D1AD, 1⟩, ⟨0xE0100, 0xE01EF, 1⟩]),
   (["grek", "greek"],
    [⟨0x370, 0x373, 1⟩, ⟨0x375, 0x37D, 1⟩, ⟨0x37F, 0x384, 1⟩, ⟨0x386, 0x386, 1⟩, ⟨0x388, 0x3E1, 1⟩,
     ⟨0x3F0, 0x3FF, 1⟩, ⟨0x1D26, 0x1D2A, 1⟩, ⟨0x1D5D, 0x1D61, 1⟩, ⟨0x1D66, 0x1D6A, 1⟩,
     ⟨0x1DBF, 0x1DBF, 1⟩, ⟨0x1F00, 0x1FFE, 1⟩, ⟨0x2126, 0x2126, 1⟩, ⟨0xAB65, 0xAB65, 1⟩,
     ⟨0x10140, 0x1018E, 1⟩, ⟨0x101A0, 0x101A0, 1⟩, ⟨0x1D200, 0x1D245, 1⟩]),
   (["copt", "coptic", "qaac"], [⟨0x3E2, 0x3EF, 1⟩, ⟨0x2C80, 0x2CFF, 1⟩]),
   (["cyrl", "cyrillic"],
    [⟨0x400, 0x484, 1⟩, ⟨0x487, 0x52F, 1⟩, ⟨0x1C80, 0x1C8A, 1⟩, ⟨0x1D2B, 0x1D2B, 1⟩,
     ⟨0x1D78, 0x1D78, 1⟩, ⟨0x2DE0, 0x2DFF, 1⟩, ⟨0xA640, 0xA69F, 1⟩, ⟨0xFE2E, 0xFE2F, 1⟩,
     ⟨0x1E030, 0x1E08F, 1⟩]),
   (["armn", "armenian"], [⟨0x531, 0x58F, 1⟩, ⟨0xFB13, 0xFB17, 1⟩]),
   (["hebr", "hebrew"], [⟨0x591, 0x5F4, 1⟩, ⟨0xFB1D, 0xFB4F, 1⟩]),
   (["arab", "arabic"],
    [⟨0x600, 0x604, 1⟩, ⟨0x606, 0x60B, 1⟩, ⟨0x60D, 0x61A, 1⟩, ⟨0x61C, 0x61E, 1⟩, ⟨0x620, 0x63F, 1⟩,
     ⟨0x641, 0x64A, 1⟩, ⟨0x656, 0x66F, 1⟩, ⟨0x671, 0x6DC, 1⟩, ⟨0x6DE, 0x6FF, 1⟩, ⟨0x750, 0x77F, 1⟩,
     ⟨0x870, 0x8E1, 1⟩, ⟨0x8E3, 0x8FF, 1⟩, ⟨0xFB50, 0xFD3D, 1⟩, ⟨0xFD40, 0xFDFF, 1⟩,
     ⟨0xFE70, 0xFEFC, 1⟩, ⟨0x10E60, 0x10E7E, 1⟩, ⟨0x10EC2, 0x10EFF, 1⟩, ⟨0x1EE00, 0x1EEF1, 1⟩]),
   (["syrc", "syriac"], [⟨0x700, 0x74F, 1⟩, ⟨0x860, 0x86A, 1⟩]),
   (["thaa", "thaana"], [⟨0x780, 0x7B1, 1⟩]),
   (["nkoo", "nko"], [⟨0x7C0, 0x7FF, 1⟩]),
   (["samr", "samaritan"], [⟨0x800, 0x83E, 1⟩]),
   (["mand", "mandaic"], [⟨0x840, 0x85E, 1⟩]),
   (["deva", "devanagari"],
    [⟨0x900, 0x950, 1⟩, ⟨0x955, 0x963, 1⟩, ⟨0x966, 0x97F, 1⟩, ⟨0xA8E0, 0xA8FF, 1⟩,
     ⟨0x11B00, 0x11B09, 1⟩]),
   (["beng", "bengali"], [⟨0x980, 0x9FE, 1⟩]),
   (["guru", "gurmukhi"], [⟨0xA01, 0xA76, 1⟩]),
   (["gujr", "gujarati"], [⟨0xA81, 0xAFF, 1⟩]),
   (["orya", "oriya"], [⟨0xB01, 0xB77, 1⟩]),
   (["taml", "tamil"], [⟨0xB82, 0xBFA, 1⟩, ⟨0x11FC0, 0x11FFF, 1⟩]),
   (["telu", "telugu"], [⟨0xC00, 0xC7F, 1⟩]),
   (["knda", "kannada"], [⟨0xC80, 0xCF3, 1⟩]),
   (["mlym", "malayalam"], [⟨0xD00, 0xD7F, 1⟩]),
   (["sinh", "sinhala"], [⟨0xD81, 0xDF4, 1⟩, ⟨0x111E1, 0x111F4, 1⟩]),
   (["thai"], [⟨0xE01, 0xE3A, 1⟩, ⟨0xE40, 0xE5B, 1⟩]),
   (["laoo", "lao"], [⟨0xE81, 0xEDF, 1⟩]),
   (["tibt", "tibetan"], [⟨0xF00, 0xFD4, 1⟩, ⟨0xFD9, 0xFDA, 1⟩]),
   (["mymr", "myanmar"],
    [⟨0x1000, 0x109F, 1⟩, ⟨0xA9E0, 0xA9FE, 1⟩, ⟨0xAA60, 0xAA7F, 1⟩, ⟨0x116D0, 0x116E3, 1⟩]),
   (["geor", "georgian"],
    [⟨0x10A0, 0x10FA, 1⟩, ⟨0x10FC, 0x10FF, 1⟩, ⟨0x1C90, 0x1CBF, 1⟩, ⟨0x2D00, 0x2D2D, 1⟩]),
   (["hang", "hangul"],
    [⟨0x1100, 0x11FF, 1⟩, ⟨0x302E, 0x302F, 1⟩, ⟨0x3131, 0x318E, 1⟩, ⟨0x3200, 0x321E, 1⟩,
     ⟨0x3260, 0x327E, 1⟩, ⟨0xA960, 0xA97C, 1⟩, ⟨0xAC00, 0xD7FB, 1⟩, ⟨0xFFA0, 0xFFDC, 1⟩]),
   (["ethi", "ethiopic"],
    [⟨0x1200, 0x1399, 1⟩, ⟨0x2D80, 0x2DDE, 1⟩, ⟨0xAB01, 0xAB2E, 1⟩, ⟨0x1E7E0, 0x1E7FE, 1⟩]),
   (["cher", "cherokee"], [⟨0x13A0, 0x13FD, 1⟩, ⟨0xAB70, 0xABBF, 1⟩]),
   (["cans", "canadianaboriginal"],
    [⟨0x1400, 0x167F, 1⟩, ⟨0x18B0, 0x18F5, 1⟩, ⟨0x11AB0, 0x11ABF, 1⟩]),
   (["ogam", "ogham"], [⟨0x1680, 0x169C, 1⟩]),
   (["runr", "runic"], [⟨0x16A0, 0x16EA, 1⟩, ⟨0x16EE, 0x16F8, 1⟩]),
   (["tglg", "tagalog"], [⟨0x1700, 0x171F, 1⟩]),
   (["hano", "hanunoo"], [⟨0x1720, 0x1734, 1⟩]),
   (["buhd", "buhid"], [⟨0x1740, 0x1753, 1⟩]),
   (["tagb", "tagbanwa"], [⟨0x1760, 0x1773, 1⟩]),
   (["khmr", "khmer"], [⟨0x1780, 0x17F9, 1⟩, ⟨0x19E0, 0x19FF, 1⟩]),
   (["mong", "mongolian"],
    [⟨0x1800, 0x1801, 1⟩, ⟨0x1804, 0x1804, 1⟩, ⟨0x1806, 0x18AA, 1⟩, ⟨0x11660, 0x1166C, 1⟩]),
   (["limb", "limbu"], [⟨0x1900, 0x194F, 1⟩]),
   (["tale", "taile"], [⟨0x1950, 0x1974, 1⟩]),
   (["talu", "newtailue"], [⟨0x1980, 0x19DF, 1⟩]),
   (["bugi", "buginese"], [⟨0x1A00, 0x1A1F, 1⟩]),
   (["lana", "taitham"], [⟨0x1A20, 0x1AAD, 1⟩]),
   (["bali", "balinese"], [⟨0x1B00, 0x1B7F, 1⟩]),
   (["sund", "sundanese"], [⟨0x1B80, 0x1BBF, 1⟩, ⟨0x1CC0, 0x1CC7, 1⟩]),
   (["batk", "batak"], [⟨0x1BC0, 0x1BFF, 1⟩]),
   (["lepc", "lepcha"], [⟨0x1C00, 0x1C4F, 1⟩]),
   (["olck", "olchiki"], [⟨0x1C50, 0x1C7F, 1⟩]),
   (["brai", "braille"], [⟨0x2800, 0x28FF, 1⟩]),
   (["glag", "glagolitic"], [⟨0x2C00, 0x2C5F, 1⟩, ⟨0x1E000, 0x1E02A, 1⟩]),
   (["tfng", "tifinagh"], [⟨0x2D30, 0x2D7F, 1⟩]),
   (["hani", "han"],
    [⟨0x2E80, 0x2FD5, 1⟩, ⟨0x3005, 0x3007, 2⟩, ⟨0x3021, 0x3029, 1⟩, ⟨0x3038, 0x303B, 1⟩,
     ⟨0x3400, 0x4DBF, 1⟩, ⟨0x4E00, 0x9FFF, 1⟩, ⟨0xF900, 0xFAD9, 1⟩, ⟨0x16FE2, 0x16FE3, 1⟩,
     ⟨0x16FF0, 0x16FF1, 1⟩, ⟨0x20000, 0x323AF, 1⟩]),
   (["hira", "hiragana"],
    [⟨0x3041, 0x3096, 1⟩, ⟨0x309D, 0x309F, 1⟩, ⟨0x1B001, 0x1B11F, 1⟩, ⟨0x1B132, 0x1B152, 1⟩,
     ⟨0x1F200, 0x1F200, 1⟩]),
   (["kana", "katakana"],
    [⟨0x30A1, 0x30FA, 1⟩, ⟨0x30FD, 0x30FF, 1⟩, ⟨0x31F0, 0x31FF, 1⟩, ⟨0x32D0, 0x32FE, 1⟩,
     ⟨0x3300, 0x3357, 1⟩, ⟨0xFF66, 0xFF6F, 1⟩, ⟨0xFF71, 0xFF9D, 1⟩, ⟨0x1AFF0, 0x1B000, 1⟩,
     ⟨0x1B120, 0x1B122, 1⟩, ⟨0x1B155, 0x1B167, 1⟩]),
   (["yiii", "yi"], [⟨0xA000, 0xA4C6, 1⟩]),
   (["lisu"], [⟨0xA4D0, 0xA4FF, 1⟩, ⟨0x11FB0, 0x11FB0, 1⟩]),
   (["vaii", "vai"], [⟨0xA500, 0xA62B, 1⟩]),
   (["bamu", "bamum"], [⟨0xA6A0, 0xA6F7, 1⟩, ⟨0x16800, 0x16A38, 1⟩]),
   (["sylo", "sylotinagri"], [⟨0xA800, 0xA82C, 1⟩]),
   (["phag", "phagspa"], [⟨0xA840, 0xA877, 1⟩]),
   (["saur", "saurashtra"], [⟨0xA880, 0xA8D9, 1⟩]),
   (["kali", "kayahli"], [⟨0xA900, 0xA92D, 1⟩, ⟨0xA92F, 0xA92F, 1⟩]),
   (["rjng", "rejang"], [⟨0xA930, 0xA95F, 1⟩]),
   (["java", "javanese"], [⟨0xA980, 0xA9CD, 1⟩, ⟨0xA9D0, 0xA9DF, 1⟩]),
   (["cham"], [⟨0xAA00, 0xAA5F, 1⟩]),
   (["tavt", "taiviet"], [⟨0xAA80, 0xAADF, 1⟩]),
   (["mtei", "meeteimayek"], [⟨0xAAE0, 0xAAF6, 1⟩, ⟨0xABC0, 0xABF9, 1⟩]),
   (["linb", "linearb"], [⟨0x10000, 0x100FA, 1⟩]),
   (["lyci", "lycian"], [⟨0x10280, 0x1029C, 1⟩]),
   (["cari", "carian"], [⟨0x102A0, 0x102D0, 1⟩]),
   (["ital", "olditalic"], [⟨0x10300, 0x1032F, 1⟩]),
   (["goth", "gothic"], [⟨0x10330, 0x1034A, 1⟩]),
   (["perm", "oldpermic"], [⟨0x10350, 0x1037A, 1⟩]),
   (["ugar", "ugaritic"], [⟨0x10380, 0x1039F, 1⟩]),
   (["xpeo", "oldpersian"], [⟨0x103A0, 0x103D5, 1⟩]),
   (["dsrt", "deseret"], [⟨0x10400, 0x1044F, 1⟩]),
   (["shaw", "shavian"], [⟨0x10450, 0x1047F, 1⟩]),
   (["osma", "osmanya"], [⟨0x10480, 0x104A9, 1⟩]),
   (["osge", "osage"], [⟨0x104B0, 0x104FB, 1⟩]),
   (["elba", "elbasan"], [⟨0x10500, 0x10527, 1⟩]),
   (["aghb", "caucasianalbanian"], [⟨0x10530, 0x1056F, 1⟩]),
   (["vith", "vithkuqi"], [⟨0x10570, 0x105BC, 1⟩]),
   (["todr", "todhri"], [⟨0x105C0, 0x105F3, 1⟩]),
   (["lina", "lineara"], [⟨0x10600, 0x10767, 1⟩]),
   (["cprt", "cypriot"], [⟨0x10800, 0x1083F, 1⟩]),
   (["armi", "imperialaramaic"], [⟨0x10840, 0x1085F, 1⟩]),
   (["palm", "palmyrene"], [⟨0x10860, 0x1087F, 1⟩]),
   (["nbat", "nabataean"], [⟨0x10880, 0x108AF, 1⟩]),
   (["hatr", "hatran"], [⟨0x108E0, 0x108FF, 1⟩]),
   (["phnx", "phoenician"], [⟨0x10900, 0x1091F, 1⟩]),
   (["lydi", "lydian"], [⟨0x10920, 0x1093F, 1⟩]),
   (["mero", "meroitichieroglyphs"], [⟨0x10980, 0x1099F, 1⟩]),
   (["merc", "meroiticcursive"], [⟨0x109A0, 0x109FF, 1⟩]),
   (["khar", "kharoshthi"], [⟨0x10A00, 0x10A58, 1⟩]),
   (["sarb", "oldsoutharabian"], [⟨0x10A60, 0x10A7F, 1⟩]),
   (["narb", "oldnortharabian"], [⟨0x10A80, 0x10A9F, 1⟩]),
   (["mani", "manichaean"], [⟨0x10AC0, 0x10AF6, 1⟩]),
   (["avst", "avestan"], [⟨0x10B00, 0x10B3F, 1⟩]),
   (["prti", "inscriptionalparthian"], [⟨0x10B40, 0x10B5F, 1⟩]),
   (["phli", "inscriptionalpahlavi"], [⟨0x10B60, 0x10B7F, 1⟩]),
   (["phlp", "psalterpahlavi"], [⟨0x10B80, 0x10BAF, 1⟩]),
   (["orkh", "oldturkic"], [⟨0x10C00, 0x10C48, 1⟩]),
   (["hung", "oldhungarian"], [⟨0x10C80, 0x10CFF, 1⟩]),
   (["rohg", "hanifirohingya"], [⟨0x10D00, 0x10D39, 1⟩]),
   (["gara", "garay"], [⟨0x10D40, 0x10D8F, 1⟩]),
   (["yezi", "yezidi"], [⟨0x10E80, 0x10EB1, 1⟩]),
   (["sogo", "oldsogdian"], [⟨0x10F00, 0x10F27, 1⟩]),
   (["sogd", "sogdian"], [⟨0x10F30, 0x10F59, 1⟩]),
   (["ougr", "olduyghur"], [⟨0x10F70, 0x10F89, 1⟩]),
   (["chrs", "chorasmian"], [⟨0x10FB0, 0x10FCB, 1⟩]),
   (["elym", "elymaic"], [⟨0x10FE0, 0x10FF6, 1⟩]),
   (["brah", "brahmi"], [⟨0x11000, 0x1107F, 1⟩]),
   (["kthi", "kaithi"], [⟨0x11080, 0x110CD, 1⟩]),
   (["sora", "sorasompeng"], [⟨0x110D0, 0x110F9, 1⟩]),
   (["cakm", "chakma"], [⟨0x11100, 0x11147, 1⟩]),
   (["mahj", "mahajani"], [⟨0x11150, 0x11176, 1⟩]),
   (["shrd", "sharada"], [⟨0x11180, 0x111DF, 1⟩]),
   (["khoj", "khojki"], [⟨0x11200, 0x11241, 1⟩]),
   (["mult", "multani"], [⟨0x11280, 0x112A9, 1⟩]),
   (["sind", "khudawadi"], [⟨0x112B0, 0x112F9, 1⟩]),
   (["gran", "grantha"], [⟨0x11300, 0x11339, 1⟩, ⟨0x1133C, 0x11374, 1⟩]),
   (["tutg", "tulutigalari"], [⟨0x11380, 0x113E2, 1⟩]),
   (["newa"], [⟨0x11400, 0x11461, 1⟩]),
   (["tirh", "tirhuta"], [⟨0x11480, 0x114D9, 1⟩]),
   (["sidd", "siddham"], [⟨0x11580, 0x115DD, 1⟩]),
   (["modi"], [⟨0x11600, 0x11659, 1⟩]),
   (["takr", "takri"], [⟨0x11680, 0x116C9, 1⟩]),
   (["ahom"], [⟨0x11700, 0x11746, 1⟩]),
   (["dogr", "dogra"], [⟨0x11800, 0x1183B, 1⟩]),
   (["wara", "warangciti"], [⟨0x118A0, 0x118FF, 1⟩]),
   (["diak", "divesakuru"], [⟨0x11900, 0x11959, 1⟩]),
   (["nand", "nandinagari"], [⟨0x119A0, 0x119E4, 1⟩]),
   (["zanb", "zanabazarsquare"], [⟨0x11A00, 0x11A47, 1⟩]),
   (["soyo", "soyombo"], [⟨0x11A50, 0x11AA2, 1⟩]),
   (["pauc", "paucinhau"], [⟨0x11AC0, 0x11AF8, 1⟩]),
   (["sunu", "sunuwar"], [⟨0x11BC0, 0x11BF9, 1⟩]),
   (["bhks", "bhaiksuki"], [⟨0x11C00, 0x11C6C, 1⟩]),
   (["marc", "marchen"], [⟨0x11C70, 0x11CB6, 1⟩]),
   (["gonm", "masaramgondi"], [⟨0x11D00, 0x11D59, 1⟩]),
   (["gong", "gunjalagondi"], [⟨0x11D60, 0x11DA9, 1⟩]),
   (["maka", "makasar"], [⟨0x11EE0, 0x11EF8, 1⟩]),
   (["kawi"], [⟨0x11F00, 0x11F5A, 1⟩]),
   (["xsux", "cuneiform"], [⟨0x12000, 0x12543, 1⟩]),
   (["cpmn", "cyprominoan"], [⟨0x12F90, 0x12FF2, 1⟩]),
   (["egyp", "egyptianhieroglyphs"], [⟨0x13000, 0x143FA, 1⟩]),
   (["hluw", "anatolianhieroglyphs"], [⟨0x14400, 0x14646, 1⟩]),
   (["gukh", "gurungkhema"], [⟨0x16100, 0x16139, 1⟩]),
   (["mroo", "mro"], [⟨0x16A40, 0x16A6F, 1⟩]),
   (["tnsa", "tangsa"], [⟨0x16A70, 0x16AC9, 1⟩]),
   (["bass", "bassavah"], [⟨0x16AD0, 0x16AF5, 1⟩]),
   (["hmng", "pahawhhmong"], [⟨0x16B00, 0x16B8F, 1⟩]),
   (["krai", "kiratrai"], [⟨0x16D40, 0x16D79, 1⟩]),
   (["medf", "medefaidrin"], [⟨0x16E40, 0x16E9A, 1⟩]),
   (["plrd", "miao"], [⟨0x16F00, 0x16F9F, 1⟩]),
   (["tang", "tangut"], [⟨0x16FE0, 0x16FE0, 1⟩, ⟨0x17000, 0x18AFF, 1⟩, ⟨0x18D00, 0x18D08, 1⟩]),
   (["nshu", "nushu"], [⟨0x16FE1, 0x16FE1, 1⟩, ⟨0x1B170, 0x1B2FB, 1⟩]),
   (["kits", "khitansmallscript"], [⟨0x16FE4, 0x16FE4, 1⟩, ⟨0x18B00, 0x18CFF, 1⟩]),
   (["dupl", "duployan"], [⟨0x1BC00, 0x1BC9F, 1⟩]),
   (["sgnw", "signwriting"], [⟨0x1D800, 0x1DAAF, 1⟩]),
   (["hmnp", "nyiakengpuachuehmong"], [⟨0x1E100, 0x1E14F, 1⟩]),
   (["toto"], [⟨0x1E290, 0x1E2AE, 1⟩]),
   (["wcho", "wancho"], [⟨0x1E2C0, 0x1E2FF, 1⟩]),
   (["nagm", "nagmundari"], [⟨0x1E4D0, 0x1E4F9, 1⟩]),
   (["onao", "olonal"], [⟨0x1E5D0, 0x1E5FF, 1⟩]),
   (["mend", "mendekikakui"], [⟨0x1E800, 0x1E8D6, 1⟩]),
   (["adlm", "adlam"], [⟨0x1E900, 0x1E95F, 1⟩])]

end Script
end Text
end ItemModels
