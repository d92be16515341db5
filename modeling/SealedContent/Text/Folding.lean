/-!
Folding of case and of width: the form in which names are compared. Most characters fold one for
one, by tables of runs; some fold to several characters, and some are ignored.
-/

namespace SealedContent.Text

structure FoldRun where
  first : Nat
  last : Nat
  step : Nat
  target : Nat

def foldRuns : List FoldRun :=
  [⟨0xA0, 0xA0, 1, 0x20⟩, ⟨0xAA, 0xAA, 1, 0x61⟩, ⟨0xB2, 0xB3, 1, 0x32⟩, ⟨0xB5, 0xB5, 1, 0x3BC⟩,
    ⟨0xB9, 0xB9, 1, 0x31⟩, ⟨0xBA, 0xBA, 1, 0x6F⟩, ⟨0xC0, 0xD6, 1, 0xE0⟩, ⟨0xD8, 0xDE, 1, 0xF8⟩,
    ⟨0x100, 0x12E, 2, 0x101⟩, ⟨0x134, 0x136, 2, 0x135⟩, ⟨0x139, 0x13D, 2, 0x13A⟩,
    ⟨0x141, 0x147, 2, 0x142⟩, ⟨0x14A, 0x176, 2, 0x14B⟩, ⟨0x178, 0x178, 1, 0xFF⟩,
    ⟨0x179, 0x17D, 2, 0x17A⟩, ⟨0x17F, 0x17F, 1, 0x73⟩, ⟨0x181, 0x181, 1, 0x253⟩,
    ⟨0x182, 0x184, 2, 0x183⟩, ⟨0x186, 0x186, 1, 0x254⟩, ⟨0x187, 0x187, 1, 0x188⟩,
    ⟨0x189, 0x18A, 1, 0x256⟩, ⟨0x18B, 0x18B, 1, 0x18C⟩, ⟨0x18E, 0x18E, 1, 0x1DD⟩,
    ⟨0x18F, 0x18F, 1, 0x259⟩, ⟨0x190, 0x190, 1, 0x25B⟩, ⟨0x191, 0x191, 1, 0x192⟩,
    ⟨0x193, 0x193, 1, 0x260⟩, ⟨0x194, 0x194, 1, 0x263⟩, ⟨0x196, 0x196, 1, 0x269⟩,
    ⟨0x197, 0x197, 1, 0x268⟩, ⟨0x198, 0x198, 1, 0x199⟩, ⟨0x19C, 0x19C, 1, 0x26F⟩,
    ⟨0x19D, 0x19D, 1, 0x272⟩, ⟨0x19F, 0x19F, 1, 0x275⟩, ⟨0x1A0, 0x1A4, 2, 0x1A1⟩,
    ⟨0x1A6, 0x1A6, 1, 0x280⟩, ⟨0x1A7, 0x1A7, 1, 0x1A8⟩, ⟨0x1A9, 0x1A9, 1, 0x283⟩,
    ⟨0x1AC, 0x1AC, 1, 0x1AD⟩, ⟨0x1AE, 0x1AE, 1, 0x288⟩, ⟨0x1AF, 0x1AF, 1, 0x1B0⟩,
    ⟨0x1B1, 0x1B2, 1, 0x28A⟩, ⟨0x1B3, 0x1B5, 2, 0x1B4⟩, ⟨0x1B7, 0x1B7, 1, 0x292⟩,
    ⟨0x1B8, 0x1B8, 1, 0x1B9⟩, ⟨0x1BC, 0x1BC, 1, 0x1BD⟩, ⟨0x1CD, 0x1DB, 2, 0x1CE⟩,
    ⟨0x1DE, 0x1EE, 2, 0x1DF⟩, ⟨0x1F4, 0x1F4, 1, 0x1F5⟩, ⟨0x1F6, 0x1F6, 1, 0x195⟩,
    ⟨0x1F7, 0x1F7, 1, 0x1BF⟩, ⟨0x1F8, 0x21E, 2, 0x1F9⟩, ⟨0x220, 0x220, 1, 0x19E⟩,
    ⟨0x222, 0x232, 2, 0x223⟩, ⟨0x23A, 0x23A, 1, 0x2C65⟩, ⟨0x23B, 0x23B, 1, 0x23C⟩,
    ⟨0x23D, 0x23D, 1, 0x19A⟩, ⟨0x23E, 0x23E, 1, 0x2C66⟩, ⟨0x241, 0x241, 1, 0x242⟩,
    ⟨0x243, 0x243, 1, 0x180⟩, ⟨0x244, 0x244, 1, 0x289⟩, ⟨0x245, 0x245, 1, 0x28C⟩,
    ⟨0x246, 0x24E, 2, 0x247⟩, ⟨0x2B0, 0x2B2, 2, 0x68⟩, ⟨0x2B1, 0x2B1, 1, 0x266⟩,
    ⟨0x2B3, 0x2B3, 1, 0x72⟩, ⟨0x2B4, 0x2B4, 1, 0x279⟩, ⟨0x2B5, 0x2B5, 1, 0x27B⟩,
    ⟨0x2B6, 0x2B6, 1, 0x281⟩, ⟨0x2B7, 0x2B7, 1, 0x77⟩, ⟨0x2B8, 0x2B8, 1, 0x79⟩,
    ⟨0x2E0, 0x2E0, 1, 0x263⟩, ⟨0x2E1, 0x2E1, 1, 0x6C⟩, ⟨0x2E2, 0x2E2, 1, 0x73⟩,
    ⟨0x2E3, 0x2E3, 1, 0x78⟩, ⟨0x2E4, 0x2E4, 1, 0x295⟩, ⟨0x340, 0x341, 1, 0x300⟩,
    ⟨0x343, 0x343, 1, 0x313⟩, ⟨0x345, 0x345, 1, 0x3B9⟩, ⟨0x370, 0x372, 2, 0x371⟩,
    ⟨0x374, 0x374, 1, 0x2B9⟩, ⟨0x376, 0x376, 1, 0x377⟩, ⟨0x37E, 0x37E, 1, 0x3B⟩,
    ⟨0x37F, 0x37F, 1, 0x3F3⟩, ⟨0x386, 0x386, 1, 0x3AC⟩, ⟨0x387, 0x387, 1, 0xB7⟩,
    ⟨0x388, 0x38A, 1, 0x3AD⟩, ⟨0x38C, 0x38C, 1, 0x3CC⟩, ⟨0x38E, 0x38F, 1, 0x3CD⟩,
    ⟨0x391, 0x3A1, 1, 0x3B1⟩, ⟨0x3A3, 0x3AB, 1, 0x3C3⟩, ⟨0x3CF, 0x3CF, 1, 0x3D7⟩,
    ⟨0x3D0, 0x3D0, 1, 0x3B2⟩, ⟨0x3D1, 0x3D1, 1, 0x3B8⟩, ⟨0x3D2, 0x3D2, 1, 0x3C5⟩,
    ⟨0x3D3, 0x3D3, 1, 0x3CD⟩, ⟨0x3D4, 0x3D4, 1, 0x3CB⟩, ⟨0x3D5, 0x3D5, 1, 0x3C6⟩,
    ⟨0x3D6, 0x3D6, 1, 0x3C0⟩, ⟨0x3D8, 0x3EE, 2, 0x3D9⟩, ⟨0x3F0, 0x3F0, 1, 0x3BA⟩,
    ⟨0x3F1, 0x3F1, 1, 0x3C1⟩, ⟨0x3F2, 0x3F2, 1, 0x3C3⟩, ⟨0x3F4, 0x3F4, 1, 0x3B8⟩,
    ⟨0x3F5, 0x3F5, 1, 0x3B5⟩, ⟨0x3F7, 0x3F7, 1, 0x3F8⟩, ⟨0x3F9, 0x3F9, 1, 0x3C3⟩,
    ⟨0x3FA, 0x3FA, 1, 0x3FB⟩, ⟨0x3FD, 0x3FF, 1, 0x37B⟩, ⟨0x400, 0x40F, 1, 0x450⟩,
    ⟨0x410, 0x42F, 1, 0x430⟩, ⟨0x460, 0x480, 2, 0x461⟩, ⟨0x48A, 0x4BE, 2, 0x48B⟩,
    ⟨0x4C0, 0x4C0, 1, 0x4CF⟩, ⟨0x4C1, 0x4CD, 2, 0x4C2⟩, ⟨0x4D0, 0x52E, 2, 0x4D1⟩,
    ⟨0x531, 0x556, 1, 0x561⟩, ⟨0xF0C, 0xF0C, 1, 0xF0B⟩, ⟨0x10A0, 0x10C5, 1, 0x2D00⟩,
    ⟨0x10C7, 0x10C7, 1, 0x2D27⟩, ⟨0x10CD, 0x10CD, 1, 0x2D2D⟩, ⟨0x10FC, 0x10FC, 1, 0x10DC⟩,
    ⟨0x13F8, 0x13FD, 1, 0x13F0⟩, ⟨0x1C80, 0x1C80, 1, 0x432⟩, ⟨0x1C81, 0x1C81, 1, 0x434⟩,
    ⟨0x1C82, 0x1C82, 1, 0x43E⟩, ⟨0x1C83, 0x1C84, 1, 0x441⟩, ⟨0x1C85, 0x1C85, 1, 0x442⟩,
    ⟨0x1C86, 0x1C86, 1, 0x44A⟩, ⟨0x1C87, 0x1C87, 1, 0x463⟩, ⟨0x1C88, 0x1C88, 1, 0xA64B⟩,
    ⟨0x1C90, 0x1CBA, 1, 0x10D0⟩, ⟨0x1CBD, 0x1CBF, 1, 0x10FD⟩, ⟨0x1D2C, 0x1D2C, 1, 0x61⟩,
    ⟨0x1D2D, 0x1D2D, 1, 0xE6⟩, ⟨0x1D2E, 0x1D30, 2, 0x62⟩, ⟨0x1D31, 0x1D39, 2, 0x65⟩,
    ⟨0x1D32, 0x1D32, 1, 0x1DD⟩, ⟨0x1D34, 0x1D3A, 2, 0x68⟩, ⟨0x1D3C, 0x1D3C, 1, 0x6F⟩,
    ⟨0x1D3D, 0x1D3D, 1, 0x223⟩, ⟨0x1D3E, 0x1D3E, 1, 0x70⟩, ⟨0x1D3F, 0x1D3F, 1, 0x72⟩,
    ⟨0x1D40, 0x1D41, 1, 0x74⟩, ⟨0x1D42, 0x1D42, 1, 0x77⟩, ⟨0x1D43, 0x1D43, 1, 0x61⟩,
    ⟨0x1D44, 0x1D45, 1, 0x250⟩, ⟨0x1D46, 0x1D46, 1, 0x1D02⟩, ⟨0x1D47, 0x1D47, 1, 0x62⟩,
    ⟨0x1D48, 0x1D49, 1, 0x64⟩, ⟨0x1D4A, 0x1D4A, 1, 0x259⟩, ⟨0x1D4B, 0x1D4C, 1, 0x25B⟩,
    ⟨0x1D4D, 0x1D4D, 1, 0x67⟩, ⟨0x1D4F, 0x1D4F, 1, 0x6B⟩, ⟨0x1D50, 0x1D52, 2, 0x6D⟩,
    ⟨0x1D51, 0x1D51, 1, 0x14B⟩, ⟨0x1D53, 0x1D53, 1, 0x254⟩, ⟨0x1D54, 0x1D55, 1, 0x1D16⟩,
    ⟨0x1D56, 0x1D56, 1, 0x70⟩, ⟨0x1D57, 0x1D58, 1, 0x74⟩, ⟨0x1D59, 0x1D59, 1, 0x1D1D⟩,
    ⟨0x1D5A, 0x1D5A, 1, 0x26F⟩, ⟨0x1D5B, 0x1D5B, 1, 0x76⟩, ⟨0x1D5C, 0x1D5C, 1, 0x1D25⟩,
    ⟨0x1D5D, 0x1D5F, 1, 0x3B2⟩, ⟨0x1D60, 0x1D61, 1, 0x3C6⟩, ⟨0x1D62, 0x1D62, 1, 0x69⟩,
    ⟨0x1D63, 0x1D63, 1, 0x72⟩, ⟨0x1D64, 0x1D65, 1, 0x75⟩, ⟨0x1D66, 0x1D67, 1, 0x3B2⟩,
    ⟨0x1D68, 0x1D68, 1, 0x3C1⟩, ⟨0x1D69, 0x1D6A, 1, 0x3C6⟩, ⟨0x1D78, 0x1D78, 1, 0x43D⟩,
    ⟨0x1D9B, 0x1D9B, 1, 0x252⟩, ⟨0x1D9C, 0x1D9C, 1, 0x63⟩, ⟨0x1D9D, 0x1D9D, 1, 0x255⟩,
    ⟨0x1D9E, 0x1D9E, 1, 0xF0⟩, ⟨0x1D9F, 0x1D9F, 1, 0x25C⟩, ⟨0x1DA0, 0x1DA0, 1, 0x66⟩,
    ⟨0x1DA1, 0x1DA1, 1, 0x25F⟩, ⟨0x1DA2, 0x1DA2, 1, 0x261⟩, ⟨0x1DA3, 0x1DA3, 1, 0x265⟩,
    ⟨0x1DA4, 0x1DA6, 1, 0x268⟩, ⟨0x1DA7, 0x1DA7, 1, 0x1D7B⟩, ⟨0x1DA8, 0x1DA8, 1, 0x29D⟩,
    ⟨0x1DA9, 0x1DA9, 1, 0x26D⟩, ⟨0x1DAA, 0x1DAA, 1, 0x1D85⟩, ⟨0x1DAB, 0x1DAB, 1, 0x29F⟩,
    ⟨0x1DAC, 0x1DAC, 1, 0x271⟩, ⟨0x1DAD, 0x1DAD, 1, 0x270⟩, ⟨0x1DAE, 0x1DB1, 1, 0x272⟩,
    ⟨0x1DB2, 0x1DB2, 1, 0x278⟩, ⟨0x1DB3, 0x1DB4, 1, 0x282⟩, ⟨0x1DB5, 0x1DB5, 1, 0x1AB⟩,
    ⟨0x1DB6, 0x1DB7, 1, 0x289⟩, ⟨0x1DB8, 0x1DB8, 1, 0x1D1C⟩, ⟨0x1DB9, 0x1DBA, 1, 0x28B⟩,
    ⟨0x1DBB, 0x1DBB, 1, 0x7A⟩, ⟨0x1DBC, 0x1DBE, 1, 0x290⟩, ⟨0x1DBF, 0x1DBF, 1, 0x3B8⟩,
    ⟨0x1E00, 0x1E94, 2, 0x1E01⟩, ⟨0x1E9B, 0x1E9B, 1, 0x1E61⟩, ⟨0x1EA0, 0x1EFE, 2, 0x1EA1⟩,
    ⟨0x1F08, 0x1F0F, 1, 0x1F00⟩, ⟨0x1F18, 0x1F1D, 1, 0x1F10⟩, ⟨0x1F28, 0x1F2F, 1, 0x1F20⟩,
    ⟨0x1F38, 0x1F3F, 1, 0x1F30⟩, ⟨0x1F48, 0x1F4D, 1, 0x1F40⟩, ⟨0x1F59, 0x1F5F, 2, 0x1F51⟩,
    ⟨0x1F68, 0x1F6F, 1, 0x1F60⟩, ⟨0x1F71, 0x1F71, 1, 0x3AC⟩, ⟨0x1F73, 0x1F73, 1, 0x3AD⟩,
    ⟨0x1F75, 0x1F75, 1, 0x3AE⟩, ⟨0x1F77, 0x1F77, 1, 0x3AF⟩, ⟨0x1F79, 0x1F79, 1, 0x3CC⟩,
    ⟨0x1F7B, 0x1F7B, 1, 0x3CD⟩, ⟨0x1F7D, 0x1F7D, 1, 0x3CE⟩, ⟨0x1FB8, 0x1FB9, 1, 0x1FB0⟩,
    ⟨0x1FBA, 0x1FBA, 1, 0x1F70⟩, ⟨0x1FBB, 0x1FBB, 1, 0x3AC⟩, ⟨0x1FBE, 0x1FBE, 1, 0x3B9⟩,
    ⟨0x1FC8, 0x1FCA, 2, 0x1F72⟩, ⟨0x1FC9, 0x1FC9, 1, 0x3AD⟩, ⟨0x1FCB, 0x1FCB, 1, 0x3AE⟩,
    ⟨0x1FD3, 0x1FD3, 1, 0x390⟩, ⟨0x1FD8, 0x1FD9, 1, 0x1FD0⟩, ⟨0x1FDA, 0x1FDA, 1, 0x1F76⟩,
    ⟨0x1FDB, 0x1FDB, 1, 0x3AF⟩, ⟨0x1FE3, 0x1FE3, 1, 0x3B0⟩, ⟨0x1FE8, 0x1FE9, 1, 0x1FE0⟩,
    ⟨0x1FEA, 0x1FEA, 1, 0x1F7A⟩, ⟨0x1FEB, 0x1FEB, 1, 0x3CD⟩, ⟨0x1FEC, 0x1FEC, 1, 0x1FE5⟩,
    ⟨0x1FEF, 0x1FEF, 1, 0x60⟩, ⟨0x1FF8, 0x1FF8, 1, 0x1F78⟩, ⟨0x1FF9, 0x1FFB, 2, 0x3CC⟩,
    ⟨0x1FFA, 0x1FFA, 1, 0x1F7C⟩, ⟨0x2000, 0x2000, 1, 0x20⟩, ⟨0x2001, 0x2001, 1, 0x20⟩,
    ⟨0x2002, 0x2002, 1, 0x20⟩, ⟨0x2003, 0x2003, 1, 0x20⟩, ⟨0x2004, 0x2004, 1, 0x20⟩,
    ⟨0x2005, 0x2005, 1, 0x20⟩, ⟨0x2006, 0x2006, 1, 0x20⟩, ⟨0x2007, 0x2007, 1, 0x20⟩,
    ⟨0x2008, 0x2008, 1, 0x20⟩, ⟨0x2009, 0x2009, 1, 0x20⟩, ⟨0x200A, 0x200A, 1, 0x20⟩,
    ⟨0x2011, 0x2011, 1, 0x2010⟩, ⟨0x2024, 0x2024, 1, 0x2E⟩, ⟨0x202F, 0x202F, 1, 0x20⟩,
    ⟨0x205F, 0x205F, 1, 0x20⟩, ⟨0x2070, 0x2070, 1, 0x30⟩, ⟨0x2071, 0x2071, 1, 0x69⟩,
    ⟨0x2074, 0x2079, 1, 0x34⟩, ⟨0x207A, 0x207A, 1, 0x2B⟩, ⟨0x207B, 0x207B, 1, 0x2212⟩,
    ⟨0x207C, 0x207C, 1, 0x3D⟩, ⟨0x207D, 0x207E, 1, 0x28⟩, ⟨0x207F, 0x207F, 1, 0x6E⟩,
    ⟨0x2080, 0x2089, 1, 0x30⟩, ⟨0x208A, 0x208A, 1, 0x2B⟩, ⟨0x208B, 0x208B, 1, 0x2212⟩,
    ⟨0x208C, 0x208C, 1, 0x3D⟩, ⟨0x208D, 0x208E, 1, 0x28⟩, ⟨0x2090, 0x2090, 1, 0x61⟩,
    ⟨0x2091, 0x2091, 1, 0x65⟩, ⟨0x2092, 0x2092, 1, 0x6F⟩, ⟨0x2093, 0x2093, 1, 0x78⟩,
    ⟨0x2094, 0x2094, 1, 0x259⟩, ⟨0x2095, 0x2095, 1, 0x68⟩, ⟨0x2096, 0x2099, 1, 0x6B⟩,
    ⟨0x209A, 0x209A, 1, 0x70⟩, ⟨0x209B, 0x209C, 1, 0x73⟩, ⟨0x2102, 0x2102, 1, 0x63⟩,
    ⟨0x2107, 0x2107, 1, 0x25B⟩, ⟨0x210A, 0x210B, 1, 0x67⟩, ⟨0x210C, 0x210C, 1, 0x68⟩,
    ⟨0x210D, 0x210D, 1, 0x68⟩, ⟨0x210E, 0x210E, 1, 0x68⟩, ⟨0x210F, 0x210F, 1, 0x127⟩,
    ⟨0x2110, 0x2110, 1, 0x69⟩, ⟨0x2111, 0x2111, 1, 0x69⟩, ⟨0x2112, 0x2112, 1, 0x6C⟩,
    ⟨0x2113, 0x2115, 2, 0x6C⟩, ⟨0x2119, 0x211B, 1, 0x70⟩, ⟨0x211C, 0x211C, 1, 0x72⟩,
    ⟨0x211D, 0x211D, 1, 0x72⟩, ⟨0x2124, 0x2124, 1, 0x7A⟩, ⟨0x2126, 0x2126, 1, 0x3C9⟩,
    ⟨0x2128, 0x2128, 1, 0x7A⟩, ⟨0x212A, 0x212A, 1, 0x6B⟩, ⟨0x212B, 0x212B, 1, 0xE5⟩,
    ⟨0x212C, 0x212D, 1, 0x62⟩, ⟨0x212F, 0x212F, 1, 0x65⟩, ⟨0x2130, 0x2131, 1, 0x65⟩,
    ⟨0x2132, 0x2132, 1, 0x214E⟩, ⟨0x2133, 0x2133, 1, 0x6D⟩, ⟨0x2134, 0x2134, 1, 0x6F⟩,
    ⟨0x2135, 0x2138, 1, 0x5D0⟩, ⟨0x2139, 0x2139, 1, 0x69⟩, ⟨0x213C, 0x213C, 1, 0x3C0⟩,
    ⟨0x213D, 0x213D, 1, 0x3B3⟩, ⟨0x213E, 0x213E, 1, 0x3B3⟩, ⟨0x213F, 0x213F, 1, 0x3C0⟩,
    ⟨0x2140, 0x2140, 1, 0x2211⟩, ⟨0x2145, 0x2145, 1, 0x64⟩, ⟨0x2146, 0x2147, 1, 0x64⟩,
    ⟨0x2148, 0x2149, 1, 0x69⟩, ⟨0x2160, 0x2160, 1, 0x69⟩, ⟨0x2164, 0x2164, 1, 0x76⟩,
    ⟨0x2169, 0x2169, 1, 0x78⟩, ⟨0x216C, 0x216C, 1, 0x6C⟩, ⟨0x216D, 0x216E, 1, 0x63⟩,
    ⟨0x216F, 0x216F, 1, 0x6D⟩, ⟨0x2170, 0x2170, 1, 0x69⟩, ⟨0x2174, 0x2174, 1, 0x76⟩,
    ⟨0x2179, 0x2179, 1, 0x78⟩, ⟨0x217C, 0x217C, 1, 0x6C⟩, ⟨0x217D, 0x217E, 1, 0x63⟩,
    ⟨0x217F, 0x217F, 1, 0x6D⟩, ⟨0x2183, 0x2183, 1, 0x2184⟩, ⟨0x2329, 0x232A, 1, 0x3008⟩,
    ⟨0x2460, 0x2468, 1, 0x31⟩, ⟨0x24B6, 0x24CF, 1, 0x61⟩, ⟨0x24D0, 0x24E9, 1, 0x61⟩,
    ⟨0x24EA, 0x24EA, 1, 0x30⟩, ⟨0x2C00, 0x2C2F, 1, 0x2C30⟩, ⟨0x2C60, 0x2C60, 1, 0x2C61⟩,
    ⟨0x2C62, 0x2C62, 1, 0x26B⟩, ⟨0x2C63, 0x2C63, 1, 0x1D7D⟩, ⟨0x2C64, 0x2C64, 1, 0x27D⟩,
    ⟨0x2C67, 0x2C6B, 2, 0x2C68⟩, ⟨0x2C6D, 0x2C6D, 1, 0x251⟩, ⟨0x2C6E, 0x2C6E, 1, 0x271⟩,
    ⟨0x2C6F, 0x2C6F, 1, 0x250⟩, ⟨0x2C70, 0x2C70, 1, 0x252⟩, ⟨0x2C72, 0x2C72, 1, 0x2C73⟩,
    ⟨0x2C75, 0x2C75, 1, 0x2C76⟩, ⟨0x2C7C, 0x2C7C, 1, 0x6A⟩, ⟨0x2C7D, 0x2C7D, 1, 0x76⟩,
    ⟨0x2C7E, 0x2C7F, 1, 0x23F⟩, ⟨0x2C80, 0x2CE2, 2, 0x2C81⟩, ⟨0x2CEB, 0x2CED, 2, 0x2CEC⟩,
    ⟨0x2CF2, 0x2CF2, 1, 0x2CF3⟩, ⟨0x2D6F, 0x2D6F, 1, 0x2D61⟩, ⟨0x3000, 0x3000, 1, 0x20⟩,
    ⟨0x3036, 0x3036, 1, 0x3012⟩, ⟨0x3038, 0x3038, 1, 0x5341⟩, ⟨0x3039, 0x303A, 1, 0x5344⟩,
    ⟨0x3131, 0x3132, 1, 0x1100⟩, ⟨0x3133, 0x3135, 2, 0x11AA⟩, ⟨0x3134, 0x3134, 1, 0x1102⟩,
    ⟨0x3136, 0x3136, 1, 0x11AD⟩, ⟨0x3137, 0x3139, 1, 0x1103⟩, ⟨0x313A, 0x313F, 1, 0x11B0⟩,
    ⟨0x3140, 0x3140, 1, 0x111A⟩, ⟨0x3141, 0x3143, 1, 0x1106⟩, ⟨0x3144, 0x3144, 1, 0x1121⟩,
    ⟨0x3145, 0x314E, 1, 0x1109⟩, ⟨0x314F, 0x3163, 1, 0x1161⟩, ⟨0x3165, 0x3166, 1, 0x1114⟩,
    ⟨0x3167, 0x3168, 1, 0x11C7⟩, ⟨0x3169, 0x3169, 1, 0x11CC⟩, ⟨0x316A, 0x316A, 1, 0x11CE⟩,
    ⟨0x316B, 0x316B, 1, 0x11D3⟩, ⟨0x316C, 0x316C, 1, 0x11D7⟩, ⟨0x316D, 0x316D, 1, 0x11D9⟩,
    ⟨0x316E, 0x316E, 1, 0x111C⟩, ⟨0x316F, 0x316F, 1, 0x11DD⟩, ⟨0x3170, 0x3170, 1, 0x11DF⟩,
    ⟨0x3171, 0x3172, 1, 0x111D⟩, ⟨0x3173, 0x3173, 1, 0x1120⟩, ⟨0x3174, 0x3175, 1, 0x1122⟩,
    ⟨0x3176, 0x3176, 1, 0x1127⟩, ⟨0x3177, 0x3177, 1, 0x1129⟩, ⟨0x3178, 0x317C, 1, 0x112B⟩,
    ⟨0x317D, 0x317D, 1, 0x1132⟩, ⟨0x317E, 0x317E, 1, 0x1136⟩, ⟨0x317F, 0x317F, 1, 0x1140⟩,
    ⟨0x3180, 0x3180, 1, 0x1147⟩, ⟨0x3181, 0x3181, 1, 0x114C⟩, ⟨0x3182, 0x3183, 1, 0x11F1⟩,
    ⟨0x3184, 0x3186, 1, 0x1157⟩, ⟨0x3187, 0x3188, 1, 0x1184⟩, ⟨0x3189, 0x3189, 1, 0x1188⟩,
    ⟨0x318A, 0x318B, 1, 0x1191⟩, ⟨0x318C, 0x318C, 1, 0x1194⟩, ⟨0x318D, 0x318D, 1, 0x119E⟩,
    ⟨0x318E, 0x318E, 1, 0x11A1⟩, ⟨0x3192, 0x3192, 1, 0x4E00⟩, ⟨0x3193, 0x3193, 1, 0x4E8C⟩,
    ⟨0x3194, 0x3194, 1, 0x4E09⟩, ⟨0x3195, 0x3195, 1, 0x56DB⟩, ⟨0x3196, 0x3196, 1, 0x4E0A⟩,
    ⟨0x3197, 0x3197, 1, 0x4E2D⟩, ⟨0x3198, 0x3198, 1, 0x4E0B⟩, ⟨0x3199, 0x3199, 1, 0x7532⟩,
    ⟨0x319A, 0x319A, 1, 0x4E59⟩, ⟨0x319B, 0x319B, 1, 0x4E19⟩, ⟨0x319C, 0x319C, 1, 0x4E01⟩,
    ⟨0x319D, 0x319D, 1, 0x5929⟩, ⟨0x319E, 0x319E, 1, 0x5730⟩, ⟨0x319F, 0x319F, 1, 0x4EBA⟩,
    ⟨0xA640, 0xA66C, 2, 0xA641⟩, ⟨0xA680, 0xA69A, 2, 0xA681⟩, ⟨0xA69C, 0xA69C, 1, 0x44A⟩,
    ⟨0xA69D, 0xA69D, 1, 0x44C⟩, ⟨0xA722, 0xA72E, 2, 0xA723⟩, ⟨0xA732, 0xA76E, 2, 0xA733⟩,
    ⟨0xA770, 0xA770, 1, 0xA76F⟩, ⟨0xA779, 0xA77B, 2, 0xA77A⟩, ⟨0xA77D, 0xA77D, 1, 0x1D79⟩,
    ⟨0xA77E, 0xA786, 2, 0xA77F⟩, ⟨0xA78B, 0xA78B, 1, 0xA78C⟩, ⟨0xA78D, 0xA78D, 1, 0x265⟩,
    ⟨0xA790, 0xA792, 2, 0xA791⟩, ⟨0xA796, 0xA7A8, 2, 0xA797⟩, ⟨0xA7AA, 0xA7AA, 1, 0x266⟩,
    ⟨0xA7AB, 0xA7AB, 1, 0x25C⟩, ⟨0xA7AC, 0xA7AC, 1, 0x261⟩, ⟨0xA7AD, 0xA7AD, 1, 0x26C⟩,
    ⟨0xA7AE, 0xA7AE, 1, 0x26A⟩, ⟨0xA7B0, 0xA7B0, 1, 0x29E⟩, ⟨0xA7B1, 0xA7B1, 1, 0x287⟩,
    ⟨0xA7B2, 0xA7B2, 1, 0x29D⟩, ⟨0xA7B3, 0xA7B3, 1, 0xAB53⟩, ⟨0xA7B4, 0xA7C2, 2, 0xA7B5⟩,
    ⟨0xA7C4, 0xA7C4, 1, 0xA794⟩, ⟨0xA7C5, 0xA7C5, 1, 0x282⟩, ⟨0xA7C6, 0xA7C6, 1, 0x1D8E⟩,
    ⟨0xA7C7, 0xA7C9, 2, 0xA7C8⟩, ⟨0xA7D0, 0xA7D0, 1, 0xA7D1⟩, ⟨0xA7D6, 0xA7D8, 2, 0xA7D7⟩,
    ⟨0xA7F2, 0xA7F2, 1, 0x63⟩, ⟨0xA7F3, 0xA7F3, 1, 0x66⟩, ⟨0xA7F4, 0xA7F4, 1, 0x71⟩,
    ⟨0xA7F5, 0xA7F5, 1, 0xA7F6⟩, ⟨0xA7F8, 0xA7F8, 1, 0x127⟩, ⟨0xA7F9, 0xA7F9, 1, 0x153⟩,
    ⟨0xAB5C, 0xAB5C, 1, 0xA727⟩, ⟨0xAB5D, 0xAB5D, 1, 0xAB37⟩, ⟨0xAB5E, 0xAB5E, 1, 0x26B⟩,
    ⟨0xAB5F, 0xAB5F, 1, 0xAB52⟩, ⟨0xAB69, 0xAB69, 1, 0x28D⟩, ⟨0xAB70, 0xABBF, 1, 0x13A0⟩,
    ⟨0xFB20, 0xFB20, 1, 0x5E2⟩, ⟨0xFB21, 0xFB21, 1, 0x5D0⟩, ⟨0xFB22, 0xFB23, 1, 0x5D3⟩,
    ⟨0xFB24, 0xFB26, 1, 0x5DB⟩, ⟨0xFB27, 0xFB27, 1, 0x5E8⟩, ⟨0xFB28, 0xFB28, 1, 0x5EA⟩,
    ⟨0xFB29, 0xFB29, 1, 0x2B⟩, ⟨0xFF01, 0xFF20, 1, 0x21⟩, ⟨0xFF21, 0xFF3A, 1, 0x61⟩,
    ⟨0xFF3B, 0xFF5E, 1, 0x5B⟩, ⟨0xFF5F, 0xFF60, 1, 0x2985⟩, ⟨0xFF61, 0xFF61, 1, 0x3002⟩,
    ⟨0xFF62, 0xFF63, 1, 0x300C⟩, ⟨0xFF64, 0xFF64, 1, 0x3001⟩, ⟨0xFF65, 0xFF65, 1, 0x30FB⟩,
    ⟨0xFF66, 0xFF66, 1, 0x30F2⟩, ⟨0xFF67, 0xFF67, 1, 0x30A1⟩, ⟨0xFF68, 0xFF68, 1, 0x30A3⟩,
    ⟨0xFF69, 0xFF69, 1, 0x30A5⟩, ⟨0xFF6A, 0xFF6A, 1, 0x30A7⟩, ⟨0xFF6B, 0xFF6B, 1, 0x30A9⟩,
    ⟨0xFF6C, 0xFF6C, 1, 0x30E3⟩, ⟨0xFF6D, 0xFF6D, 1, 0x30E5⟩, ⟨0xFF6E, 0xFF6E, 1, 0x30E7⟩,
    ⟨0xFF6F, 0xFF6F, 1, 0x30C3⟩, ⟨0xFF70, 0xFF70, 1, 0x30FC⟩, ⟨0xFF71, 0xFF71, 1, 0x30A2⟩,
    ⟨0xFF72, 0xFF72, 1, 0x30A4⟩, ⟨0xFF73, 0xFF73, 1, 0x30A6⟩, ⟨0xFF74, 0xFF74, 1, 0x30A8⟩,
    ⟨0xFF75, 0xFF76, 1, 0x30AA⟩, ⟨0xFF77, 0xFF77, 1, 0x30AD⟩, ⟨0xFF78, 0xFF78, 1, 0x30AF⟩,
    ⟨0xFF79, 0xFF79, 1, 0x30B1⟩, ⟨0xFF7A, 0xFF7A, 1, 0x30B3⟩, ⟨0xFF7B, 0xFF7B, 1, 0x30B5⟩,
    ⟨0xFF7C, 0xFF7C, 1, 0x30B7⟩, ⟨0xFF7D, 0xFF7D, 1, 0x30B9⟩, ⟨0xFF7E, 0xFF7E, 1, 0x30BB⟩,
    ⟨0xFF7F, 0xFF7F, 1, 0x30BD⟩, ⟨0xFF80, 0xFF80, 1, 0x30BF⟩, ⟨0xFF81, 0xFF81, 1, 0x30C1⟩,
    ⟨0xFF82, 0xFF82, 1, 0x30C4⟩, ⟨0xFF83, 0xFF83, 1, 0x30C6⟩, ⟨0xFF84, 0xFF84, 1, 0x30C8⟩,
    ⟨0xFF85, 0xFF8A, 1, 0x30CA⟩, ⟨0xFF8B, 0xFF8B, 1, 0x30D2⟩, ⟨0xFF8C, 0xFF8C, 1, 0x30D5⟩,
    ⟨0xFF8D, 0xFF8D, 1, 0x30D8⟩, ⟨0xFF8E, 0xFF8E, 1, 0x30DB⟩, ⟨0xFF8F, 0xFF93, 1, 0x30DE⟩,
    ⟨0xFF94, 0xFF94, 1, 0x30E4⟩, ⟨0xFF95, 0xFF95, 1, 0x30E6⟩, ⟨0xFF96, 0xFF9B, 1, 0x30E8⟩,
    ⟨0xFF9C, 0xFF9C, 1, 0x30EF⟩, ⟨0xFF9D, 0xFF9D, 1, 0x30F3⟩, ⟨0xFF9E, 0xFF9F, 1, 0x3099⟩,
    ⟨0xFFA1, 0xFFA2, 1, 0x1100⟩, ⟨0xFFA3, 0xFFA5, 2, 0x11AA⟩, ⟨0xFFA4, 0xFFA4, 1, 0x1102⟩,
    ⟨0xFFA6, 0xFFA6, 1, 0x11AD⟩, ⟨0xFFA7, 0xFFA9, 1, 0x1103⟩, ⟨0xFFAA, 0xFFAF, 1, 0x11B0⟩,
    ⟨0xFFB0, 0xFFB0, 1, 0x111A⟩, ⟨0xFFB1, 0xFFB3, 1, 0x1106⟩, ⟨0xFFB4, 0xFFB4, 1, 0x1121⟩,
    ⟨0xFFB5, 0xFFBE, 1, 0x1109⟩, ⟨0xFFC2, 0xFFC7, 1, 0x1161⟩, ⟨0xFFCA, 0xFFCF, 1, 0x1167⟩,
    ⟨0xFFD2, 0xFFD7, 1, 0x116D⟩, ⟨0xFFDA, 0xFFDC, 1, 0x1173⟩, ⟨0xFFE0, 0xFFE1, 1, 0xA2⟩,
    ⟨0xFFE2, 0xFFE2, 1, 0xAC⟩, ⟨0xFFE4, 0xFFE4, 1, 0xA6⟩, ⟨0xFFE5, 0xFFE5, 1, 0xA5⟩,
    ⟨0xFFE6, 0xFFE6, 1, 0x20A9⟩, ⟨0xFFE8, 0xFFE8, 1, 0x2502⟩, ⟨0xFFE9, 0xFFEC, 1, 0x2190⟩,
    ⟨0xFFED, 0xFFED, 1, 0x25A0⟩, ⟨0xFFEE, 0xFFEE, 1, 0x25CB⟩, ⟨0x10400, 0x10427, 1, 0x10428⟩,
    ⟨0x104B0, 0x104D3, 1, 0x104D8⟩, ⟨0x10570, 0x10594, 2, 0x10597⟩, ⟨0x10571, 0x10579, 2, 0x10598⟩,
    ⟨0x1057D, 0x10589, 2, 0x105A4⟩, ⟨0x1058D, 0x10591, 2, 0x105B4⟩, ⟨0x10595, 0x10595, 1, 0x105BC⟩,
    ⟨0x10781, 0x10782, 1, 0x2D0⟩, ⟨0x10783, 0x10783, 1, 0xE6⟩, ⟨0x10784, 0x10784, 1, 0x299⟩,
    ⟨0x10785, 0x10785, 1, 0x253⟩, ⟨0x10787, 0x10789, 2, 0x2A3⟩, ⟨0x10788, 0x10788, 1, 0xAB66⟩,
    ⟨0x1078A, 0x1078A, 1, 0x2A4⟩, ⟨0x1078B, 0x1078C, 1, 0x256⟩, ⟨0x1078D, 0x1078D, 1, 0x1D91⟩,
    ⟨0x1078E, 0x1078E, 1, 0x258⟩, ⟨0x1078F, 0x1078F, 1, 0x25E⟩, ⟨0x10790, 0x10790, 1, 0x2A9⟩,
    ⟨0x10791, 0x10791, 1, 0x264⟩, ⟨0x10792, 0x10792, 1, 0x262⟩, ⟨0x10793, 0x10793, 1, 0x260⟩,
    ⟨0x10794, 0x10794, 1, 0x29B⟩, ⟨0x10795, 0x10795, 1, 0x127⟩, ⟨0x10796, 0x10796, 1, 0x29C⟩,
    ⟨0x10797, 0x10797, 1, 0x267⟩, ⟨0x10798, 0x10798, 1, 0x284⟩, ⟨0x10799, 0x1079A, 1, 0x2AA⟩,
    ⟨0x1079B, 0x1079B, 1, 0x26C⟩, ⟨0x1079C, 0x1079C, 1, 0x1DF04⟩, ⟨0x1079D, 0x1079D, 1, 0xA78E⟩,
    ⟨0x1079E, 0x1079E, 1, 0x26E⟩, ⟨0x1079F, 0x1079F, 1, 0x1DF05⟩, ⟨0x107A0, 0x107A0, 1, 0x28E⟩,
    ⟨0x107A1, 0x107A1, 1, 0x1DF06⟩, ⟨0x107A2, 0x107A2, 1, 0xF8⟩, ⟨0x107A3, 0x107A4, 1, 0x276⟩,
    ⟨0x107A5, 0x107A5, 1, 0x71⟩, ⟨0x107A6, 0x107A6, 1, 0x27A⟩, ⟨0x107A7, 0x107A7, 1, 0x1DF08⟩,
    ⟨0x107A8, 0x107A9, 1, 0x27D⟩, ⟨0x107AA, 0x107AA, 1, 0x280⟩, ⟨0x107AB, 0x107AB, 1, 0x2A8⟩,
    ⟨0x107AC, 0x107AC, 1, 0x2A6⟩, ⟨0x107AD, 0x107AD, 1, 0xAB67⟩, ⟨0x107AE, 0x107AE, 1, 0x2A7⟩,
    ⟨0x107AF, 0x107AF, 1, 0x288⟩, ⟨0x107B0, 0x107B0, 1, 0x2C71⟩, ⟨0x107B2, 0x107B2, 1, 0x28F⟩,
    ⟨0x107B3, 0x107B4, 1, 0x2A1⟩, ⟨0x107B5, 0x107B5, 1, 0x298⟩, ⟨0x107B6, 0x107B8, 1, 0x1C0⟩,
    ⟨0x107B9, 0x107B9, 1, 0x1DF0A⟩, ⟨0x107BA, 0x107BA, 1, 0x1DF1E⟩, ⟨0x10C80, 0x10CB2, 1, 0x10CC0⟩,
    ⟨0x118A0, 0x118BF, 1, 0x118C0⟩, ⟨0x16E40, 0x16E5F, 1, 0x16E60⟩, ⟨0x1FBF0, 0x1FBF9, 1, 0x30⟩]

def foldWords : List (Nat × List Nat) :=
  [(0xA8, [0x20, 0x308]), (0xAF, [0x20, 0x304]), (0xB4, [0x20, 0x301]), (0xB8, [0x20, 0x327]),
    (0xBC, [0x31, 0x2044, 0x34]), (0xBD, [0x31, 0x2044, 0x32]), (0xBE, [0x33, 0x2044, 0x34]),
    (0x130, [0x69, 0x307]), (0x132, [0x69, 0x6A]), (0x133, [0x69, 0x6A]), (0x13F, [0x6C, 0xB7]),
    (0x140, [0x6C, 0xB7]), (0x149, [0x2BC, 0x6E]), (0x1C4, [0x64, 0x17E]), (0x1C5, [0x64, 0x17E]),
    (0x1C6, [0x64, 0x17E]), (0x1C7, [0x6C, 0x6A]), (0x1C8, [0x6C, 0x6A]), (0x1C9, [0x6C, 0x6A]),
    (0x1CA, [0x6E, 0x6A]), (0x1CB, [0x6E, 0x6A]), (0x1CC, [0x6E, 0x6A]), (0x1F1, [0x64, 0x7A]),
    (0x1F2, [0x64, 0x7A]), (0x1F3, [0x64, 0x7A]), (0x2D8, [0x20, 0x306]), (0x2D9, [0x20, 0x307]),
    (0x2DA, [0x20, 0x30A]), (0x2DB, [0x20, 0x328]), (0x2DC, [0x20, 0x303]), (0x2DD, [0x20, 0x30B]),
    (0x344, [0x308, 0x301]), (0x37A, [0x20, 0x3B9]), (0x384, [0x20, 0x301]),
    (0x385, [0x20, 0x308, 0x301]), (0x587, [0x565, 0x582]), (0x675, [0x627, 0x674]),
    (0x676, [0x648, 0x674]), (0x677, [0x6C7, 0x674]), (0x678, [0x64A, 0x674]),
    (0x958, [0x915, 0x93C]), (0x959, [0x916, 0x93C]), (0x95A, [0x917, 0x93C]),
    (0x95B, [0x91C, 0x93C]), (0x95C, [0x921, 0x93C]), (0x95D, [0x922, 0x93C]),
    (0x95E, [0x92B, 0x93C]), (0x95F, [0x92F, 0x93C]), (0x9DC, [0x9A1, 0x9BC]),
    (0x9DD, [0x9A2, 0x9BC]), (0x9DF, [0x9AF, 0x9BC]), (0xA33, [0xA32, 0xA3C]),
    (0xA36, [0xA38, 0xA3C]), (0xA59, [0xA16, 0xA3C]), (0xA5A, [0xA17, 0xA3C]),
    (0xA5B, [0xA1C, 0xA3C]), (0xA5E, [0xA2B, 0xA3C]), (0xB5C, [0xB21, 0xB3C]),
    (0xB5D, [0xB22, 0xB3C]), (0xE33, [0xE4D, 0xE32]), (0xEB3, [0xECD, 0xEB2]),
    (0xEDC, [0xEAB, 0xE99]), (0xEDD, [0xEAB, 0xEA1]), (0xF43, [0xF42, 0xFB7]),
    (0xF4D, [0xF4C, 0xFB7]), (0xF52, [0xF51, 0xFB7]), (0xF57, [0xF56, 0xFB7]),
    (0xF5C, [0xF5B, 0xFB7]), (0xF69, [0xF40, 0xFB5]), (0xF73, [0xF71, 0xF72]),
    (0xF75, [0xF71, 0xF74]), (0xF76, [0xFB2, 0xF80]), (0xF77, [0xFB2, 0xF71, 0xF80]),
    (0xF78, [0xFB3, 0xF80]), (0xF79, [0xFB3, 0xF71, 0xF80]), (0xF81, [0xF71, 0xF80]),
    (0xF93, [0xF92, 0xFB7]), (0xF9D, [0xF9C, 0xFB7]), (0xFA2, [0xFA1, 0xFB7]),
    (0xFA7, [0xFA6, 0xFB7]), (0xFAC, [0xFAB, 0xFB7]), (0xFB9, [0xF90, 0xFB5]),
    (0x1E9A, [0x61, 0x2BE]), (0x1E9E, [0x73, 0x73]), (0x1F80, [0x1F00, 0x3B9]),
    (0x1F81, [0x1F01, 0x3B9]), (0x1F82, [0x1F02, 0x3B9]), (0x1F83, [0x1F03, 0x3B9]),
    (0x1F84, [0x1F04, 0x3B9]), (0x1F85, [0x1F05, 0x3B9]), (0x1F86, [0x1F06, 0x3B9]),
    (0x1F87, [0x1F07, 0x3B9]), (0x1F88, [0x1F00, 0x3B9]), (0x1F89, [0x1F01, 0x3B9]),
    (0x1F8A, [0x1F02, 0x3B9]), (0x1F8B, [0x1F03, 0x3B9]), (0x1F8C, [0x1F04, 0x3B9]),
    (0x1F8D, [0x1F05, 0x3B9]), (0x1F8E, [0x1F06, 0x3B9]), (0x1F8F, [0x1F07, 0x3B9]),
    (0x1F90, [0x1F20, 0x3B9]), (0x1F91, [0x1F21, 0x3B9]), (0x1F92, [0x1F22, 0x3B9]),
    (0x1F93, [0x1F23, 0x3B9]), (0x1F94, [0x1F24, 0x3B9]), (0x1F95, [0x1F25, 0x3B9]),
    (0x1F96, [0x1F26, 0x3B9]), (0x1F97, [0x1F27, 0x3B9]), (0x1F98, [0x1F20, 0x3B9]),
    (0x1F99, [0x1F21, 0x3B9]), (0x1F9A, [0x1F22, 0x3B9]), (0x1F9B, [0x1F23, 0x3B9]),
    (0x1F9C, [0x1F24, 0x3B9]), (0x1F9D, [0x1F25, 0x3B9]), (0x1F9E, [0x1F26, 0x3B9]),
    (0x1F9F, [0x1F27, 0x3B9]), (0x1FA0, [0x1F60, 0x3B9]), (0x1FA1, [0x1F61, 0x3B9]),
    (0x1FA2, [0x1F62, 0x3B9]), (0x1FA3, [0x1F63, 0x3B9]), (0x1FA4, [0x1F64, 0x3B9]),
    (0x1FA5, [0x1F65, 0x3B9]), (0x1FA6, [0x1F66, 0x3B9]), (0x1FA7, [0x1F67, 0x3B9]),
    (0x1FA8, [0x1F60, 0x3B9]), (0x1FA9, [0x1F61, 0x3B9]), (0x1FAA, [0x1F62, 0x3B9]),
    (0x1FAB, [0x1F63, 0x3B9]), (0x1FAC, [0x1F64, 0x3B9]), (0x1FAD, [0x1F65, 0x3B9]),
    (0x1FAE, [0x1F66, 0x3B9]), (0x1FAF, [0x1F67, 0x3B9]), (0x1FB2, [0x1F70, 0x3B9]),
    (0x1FB3, [0x3B1, 0x3B9]), (0x1FB4, [0x3AC, 0x3B9]), (0x1FB7, [0x1FB6, 0x3B9]),
    (0x1FBC, [0x3B1, 0x3B9]), (0x1FBD, [0x20, 0x313]), (0x1FBF, [0x20, 0x313]),
    (0x1FC0, [0x20, 0x342]), (0x1FC1, [0x20, 0x308, 0x342]), (0x1FC2, [0x1F74, 0x3B9]),
    (0x1FC3, [0x3B7, 0x3B9]), (0x1FC4, [0x3AE, 0x3B9]), (0x1FC7, [0x1FC6, 0x3B9]),
    (0x1FCC, [0x3B7, 0x3B9]), (0x1FCD, [0x20, 0x313, 0x300]), (0x1FCE, [0x20, 0x313, 0x301]),
    (0x1FCF, [0x20, 0x313, 0x342]), (0x1FDD, [0x20, 0x314, 0x300]), (0x1FDE, [0x20, 0x314, 0x301]),
    (0x1FDF, [0x20, 0x314, 0x342]), (0x1FED, [0x20, 0x308, 0x300]), (0x1FEE, [0x20, 0x308, 0x301]),
    (0x1FF2, [0x1F7C, 0x3B9]), (0x1FF3, [0x3C9, 0x3B9]), (0x1FF4, [0x3CE, 0x3B9]),
    (0x1FF7, [0x1FF6, 0x3B9]), (0x1FFC, [0x3C9, 0x3B9]), (0x1FFD, [0x20, 0x301]),
    (0x1FFE, [0x20, 0x314]), (0x2017, [0x20, 0x333]), (0x2025, [0x2E, 0x2E]),
    (0x2026, [0x2E, 0x2E, 0x2E]), (0x2033, [0x2032, 0x2032]), (0x2034, [0x2032, 0x2032, 0x2032]),
    (0x2036, [0x2035, 0x2035]), (0x2037, [0x2035, 0x2035, 0x2035]), (0x203C, [0x21, 0x21]),
    (0x203E, [0x20, 0x305]), (0x2047, [0x3F, 0x3F]), (0x2048, [0x3F, 0x21]),
    (0x2049, [0x21, 0x3F]), (0x2057, [0x2032, 0x2032, 0x2032, 0x2032]), (0x20A8, [0x72, 0x73]),
    (0x2100, [0x61, 0x2F, 0x63]), (0x2101, [0x61, 0x2F, 0x73]), (0x2103, [0xB0, 0x63]),
    (0x2105, [0x63, 0x2F, 0x6F]), (0x2106, [0x63, 0x2F, 0x75]), (0x2109, [0xB0, 0x66]),
    (0x2116, [0x6E, 0x6F]), (0x2120, [0x73, 0x6D]), (0x2121, [0x74, 0x65, 0x6C]),
    (0x2122, [0x74, 0x6D]), (0x213B, [0x66, 0x61, 0x78]), (0x2150, [0x31, 0x2044, 0x37]),
    (0x2151, [0x31, 0x2044, 0x39]), (0x2152, [0x31, 0x2044, 0x31, 0x30]),
    (0x2153, [0x31, 0x2044, 0x33]), (0x2154, [0x32, 0x2044, 0x33]), (0x2155, [0x31, 0x2044, 0x35]),
    (0x2156, [0x32, 0x2044, 0x35]), (0x2157, [0x33, 0x2044, 0x35]), (0x2158, [0x34, 0x2044, 0x35]),
    (0x2159, [0x31, 0x2044, 0x36]), (0x215A, [0x35, 0x2044, 0x36]), (0x215B, [0x31, 0x2044, 0x38]),
    (0x215C, [0x33, 0x2044, 0x38]), (0x215D, [0x35, 0x2044, 0x38]), (0x215E, [0x37, 0x2044, 0x38]),
    (0x215F, [0x31, 0x2044]), (0x2161, [0x69, 0x69]), (0x2162, [0x69, 0x69, 0x69]),
    (0x2163, [0x69, 0x76]), (0x2165, [0x76, 0x69]), (0x2166, [0x76, 0x69, 0x69]),
    (0x2167, [0x76, 0x69, 0x69, 0x69]), (0x2168, [0x69, 0x78]), (0x216A, [0x78, 0x69]),
    (0x216B, [0x78, 0x69, 0x69]), (0x2171, [0x69, 0x69]), (0x2172, [0x69, 0x69, 0x69]),
    (0x2173, [0x69, 0x76]), (0x2175, [0x76, 0x69]), (0x2176, [0x76, 0x69, 0x69]),
    (0x2177, [0x76, 0x69, 0x69, 0x69]), (0x2178, [0x69, 0x78]), (0x217A, [0x78, 0x69]),
    (0x217B, [0x78, 0x69, 0x69]), (0x2189, [0x30, 0x2044, 0x33]), (0x222C, [0x222B, 0x222B]),
    (0x222D, [0x222B, 0x222B, 0x222B]), (0x222F, [0x222E, 0x222E]),
    (0x2230, [0x222E, 0x222E, 0x222E]), (0x2469, [0x31, 0x30]), (0x246A, [0x31, 0x31]),
    (0x246B, [0x31, 0x32]), (0x246C, [0x31, 0x33]), (0x246D, [0x31, 0x34]), (0x246E, [0x31, 0x35]),
    (0x246F, [0x31, 0x36]), (0x2470, [0x31, 0x37]), (0x2471, [0x31, 0x38]), (0x2472, [0x31, 0x39]),
    (0x2473, [0x32, 0x30]), (0x2474, [0x28, 0x31, 0x29]), (0x2475, [0x28, 0x32, 0x29]),
    (0x2476, [0x28, 0x33, 0x29]), (0x2477, [0x28, 0x34, 0x29]), (0x2478, [0x28, 0x35, 0x29]),
    (0x2479, [0x28, 0x36, 0x29]), (0x247A, [0x28, 0x37, 0x29]), (0x247B, [0x28, 0x38, 0x29]),
    (0x247C, [0x28, 0x39, 0x29]), (0x247D, [0x28, 0x31, 0x30, 0x29]),
    (0x247E, [0x28, 0x31, 0x31, 0x29]), (0x247F, [0x28, 0x31, 0x32, 0x29]),
    (0x2480, [0x28, 0x31, 0x33, 0x29]), (0x2481, [0x28, 0x31, 0x34, 0x29]),
    (0x2482, [0x28, 0x31, 0x35, 0x29]), (0x2483, [0x28, 0x31, 0x36, 0x29]),
    (0x2484, [0x28, 0x31, 0x37, 0x29]), (0x2485, [0x28, 0x31, 0x38, 0x29]),
    (0x2486, [0x28, 0x31, 0x39, 0x29]), (0x2487, [0x28, 0x32, 0x30, 0x29]), (0x2488, [0x31, 0x2E]),
    (0x2489, [0x32, 0x2E]), (0x248A, [0x33, 0x2E]), (0x248B, [0x34, 0x2E]), (0x248C, [0x35, 0x2E]),
    (0x248D, [0x36, 0x2E]), (0x248E, [0x37, 0x2E]), (0x248F, [0x38, 0x2E]), (0x2490, [0x39, 0x2E]),
    (0x2491, [0x31, 0x30, 0x2E]), (0x2492, [0x31, 0x31, 0x2E]), (0x2493, [0x31, 0x32, 0x2E]),
    (0x2494, [0x31, 0x33, 0x2E]), (0x2495, [0x31, 0x34, 0x2E]), (0x2496, [0x31, 0x35, 0x2E]),
    (0x2497, [0x31, 0x36, 0x2E]), (0x2498, [0x31, 0x37, 0x2E]), (0x2499, [0x31, 0x38, 0x2E]),
    (0x249A, [0x31, 0x39, 0x2E]), (0x249B, [0x32, 0x30, 0x2E]), (0x249C, [0x28, 0x61, 0x29]),
    (0x249D, [0x28, 0x62, 0x29]), (0x249E, [0x28, 0x63, 0x29]), (0x249F, [0x28, 0x64, 0x29]),
    (0x24A0, [0x28, 0x65, 0x29]), (0x24A1, [0x28, 0x66, 0x29]), (0x24A2, [0x28, 0x67, 0x29]),
    (0x24A3, [0x28, 0x68, 0x29]), (0x24A4, [0x28, 0x69, 0x29]), (0x24A5, [0x28, 0x6A, 0x29]),
    (0x24A6, [0x28, 0x6B, 0x29]), (0x24A7, [0x28, 0x6C, 0x29]), (0x24A8, [0x28, 0x6D, 0x29]),
    (0x24A9, [0x28, 0x6E, 0x29]), (0x24AA, [0x28, 0x6F, 0x29]), (0x24AB, [0x28, 0x70, 0x29]),
    (0x24AC, [0x28, 0x71, 0x29]), (0x24AD, [0x28, 0x72, 0x29]), (0x24AE, [0x28, 0x73, 0x29]),
    (0x24AF, [0x28, 0x74, 0x29]), (0x24B0, [0x28, 0x75, 0x29]), (0x24B1, [0x28, 0x76, 0x29]),
    (0x24B2, [0x28, 0x77, 0x29]), (0x24B3, [0x28, 0x78, 0x29]), (0x24B4, [0x28, 0x79, 0x29]),
    (0x24B5, [0x28, 0x7A, 0x29]), (0x2A0C, [0x222B, 0x222B, 0x222B, 0x222B]),
    (0x2A74, [0x3A, 0x3A, 0x3D]), (0x2A75, [0x3D, 0x3D]), (0x2A76, [0x3D, 0x3D, 0x3D]),
    (0x2ADC, [0x2ADD, 0x338]), (0x309B, [0x20, 0x3099]), (0x309C, [0x20, 0x309A]),
    (0x309F, [0x3088, 0x308A]), (0x30FF, [0x30B3, 0x30C8]), (0xFB00, [0x66, 0x66]),
    (0xFB01, [0x66, 0x69]), (0xFB02, [0x66, 0x6C]), (0xFB03, [0x66, 0x66, 0x69]),
    (0xFB04, [0x66, 0x66, 0x6C]), (0xFB05, [0x73, 0x74]), (0xFB06, [0x73, 0x74]),
    (0xFB13, [0x574, 0x576]), (0xFB14, [0x574, 0x565]), (0xFB15, [0x574, 0x56B]),
    (0xFB16, [0x57E, 0x576]), (0xFB17, [0x574, 0x56D]), (0xFB1D, [0x5D9, 0x5B4]),
    (0xFB1F, [0x5F2, 0x5B7]), (0xFB2A, [0x5E9, 0x5C1]), (0xFB2B, [0x5E9, 0x5C2]),
    (0xFB2C, [0x5E9, 0x5BC, 0x5C1]), (0xFB2D, [0x5E9, 0x5BC, 0x5C2]), (0xFB2E, [0x5D0, 0x5B7]),
    (0xFB2F, [0x5D0, 0x5B8]), (0xFB30, [0x5D0, 0x5BC]), (0xFB31, [0x5D1, 0x5BC]),
    (0xFB32, [0x5D2, 0x5BC]), (0xFB33, [0x5D3, 0x5BC]), (0xFB34, [0x5D4, 0x5BC]),
    (0xFB35, [0x5D5, 0x5BC]), (0xFB36, [0x5D6, 0x5BC]), (0xFB38, [0x5D8, 0x5BC]),
    (0xFB39, [0x5D9, 0x5BC]), (0xFB3A, [0x5DA, 0x5BC]), (0xFB3B, [0x5DB, 0x5BC]),
    (0xFB3C, [0x5DC, 0x5BC]), (0xFB3E, [0x5DE, 0x5BC]), (0xFB40, [0x5E0, 0x5BC]),
    (0xFB41, [0x5E1, 0x5BC]), (0xFB43, [0x5E3, 0x5BC]), (0xFB44, [0x5E4, 0x5BC]),
    (0xFB46, [0x5E6, 0x5BC]), (0xFB47, [0x5E7, 0x5BC]), (0xFB48, [0x5E8, 0x5BC]),
    (0xFB49, [0x5E9, 0x5BC]), (0xFB4A, [0x5EA, 0x5BC]), (0xFB4B, [0x5D5, 0x5B9]),
    (0xFB4C, [0x5D1, 0x5BF]), (0xFB4D, [0x5DB, 0x5BF]), (0xFB4E, [0x5E4, 0x5BF]),
    (0xFB4F, [0x5D0, 0x5DC]), (0xFFE3, [0x20, 0x304]), (0x1D15E, [0x1D157, 0x1D165]),
    (0x1D15F, [0x1D158, 0x1D165]), (0x1D160, [0x1D158, 0x1D165, 0x1D16E]),
    (0x1D161, [0x1D158, 0x1D165, 0x1D16F]), (0x1D162, [0x1D158, 0x1D165, 0x1D170]),
    (0x1D163, [0x1D158, 0x1D165, 0x1D171]), (0x1D164, [0x1D158, 0x1D165, 0x1D172]),
    (0x1D1BB, [0x1D1B9, 0x1D165]), (0x1D1BC, [0x1D1BA, 0x1D165]),
    (0x1D1BD, [0x1D1B9, 0x1D165, 0x1D16E]), (0x1D1BE, [0x1D1BA, 0x1D165, 0x1D16E]),
    (0x1D1BF, [0x1D1B9, 0x1D165, 0x1D16F]), (0x1D1C0, [0x1D1BA, 0x1D165, 0x1D16F])]

/-- Characters that a name ignores: soft hyphens, zero-width marks, selectors of variants. -/
def ignoredRanges : List (Nat × Nat) :=
  [(0xAD, 0xAD), (0x34F, 0x34F), (0x61C, 0x61C), (0x115F, 0x1160), (0x17B4, 0x17B5),
    (0x180B, 0x180F), (0x200B, 0x200B), (0x200E, 0x200F), (0x202A, 0x202E), (0x2060, 0x206F),
    (0x3164, 0x3164), (0xFE00, 0xFE0F), (0xFEFF, 0xFEFF), (0xFFA0, 0xFFA0), (0x1BCA0, 0x1BCA3),
    (0x1D173, 0x1D17A), (0xE0000, 0xE0FFF)]

def foldCode (code : Nat) : List Nat :=
  match foldRuns.find? fun run =>
      run.first ≤ code ∧ code ≤ run.last ∧ (code - run.first) % run.step = 0 with
  | some run => [run.target + (code - run.first)]
  | none =>
      match foldWords.lookup code with
      | some codes => codes
      | none =>
          if ignoredRanges.any fun range => range.1 ≤ code ∧ code ≤ range.2 then [] else [code]

def foldChar (char : Char) : List Char :=
  if 'A' ≤ char ∧ char ≤ 'Z' then [Char.ofNat (char.toNat + 32)]
  else if char.toNat < 0x80 then [char]
  else (foldCode char.toNat).map Char.ofNat

end SealedContent.Text
