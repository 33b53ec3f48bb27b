/-!
How the characters of a host name are mapped before it is compared or encoded: capitals and
compatibility forms become the plain small letters they stand for. `shifts` lists runs of
characters (first, last, step) that move by a fixed distance, `expansions` the characters that
become several.
-/

namespace DualServer.Url

private def shiftPart1 : List (Nat × Nat × Nat × Int) := [
  (0xA0, 0xA0, 1, -128), (0xAA, 0xAA, 1, -73), (0xB2, 0xB3, 1, -128), (0xB5, 0xB5, 1, 775),
  (0xB9, 0xB9, 1, -136), (0xBA, 0xBA, 1, -75), (0xC0, 0xD6, 1, 32), (0xD8, 0xDE, 1, 32),
  (0x100, 0x12E, 2, 1), (0x134, 0x136, 2, 1), (0x139, 0x13D, 2, 1), (0x141, 0x147, 2, 1),
  (0x14A, 0x176, 2, 1), (0x178, 0x178, 1, -121), (0x179, 0x17D, 2, 1), (0x17F, 0x17F, 1, -268),
  (0x181, 0x181, 1, 210), (0x182, 0x184, 2, 1), (0x186, 0x186, 1, 206), (0x187, 0x187, 1, 1),
  (0x189, 0x18A, 1, 205), (0x18B, 0x18B, 1, 1), (0x18E, 0x18E, 1, 79), (0x18F, 0x18F, 1, 202),
  (0x190, 0x190, 1, 203), (0x191, 0x191, 1, 1), (0x193, 0x193, 1, 205), (0x194, 0x194, 1, 207),
  (0x196, 0x196, 1, 211), (0x197, 0x197, 1, 209), (0x198, 0x198, 1, 1), (0x19C, 0x19C, 1, 211),
  (0x19D, 0x19D, 1, 213), (0x19F, 0x19F, 1, 214), (0x1A0, 0x1A4, 2, 1), (0x1A6, 0x1A6, 1, 218),
  (0x1A7, 0x1A7, 1, 1), (0x1A9, 0x1A9, 1, 218), (0x1AC, 0x1AC, 1, 1), (0x1AE, 0x1AE, 1, 218),
  (0x1AF, 0x1AF, 1, 1), (0x1B1, 0x1B2, 1, 217), (0x1B3, 0x1B5, 2, 1), (0x1B7, 0x1B7, 1, 219),
  (0x1B8, 0x1B8, 1, 1), (0x1BC, 0x1BC, 1, 1), (0x1CD, 0x1DB, 2, 1), (0x1DE, 0x1EE, 2, 1),
  (0x1F4, 0x1F4, 1, 1), (0x1F6, 0x1F6, 1, -97), (0x1F7, 0x1F7, 1, -56), (0x1F8, 0x21E, 2, 1),
  (0x220, 0x220, 1, -130), (0x222, 0x232, 2, 1), (0x23A, 0x23A, 1, 10795), (0x23B, 0x23B, 1, 1),
  (0x23D, 0x23D, 1, -163), (0x23E, 0x23E, 1, 10792), (0x241, 0x241, 1, 1),
  (0x243, 0x243, 1, -195), (0x244, 0x244, 1, 69), (0x245, 0x245, 1, 71), (0x246, 0x24E, 2, 1),
  (0x2B0, 0x2B0, 1, -584), (0x2B1, 0x2B1, 1, -75), (0x2B2, 0x2B2, 1, -584),
  (0x2B3, 0x2B3, 1, -577), (0x2B4, 0x2B4, 1, -59), (0x2B5, 0x2B5, 1, -58),
  (0x2B6, 0x2B6, 1, -53), (0x2B7, 0x2B7, 1, -576), (0x2B8, 0x2B8, 1, -575),
  (0x2E0, 0x2E0, 1, -125), (0x2E1, 0x2E1, 1, -629), (0x2E2, 0x2E2, 1, -623),
  (0x2E3, 0x2E3, 1, -619), (0x2E4, 0x2E4, 1, -79), (0x340, 0x341, 1, -64),
  (0x343, 0x343, 1, -48), (0x345, 0x345, 1, 116), (0x370, 0x372, 2, 1), (0x374, 0x374, 1, -187),
  (0x376, 0x376, 1, 1), (0x37E, 0x37E, 1, -835), (0x37F, 0x37F, 1, 116), (0x386, 0x386, 1, 38),
  (0x387, 0x387, 1, -720), (0x388, 0x38A, 1, 37), (0x38C, 0x38C, 1, 64), (0x38E, 0x38F, 1, 63),
  (0x391, 0x3A1, 1, 32), (0x3A3, 0x3AB, 1, 32), (0x3CF, 0x3CF, 1, 8), (0x3D0, 0x3D0, 1, -30),
  (0x3D1, 0x3D1, 1, -25), (0x3D2, 0x3D2, 1, -13), (0x3D3, 0x3D3, 1, -6), (0x3D4, 0x3D4, 1, -9),
  (0x3D5, 0x3D5, 1, -15), (0x3D6, 0x3D6, 1, -22), (0x3D8, 0x3EE, 2, 1), (0x3F0, 0x3F0, 1, -54),
  (0x3F1, 0x3F1, 1, -48), (0x3F2, 0x3F2, 1, -47), (0x3F4, 0x3F4, 1, -60), (0x3F5, 0x3F5, 1, -64),
  (0x3F7, 0x3F7, 1, 1), (0x3F9, 0x3F9, 1, -54), (0x3FA, 0x3FA, 1, 1), (0x3FD, 0x3FF, 1, -130)]

private def shiftPart2 : List (Nat × Nat × Nat × Int) := [
  (0x400, 0x40F, 1, 80), (0x410, 0x42F, 1, 32), (0x460, 0x480, 2, 1), (0x48A, 0x4BE, 2, 1),
  (0x4C0, 0x4C0, 1, 15), (0x4C1, 0x4CD, 2, 1), (0x4D0, 0x52E, 2, 1), (0x531, 0x556, 1, 48),
  (0xF0C, 0xF0C, 1, -1), (0x10A0, 0x10C5, 1, 7264), (0x10C7, 0x10C7, 1, 7264),
  (0x10CD, 0x10CD, 1, 7264), (0x10FC, 0x10FC, 1, -32), (0x13F8, 0x13FD, 1, -8),
  (0x1C80, 0x1C80, 1, -6222), (0x1C81, 0x1C81, 1, -6221), (0x1C82, 0x1C82, 1, -6212),
  (0x1C83, 0x1C84, 1, -6210), (0x1C85, 0x1C85, 1, -6211), (0x1C86, 0x1C86, 1, -6204),
  (0x1C87, 0x1C87, 1, -6180), (0x1C88, 0x1C88, 1, 35267), (0x1C90, 0x1CBA, 1, -3008),
  (0x1CBD, 0x1CBF, 1, -3008), (0x1D2C, 0x1D2C, 1, -7371), (0x1D2D, 0x1D2D, 1, -7239),
  (0x1D2E, 0x1D30, 2, -7372), (0x1D31, 0x1D31, 1, -7372), (0x1D32, 0x1D32, 1, -6997),
  (0x1D33, 0x1D3A, 1, -7372), (0x1D3C, 0x1D3C, 1, -7373), (0x1D3D, 0x1D3D, 1, -6938),
  (0x1D3E, 0x1D3E, 1, -7374), (0x1D3F, 0x1D3F, 1, -7373), (0x1D40, 0x1D41, 1, -7372),
  (0x1D42, 0x1D42, 1, -7371), (0x1D43, 0x1D43, 1, -7394), (0x1D44, 0x1D45, 1, -6900),
  (0x1D46, 0x1D46, 1, -68), (0x1D47, 0x1D47, 1, -7397), (0x1D48, 0x1D49, 1, -7396),
  (0x1D4A, 0x1D4A, 1, -6897), (0x1D4B, 0x1D4C, 1, -6896), (0x1D4D, 0x1D4D, 1, -7398),
  (0x1D4F, 0x1D4F, 1, -7396), (0x1D50, 0x1D50, 1, -7395), (0x1D51, 0x1D51, 1, -7174),
  (0x1D52, 0x1D52, 1, -7395), (0x1D53, 0x1D53, 1, -6911), (0x1D54, 0x1D55, 1, -62),
  (0x1D56, 0x1D56, 1, -7398), (0x1D57, 0x1D58, 1, -7395), (0x1D59, 0x1D59, 1, -60),
  (0x1D5A, 0x1D5A, 1, -6891), (0x1D5B, 0x1D5B, 1, -7397), (0x1D5C, 0x1D5C, 1, -55),
  (0x1D5D, 0x1D5F, 1, -6571), (0x1D60, 0x1D61, 1, -6554), (0x1D62, 0x1D62, 1, -7417),
  (0x1D63, 0x1D63, 1, -7409), (0x1D64, 0x1D65, 1, -7407), (0x1D66, 0x1D67, 1, -6580),
  (0x1D68, 0x1D68, 1, -6567), (0x1D69, 0x1D6A, 1, -6563), (0x1D78, 0x1D78, 1, -6459),
  (0x1D9B, 0x1D9B, 1, -6985), (0x1D9C, 0x1D9C, 1, -7481), (0x1D9D, 0x1D9D, 1, -6984),
  (0x1D9E, 0x1D9E, 1, -7342), (0x1D9F, 0x1D9F, 1, -6979), (0x1DA0, 0x1DA0, 1, -7482),
  (0x1DA1, 0x1DA1, 1, -6978), (0x1DA2, 0x1DA2, 1, -6977), (0x1DA3, 0x1DA3, 1, -6974),
  (0x1DA4, 0x1DA6, 1, -6972), (0x1DA7, 0x1DA7, 1, -44), (0x1DA8, 0x1DA8, 1, -6923),
  (0x1DA9, 0x1DA9, 1, -6972), (0x1DAA, 0x1DAA, 1, -37), (0x1DAB, 0x1DAB, 1, -6924),
  (0x1DAC, 0x1DAC, 1, -6971), (0x1DAD, 0x1DAD, 1, -6973), (0x1DAE, 0x1DB1, 1, -6972),
  (0x1DB2, 0x1DB2, 1, -6970), (0x1DB3, 0x1DB4, 1, -6961), (0x1DB5, 0x1DB5, 1, -7178),
  (0x1DB6, 0x1DB7, 1, -6957), (0x1DB8, 0x1DB8, 1, -156), (0x1DB9, 0x1DBA, 1, -6958),
  (0x1DBB, 0x1DBB, 1, -7489), (0x1DBC, 0x1DBE, 1, -6956), (0x1DBF, 0x1DBF, 1, -6663),
  (0x1E00, 0x1E94, 2, 1), (0x1E9B, 0x1E9B, 1, -58), (0x1EA0, 0x1EFE, 2, 1),
  (0x1F08, 0x1F0F, 1, -8), (0x1F18, 0x1F1D, 1, -8), (0x1F28, 0x1F2F, 1, -8),
  (0x1F38, 0x1F3F, 1, -8), (0x1F48, 0x1F4D, 1, -8), (0x1F59, 0x1F5F, 2, -8),
  (0x1F68, 0x1F6F, 1, -8), (0x1F71, 0x1F71, 1, -7109), (0x1F73, 0x1F73, 1, -7110),
  (0x1F75, 0x1F75, 1, -7111), (0x1F77, 0x1F77, 1, -7112), (0x1F79, 0x1F79, 1, -7085),
  (0x1F7B, 0x1F7B, 1, -7086), (0x1F7D, 0x1F7D, 1, -7087), (0x1FB8, 0x1FB9, 1, -8)]

private def shiftPart3 : List (Nat × Nat × Nat × Int) := [
  (0x1FBA, 0x1FBA, 1, -74), (0x1FBB, 0x1FBB, 1, -7183), (0x1FBE, 0x1FBE, 1, -7173),
  (0x1FC8, 0x1FC8, 1, -86), (0x1FC9, 0x1FC9, 1, -7196), (0x1FCA, 0x1FCA, 1, -86),
  (0x1FCB, 0x1FCB, 1, -7197), (0x1FD3, 0x1FD3, 1, -7235), (0x1FD8, 0x1FD9, 1, -8),
  (0x1FDA, 0x1FDA, 1, -100), (0x1FDB, 0x1FDB, 1, -7212), (0x1FE3, 0x1FE3, 1, -7219),
  (0x1FE8, 0x1FE9, 1, -8), (0x1FEA, 0x1FEA, 1, -112), (0x1FEB, 0x1FEB, 1, -7198),
  (0x1FEC, 0x1FEC, 1, -7), (0x1FEF, 0x1FEF, 1, -8079), (0x1FF8, 0x1FF8, 1, -128),
  (0x1FF9, 0x1FF9, 1, -7213), (0x1FFA, 0x1FFA, 1, -126), (0x1FFB, 0x1FFB, 1, -7213),
  (0x2000, 0x2000, 1, -8160), (0x2001, 0x2001, 1, -8161), (0x2002, 0x2002, 1, -8162),
  (0x2003, 0x2003, 1, -8163), (0x2004, 0x2004, 1, -8164), (0x2005, 0x2005, 1, -8165),
  (0x2006, 0x2006, 1, -8166), (0x2007, 0x2007, 1, -8167), (0x2008, 0x2008, 1, -8168),
  (0x2009, 0x2009, 1, -8169), (0x200A, 0x200A, 1, -8170), (0x2011, 0x2011, 1, -1),
  (0x2024, 0x2024, 1, -8182), (0x202F, 0x202F, 1, -8207), (0x205F, 0x205F, 1, -8255),
  (0x2070, 0x2070, 1, -8256), (0x2071, 0x2071, 1, -8200), (0x2074, 0x2079, 1, -8256),
  (0x207A, 0x207A, 1, -8271), (0x207B, 0x207B, 1, 407), (0x207C, 0x207C, 1, -8255),
  (0x207D, 0x207E, 1, -8277), (0x207F, 0x207F, 1, -8209), (0x2080, 0x2089, 1, -8272),
  (0x208A, 0x208A, 1, -8287), (0x208B, 0x208B, 1, 391), (0x208C, 0x208C, 1, -8271),
  (0x208D, 0x208E, 1, -8293), (0x2090, 0x2090, 1, -8239), (0x2091, 0x2091, 1, -8236),
  (0x2092, 0x2092, 1, -8227), (0x2093, 0x2093, 1, -8219), (0x2094, 0x2094, 1, -7739),
  (0x2095, 0x2095, 1, -8237), (0x2096, 0x2099, 1, -8235), (0x209A, 0x209A, 1, -8234),
  (0x209B, 0x209C, 1, -8232), (0x2102, 0x2102, 1, -8351), (0x2107, 0x2107, 1, -7852),
  (0x210A, 0x210B, 1, -8355), (0x210C, 0x210C, 1, -8356), (0x210D, 0x210D, 1, -8357),
  (0x210E, 0x210E, 1, -8358), (0x210F, 0x210F, 1, -8168), (0x2110, 0x2110, 1, -8359),
  (0x2111, 0x2111, 1, -8360), (0x2112, 0x2112, 1, -8358), (0x2113, 0x2115, 2, -8359),
  (0x2119, 0x211B, 1, -8361), (0x211C, 0x211C, 1, -8362), (0x211D, 0x211D, 1, -8363),
  (0x2124, 0x2124, 1, -8362), (0x2126, 0x2126, 1, -7517), (0x2128, 0x2128, 1, -8366),
  (0x212A, 0x212A, 1, -8383), (0x212B, 0x212B, 1, -8262), (0x212C, 0x212D, 1, -8394),
  (0x212F, 0x212F, 1, -8394), (0x2130, 0x2131, 1, -8395), (0x2132, 0x2132, 1, 28),
  (0x2133, 0x2133, 1, -8390), (0x2134, 0x2134, 1, -8389), (0x2135, 0x2138, 1, -7013),
  (0x2139, 0x2139, 1, -8400), (0x213C, 0x213C, 1, -7548), (0x213D, 0x213D, 1, -7562),
  (0x213E, 0x213E, 1, -7563), (0x213F, 0x213F, 1, -7551), (0x2140, 0x2140, 1, 209),
  (0x2145, 0x2145, 1, -8417), (0x2146, 0x2147, 1, -8418), (0x2148, 0x2149, 1, -8415),
  (0x2160, 0x2160, 1, -8439), (0x2164, 0x2164, 1, -8430), (0x2169, 0x2169, 1, -8433),
  (0x216C, 0x216C, 1, -8448), (0x216D, 0x216E, 1, -8458), (0x216F, 0x216F, 1, -8450),
  (0x2170, 0x2170, 1, -8455), (0x2174, 0x2174, 1, -8446), (0x2179, 0x2179, 1, -8449),
  (0x217C, 0x217C, 1, -8464), (0x217D, 0x217E, 1, -8474), (0x217F, 0x217F, 1, -8466),
  (0x2183, 0x2183, 1, 1), (0x2329, 0x232A, 1, 3295), (0x2460, 0x2468, 1, -9263),
  (0x24B6, 0x24CF, 1, -9301), (0x24D0, 0x24E9, 1, -9327)]

private def shiftPart4 : List (Nat × Nat × Nat × Int) := [
  (0x24EA, 0x24EA, 1, -9402), (0x2C00, 0x2C2F, 1, 48), (0x2C60, 0x2C60, 1, 1),
  (0x2C62, 0x2C62, 1, -10743), (0x2C63, 0x2C63, 1, -3814), (0x2C64, 0x2C64, 1, -10727),
  (0x2C67, 0x2C6B, 2, 1), (0x2C6D, 0x2C6D, 1, -10780), (0x2C6E, 0x2C6E, 1, -10749),
  (0x2C6F, 0x2C6F, 1, -10783), (0x2C70, 0x2C70, 1, -10782), (0x2C72, 0x2C72, 1, 1),
  (0x2C75, 0x2C75, 1, 1), (0x2C7C, 0x2C7C, 1, -11282), (0x2C7D, 0x2C7D, 1, -11271),
  (0x2C7E, 0x2C7F, 1, -10815), (0x2C80, 0x2CE2, 2, 1), (0x2CEB, 0x2CED, 2, 1),
  (0x2CF2, 0x2CF2, 1, 1), (0x2D6F, 0x2D6F, 1, -14), (0x2E9F, 0x2E9F, 1, 15662),
  (0x2EF3, 0x2EF3, 1, 28844), (0x3000, 0x3000, 1, -12256), (0x3036, 0x3036, 1, -36),
  (0x3038, 0x3038, 1, 8969), (0x3039, 0x303A, 1, 8971), (0x3192, 0x3192, 1, 7278),
  (0x3193, 0x3193, 1, 7417), (0x3194, 0x3194, 1, 7285), (0x3195, 0x3195, 1, 9542),
  (0x3196, 0x3196, 1, 7284), (0x3197, 0x3197, 1, 7318), (0x3198, 0x3198, 1, 7283),
  (0x3199, 0x3199, 1, 17305), (0x319A, 0x319A, 1, 7359), (0x319B, 0x319B, 1, 7294),
  (0x319C, 0x319C, 1, 7269), (0x319D, 0x319D, 1, 10124), (0x319E, 0x319E, 1, 9618),
  (0x319F, 0x319F, 1, 7451), (0xA640, 0xA66C, 2, 1), (0xA680, 0xA69A, 2, 1),
  (0xA69C, 0xA69C, 1, -41554), (0xA69D, 0xA69D, 1, -41553), (0xA722, 0xA72E, 2, 1),
  (0xA732, 0xA76E, 2, 1), (0xA770, 0xA770, 1, -1), (0xA779, 0xA77B, 2, 1),
  (0xA77D, 0xA77D, 1, -35332), (0xA77E, 0xA786, 2, 1), (0xA78B, 0xA78B, 1, 1),
  (0xA78D, 0xA78D, 1, -42280), (0xA790, 0xA792, 2, 1), (0xA796, 0xA7A8, 2, 1),
  (0xA7AA, 0xA7AA, 1, -42308), (0xA7AB, 0xA7AB, 1, -42319), (0xA7AC, 0xA7AC, 1, -42315),
  (0xA7AD, 0xA7AD, 1, -42305), (0xA7AE, 0xA7AE, 1, -42308), (0xA7B0, 0xA7B0, 1, -42258),
  (0xA7B1, 0xA7B1, 1, -42282), (0xA7B2, 0xA7B2, 1, -42261), (0xA7B3, 0xA7B3, 1, 928),
  (0xA7B4, 0xA7C2, 2, 1), (0xA7C4, 0xA7C4, 1, -48), (0xA7C5, 0xA7C5, 1, -42307),
  (0xA7C6, 0xA7C6, 1, -35384), (0xA7C7, 0xA7C9, 2, 1), (0xA7D0, 0xA7D0, 1, 1),
  (0xA7D6, 0xA7D8, 2, 1), (0xA7F2, 0xA7F2, 1, -42895), (0xA7F3, 0xA7F3, 1, -42893),
  (0xA7F4, 0xA7F4, 1, -42883), (0xA7F5, 0xA7F5, 1, 1), (0xA7F8, 0xA7F8, 1, -42705),
  (0xA7F9, 0xA7F9, 1, -42662), (0xAB5C, 0xAB5C, 1, -1077), (0xAB5D, 0xAB5D, 1, -38),
  (0xAB5E, 0xAB5E, 1, -43251), (0xAB5F, 0xAB5F, 1, -13), (0xAB69, 0xAB69, 1, -43228),
  (0xAB70, 0xABBF, 1, -38864), (0xFB20, 0xFB20, 1, -62782), (0xFB21, 0xFB21, 1, -62801),
  (0xFB22, 0xFB23, 1, -62799), (0xFB24, 0xFB26, 1, -62793), (0xFB27, 0xFB27, 1, -62783),
  (0xFB28, 0xFB28, 1, -62782), (0xFB29, 0xFB29, 1, -64254), (0xFE10, 0xFE10, 1, -64996),
  (0xFE11, 0xFE12, 1, -52752), (0xFE13, 0xFE14, 1, -64985), (0xFE15, 0xFE15, 1, -65012),
  (0xFE16, 0xFE16, 1, -64983), (0xFE17, 0xFE18, 1, -52737), (0xFE31, 0xFE31, 1, -56861),
  (0xFE32, 0xFE32, 1, -56863), (0xFE33, 0xFE33, 1, -64980), (0xFE34, 0xFE34, 1, -64981),
  (0xFE35, 0xFE36, 1, -65037), (0xFE37, 0xFE37, 1, -64956), (0xFE38, 0xFE38, 1, -64955),
  (0xFE39, 0xFE3A, 1, -52773), (0xFE3B, 0xFE3C, 1, -52779), (0xFE3D, 0xFE3E, 1, -52787),
  (0xFE3F, 0xFE40, 1, -52791), (0xFE41, 0xFE44, 1, -52789), (0xFE47, 0xFE47, 1, -65004),
  (0xFE48, 0xFE48, 1, -65003), (0xFE4D, 0xFE4D, 1, -65006)]

private def shiftPart5 : List (Nat × Nat × Nat × Int) := [
  (0xFE4E, 0xFE4E, 1, -65007), (0xFE4F, 0xFE4F, 1, -65008), (0xFE50, 0xFE50, 1, -65060),
  (0xFE51, 0xFE51, 1, -52816), (0xFE52, 0xFE52, 1, -65060), (0xFE54, 0xFE54, 1, -65049),
  (0xFE55, 0xFE55, 1, -65051), (0xFE56, 0xFE56, 1, -65047), (0xFE57, 0xFE57, 1, -65078),
  (0xFE58, 0xFE58, 1, -56900), (0xFE59, 0xFE5A, 1, -65073), (0xFE5B, 0xFE5B, 1, -64992),
  (0xFE5C, 0xFE5C, 1, -64991), (0xFE5D, 0xFE5E, 1, -52809), (0xFE5F, 0xFE5F, 1, -65084),
  (0xFE60, 0xFE60, 1, -65082), (0xFE61, 0xFE62, 1, -65079), (0xFE63, 0xFE63, 1, -65078),
  (0xFE64, 0xFE64, 1, -65064), (0xFE65, 0xFE65, 1, -65063), (0xFE66, 0xFE66, 1, -65065),
  (0xFE68, 0xFE68, 1, -65036), (0xFE69, 0xFE6A, 1, -65093), (0xFE6B, 0xFE6B, 1, -65067),
  (0xFF01, 0xFF20, 1, -65248), (0xFF21, 0xFF3A, 1, -65216), (0xFF3B, 0xFF5E, 1, -65248),
  (0xFF5F, 0xFF60, 1, -54746), (0xFF61, 0xFF61, 1, -53087), (0xFF62, 0xFF63, 1, -53078),
  (0xFF64, 0xFF64, 1, -53091), (0xFF65, 0xFF65, 1, -52842), (0xFF66, 0xFF66, 1, -52852),
  (0xFF67, 0xFF67, 1, -52934), (0xFF68, 0xFF68, 1, -52933), (0xFF69, 0xFF69, 1, -52932),
  (0xFF6A, 0xFF6A, 1, -52931), (0xFF6B, 0xFF6B, 1, -52930), (0xFF6C, 0xFF6C, 1, -52873),
  (0xFF6D, 0xFF6D, 1, -52872), (0xFF6E, 0xFF6E, 1, -52871), (0xFF6F, 0xFF6F, 1, -52908),
  (0xFF70, 0xFF70, 1, -52852), (0xFF71, 0xFF71, 1, -52943), (0xFF72, 0xFF72, 1, -52942),
  (0xFF73, 0xFF73, 1, -52941), (0xFF74, 0xFF74, 1, -52940), (0xFF75, 0xFF76, 1, -52939),
  (0xFF77, 0xFF77, 1, -52938), (0xFF78, 0xFF78, 1, -52937), (0xFF79, 0xFF79, 1, -52936),
  (0xFF7A, 0xFF7A, 1, -52935), (0xFF7B, 0xFF7B, 1, -52934), (0xFF7C, 0xFF7C, 1, -52933),
  (0xFF7D, 0xFF7D, 1, -52932), (0xFF7E, 0xFF7E, 1, -52931), (0xFF7F, 0xFF7F, 1, -52930),
  (0xFF80, 0xFF80, 1, -52929), (0xFF81, 0xFF81, 1, -52928), (0xFF82, 0xFF82, 1, -52926),
  (0xFF83, 0xFF83, 1, -52925), (0xFF84, 0xFF84, 1, -52924), (0xFF85, 0xFF8A, 1, -52923),
  (0xFF8B, 0xFF8B, 1, -52921), (0xFF8C, 0xFF8C, 1, -52919), (0xFF8D, 0xFF8D, 1, -52917),
  (0xFF8E, 0xFF8E, 1, -52915), (0xFF8F, 0xFF93, 1, -52913), (0xFF94, 0xFF94, 1, -52912),
  (0xFF95, 0xFF95, 1, -52911), (0xFF96, 0xFF9B, 1, -52910), (0xFF9C, 0xFF9C, 1, -52909),
  (0xFF9D, 0xFF9D, 1, -52906), (0xFF9E, 0xFF9F, 1, -52997), (0xFFA0, 0xFFA0, 1, -60992),
  (0xFFA1, 0xFFA2, 1, -61089), (0xFFA3, 0xFFA3, 1, -60921), (0xFFA4, 0xFFA4, 1, -61090),
  (0xFFA5, 0xFFA6, 1, -60921), (0xFFA7, 0xFFA9, 1, -61092), (0xFFAA, 0xFFAF, 1, -60922),
  (0xFFB0, 0xFFB0, 1, -61078), (0xFFB1, 0xFFB3, 1, -61099), (0xFFB4, 0xFFB4, 1, -61075),
  (0xFFB5, 0xFFBE, 1, -61100), (0xFFC2, 0xFFC7, 1, -61025), (0xFFCA, 0xFFCF, 1, -61027),
  (0xFFD2, 0xFFD7, 1, -61029), (0xFFDA, 0xFFDC, 1, -61031), (0xFFE0, 0xFFE1, 1, -65342),
  (0xFFE2, 0xFFE2, 1, -65334), (0xFFE4, 0xFFE4, 1, -65342), (0xFFE5, 0xFFE5, 1, -65344),
  (0xFFE6, 0xFFE6, 1, -57149), (0xFFE8, 0xFFE8, 1, -56038), (0xFFE9, 0xFFEC, 1, -56921),
  (0xFFED, 0xFFED, 1, -55885), (0xFFEE, 0xFFEE, 1, -55843), (0x10400, 0x10427, 1, 40),
  (0x104B0, 0x104D3, 1, 40), (0x10570, 0x1057A, 1, 39), (0x1057C, 0x1058A, 1, 39),
  (0x1058C, 0x10592, 1, 39), (0x10594, 0x10595, 1, 39), (0x10781, 0x10782, 1, -66737),
  (0x10783, 0x10783, 1, -67229), (0x10784, 0x10784, 1, -66795), (0x10785, 0x10785, 1, -66866),
  (0x10787, 0x10787, 1, -66788), (0x10788, 0x10788, 1, -23586)]

private def shiftPart6 : List (Nat × Nat × Nat × Int) := [
  (0x10789, 0x10789, 1, -66788), (0x1078A, 0x1078A, 1, -66790), (0x1078B, 0x1078C, 1, -66869),
  (0x1078D, 0x1078D, 1, -59900), (0x1078E, 0x1078E, 1, -66870), (0x1078F, 0x1078F, 1, -66865),
  (0x10790, 0x10790, 1, -66791), (0x10791, 0x10791, 1, -66861), (0x10792, 0x10792, 1, -66864),
  (0x10793, 0x10793, 1, -66867), (0x10794, 0x10794, 1, -66809), (0x10795, 0x10795, 1, -67182),
  (0x10796, 0x10796, 1, -66810), (0x10797, 0x10797, 1, -66864), (0x10798, 0x10798, 1, -66836),
  (0x10799, 0x1079A, 1, -66799), (0x1079B, 0x1079B, 1, -66863), (0x1079C, 0x1079C, 1, 55144),
  (0x1079D, 0x1079D, 1, -24591), (0x1079E, 0x1079E, 1, -66864), (0x1079F, 0x1079F, 1, 55142),
  (0x107A0, 0x107A0, 1, -66834), (0x107A1, 0x107A1, 1, 55141), (0x107A2, 0x107A2, 1, -67242),
  (0x107A3, 0x107A4, 1, -66861), (0x107A5, 0x107A5, 1, -67380), (0x107A6, 0x107A6, 1, -66860),
  (0x107A7, 0x107A7, 1, 55137), (0x107A8, 0x107A9, 1, -66859), (0x107AA, 0x107AA, 1, -66858),
  (0x107AB, 0x107AB, 1, -66819), (0x107AC, 0x107AC, 1, -66822), (0x107AD, 0x107AD, 1, -23622),
  (0x107AE, 0x107AE, 1, -66823), (0x107AF, 0x107AF, 1, -66855), (0x107B0, 0x107B0, 1, -56127),
  (0x107B2, 0x107B2, 1, -66851), (0x107B3, 0x107B4, 1, -66834), (0x107B5, 0x107B5, 1, -66845),
  (0x107B6, 0x107B8, 1, -67062), (0x107B9, 0x107B9, 1, 55121), (0x107BA, 0x107BA, 1, 55140),
  (0x10C80, 0x10CB2, 1, 64), (0x118A0, 0x118BF, 1, 32), (0x16E40, 0x16E5F, 1, 32),
  (0x1E900, 0x1E921, 1, 34), (0x1FBF0, 0x1FBF9, 1, -129984)]

/-- First and last code point of a run, the step between its members, and how far each moves. -/
def shifts : List (Nat × Nat × Nat × Int) :=
  shiftPart1 ++ shiftPart2 ++ shiftPart3 ++ shiftPart4 ++ shiftPart5 ++ shiftPart6

private def expansionPart1 : List (Nat × List Nat) := [
  (0xA8, [0x20, 0x308]), (0xAF, [0x20, 0x304]), (0xB4, [0x20, 0x301]), (0xB8, [0x20, 0x327]),
  (0xBC, [0x31, 0x2044, 0x34]), (0xBD, [0x31, 0x2044, 0x32]), (0xBE, [0x33, 0x2044, 0x34]),
  (0x130, [0x69, 0x307]), (0x132, [0x69, 0x6A]), (0x133, [0x69, 0x6A]), (0x13F, [0x6C, 0xB7]),
  (0x140, [0x6C, 0xB7]), (0x149, [0x2BC, 0x6E]), (0x1C4, [0x64, 0x17E]), (0x1C5, [0x64, 0x17E]),
  (0x1C6, [0x64, 0x17E]), (0x1C7, [0x6C, 0x6A]), (0x1C8, [0x6C, 0x6A]), (0x1C9, [0x6C, 0x6A]),
  (0x1CA, [0x6E, 0x6A]), (0x1CB, [0x6E, 0x6A]), (0x1CC, [0x6E, 0x6A]), (0x1F1, [0x64, 0x7A]),
  (0x1F2, [0x64, 0x7A]), (0x1F3, [0x64, 0x7A]), (0x2D8, [0x20, 0x306]), (0x2D9, [0x20, 0x307]),
  (0x2DA, [0x20, 0x30A]), (0x2DB, [0x20, 0x328]), (0x2DC, [0x20, 0x303]), (0x2DD, [0x20, 0x30B]),
  (0x344, [0x308, 0x301]), (0x37A, [0x20, 0x3B9]), (0x384, [0x20, 0x301]),
  (0x385, [0x20, 0x308, 0x301]), (0x587, [0x565, 0x582]), (0x675, [0x627, 0x674]),
  (0x676, [0x648, 0x674]), (0x677, [0x6C7, 0x674]), (0x678, [0x64A, 0x674]),
  (0x958, [0x915, 0x93C]), (0x959, [0x916, 0x93C]), (0x95A, [0x917, 0x93C]),
  (0x95B, [0x91C, 0x93C]), (0x95C, [0x921, 0x93C]), (0x95D, [0x922, 0x93C]),
  (0x95E, [0x92B, 0x93C]), (0x95F, [0x92F, 0x93C]), (0x9DC, [0x9A1, 0x9BC]),
  (0x9DD, [0x9A2, 0x9BC]), (0x9DF, [0x9AF, 0x9BC]), (0xA33, [0xA32, 0xA3C]),
  (0xA36, [0xA38, 0xA3C]), (0xA59, [0xA16, 0xA3C]), (0xA5A, [0xA17, 0xA3C]),
  (0xA5B, [0xA1C, 0xA3C]), (0xA5E, [0xA2B, 0xA3C]), (0xB5C, [0xB21, 0xB3C]),
  (0xB5D, [0xB22, 0xB3C]), (0xE33, [0xE4D, 0xE32]), (0xEB3, [0xECD, 0xEB2]),
  (0xEDC, [0xEAB, 0xE99]), (0xEDD, [0xEAB, 0xEA1]), (0xF43, [0xF42, 0xFB7]),
  (0xF4D, [0xF4C, 0xFB7]), (0xF52, [0xF51, 0xFB7]), (0xF57, [0xF56, 0xFB7]),
  (0xF5C, [0xF5B, 0xFB7]), (0xF69, [0xF40, 0xFB5]), (0xF73, [0xF71, 0xF72]),
  (0xF75, [0xF71, 0xF74]), (0xF76, [0xFB2, 0xF80]), (0xF77, [0xFB2, 0xF71, 0xF80]),
  (0xF78, [0xFB3, 0xF80]), (0xF79, [0xFB3, 0xF71, 0xF80]), (0xF81, [0xF71, 0xF80]),
  (0xF93, [0xF92, 0xFB7]), (0xF9D, [0xF9C, 0xFB7]), (0xFA2, [0xFA1, 0xFB7]),
  (0xFA7, [0xFA6, 0xFB7]), (0xFAC, [0xFAB, 0xFB7]), (0xFB9, [0xF90, 0xFB5]),
  (0x1E9A, [0x61, 0x2BE]), (0x1E9E, [0x73, 0x73]), (0x1F80, [0x1F00, 0x3B9]),
  (0x1F81, [0x1F01, 0x3B9]), (0x1F82, [0x1F02, 0x3B9]), (0x1F83, [0x1F03, 0x3B9]),
  (0x1F84, [0x1F04, 0x3B9]), (0x1F85, [0x1F05, 0x3B9])]

private def expansionPart2 : List (Nat × List Nat) := [
  (0x1F86, [0x1F06, 0x3B9]), (0x1F87, [0x1F07, 0x3B9]), (0x1F88, [0x1F00, 0x3B9]),
  (0x1F89, [0x1F01, 0x3B9]), (0x1F8A, [0x1F02, 0x3B9]), (0x1F8B, [0x1F03, 0x3B9]),
  (0x1F8C, [0x1F04, 0x3B9]), (0x1F8D, [0x1F05, 0x3B9]), (0x1F8E, [0x1F06, 0x3B9]),
  (0x1F8F, [0x1F07, 0x3B9]), (0x1F90, [0x1F20, 0x3B9]), (0x1F91, [0x1F21, 0x3B9]),
  (0x1F92, [0x1F22, 0x3B9]), (0x1F93, [0x1F23, 0x3B9]), (0x1F94, [0x1F24, 0x3B9]),
  (0x1F95, [0x1F25, 0x3B9]), (0x1F96, [0x1F26, 0x3B9]), (0x1F97, [0x1F27, 0x3B9]),
  (0x1F98, [0x1F20, 0x3B9]), (0x1F99, [0x1F21, 0x3B9]), (0x1F9A, [0x1F22, 0x3B9]),
  (0x1F9B, [0x1F23, 0x3B9]), (0x1F9C, [0x1F24, 0x3B9]), (0x1F9D, [0x1F25, 0x3B9]),
  (0x1F9E, [0x1F26, 0x3B9]), (0x1F9F, [0x1F27, 0x3B9]), (0x1FA0, [0x1F60, 0x3B9]),
  (0x1FA1, [0x1F61, 0x3B9]), (0x1FA2, [0x1F62, 0x3B9]), (0x1FA3, [0x1F63, 0x3B9]),
  (0x1FA4, [0x1F64, 0x3B9]), (0x1FA5, [0x1F65, 0x3B9]), (0x1FA6, [0x1F66, 0x3B9]),
  (0x1FA7, [0x1F67, 0x3B9]), (0x1FA8, [0x1F60, 0x3B9]), (0x1FA9, [0x1F61, 0x3B9]),
  (0x1FAA, [0x1F62, 0x3B9]), (0x1FAB, [0x1F63, 0x3B9]), (0x1FAC, [0x1F64, 0x3B9]),
  (0x1FAD, [0x1F65, 0x3B9]), (0x1FAE, [0x1F66, 0x3B9]), (0x1FAF, [0x1F67, 0x3B9]),
  (0x1FB2, [0x1F70, 0x3B9]), (0x1FB3, [0x3B1, 0x3B9]), (0x1FB4, [0x3AC, 0x3B9]),
  (0x1FB7, [0x1FB6, 0x3B9]), (0x1FBC, [0x3B1, 0x3B9]), (0x1FBD, [0x20, 0x313]),
  (0x1FBF, [0x20, 0x313]), (0x1FC0, [0x20, 0x342]), (0x1FC1, [0x20, 0x308, 0x342]),
  (0x1FC2, [0x1F74, 0x3B9]), (0x1FC3, [0x3B7, 0x3B9]), (0x1FC4, [0x3AE, 0x3B9]),
  (0x1FC7, [0x1FC6, 0x3B9]), (0x1FCC, [0x3B7, 0x3B9]), (0x1FCD, [0x20, 0x313, 0x300]),
  (0x1FCE, [0x20, 0x313, 0x301]), (0x1FCF, [0x20, 0x313, 0x342]), (0x1FDD, [0x20, 0x314, 0x300]),
  (0x1FDE, [0x20, 0x314, 0x301]), (0x1FDF, [0x20, 0x314, 0x342]), (0x1FED, [0x20, 0x308, 0x300]),
  (0x1FEE, [0x20, 0x308, 0x301]), (0x1FF2, [0x1F7C, 0x3B9]), (0x1FF3, [0x3C9, 0x3B9]),
  (0x1FF4, [0x3CE, 0x3B9]), (0x1FF7, [0x1FF6, 0x3B9]), (0x1FFC, [0x3C9, 0x3B9]),
  (0x1FFD, [0x20, 0x301]), (0x1FFE, [0x20, 0x314]), (0x2017, [0x20, 0x333]),
  (0x2025, [0x2E, 0x2E]), (0x2026, [0x2E, 0x2E, 0x2E]), (0x2033, [0x2032, 0x2032]),
  (0x2034, [0x2032, 0x2032, 0x2032]), (0x2036, [0x2035, 0x2035]),
  (0x2037, [0x2035, 0x2035, 0x2035]), (0x203C, [0x21, 0x21]), (0x203E, [0x20, 0x305]),
  (0x2047, [0x3F, 0x3F]), (0x2048, [0x3F, 0x21]), (0x2049, [0x21, 0x3F]),
  (0x2057, [0x2032, 0x2032, 0x2032, 0x2032]), (0x20A8, [0x72, 0x73]),
  (0x2100, [0x61, 0x2F, 0x63]), (0x2101, [0x61, 0x2F, 0x73]), (0x2103, [0xB0, 0x63]),
  (0x2105, [0x63, 0x2F, 0x6F]), (0x2106, [0x63, 0x2F, 0x75])]

private def expansionPart3 : List (Nat × List Nat) := [
  (0x2109, [0xB0, 0x66]), (0x2116, [0x6E, 0x6F]), (0x2120, [0x73, 0x6D]),
  (0x2121, [0x74, 0x65, 0x6C]), (0x2122, [0x74, 0x6D]), (0x213B, [0x66, 0x61, 0x78]),
  (0x2150, [0x31, 0x2044, 0x37]), (0x2151, [0x31, 0x2044, 0x39]),
  (0x2152, [0x31, 0x2044, 0x31, 0x30]), (0x2153, [0x31, 0x2044, 0x33]),
  (0x2154, [0x32, 0x2044, 0x33]), (0x2155, [0x31, 0x2044, 0x35]), (0x2156, [0x32, 0x2044, 0x35]),
  (0x2157, [0x33, 0x2044, 0x35]), (0x2158, [0x34, 0x2044, 0x35]), (0x2159, [0x31, 0x2044, 0x36]),
  (0x215A, [0x35, 0x2044, 0x36]), (0x215B, [0x31, 0x2044, 0x38]), (0x215C, [0x33, 0x2044, 0x38]),
  (0x215D, [0x35, 0x2044, 0x38]), (0x215E, [0x37, 0x2044, 0x38]), (0x215F, [0x31, 0x2044]),
  (0x2161, [0x69, 0x69]), (0x2162, [0x69, 0x69, 0x69]), (0x2163, [0x69, 0x76]),
  (0x2165, [0x76, 0x69]), (0x2166, [0x76, 0x69, 0x69]), (0x2167, [0x76, 0x69, 0x69, 0x69]),
  (0x2168, [0x69, 0x78]), (0x216A, [0x78, 0x69]), (0x216B, [0x78, 0x69, 0x69]),
  (0x2171, [0x69, 0x69]), (0x2172, [0x69, 0x69, 0x69]), (0x2173, [0x69, 0x76]),
  (0x2175, [0x76, 0x69]), (0x2176, [0x76, 0x69, 0x69]), (0x2177, [0x76, 0x69, 0x69, 0x69]),
  (0x2178, [0x69, 0x78]), (0x217A, [0x78, 0x69]), (0x217B, [0x78, 0x69, 0x69]),
  (0x2189, [0x30, 0x2044, 0x33]), (0x222C, [0x222B, 0x222B]), (0x222D, [0x222B, 0x222B, 0x222B]),
  (0x222F, [0x222E, 0x222E]), (0x2230, [0x222E, 0x222E, 0x222E]), (0x2469, [0x31, 0x30]),
  (0x246A, [0x31, 0x31]), (0x246B, [0x31, 0x32]), (0x246C, [0x31, 0x33]), (0x246D, [0x31, 0x34]),
  (0x246E, [0x31, 0x35]), (0x246F, [0x31, 0x36]), (0x2470, [0x31, 0x37]), (0x2471, [0x31, 0x38]),
  (0x2472, [0x31, 0x39]), (0x2473, [0x32, 0x30]), (0x2474, [0x28, 0x31, 0x29]),
  (0x2475, [0x28, 0x32, 0x29]), (0x2476, [0x28, 0x33, 0x29]), (0x2477, [0x28, 0x34, 0x29]),
  (0x2478, [0x28, 0x35, 0x29]), (0x2479, [0x28, 0x36, 0x29]), (0x247A, [0x28, 0x37, 0x29]),
  (0x247B, [0x28, 0x38, 0x29]), (0x247C, [0x28, 0x39, 0x29]), (0x247D, [0x28, 0x31, 0x30, 0x29]),
  (0x247E, [0x28, 0x31, 0x31, 0x29]), (0x247F, [0x28, 0x31, 0x32, 0x29]),
  (0x2480, [0x28, 0x31, 0x33, 0x29]), (0x2481, [0x28, 0x31, 0x34, 0x29]),
  (0x2482, [0x28, 0x31, 0x35, 0x29]), (0x2483, [0x28, 0x31, 0x36, 0x29]),
  (0x2484, [0x28, 0x31, 0x37, 0x29]), (0x2485, [0x28, 0x31, 0x38, 0x29]),
  (0x2486, [0x28, 0x31, 0x39, 0x29]), (0x2487, [0x28, 0x32, 0x30, 0x29]), (0x2488, [0x31, 0x2E]),
  (0x2489, [0x32, 0x2E]), (0x248A, [0x33, 0x2E]), (0x248B, [0x34, 0x2E]), (0x248C, [0x35, 0x2E]),
  (0x248D, [0x36, 0x2E]), (0x248E, [0x37, 0x2E]), (0x248F, [0x38, 0x2E]), (0x2490, [0x39, 0x2E]),
  (0x2491, [0x31, 0x30, 0x2E]), (0x2492, [0x31, 0x31, 0x2E]), (0x2493, [0x31, 0x32, 0x2E]),
  (0x2494, [0x31, 0x33, 0x2E]), (0x2495, [0x31, 0x34, 0x2E])]

private def expansionPart4 : List (Nat × List Nat) := [
  (0x2496, [0x31, 0x35, 0x2E]), (0x2497, [0x31, 0x36, 0x2E]), (0x2498, [0x31, 0x37, 0x2E]),
  (0x2499, [0x31, 0x38, 0x2E]), (0x249A, [0x31, 0x39, 0x2E]), (0x249B, [0x32, 0x30, 0x2E]),
  (0x249C, [0x28, 0x61, 0x29]), (0x249D, [0x28, 0x62, 0x29]), (0x249E, [0x28, 0x63, 0x29]),
  (0x249F, [0x28, 0x64, 0x29]), (0x24A0, [0x28, 0x65, 0x29]), (0x24A1, [0x28, 0x66, 0x29]),
  (0x24A2, [0x28, 0x67, 0x29]), (0x24A3, [0x28, 0x68, 0x29]), (0x24A4, [0x28, 0x69, 0x29]),
  (0x24A5, [0x28, 0x6A, 0x29]), (0x24A6, [0x28, 0x6B, 0x29]), (0x24A7, [0x28, 0x6C, 0x29]),
  (0x24A8, [0x28, 0x6D, 0x29]), (0x24A9, [0x28, 0x6E, 0x29]), (0x24AA, [0x28, 0x6F, 0x29]),
  (0x24AB, [0x28, 0x70, 0x29]), (0x24AC, [0x28, 0x71, 0x29]), (0x24AD, [0x28, 0x72, 0x29]),
  (0x24AE, [0x28, 0x73, 0x29]), (0x24AF, [0x28, 0x74, 0x29]), (0x24B0, [0x28, 0x75, 0x29]),
  (0x24B1, [0x28, 0x76, 0x29]), (0x24B2, [0x28, 0x77, 0x29]), (0x24B3, [0x28, 0x78, 0x29]),
  (0x24B4, [0x28, 0x79, 0x29]), (0x24B5, [0x28, 0x7A, 0x29]),
  (0x2A0C, [0x222B, 0x222B, 0x222B, 0x222B]), (0x2A74, [0x3A, 0x3A, 0x3D]),
  (0x2A75, [0x3D, 0x3D]), (0x2A76, [0x3D, 0x3D, 0x3D]), (0x2ADC, [0x2ADD, 0x338]),
  (0x309B, [0x20, 0x3099]), (0x309C, [0x20, 0x309A]), (0x309F, [0x3088, 0x308A]),
  (0x30FF, [0x30B3, 0x30C8]), (0xFB00, [0x66, 0x66]), (0xFB01, [0x66, 0x69]),
  (0xFB02, [0x66, 0x6C]), (0xFB03, [0x66, 0x66, 0x69]), (0xFB04, [0x66, 0x66, 0x6C]),
  (0xFB05, [0x73, 0x74]), (0xFB06, [0x73, 0x74]), (0xFB13, [0x574, 0x576]),
  (0xFB14, [0x574, 0x565]), (0xFB15, [0x574, 0x56B]), (0xFB16, [0x57E, 0x576]),
  (0xFB17, [0x574, 0x56D]), (0xFB1D, [0x5D9, 0x5B4]), (0xFB1F, [0x5F2, 0x5B7]),
  (0xFB2A, [0x5E9, 0x5C1]), (0xFB2B, [0x5E9, 0x5C2]), (0xFB2C, [0x5E9, 0x5BC, 0x5C1]),
  (0xFB2D, [0x5E9, 0x5BC, 0x5C2]), (0xFB2E, [0x5D0, 0x5B7]), (0xFB2F, [0x5D0, 0x5B8]),
  (0xFB30, [0x5D0, 0x5BC]), (0xFB31, [0x5D1, 0x5BC]), (0xFB32, [0x5D2, 0x5BC]),
  (0xFB33, [0x5D3, 0x5BC]), (0xFB34, [0x5D4, 0x5BC]), (0xFB35, [0x5D5, 0x5BC]),
  (0xFB36, [0x5D6, 0x5BC]), (0xFB38, [0x5D8, 0x5BC]), (0xFB39, [0x5D9, 0x5BC]),
  (0xFB3A, [0x5DA, 0x5BC]), (0xFB3B, [0x5DB, 0x5BC]), (0xFB3C, [0x5DC, 0x5BC]),
  (0xFB3E, [0x5DE, 0x5BC]), (0xFB40, [0x5E0, 0x5BC]), (0xFB41, [0x5E1, 0x5BC]),
  (0xFB43, [0x5E3, 0x5BC]), (0xFB44, [0x5E4, 0x5BC]), (0xFB46, [0x5E6, 0x5BC]),
  (0xFB47, [0x5E7, 0x5BC]), (0xFB48, [0x5E8, 0x5BC]), (0xFB49, [0x5E9, 0x5BC]),
  (0xFB4A, [0x5EA, 0x5BC]), (0xFB4B, [0x5D5, 0x5B9]), (0xFB4C, [0x5D1, 0x5BF]),
  (0xFB4D, [0x5DB, 0x5BF]), (0xFB4E, [0x5E4, 0x5BF]), (0xFB4F, [0x5D0, 0x5DC]),
  (0xFE19, [0x2E, 0x2E, 0x2E]), (0xFE30, [0x2E, 0x2E])]

private def expansionPart5 : List (Nat × List Nat) := [
  (0xFE49, [0x20, 0x305]), (0xFE4A, [0x20, 0x305]), (0xFE4B, [0x20, 0x305]),
  (0xFE4C, [0x20, 0x305]), (0xFFE3, [0x20, 0x304]), (0x1D15E, [0x1D157, 0x1D165]),
  (0x1D15F, [0x1D158, 0x1D165]), (0x1D160, [0x1D158, 0x1D165, 0x1D16E]),
  (0x1D161, [0x1D158, 0x1D165, 0x1D16F]), (0x1D162, [0x1D158, 0x1D165, 0x1D170]),
  (0x1D163, [0x1D158, 0x1D165, 0x1D171]), (0x1D164, [0x1D158, 0x1D165, 0x1D172]),
  (0x1D1BB, [0x1D1B9, 0x1D165]), (0x1D1BC, [0x1D1BA, 0x1D165]),
  (0x1D1BD, [0x1D1B9, 0x1D165, 0x1D16E]), (0x1D1BE, [0x1D1BA, 0x1D165, 0x1D16E]),
  (0x1D1BF, [0x1D1B9, 0x1D165, 0x1D16F]), (0x1D1C0, [0x1D1BA, 0x1D165, 0x1D16F])]

def expansions : List (Nat × List Nat) :=
  expansionPart1 ++ expansionPart2 ++ expansionPart3 ++ expansionPart4 ++ expansionPart5

def isIgnored (c : Char) : Bool :=
  let n := c.toNat
  n == 0xAD || n == 0x34F || (0x180B ≤ n && n ≤ 0x180D) || n == 0x180F || n == 0x200B ||
    n == 0x2060 || n == 0x2064 || n == 0xFEFF || (0xFE00 ≤ n && n ≤ 0xFE0F) ||
    (0xE0100 ≤ n && n ≤ 0xE01EF)

def mapChar (c : Char) : List Char :=
  let n := c.toNat
  if n < 0x80 then [c.toLower]
  else if isIgnored c then []
  else match shifts.find? fun (first, last, step, _) =>
      first ≤ n && n ≤ last && (n - first) % step == 0 with
    | some (_, _, _, distance) => [Char.ofNat ((n : Int) + distance).toNat]
    | none => match expansions.find? (·.1 == n) with
      | some (_, codes) => codes.map Char.ofNat
      | none => [c]

end DualServer.Url
