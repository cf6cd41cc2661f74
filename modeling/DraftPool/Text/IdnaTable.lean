import DraftPool.Text.Ranges

/-
The Unicode 17.0 mapping of code points for internationalized domain names (UTS 46).
-/

namespace DraftPool.Text

/-- The mapping runs from U+0041 on. -/
def idnaShiftRunsFrom0041 : List ShiftRun := [
  ⟨0x41, 0x5A, 32, 1⟩, ⟨0xA0, 0xA0, (-128), 1⟩, ⟨0xAA, 0xAA, (-73), 1⟩,
  ⟨0xB2, 0xB3, (-128), 1⟩, ⟨0xB5, 0xB5, 775, 1⟩, ⟨0xB9, 0xB9, (-136), 1⟩,
  ⟨0xBA, 0xBA, (-75), 1⟩, ⟨0xC0, 0xD6, 32, 1⟩, ⟨0xD8, 0xDE, 32, 1⟩,
  ⟨0x100, 0x12E, 1, 2⟩, ⟨0x134, 0x136, 1, 2⟩, ⟨0x139, 0x13D, 1, 2⟩,
  ⟨0x141, 0x147, 1, 2⟩, ⟨0x14A, 0x176, 1, 2⟩, ⟨0x178, 0x178, (-121), 1⟩,
  ⟨0x179, 0x17D, 1, 2⟩, ⟨0x17F, 0x17F, (-268), 1⟩, ⟨0x181, 0x181, 210, 1⟩,
  ⟨0x182, 0x184, 1, 2⟩, ⟨0x186, 0x186, 206, 1⟩, ⟨0x187, 0x187, 1, 1⟩,
  ⟨0x189, 0x18A, 205, 1⟩, ⟨0x18B, 0x18B, 1, 1⟩, ⟨0x18E, 0x18E, 79, 1⟩,
  ⟨0x18F, 0x18F, 202, 1⟩, ⟨0x190, 0x190, 203, 1⟩, ⟨0x191, 0x191, 1, 1⟩,
  ⟨0x193, 0x193, 205, 1⟩, ⟨0x194, 0x194, 207, 1⟩, ⟨0x196, 0x196, 211, 1⟩,
  ⟨0x197, 0x197, 209, 1⟩, ⟨0x198, 0x198, 1, 1⟩, ⟨0x19C, 0x19C, 211, 1⟩,
  ⟨0x19D, 0x19D, 213, 1⟩, ⟨0x19F, 0x19F, 214, 1⟩, ⟨0x1A0, 0x1A4, 1, 2⟩,
  ⟨0x1A6, 0x1A6, 218, 1⟩, ⟨0x1A7, 0x1A7, 1, 1⟩, ⟨0x1A9, 0x1A9, 218, 1⟩,
  ⟨0x1AC, 0x1AC, 1, 1⟩, ⟨0x1AE, 0x1AE, 218, 1⟩, ⟨0x1AF, 0x1AF, 1, 1⟩,
  ⟨0x1B1, 0x1B2, 217, 1⟩, ⟨0x1B3, 0x1B5, 1, 2⟩, ⟨0x1B7, 0x1B7, 219, 1⟩,
  ⟨0x1B8, 0x1B8, 1, 1⟩, ⟨0x1BC, 0x1BC, 1, 1⟩, ⟨0x1CD, 0x1DB, 1, 2⟩,
  ⟨0x1DE, 0x1EE, 1, 2⟩, ⟨0x1F4, 0x1F4, 1, 1⟩, ⟨0x1F6, 0x1F6, (-97), 1⟩,
  ⟨0x1F7, 0x1F7, (-56), 1⟩, ⟨0x1F8, 0x21E, 1, 2⟩, ⟨0x220, 0x220, (-130), 1⟩,
  ⟨0x222, 0x232, 1, 2⟩, ⟨0x23A, 0x23A, 10795, 1⟩, ⟨0x23B, 0x23B, 1, 1⟩,
  ⟨0x23D, 0x23D, (-163), 1⟩, ⟨0x23E, 0x23E, 10792, 1⟩, ⟨0x241, 0x241, 1, 1⟩,
  ⟨0x243, 0x243, (-195), 1⟩, ⟨0x244, 0x244, 69, 1⟩, ⟨0x245, 0x245, 71, 1⟩,
  ⟨0x246, 0x24E, 1, 2⟩, ⟨0x2B0, 0x2B0, (-584), 1⟩, ⟨0x2B1, 0x2B1, (-75), 1⟩,
  ⟨0x2B2, 0x2B2, (-584), 1⟩, ⟨0x2B3, 0x2B3, (-577), 1⟩, ⟨0x2B4, 0x2B4, (-59), 1⟩,
  ⟨0x2B5, 0x2B5, (-58), 1⟩, ⟨0x2B6, 0x2B6, (-53), 1⟩, ⟨0x2B7, 0x2B7, (-576), 1⟩,
  ⟨0x2B8, 0x2B8, (-575), 1⟩, ⟨0x2E0, 0x2E0, (-125), 1⟩, ⟨0x2E1, 0x2E1, (-629), 1⟩,
  ⟨0x2E2, 0x2E2, (-623), 1⟩, ⟨0x2E3, 0x2E3, (-619), 1⟩, ⟨0x2E4, 0x2E4, (-79), 1⟩,
  ⟨0x340, 0x341, (-64), 1⟩, ⟨0x343, 0x343, (-48), 1⟩, ⟨0x345, 0x345, 116, 1⟩,
  ⟨0x370, 0x372, 1, 2⟩, ⟨0x374, 0x374, (-187), 1⟩, ⟨0x376, 0x376, 1, 1⟩,
  ⟨0x37E, 0x37E, (-835), 1⟩, ⟨0x37F, 0x37F, 116, 1⟩, ⟨0x386, 0x386, 38, 1⟩,
  ⟨0x387, 0x387, (-720), 1⟩, ⟨0x388, 0x38A, 37, 1⟩, ⟨0x38C, 0x38C, 64, 1⟩,
  ⟨0x38E, 0x38F, 63, 1⟩, ⟨0x391, 0x3A1, 32, 1⟩, ⟨0x3A3, 0x3AB, 32, 1⟩,
  ⟨0x3CF, 0x3CF, 8, 1⟩, ⟨0x3D0, 0x3D0, (-30), 1⟩, ⟨0x3D1, 0x3D1, (-25), 1⟩,
  ⟨0x3D2, 0x3D2, (-13), 1⟩, ⟨0x3D3, 0x3D3, (-6), 1⟩, ⟨0x3D4, 0x3D4, (-9), 1⟩,
  ⟨0x3D5, 0x3D5, (-15), 1⟩, ⟨0x3D6, 0x3D6, (-22), 1⟩, ⟨0x3D8, 0x3EE, 1, 2⟩,
  ⟨0x3F0, 0x3F0, (-54), 1⟩, ⟨0x3F1, 0x3F1, (-48), 1⟩, ⟨0x3F2, 0x3F2, (-47), 1⟩,
  ⟨0x3F4, 0x3F4, (-60), 1⟩, ⟨0x3F5, 0x3F5, (-64), 1⟩, ⟨0x3F7, 0x3F7, 1, 1⟩,
  ⟨0x3F9, 0x3F9, (-54), 1⟩, ⟨0x3FA, 0x3FA, 1, 1⟩, ⟨0x3FD, 0x3FF, (-130), 1⟩,
  ⟨0x400, 0x40F, 80, 1⟩, ⟨0x410, 0x42F, 32, 1⟩, ⟨0x460, 0x480, 1, 2⟩,
  ⟨0x48A, 0x4BE, 1, 2⟩, ⟨0x4C0, 0x4C0, 15, 1⟩, ⟨0x4C1, 0x4CD, 1, 2⟩,
  ⟨0x4D0, 0x52E, 1, 2⟩, ⟨0x531, 0x556, 48, 1⟩, ⟨0xF0C, 0xF0C, (-1), 1⟩,
  ⟨0x10A0, 0x10C5, 7264, 1⟩, ⟨0x10C7, 0x10C7, 7264, 1⟩, ⟨0x10CD, 0x10CD, 7264, 1⟩,
  ⟨0x10FC, 0x10FC, (-32), 1⟩, ⟨0x13F8, 0x13FD, (-8), 1⟩, ⟨0x1C80, 0x1C80, (-6222), 1⟩,
  ⟨0x1C81, 0x1C81, (-6221), 1⟩, ⟨0x1C82, 0x1C82, (-6212), 1⟩, ⟨0x1C83, 0x1C84, (-6210), 1⟩,
  ⟨0x1C85, 0x1C85, (-6211), 1⟩, ⟨0x1C86, 0x1C86, (-6204), 1⟩, ⟨0x1C87, 0x1C87, (-6180), 1⟩,
  ⟨0x1C88, 0x1C88, 35267, 1⟩, ⟨0x1C89, 0x1C89, 1, 1⟩, ⟨0x1C90, 0x1CBA, (-3008), 1⟩,
  ⟨0x1CBD, 0x1CBF, (-3008), 1⟩, ⟨0x1D2C, 0x1D2C, (-7371), 1⟩, ⟨0x1D2D, 0x1D2D, (-7239), 1⟩,
  ⟨0x1D2E, 0x1D30, (-7372), 2⟩, ⟨0x1D31, 0x1D31, (-7372), 1⟩, ⟨0x1D32, 0x1D32, (-6997), 1⟩,
  ⟨0x1D33, 0x1D3A, (-7372), 1⟩, ⟨0x1D3C, 0x1D3C, (-7373), 1⟩, ⟨0x1D3D, 0x1D3D, (-6938), 1⟩,
  ⟨0x1D3E, 0x1D3E, (-7374), 1⟩, ⟨0x1D3F, 0x1D3F, (-7373), 1⟩, ⟨0x1D40, 0x1D41, (-7372), 1⟩,
  ⟨0x1D42, 0x1D42, (-7371), 1⟩, ⟨0x1D43, 0x1D43, (-7394), 1⟩, ⟨0x1D44, 0x1D45, (-6900), 1⟩,
  ⟨0x1D46, 0x1D46, (-68), 1⟩, ⟨0x1D47, 0x1D47, (-7397), 1⟩, ⟨0x1D48, 0x1D49, (-7396), 1⟩,
  ⟨0x1D4A, 0x1D4A, (-6897), 1⟩, ⟨0x1D4B, 0x1D4C, (-6896), 1⟩, ⟨0x1D4D, 0x1D4D, (-7398), 1⟩,
  ⟨0x1D4F, 0x1D4F, (-7396), 1⟩, ⟨0x1D50, 0x1D50, (-7395), 1⟩, ⟨0x1D51, 0x1D51, (-7174), 1⟩,
  ⟨0x1D52, 0x1D52, (-7395), 1⟩, ⟨0x1D53, 0x1D53, (-6911), 1⟩, ⟨0x1D54, 0x1D55, (-62), 1⟩,
  ⟨0x1D56, 0x1D56, (-7398), 1⟩, ⟨0x1D57, 0x1D58, (-7395), 1⟩, ⟨0x1D59, 0x1D59, (-60), 1⟩,
  ⟨0x1D5A, 0x1D5A, (-6891), 1⟩, ⟨0x1D5B, 0x1D5B, (-7397), 1⟩, ⟨0x1D5C, 0x1D5C, (-55), 1⟩,
  ⟨0x1D5D, 0x1D5F, (-6571), 1⟩, ⟨0x1D60, 0x1D61, (-6554), 1⟩, ⟨0x1D62, 0x1D62, (-7417), 1⟩,
  ⟨0x1D63, 0x1D63, (-7409), 1⟩, ⟨0x1D64, 0x1D65, (-7407), 1⟩, ⟨0x1D66, 0x1D67, (-6580), 1⟩,
  ⟨0x1D68, 0x1D68, (-6567), 1⟩, ⟨0x1D69, 0x1D6A, (-6563), 1⟩, ⟨0x1D78, 0x1D78, (-6459), 1⟩,
  ⟨0x1D9B, 0x1D9B, (-6985), 1⟩, ⟨0x1D9C, 0x1D9C, (-7481), 1⟩, ⟨0x1D9D, 0x1D9D, (-6984), 1⟩,
  ⟨0x1D9E, 0x1D9E, (-7342), 1⟩, ⟨0x1D9F, 0x1D9F, (-6979), 1⟩, ⟨0x1DA0, 0x1DA0, (-7482), 1⟩,
  ⟨0x1DA1, 0x1DA1, (-6978), 1⟩, ⟨0x1DA2, 0x1DA2, (-6977), 1⟩, ⟨0x1DA3, 0x1DA3, (-6974), 1⟩,
  ⟨0x1DA4, 0x1DA6, (-6972), 1⟩, ⟨0x1DA7, 0x1DA7, (-44), 1⟩, ⟨0x1DA8, 0x1DA8, (-6923), 1⟩,
  ⟨0x1DA9, 0x1DA9, (-6972), 1⟩, ⟨0x1DAA, 0x1DAA, (-37), 1⟩, ⟨0x1DAB, 0x1DAB, (-6924), 1⟩,
  ⟨0x1DAC, 0x1DAC, (-6971), 1⟩, ⟨0x1DAD, 0x1DAD, (-6973), 1⟩, ⟨0x1DAE, 0x1DB1, (-6972), 1⟩,
  ⟨0x1DB2, 0x1DB2, (-6970), 1⟩, ⟨0x1DB3, 0x1DB4, (-6961), 1⟩, ⟨0x1DB5, 0x1DB5, (-7178), 1⟩,
  ⟨0x1DB6, 0x1DB7, (-6957), 1⟩, ⟨0x1DB8, 0x1DB8, (-156), 1⟩, ⟨0x1DB9, 0x1DBA, (-6958), 1⟩,
  ⟨0x1DBB, 0x1DBB, (-7489), 1⟩, ⟨0x1DBC, 0x1DBE, (-6956), 1⟩, ⟨0x1DBF, 0x1DBF, (-6663), 1⟩,
  ⟨0x1E00, 0x1E94, 1, 2⟩, ⟨0x1E9B, 0x1E9B, (-58), 1⟩, ⟨0x1E9E, 0x1E9E, (-7615), 1⟩,
  ⟨0x1EA0, 0x1EFE, 1, 2⟩, ⟨0x1F08, 0x1F0F, (-8), 1⟩, ⟨0x1F18, 0x1F1D, (-8), 1⟩,
  ⟨0x1F28, 0x1F2F, (-8), 1⟩, ⟨0x1F38, 0x1F3F, (-8), 1⟩, ⟨0x1F48, 0x1F4D, (-8), 1⟩,
  ⟨0x1F59, 0x1F5F, (-8), 2⟩, ⟨0x1F68, 0x1F6F, (-8), 1⟩, ⟨0x1F71, 0x1F71, (-7109), 1⟩,
  ⟨0x1F73, 0x1F73, (-7110), 1⟩, ⟨0x1F75, 0x1F75, (-7111), 1⟩, ⟨0x1F77, 0x1F77, (-7112), 1⟩,
  ⟨0x1F79, 0x1F79, (-7085), 1⟩, ⟨0x1F7B, 0x1F7B, (-7086), 1⟩, ⟨0x1F7D, 0x1F7D, (-7087), 1⟩,
  ⟨0x1FB8, 0x1FB9, (-8), 1⟩, ⟨0x1FBA, 0x1FBA, (-74), 1⟩, ⟨0x1FBB, 0x1FBB, (-7183), 1⟩,
  ⟨0x1FBE, 0x1FBE, (-7173), 1⟩, ⟨0x1FC8, 0x1FC8, (-86), 1⟩, ⟨0x1FC9, 0x1FC9, (-7196), 1⟩,
  ⟨0x1FCA, 0x1FCA, (-86), 1⟩, ⟨0x1FCB, 0x1FCB, (-7197), 1⟩, ⟨0x1FD3, 0x1FD3, (-7235), 1⟩,
  ⟨0x1FD8, 0x1FD9, (-8), 1⟩, ⟨0x1FDA, 0x1FDA, (-100), 1⟩, ⟨0x1FDB, 0x1FDB, (-7212), 1⟩,
  ⟨0x1FE3, 0x1FE3, (-7219), 1⟩, ⟨0x1FE8, 0x1FE9, (-8), 1⟩, ⟨0x1FEA, 0x1FEA, (-112), 1⟩,
  ⟨0x1FEB, 0x1FEB, (-7198), 1⟩, ⟨0x1FEC, 0x1FEC, (-7), 1⟩, ⟨0x1FEF, 0x1FEF, (-8079), 1⟩,
  ⟨0x1FF8, 0x1FF8, (-128), 1⟩, ⟨0x1FF9, 0x1FF9, (-7213), 1⟩, ⟨0x1FFA, 0x1FFA, (-126), 1⟩,
  ⟨0x1FFB, 0x1FFB, (-7213), 1⟩, ⟨0x2000, 0x2000, (-8160), 1⟩, ⟨0x2001, 0x2001, (-8161), 1⟩,
  ⟨0x2002, 0x2002, (-8162), 1⟩, ⟨0x2003, 0x2003, (-8163), 1⟩, ⟨0x2004, 0x2004, (-8164), 1⟩,
  ⟨0x2005, 0x2005, (-8165), 1⟩, ⟨0x2006, 0x2006, (-8166), 1⟩, ⟨0x2007, 0x2007, (-8167), 1⟩,
  ⟨0x2008, 0x2008, (-8168), 1⟩, ⟨0x2009, 0x2009, (-8169), 1⟩, ⟨0x200A, 0x200A, (-8170), 1⟩,
  ⟨0x2011, 0x2011, (-1), 1⟩, ⟨0x202F, 0x202F, (-8207), 1⟩, ⟨0x205F, 0x205F, (-8255), 1⟩,
  ⟨0x2070, 0x2070, (-8256), 1⟩, ⟨0x2071, 0x2071, (-8200), 1⟩, ⟨0x2074, 0x2079, (-8256), 1⟩,
  ⟨0x207A, 0x207A, (-8271), 1⟩, ⟨0x207B, 0x207B, 407, 1⟩, ⟨0x207C, 0x207C, (-8255), 1⟩,
  ⟨0x207D, 0x207E, (-8277), 1⟩, ⟨0x207F, 0x207F, (-8209), 1⟩, ⟨0x2080, 0x2089, (-8272), 1⟩,
  ⟨0x208A, 0x208A, (-8287), 1⟩, ⟨0x208B, 0x208B, 391, 1⟩, ⟨0x208C, 0x208C, (-8271), 1⟩,
  ⟨0x208D, 0x208E, (-8293), 1⟩, ⟨0x2090, 0x2090, (-8239), 1⟩, ⟨0x2091, 0x2091, (-8236), 1⟩,
  ⟨0x2092, 0x2092, (-8227), 1⟩, ⟨0x2093, 0x2093, (-8219), 1⟩, ⟨0x2094, 0x2094, (-7739), 1⟩,
  ⟨0x2095, 0x2095, (-8237), 1⟩, ⟨0x2096, 0x2099, (-8235), 1⟩, ⟨0x209A, 0x209A, (-8234), 1⟩,
  ⟨0x209B, 0x209C, (-8232), 1⟩, ⟨0x2102, 0x2102, (-8351), 1⟩, ⟨0x2107, 0x2107, (-7852), 1⟩,
  ⟨0x210A, 0x210B, (-8355), 1⟩, ⟨0x210C, 0x210C, (-8356), 1⟩, ⟨0x210D, 0x210D, (-8357), 1⟩,
  ⟨0x210E, 0x210E, (-8358), 1⟩, ⟨0x210F, 0x210F, (-8168), 1⟩, ⟨0x2110, 0x2110, (-8359), 1⟩,
  ⟨0x2111, 0x2111, (-8360), 1⟩, ⟨0x2112, 0x2112, (-8358), 1⟩, ⟨0x2113, 0x2115, (-8359), 2⟩,
  ⟨0x2119, 0x211B, (-8361), 1⟩, ⟨0x211C, 0x211C, (-8362), 1⟩, ⟨0x211D, 0x211D, (-8363), 1⟩,
  ⟨0x2124, 0x2124, (-8362), 1⟩, ⟨0x2126, 0x2126, (-7517), 1⟩, ⟨0x2128, 0x2128, (-8366), 1⟩,
  ⟨0x212A, 0x212A, (-8383), 1⟩, ⟨0x212B, 0x212B, (-8262), 1⟩, ⟨0x212C, 0x212D, (-8394), 1⟩,
  ⟨0x212F, 0x212F, (-8394), 1⟩, ⟨0x2130, 0x2131, (-8395), 1⟩, ⟨0x2132, 0x2132, 28, 1⟩,
  ⟨0x2133, 0x2133, (-8390), 1⟩, ⟨0x2134, 0x2134, (-8389), 1⟩, ⟨0x2135, 0x2138, (-7013), 1⟩,
  ⟨0x2139, 0x2139, (-8400), 1⟩, ⟨0x213C, 0x213C, (-7548), 1⟩, ⟨0x213D, 0x213D, (-7562), 1⟩,
  ⟨0x213E, 0x213E, (-7563), 1⟩, ⟨0x213F, 0x213F, (-7551), 1⟩, ⟨0x2140, 0x2140, 209, 1⟩,
  ⟨0x2145, 0x2145, (-8417), 1⟩, ⟨0x2146, 0x2147, (-8418), 1⟩, ⟨0x2148, 0x2149, (-8415), 1⟩,
  ⟨0x2160, 0x2160, (-8439), 1⟩, ⟨0x2164, 0x2164, (-8430), 1⟩, ⟨0x2169, 0x2169, (-8433), 1⟩,
  ⟨0x216C, 0x216C, (-8448), 1⟩, ⟨0x216D, 0x216E, (-8458), 1⟩, ⟨0x216F, 0x216F, (-8450), 1⟩,
  ⟨0x2170, 0x2170, (-8455), 1⟩, ⟨0x2174, 0x2174, (-8446), 1⟩, ⟨0x2179, 0x2179, (-8449), 1⟩,
  ⟨0x217C, 0x217C, (-8464), 1⟩, ⟨0x217D, 0x217E, (-8474), 1⟩, ⟨0x217F, 0x217F, (-8466), 1⟩,
  ⟨0x2183, 0x2183, 1, 1⟩, ⟨0x2329, 0x232A, 3295, 1⟩, ⟨0x2460, 0x2468, (-9263), 1⟩,
  ⟨0x24B6, 0x24CF, (-9301), 1⟩, ⟨0x24D0, 0x24E9, (-9327), 1⟩, ⟨0x24EA, 0x24EA, (-9402), 1⟩,
  ⟨0x2C00, 0x2C2F, 48, 1⟩, ⟨0x2C60, 0x2C60, 1, 1⟩, ⟨0x2C62, 0x2C62, (-10743), 1⟩,
  ⟨0x2C63, 0x2C63, (-3814), 1⟩, ⟨0x2C64, 0x2C64, (-10727), 1⟩, ⟨0x2C67, 0x2C6B, 1, 2⟩,
  ⟨0x2C6D, 0x2C6D, (-10780), 1⟩, ⟨0x2C6E, 0x2C6E, (-10749), 1⟩, ⟨0x2C6F, 0x2C6F, (-10783), 1⟩,
  ⟨0x2C70, 0x2C70, (-10782), 1⟩, ⟨0x2C72, 0x2C72, 1, 1⟩, ⟨0x2C75, 0x2C75, 1, 1⟩,
  ⟨0x2C7C, 0x2C7C, (-11282), 1⟩, ⟨0x2C7D, 0x2C7D, (-11271), 1⟩, ⟨0x2C7E, 0x2C7F, (-10815), 1⟩,
  ⟨0x2C80, 0x2CE2, 1, 2⟩, ⟨0x2CEB, 0x2CED, 1, 2⟩, ⟨0x2CF2, 0x2CF2, 1, 1⟩,
  ⟨0x2D6F, 0x2D6F, (-14), 1⟩, ⟨0x2E9F, 0x2E9F, 15662, 1⟩, ⟨0x2EF3, 0x2EF3, 28844, 1⟩,
  ⟨0x2F00, 0x2F00, 7936, 1⟩, ⟨0x2F01, 0x2F01, 7975, 1⟩, ⟨0x2F02, 0x2F02, 7988, 1⟩,
  ⟨0x2F03, 0x2F03, 7996, 1⟩, ⟨0x2F04, 0x2F04, 8021, 1⟩, ⟨0x2F05, 0x2F05, 8064, 1⟩
]

/-- The mapping runs from U+2F06 on. -/
def idnaShiftRunsFrom2F06 : List ShiftRun := [
  ⟨0x2F06, 0x2F06, 8070, 1⟩, ⟨0x2F07, 0x2F07, 8089, 1⟩, ⟨0x2F08, 0x2F08, 8114, 1⟩,
  ⟨0x2F09, 0x2F09, 8758, 1⟩, ⟨0x2F0A, 0x2F0A, 8795, 1⟩, ⟨0x2F0B, 0x2F0B, 8800, 1⟩,
  ⟨0x2F0C, 0x2F0C, 8822, 1⟩, ⟨0x2F0D, 0x2F0D, 8841, 1⟩, ⟨0x2F0E, 0x2F0E, 8861, 1⟩,
  ⟨0x2F0F, 0x2F0F, 8913, 1⟩, ⟨0x2F10, 0x2F10, 8933, 1⟩, ⟨0x2F11, 0x2F11, 8943, 1⟩,
  ⟨0x2F12, 0x2F12, 9097, 1⟩, ⟨0x2F13, 0x2F13, 9190, 1⟩, ⟨0x2F14, 0x2F14, 9217, 1⟩,
  ⟨0x2F15, 0x2F15, 9221, 1⟩, ⟨0x2F16, 0x2F16, 9250, 1⟩, ⟨0x2F17, 0x2F17, 9258, 1⟩,
  ⟨0x2F18, 0x2F18, 9284, 1⟩, ⟨0x2F19, 0x2F19, 9296, 1⟩, ⟨0x2F1A, 0x2F1A, 9320, 1⟩,
  ⟨0x2F1B, 0x2F1B, 9371, 1⟩, ⟨0x2F1C, 0x2F1C, 9388, 1⟩, ⟨0x2F1D, 0x2F1D, 9414, 1⟩,
  ⟨0x2F1E, 0x2F1E, 10169, 1⟩, ⟨0x2F1F, 0x2F1F, 10240, 1⟩, ⟨0x2F20, 0x2F20, 10699, 1⟩,
  ⟨0x2F21, 0x2F21, 10721, 1⟩, ⟨0x2F22, 0x2F22, 10728, 1⟩, ⟨0x2F23, 0x2F23, 10738, 1⟩,
  ⟨0x2F24, 0x2F24, 10755, 1⟩, ⟨0x2F25, 0x2F25, 10830, 1⟩, ⟨0x2F26, 0x2F26, 11306, 1⟩,
  ⟨0x2F27, 0x2F27, 11353, 1⟩, ⟨0x2F28, 0x2F28, 11472, 1⟩, ⟨0x2F29, 0x2F29, 11494, 1⟩,
  ⟨0x2F2A, 0x2F2A, 11512, 1⟩, ⟨0x2F2B, 0x2F2B, 11533, 1⟩, ⟨0x2F2C, 0x2F2C, 11586, 1⟩,
  ⟨0x2F2D, 0x2F2D, 11588, 1⟩, ⟨0x2F2E, 0x2F2E, 11949, 1⟩, ⟨0x2F2F, 0x2F2F, 11958, 1⟩,
  ⟨0x2F30, 0x2F30, 11969, 1⟩, ⟨0x2F31, 0x2F31, 11981, 1⟩, ⟨0x2F32, 0x2F32, 12096, 1⟩,
  ⟨0x2F33, 0x2F33, 12103, 1⟩, ⟨0x2F34, 0x2F34, 12107, 1⟩, ⟨0x2F35, 0x2F35, 12223, 1⟩,
  ⟨0x2F36, 0x2F36, 12232, 1⟩, ⟨0x2F37, 0x2F37, 12244, 1⟩, ⟨0x2F38, 0x2F38, 12251, 1⟩,
  ⟨0x2F39, 0x2F39, 12311, 1⟩, ⟨0x2F3A, 0x2F3A, 12327, 1⟩, ⟨0x2F3B, 0x2F3B, 12344, 1⟩,
  ⟨0x2F3C, 0x2F3C, 12423, 1⟩, ⟨0x2F3D, 0x2F3D, 13003, 1⟩, ⟨0x2F3E, 0x2F3E, 13048, 1⟩,
  ⟨0x2F3F, 0x2F3F, 13068, 1⟩, ⟨0x2F40, 0x2F40, 13807, 1⟩, ⟨0x2F41, 0x2F41, 13811, 1⟩,
  ⟨0x2F42, 0x2F42, 13893, 1⟩, ⟨0x2F43, 0x2F43, 13908, 1⟩, ⟨0x2F44, 0x2F44, 13920, 1⟩,
  ⟨0x2F45, 0x2F45, 13940, 1⟩, ⟨0x2F46, 0x2F46, 13978, 1⟩, ⟨0x2F47, 0x2F47, 13982, 1⟩,
  ⟨0x2F48, 0x2F48, 14248, 1⟩, ⟨0x2F49, 0x2F49, 14271, 1⟩, ⟨0x2F4A, 0x2F4A, 14302, 1⟩,
  ⟨0x2F4B, 0x2F4B, 15317, 1⟩, ⟨0x2F4C, 0x2F4C, 15382, 1⟩, ⟨0x2F4D, 0x2F4D, 15404, 1⟩,
  ⟨0x2F4E, 0x2F4E, 15461, 1⟩, ⟨0x2F4F, 0x2F4F, 15484, 1⟩, ⟨0x2F50, 0x2F50, 15492, 1⟩,
  ⟨0x2F51, 0x2F51, 15498, 1⟩, ⟨0x2F52, 0x2F52, 15549, 1⟩, ⟨0x2F53, 0x2F53, 15553, 1⟩,
  ⟨0x2F54, 0x2F54, 15584, 1⟩, ⟨0x2F55, 0x2F55, 16662, 1⟩, ⟨0x2F56, 0x2F56, 17108, 1⟩,
  ⟨0x2F57, 0x2F57, 17119, 1⟩, ⟨0x2F58, 0x2F58, 17123, 1⟩, ⟨0x2F59, 0x2F59, 17126, 1⟩,
  ⟨0x2F5A, 0x2F5A, 17133, 1⟩, ⟨0x2F5B, 0x2F5B, 17150, 1⟩, ⟨0x2F5C, 0x2F5C, 17151, 1⟩,
  ⟨0x2F5D, 0x2F5D, 17231, 1⟩, ⟨0x2F5E, 0x2F5E, 17446, 1⟩, ⟨0x2F5F, 0x2F5F, 17450, 1⟩,
  ⟨0x2F60, 0x2F60, 17788, 1⟩, ⟨0x2F61, 0x2F61, 17797, 1⟩, ⟨0x2F62, 0x2F62, 17846, 1⟩,
  ⟨0x2F63, 0x2F63, 17852, 1⟩, ⟨0x2F64, 0x2F64, 17860, 1⟩, ⟨0x2F65, 0x2F65, 17867, 1⟩,
  ⟨0x2F66, 0x2F66, 17957, 1⟩, ⟨0x2F67, 0x2F67, 17963, 1⟩, ⟨0x2F68, 0x2F68, 18190, 1⟩,
  ⟨0x2F69, 0x2F69, 18196, 1⟩, ⟨0x2F6A, 0x2F6A, 18244, 1⟩, ⟨0x2F6B, 0x2F6B, 18260, 1⟩,
  ⟨0x2F6C, 0x2F6C, 18306, 1⟩, ⟨0x2F6D, 0x2F6D, 18542, 1⟩, ⟨0x2F6E, 0x2F6E, 18548, 1⟩,
  ⟨0x2F6F, 0x2F6F, 18564, 1⟩, ⟨0x2F70, 0x2F70, 18890, 1⟩, ⟨0x2F71, 0x2F71, 19015, 1⟩,
  ⟨0x2F72, 0x2F72, 19020, 1⟩, ⟨0x2F73, 0x2F73, 19201, 1⟩, ⟨0x2F74, 0x2F74, 19287, 1⟩,
  ⟨0x2F75, 0x2F75, 19332, 1⟩, ⟨0x2F76, 0x2F76, 19709, 1⟩, ⟨0x2F77, 0x2F77, 19841, 1⟩,
  ⟨0x2F78, 0x2F78, 20414, 1⟩, ⟨0x2F79, 0x2F79, 20440, 1⟩, ⟨0x2F7A, 0x2F7A, 20496, 1⟩,
  ⟨0x2F7B, 0x2F7B, 20546, 1⟩, ⟨0x2F7C, 0x2F7C, 20613, 1⟩, ⟨0x2F7D, 0x2F7D, 20623, 1⟩,
  ⟨0x2F7E, 0x2F7E, 20628, 1⟩, ⟨0x2F7F, 0x2F7F, 20660, 1⟩, ⟨0x2F80, 0x2F80, 20735, 1⟩,
  ⟨0x2F81, 0x2F81, 20744, 1⟩, ⟨0x2F82, 0x2F82, 21089, 1⟩, ⟨0x2F83, 0x2F83, 21095, 1⟩,
  ⟨0x2F84, 0x2F84, 21103, 1⟩, ⟨0x2F85, 0x2F85, 21111, 1⟩, ⟨0x2F86, 0x2F86, 21126, 1⟩,
  ⟨0x2F87, 0x2F87, 21140, 1⟩, ⟨0x2F88, 0x2F88, 21143, 1⟩, ⟨0x2F89, 0x2F89, 21221, 1⟩,
  ⟨0x2F8A, 0x2F8A, 21224, 1⟩, ⟨0x2F8B, 0x2F8B, 21229, 1⟩, ⟨0x2F8C, 0x2F8C, 22209, 1⟩,
  ⟨0x2F8D, 0x2F8D, 22238, 1⟩, ⟨0x2F8E, 0x2F8E, 22706, 1⟩, ⟨0x2F8F, 0x2F8F, 22717, 1⟩,
  ⟨0x2F90, 0x2F90, 22739, 1⟩, ⟨0x2F91, 0x2F91, 23021, 1⟩, ⟨0x2F92, 0x2F92, 23033, 1⟩,
  ⟨0x2F93, 0x2F93, 23103, 1⟩, ⟨0x2F94, 0x2F94, 23148, 1⟩, ⟨0x2F95, 0x2F95, 23714, 1⟩,
  ⟨0x2F96, 0x2F96, 23728, 1⟩, ⟨0x2F97, 0x2F97, 23742, 1⟩, ⟨0x2F98, 0x2F98, 23776, 1⟩,
  ⟨0x2F99, 0x2F99, 23812, 1⟩, ⟨0x2F9A, 0x2F9A, 24010, 1⟩, ⟨0x2F9B, 0x2F9B, 24021, 1⟩,
  ⟨0x2F9C, 0x2F9C, 24087, 1⟩, ⟨0x2F9D, 0x2F9D, 24334, 1⟩, ⟨0x2F9E, 0x2F9E, 24364, 1⟩,
  ⟨0x2F9F, 0x2F9F, 24572, 1⟩, ⟨0x2FA0, 0x2FA0, 24592, 1⟩, ⟨0x2FA1, 0x2FA1, 24596, 1⟩,
  ⟨0x2FA2, 0x2FA2, 24815, 1⟩, ⟨0x2FA3, 0x2FA3, 24998, 1⟩, ⟨0x2FA4, 0x2FA4, 25122, 1⟩,
  ⟨0x2FA5, 0x2FA5, 25127, 1⟩, ⟨0x2FA6, 0x2FA6, 25131, 1⟩, ⟨0x2FA7, 0x2FA7, 26064, 1⟩,
  ⟨0x2FA8, 0x2FA8, 26072, 1⟩, ⟨0x2FA9, 0x2FA9, 26227, 1⟩, ⟨0x2FAA, 0x2FAA, 26380, 1⟩,
  ⟨0x2FAB, 0x2FAB, 26382, 1⟩, ⟨0x2FAC, 0x2FAC, 26428, 1⟩, ⟨0x2FAD, 0x2FAD, 26532, 1⟩,
  ⟨0x2FAE, 0x2FAE, 26544, 1⟩, ⟨0x2FAF, 0x2FAF, 26547, 1⟩, ⟨0x2FB0, 0x2FB0, 26553, 1⟩,
  ⟨0x2FB1, 0x2FB1, 26650, 1⟩, ⟨0x2FB2, 0x2FB2, 26683, 1⟩, ⟨0x2FB3, 0x2FB3, 26688, 1⟩,
  ⟨0x2FB4, 0x2FB4, 26701, 1⟩, ⟨0x2FB5, 0x2FB5, 26867, 1⟩, ⟨0x2FB6, 0x2FB6, 26917, 1⟩,
  ⟨0x2FB7, 0x2FB7, 26920, 1⟩, ⟨0x2FB8, 0x2FB8, 27102, 1⟩, ⟨0x2FB9, 0x2FB9, 27104, 1⟩,
  ⟨0x2FBA, 0x2FBA, 27122, 1⟩, ⟨0x2FBB, 0x2FBB, 27373, 1⟩, ⟨0x2FBC, 0x2FBC, 27420, 1⟩,
  ⟨0x2FBD, 0x2FBD, 27426, 1⟩, ⟨0x2FBE, 0x2FBE, 27495, 1⟩, ⟨0x2FBF, 0x2FBF, 27504, 1⟩,
  ⟨0x2FC0, 0x2FC0, 27506, 1⟩, ⟨0x2FC1, 0x2FC1, 27515, 1⟩, ⟨0x2FC2, 0x2FC2, 27544, 1⟩,
  ⟨0x2FC3, 0x2FC3, 27938, 1⟩, ⟨0x2FC4, 0x2FC4, 28337, 1⟩, ⟨0x2FC5, 0x2FC5, 28346, 1⟩,
  ⟨0x2FC6, 0x2FC6, 28383, 1⟩, ⟨0x2FC7, 0x2FC7, 28404, 1⟩, ⟨0x2FC8, 0x2FC8, 28411, 1⟩,
  ⟨0x2FC9, 0x2FC9, 28420, 1⟩, ⟨0x2FCA, 0x2FCA, 28423, 1⟩, ⟨0x2FCB, 0x2FCB, 28462, 1⟩,
  ⟨0x2FCC, 0x2FCC, 28465, 1⟩, ⟨0x2FCD, 0x2FCD, 28481, 1⟩, ⟨0x2FCE, 0x2FCE, 28485, 1⟩,
  ⟨0x2FCF, 0x2FCF, 28497, 1⟩, ⟨0x2FD0, 0x2FD0, 28523, 1⟩, ⟨0x2FD1, 0x2FD1, 28537, 1⟩,
  ⟨0x2FD2, 0x2FD2, 28544, 1⟩, ⟨0x2FD3, 0x2FD3, 28602, 1⟩, ⟨0x2FD4, 0x2FD4, 28616, 1⟩,
  ⟨0x2FD5, 0x2FD5, 28619, 1⟩, ⟨0x3000, 0x3000, (-12256), 1⟩, ⟨0x3002, 0x3002, (-12244), 1⟩,
  ⟨0x3036, 0x3036, (-36), 1⟩, ⟨0x3038, 0x3038, 8969, 1⟩, ⟨0x3039, 0x303A, 8971, 1⟩,
  ⟨0x3131, 0x3132, (-8241), 1⟩, ⟨0x3133, 0x3133, (-8073), 1⟩, ⟨0x3134, 0x3134, (-8242), 1⟩,
  ⟨0x3135, 0x3136, (-8073), 1⟩, ⟨0x3137, 0x3139, (-8244), 1⟩, ⟨0x313A, 0x313F, (-8074), 1⟩,
  ⟨0x3140, 0x3140, (-8230), 1⟩, ⟨0x3141, 0x3143, (-8251), 1⟩, ⟨0x3144, 0x3144, (-8227), 1⟩,
  ⟨0x3145, 0x314E, (-8252), 1⟩, ⟨0x314F, 0x3163, (-8174), 1⟩, ⟨0x3165, 0x3166, (-8273), 1⟩,
  ⟨0x3167, 0x3168, (-8096), 1⟩, ⟨0x3169, 0x3169, (-8093), 1⟩, ⟨0x316A, 0x316A, (-8092), 1⟩,
  ⟨0x316B, 0x316B, (-8088), 1⟩, ⟨0x316C, 0x316C, (-8085), 1⟩, ⟨0x316D, 0x316D, (-8084), 1⟩,
  ⟨0x316E, 0x316E, (-8274), 1⟩, ⟨0x316F, 0x316F, (-8082), 1⟩, ⟨0x3170, 0x3170, (-8081), 1⟩,
  ⟨0x3171, 0x3172, (-8276), 1⟩, ⟨0x3173, 0x3173, (-8275), 1⟩, ⟨0x3174, 0x3175, (-8274), 1⟩,
  ⟨0x3176, 0x3176, (-8271), 1⟩, ⟨0x3177, 0x3177, (-8270), 1⟩, ⟨0x3178, 0x317C, (-8269), 1⟩,
  ⟨0x317D, 0x317D, (-8267), 1⟩, ⟨0x317E, 0x317E, (-8264), 1⟩, ⟨0x317F, 0x317F, (-8255), 1⟩,
  ⟨0x3180, 0x3180, (-8249), 1⟩, ⟨0x3181, 0x3181, (-8245), 1⟩, ⟨0x3182, 0x3183, (-8081), 1⟩,
  ⟨0x3184, 0x3186, (-8237), 1⟩, ⟨0x3187, 0x3188, (-8195), 1⟩, ⟨0x3189, 0x3189, (-8193), 1⟩,
  ⟨0x318A, 0x318B, (-8185), 1⟩, ⟨0x318C, 0x318C, (-8184), 1⟩, ⟨0x318D, 0x318D, (-8175), 1⟩,
  ⟨0x318E, 0x318E, (-8173), 1⟩, ⟨0x3192, 0x3192, 7278, 1⟩, ⟨0x3193, 0x3193, 7417, 1⟩,
  ⟨0x3194, 0x3194, 7285, 1⟩, ⟨0x3195, 0x3195, 9542, 1⟩, ⟨0x3196, 0x3196, 7284, 1⟩,
  ⟨0x3197, 0x3197, 7318, 1⟩, ⟨0x3198, 0x3198, 7283, 1⟩, ⟨0x3199, 0x3199, 17305, 1⟩,
  ⟨0x319A, 0x319A, 7359, 1⟩, ⟨0x319B, 0x319B, 7294, 1⟩, ⟨0x319C, 0x319C, 7269, 1⟩,
  ⟨0x319D, 0x319D, 10124, 1⟩, ⟨0x319E, 0x319E, 9618, 1⟩, ⟨0x319F, 0x319F, 7451, 1⟩,
  ⟨0x3244, 0x3244, 8971, 1⟩, ⟨0x3245, 0x3245, 11319, 1⟩, ⟨0x3246, 0x3246, 13121, 1⟩,
  ⟨0x3247, 0x3247, 18760, 1⟩, ⟨0x3260, 0x3260, (-8544), 1⟩, ⟨0x3261, 0x3262, (-8543), 1⟩,
  ⟨0x3263, 0x3265, (-8542), 1⟩, ⟨0x3266, 0x3266, (-8541), 1⟩, ⟨0x3267, 0x3268, (-8540), 1⟩,
  ⟨0x3269, 0x326D, (-8539), 1⟩, ⟨0x326E, 0x326E, 31122, 1⟩, ⟨0x326F, 0x326F, 32297, 1⟩,
  ⟨0x3270, 0x3270, 32884, 1⟩, ⟨0x3271, 0x3271, 34059, 1⟩, ⟨0x3272, 0x3272, 34646, 1⟩,
  ⟨0x3273, 0x3273, 35233, 1⟩, ⟨0x3274, 0x3274, 36408, 1⟩, ⟨0x3275, 0x3275, 37583, 1⟩,
  ⟨0x3276, 0x3276, 38170, 1⟩, ⟨0x3277, 0x3277, 39345, 1⟩, ⟨0x3278, 0x3278, 39932, 1⟩,
  ⟨0x3279, 0x3279, 40519, 1⟩, ⟨0x327A, 0x327A, 41106, 1⟩, ⟨0x327B, 0x327B, 41693, 1⟩,
  ⟨0x327E, 0x327E, 37938, 1⟩, ⟨0x3280, 0x3280, 7040, 1⟩, ⟨0x3281, 0x3281, 7179, 1⟩,
  ⟨0x3282, 0x3282, 7047, 1⟩, ⟨0x3283, 0x3283, 9304, 1⟩, ⟨0x3284, 0x3284, 7184, 1⟩,
  ⟨0x3285, 0x3285, 7912, 1⟩, ⟨0x3286, 0x3286, 7037, 1⟩, ⟨0x3287, 0x3287, 7908, 1⟩,
  ⟨0x3288, 0x3288, 7125, 1⟩, ⟨0x3289, 0x3289, 8376, 1⟩, ⟨0x328A, 0x328A, 13438, 1⟩,
  ⟨0x328B, 0x328B, 15840, 1⟩, ⟨0x328C, 0x328C, 14760, 1⟩, ⟨0x328D, 0x328D, 13467, 1⟩,
  ⟨0x328E, 0x328E, 24387, 1⟩, ⟨0x328F, 0x328F, 9360, 1⟩, ⟨0x3290, 0x3290, 13141, 1⟩,
  ⟨0x3291, 0x3291, 13721, 1⟩, ⟨0x3292, 0x3292, 13431, 1⟩, ⟨0x3293, 0x3293, 18091, 1⟩,
  ⟨0x3294, 0x3294, 8569, 1⟩, ⟨0x3295, 0x3295, 16356, 1⟩, ⟨0x3296, 0x3296, 23051, 1⟩,
  ⟨0x3297, 0x3297, 18118, 1⟩, ⟨0x3298, 0x3298, 8220, 1⟩, ⟨0x3299, 0x3299, 18239, 1⟩,
  ⟨0x329A, 0x329A, 17053, 1⟩, ⟨0x329B, 0x329B, 9944, 1⟩, ⟨0x329C, 0x329C, 24013, 1⟩,
  ⟨0x329D, 0x329D, 7821, 1⟩, ⟨0x329E, 0x329E, 8402, 1⟩, ⟨0x329F, 0x329F, 14921, 1⟩,
  ⟨0x32A0, 0x32A0, 25957, 1⟩, ⟨0x32A1, 0x32A1, 7280, 1⟩, ⟨0x32A2, 0x32A2, 7927, 1⟩,
  ⟨0x32A3, 0x32A3, 14528, 1⟩, ⟨0x32A4, 0x32A4, 7014, 1⟩, ⟨0x32A5, 0x32A5, 7048, 1⟩,
  ⟨0x32A6, 0x32A6, 7013, 1⟩, ⟨0x32A7, 0x32A7, 11071, 1⟩, ⟨0x32A8, 0x32A8, 8523, 1⟩,
  ⟨0x32A9, 0x32A9, 8338, 1⟩, ⟨0x32AA, 0x32AA, 10477, 1⟩, ⟨0x32AB, 0x32AB, 10427, 1⟩,
  ⟨0x32AC, 0x32AC, 17463, 1⟩, ⟨0x32AD, 0x32AD, 7252, 1⟩, ⟨0x32AE, 0x32AE, 23065, 1⟩,
  ⟨0x32AF, 0x32AF, 8357, 1⟩, ⟨0x32B0, 0x32B0, 9836, 1⟩, ⟨0x32D0, 0x32D0, (-558), 1⟩,
  ⟨0x32D1, 0x32D1, (-557), 1⟩, ⟨0x32D2, 0x32D2, (-556), 1⟩, ⟨0x32D3, 0x32D3, (-555), 1⟩,
  ⟨0x32D4, 0x32D5, (-554), 1⟩, ⟨0x32D6, 0x32D6, (-553), 1⟩, ⟨0x32D7, 0x32D7, (-552), 1⟩,
  ⟨0x32D8, 0x32D8, (-551), 1⟩, ⟨0x32D9, 0x32D9, (-550), 1⟩, ⟨0x32DA, 0x32DA, (-549), 1⟩,
  ⟨0x32DB, 0x32DB, (-548), 1⟩, ⟨0x32DC, 0x32DC, (-547), 1⟩, ⟨0x32DD, 0x32DD, (-546), 1⟩,
  ⟨0x32DE, 0x32DE, (-545), 1⟩, ⟨0x32DF, 0x32DF, (-544), 1⟩, ⟨0x32E0, 0x32E0, (-543), 1⟩,
  ⟨0x32E1, 0x32E1, (-541), 1⟩, ⟨0x32E2, 0x32E2, (-540), 1⟩, ⟨0x32E3, 0x32E3, (-539), 1⟩
]

/-- The mapping runs from U+32E4 on. -/
def idnaShiftRunsFrom32E4 : List ShiftRun := [
  ⟨0x32E4, 0x32E9, (-538), 1⟩, ⟨0x32EA, 0x32EA, (-536), 1⟩, ⟨0x32EB, 0x32EB, (-534), 1⟩,
  ⟨0x32EC, 0x32EC, (-532), 1⟩, ⟨0x32ED, 0x32ED, (-530), 1⟩, ⟨0x32EE, 0x32F2, (-528), 1⟩,
  ⟨0x32F3, 0x32F3, (-527), 1⟩, ⟨0x32F4, 0x32F4, (-526), 1⟩, ⟨0x32F5, 0x32FA, (-525), 1⟩,
  ⟨0x32FB, 0x32FE, (-524), 1⟩, ⟨0xA640, 0xA66C, 1, 2⟩, ⟨0xA680, 0xA69A, 1, 2⟩,
  ⟨0xA69C, 0xA69C, (-41554), 1⟩, ⟨0xA69D, 0xA69D, (-41553), 1⟩, ⟨0xA722, 0xA72E, 1, 2⟩,
  ⟨0xA732, 0xA76E, 1, 2⟩, ⟨0xA770, 0xA770, (-1), 1⟩, ⟨0xA779, 0xA77B, 1, 2⟩,
  ⟨0xA77D, 0xA77D, (-35332), 1⟩, ⟨0xA77E, 0xA786, 1, 2⟩, ⟨0xA78B, 0xA78B, 1, 1⟩,
  ⟨0xA78D, 0xA78D, (-42280), 1⟩, ⟨0xA790, 0xA792, 1, 2⟩, ⟨0xA796, 0xA7A8, 1, 2⟩,
  ⟨0xA7AA, 0xA7AA, (-42308), 1⟩, ⟨0xA7AB, 0xA7AB, (-42319), 1⟩, ⟨0xA7AC, 0xA7AC, (-42315), 1⟩,
  ⟨0xA7AD, 0xA7AD, (-42305), 1⟩, ⟨0xA7AE, 0xA7AE, (-42308), 1⟩, ⟨0xA7B0, 0xA7B0, (-42258), 1⟩,
  ⟨0xA7B1, 0xA7B1, (-42282), 1⟩, ⟨0xA7B2, 0xA7B2, (-42261), 1⟩, ⟨0xA7B3, 0xA7B3, 928, 1⟩,
  ⟨0xA7B4, 0xA7C2, 1, 2⟩, ⟨0xA7C4, 0xA7C4, (-48), 1⟩, ⟨0xA7C5, 0xA7C5, (-42307), 1⟩,
  ⟨0xA7C6, 0xA7C6, (-35384), 1⟩, ⟨0xA7C7, 0xA7C9, 1, 2⟩, ⟨0xA7CB, 0xA7CB, (-42343), 1⟩,
  ⟨0xA7CC, 0xA7DA, 1, 2⟩, ⟨0xA7DC, 0xA7DC, (-42561), 1⟩, ⟨0xA7F1, 0xA7F1, (-42878), 1⟩,
  ⟨0xA7F2, 0xA7F2, (-42895), 1⟩, ⟨0xA7F3, 0xA7F3, (-42893), 1⟩, ⟨0xA7F4, 0xA7F4, (-42883), 1⟩,
  ⟨0xA7F5, 0xA7F5, 1, 1⟩, ⟨0xA7F8, 0xA7F8, (-42705), 1⟩, ⟨0xA7F9, 0xA7F9, (-42662), 1⟩,
  ⟨0xAB5C, 0xAB5C, (-1077), 1⟩, ⟨0xAB5D, 0xAB5D, (-38), 1⟩, ⟨0xAB5E, 0xAB5E, (-43251), 1⟩,
  ⟨0xAB5F, 0xAB5F, (-13), 1⟩, ⟨0xAB69, 0xAB69, (-43228), 1⟩, ⟨0xAB70, 0xABBF, (-38864), 1⟩,
  ⟨0xF900, 0xF900, (-27832), 1⟩, ⟨0xF901, 0xF901, (-37389), 1⟩, ⟨0xF902, 0xF902, (-27192), 1⟩,
  ⟨0xF903, 0xF903, (-27707), 1⟩, ⟨0xF904, 0xF904, (-35379), 1⟩, ⟨0xF905, 0xF905, (-43731), 1⟩,
  ⟨0xF906, 0xF906, (-42273), 1⟩, ⟨0xF907, 0xF907, (-22891), 1⟩, ⟨0xF908, 0xF908, (-22892), 1⟩,
  ⟨0xF909, 0xF909, (-40888), 1⟩, ⟨0xF90A, 0xF90A, (-26425), 1⟩, ⟨0xF90B, 0xF90B, (-41860), 1⟩,
  ⟨0xF90C, 0xF90C, (-40900), 1⟩, ⟨0xF90D, 0xF90D, (-38679), 1⟩, ⟨0xF90E, 0xF90E, (-33445), 1⟩,
  ⟨0xF90F, 0xF90F, (-31114), 1⟩, ⟨0xF910, 0xF910, (-29393), 1⟩, ⟨0xF911, 0xF911, (-29015), 1⟩,
  ⟨0xF912, 0xF912, (-28698), 1⟩, ⟨0xF913, 0xF913, (-26756), 1⟩, ⟨0xF914, 0xF914, (-36626), 1⟩,
  ⟨0xF915, 0xF915, (-35834), 1⟩, ⟨0xF916, 0xF916, (-34877), 1⟩, ⟨0xF917, 0xF917, (-34105), 1⟩,
  ⟨0xF918, 0xF918, (-29915), 1⟩, ⟨0xF919, 0xF919, (-26543), 1⟩, ⟨0xF91A, 0xF91A, (-24361), 1⟩,
  ⟨0xF91B, 0xF91B, (-43673), 1⟩, ⟨0xF91C, 0xF91C, (-42407), 1⟩, ⟨0xF91D, 0xF91D, (-36377), 1⟩,
  ⟨0xF91E, 0xF91E, (-34563), 1⟩, ⟨0xF91F, 0xF91F, (-29426), 1⟩, ⟨0xF920, 0xF920, (-23298), 1⟩,
  ⟨0xF921, 0xF921, (-39889), 1⟩, ⟨0xF922, 0xF922, (-35127), 1⟩, ⟨0xF923, 0xF923, (-29526), 1⟩,
  ⟨0xF924, 0xF924, (-28608), 1⟩, ⟨0xF925, 0xF925, (-38492), 1⟩, ⟨0xF926, 0xF926, (-30542), 1⟩,
  ⟨0xF927, 0xF927, (-28936), 1⟩, ⟨0xF928, 0xF928, (-39518), 1⟩, ⟨0xF929, 0xF929, (-37394), 1⟩,
  ⟨0xF92A, 0xF92A, (-35776), 1⟩, ⟨0xF92B, 0xF92B, (-34351), 1⟩, ⟨0xF92C, 0xF92C, (-26718), 1⟩,
  ⟨0xF92D, 0xF92D, (-43431), 1⟩, ⟨0xF92E, 0xF92E, (-42871), 1⟩, ⟨0xF92F, 0xF92F, (-42577), 1⟩,
  ⟨0xF930, 0xF930, (-37996), 1⟩, ⟨0xF931, 0xF931, (-36446), 1⟩, ⟨0xF932, 0xF932, (-34594), 1⟩,
  ⟨0xF933, 0xF933, (-33356), 1⟩, ⟨0xF934, 0xF934, (-31027), 1⟩, ⟨0xF935, 0xF935, (-29487), 1⟩,
  ⟨0xF936, 0xF936, (-29402), 1⟩, ⟨0xF937, 0xF937, (-27464), 1⟩, ⟨0xF938, 0xF938, (-25094), 1⟩,
  ⟨0xF939, 0xF939, (-24010), 1⟩, ⟨0xF93A, 0xF93A, (-23360), 1⟩, ⟨0xF93B, 0xF93B, (-32943), 1⟩,
  ⟨0xF93C, 0xF93C, (-32701), 1⟩, ⟨0xF93D, 0xF93D, (-31645), 1⟩, ⟨0xF93E, 0xF93E, (-30069), 1⟩,
  ⟨0xF93F, 0xF93F, (-26171), 1⟩, ⟨0xF940, 0xF940, (-23233), 1⟩, ⟨0xF941, 0xF941, (-28267), 1⟩,
  ⟨0xF942, 0xF942, (-41059), 1⟩, ⟨0xF943, 0xF943, (-39487), 1⟩, ⟨0xF944, 0xF944, (-31972), 1⟩,
  ⟨0xF945, 0xF945, (-30919), 1⟩, ⟨0xF946, 0xF946, (-34532), 1⟩, ⟨0xF947, 0xF947, (-32893), 1⟩,
  ⟨0xF948, 0xF948, (-27782), 1⟩, ⟨0xF949, 0xF949, (-25170), 1⟩, ⟨0xF94A, 0xF94A, (-41074), 1⟩,
  ⟨0xF94B, 0xF94B, (-40169), 1⟩, ⟨0xF94C, 0xF94C, (-36665), 1⟩, ⟨0xF94D, 0xF94D, (-35699), 1⟩,
  ⟨0xF94E, 0xF94E, (-35391), 1⟩, ⟨0xF94F, 0xF94F, (-31776), 1⟩, ⟨0xF950, 0xF950, (-31513), 1⟩,
  ⟨0xF951, 0xF951, (-25350), 1⟩, ⟨0xF952, 0xF952, (-42624), 1⟩, ⟨0xF953, 0xF953, (-30920), 1⟩,
  ⟨0xF954, 0xF954, (-42872), 1⟩, ⟨0xF955, 0xF955, (-42889), 1⟩, ⟨0xF956, 0xF956, (-32570), 1⟩,
  ⟨0xF957, 0xF957, (-31641), 1⟩, ⟨0xF958, 0xF958, (-30055), 1⟩, ⟨0xF959, 0xF959, (-25316), 1⟩,
  ⟨0xF95A, 0xF95A, (-28122), 1⟩, ⟨0xF95B, 0xF95B, (-38540), 1⟩, ⟨0xF95C, 0xF95C, (-36698), 1⟩,
  ⟨0xF95D, 0xF95D, (-28255), 1⟩, ⟨0xF95E, 0xF95E, (-43813), 1⟩, ⟨0xF95F, 0xF95F, (-40312), 1⟩,
  ⟨0xF960, 0xF960, (-39246), 1⟩, ⟨0xF961, 0xF961, (-34266), 1⟩, ⟨0xF962, 0xF962, (-33778), 1⟩,
  ⟨0xF963, 0xF963, (-42572), 1⟩, ⟨0xF964, 0xF964, (-32873), 1⟩, ⟨0xF965, 0xF965, (-43430), 1⟩,
  ⟨0xF966, 0xF966, (-39357), 1⟩, ⟨0xF967, 0xF967, (-43866), 1⟩, ⟨0xF968, 0xF968, (-35996), 1⟩,
  ⟨0xF969, 0xF969, (-37873), 1⟩, ⟨0xF96A, 0xF96A, (-31816), 1⟩, ⟨0xF96B, 0xF96B, (-42408), 1⟩,
  ⟨0xF96C, 0xF96C, (-41230), 1⟩, ⟨0xF96D, 0xF96D, (-33388), 1⟩, ⟨0xF96E, 0xF96E, (-29989), 1⟩,
  ⟨0xF96F, 0xF96F, (-28357), 1⟩, ⟨0xF970, 0xF970, (-36278), 1⟩, ⟨0xF971, 0xF971, (-27073), 1⟩,
  ⟨0xF972, 0xF972, (-36074), 1⟩, ⟨0xF973, 0xF973, (-38517), 1⟩, ⟨0xF974, 0xF974, (-30351), 1⟩,
  ⟨0xF975, 0xF975, (-38357), 1⟩, ⟨0xF976, 0xF976, (-33809), 1⟩, ⟨0xF977, 0xF977, (-43721), 1⟩,
  ⟨0xF978, 0xF978, (-43023), 1⟩, ⟨0xF979, 0xF979, (-42928), 1⟩, ⟨0xF97A, 0xF97A, (-37113), 1⟩,
  ⟨0xF97B, 0xF97B, (-31892), 1⟩, ⟨0xF97C, 0xF97C, (-30477), 1⟩, ⟨0xF97D, 0xF97D, (-28331), 1⟩,
  ⟨0xF97E, 0xF97E, (-26543), 1⟩, ⟨0xF97F, 0xF97F, (-42634), 1⟩, ⟨0xF980, 0xF980, (-42302), 1⟩,
  ⟨0xF981, 0xF981, (-40974), 1⟩, ⟨0xF982, 0xF982, (-39574), 1⟩, ⟨0xF983, 0xF983, (-37822), 1⟩,
  ⟨0xF984, 0xF984, (-35206), 1⟩, ⟨0xF985, 0xF985, (-32859), 1⟩, ⟨0xF986, 0xF986, (-25561), 1⟩,
  ⟨0xF987, 0xF987, (-24349), 1⟩, ⟨0xF988, 0xF988, (-23281), 1⟩, ⟨0xF989, 0xF989, (-23227), 1⟩,
  ⟨0xF98A, 0xF98A, (-42735), 1⟩, ⟨0xF98B, 0xF98B, (-37573), 1⟩, ⟨0xF98C, 0xF98C, (-36373), 1⟩,
  ⟨0xF98D, 0xF98D, (-27179), 1⟩, ⟨0xF98E, 0xF98E, (-39706), 1⟩, ⟨0xF98F, 0xF98F, (-38911), 1⟩,
  ⟨0xF990, 0xF990, (-38800), 1⟩, ⟨0xF991, 0xF991, (-38135), 1⟩, ⟨0xF992, 0xF992, (-35439), 1⟩,
  ⟨0xF993, 0xF993, (-34890), 1⟩, ⟨0xF994, 0xF994, (-34059), 1⟩, ⟨0xF995, 0xF995, (-32715), 1⟩,
  ⟨0xF996, 0xF996, (-31650), 1⟩, ⟨0xF997, 0xF997, (-31016), 1⟩, ⟨0xF998, 0xF998, (-27250), 1⟩,
  ⟨0xF999, 0xF999, (-29867), 1⟩, ⟨0xF99A, 0xF99A, (-26999), 1⟩, ⟨0xF99B, 0xF99B, (-26193), 1⟩,
  ⟨0xF99C, 0xF99C, (-42885), 1⟩, ⟨0xF99D, 0xF99D, (-42746), 1⟩, ⟨0xF99E, 0xF99E, (-42209), 1⟩,
  ⟨0xF99F, 0xF99F, (-35031), 1⟩, ⟨0xF9A0, 0xF9A0, (-28894), 1⟩, ⟨0xF9A1, 0xF9A1, (-28407), 1⟩,
  ⟨0xF9A2, 0xF9A2, (-39641), 1⟩, ⟨0xF9A3, 0xF9A3, (-39342), 1⟩, ⟨0xF9A4, 0xF9A4, (-38441), 1⟩,
  ⟨0xF9A5, 0xF9A5, (-36343), 1⟩, ⟨0xF9A6, 0xF9A6, (-32104), 1⟩, ⟨0xF9A7, 0xF9A7, (-34354), 1⟩,
  ⟨0xF9A8, 0xF9A8, (-43716), 1⟩, ⟨0xF9A9, 0xF9A9, (-41648), 1⟩, ⟨0xF9AA, 0xF9AA, (-40387), 1⟩,
  ⟨0xF9AB, 0xF9AB, (-39921), 1⟩, ⟨0xF9AC, 0xF9AC, (-39312), 1⟩, ⟨0xF9AD, 0xF9AD, (-34299), 1⟩,
  ⟨0xF9AE, 0xF9AE, (-34117), 1⟩, ⟨0xF9AF, 0xF9AF, (-31253), 1⟩, ⟨0xF9B0, 0xF9B0, (-31082), 1⟩,
  ⟨0xF9B1, 0xF9B1, (-26493), 1⟩, ⟨0xF9B2, 0xF9B2, (-25276), 1⟩, ⟨0xF9B3, 0xF9B3, (-25195), 1⟩,
  ⟨0xF9B4, 0xF9B4, (-24988), 1⟩, ⟨0xF9B5, 0xF9B5, (-43562), 1⟩, ⟨0xF9B6, 0xF9B6, (-32776), 1⟩,
  ⟨0xF9B7, 0xF9B7, (-26627), 1⟩, ⟨0xF9B8, 0xF9B8, (-25344), 1⟩, ⟨0xF9B9, 0xF9B9, (-39128), 1⟩,
  ⟨0xF9BA, 0xF9BA, (-43828), 1⟩, ⟨0xF9BB, 0xF9BB, (-43233), 1⟩, ⟨0xF9BC, 0xF9BC, (-40398), 1⟩,
  ⟨0xF9BD, 0xF9BD, (-40318), 1⟩, ⟨0xF9BE, 0xF9BE, (-37925), 1⟩, ⟨0xF9BF, 0xF9BF, (-36797), 1⟩,
  ⟨0xF9C0, 0xF9C0, (-34802), 1⟩, ⟨0xF9C1, 0xF9C1, (-33663), 1⟩, ⟨0xF9C2, 0xF9C2, (-29894), 1⟩,
  ⟨0xF9C3, 0xF9C3, (-26951), 1⟩, ⟨0xF9C4, 0xF9C4, (-23095), 1⟩, ⟨0xF9C5, 0xF9C5, (-37693), 1⟩,
  ⟨0xF9C6, 0xF9C6, (-25496), 1⟩, ⟨0xF9C7, 0xF9C7, (-42814), 1⟩, ⟨0xF9C8, 0xF9C8, (-37453), 1⟩,
  ⟨0xF9C9, 0xF9C9, (-37334), 1⟩, ⟨0xF9CA, 0xF9CA, (-35977), 1⟩, ⟨0xF9CB, 0xF9CB, (-35631), 1⟩,
  ⟨0xF9CC, 0xF9CC, (-34243), 1⟩, ⟨0xF9CD, 0xF9CD, (-33908), 1⟩, ⟨0xF9CE, 0xF9CE, (-33123), 1⟩,
  ⟨0xF9CF, 0xF9CF, (-31935), 1⟩, ⟨0xF9D0, 0xF9D0, (-24946), 1⟩, ⟨0xF9D1, 0xF9D1, (-43108), 1⟩,
  ⟨0xF9D2, 0xF9D2, (-38820), 1⟩, ⟨0xF9D3, 0xF9D3, (-25435), 1⟩, ⟨0xF9D4, 0xF9D4, (-43433), 1⟩,
  ⟨0xF9D5, 0xF9D5, (-40124), 1⟩, ⟨0xF9D6, 0xF9D6, (-35820), 1⟩, ⟨0xF9D7, 0xF9D7, (-27309), 1⟩,
  ⟨0xF9D8, 0xF9D8, (-39501), 1⟩, ⟨0xF9D9, 0xF9D9, (-39061), 1⟩, ⟨0xF9DA, 0xF9DA, (-37315), 1⟩,
  ⟨0xF9DB, 0xF9DB, (-34388), 1⟩, ⟨0xF9DC, 0xF9DC, (-25430), 1⟩, ⟨0xF9DD, 0xF9DD, (-42932), 1⟩,
  ⟨0xF9DE, 0xF9DE, (-42447), 1⟩, ⟨0xF9DF, 0xF9DF, (-40314), 1⟩, ⟨0xF9E0, 0xF9E0, (-37837), 1⟩,
  ⟨0xF9E1, 0xF9E1, (-37523), 1⟩, ⟨0xF9E2, 0xF9E2, (-37178), 1⟩, ⟨0xF9E3, 0xF9E3, (-36094), 1⟩,
  ⟨0xF9E4, 0xF9E4, (-34270), 1⟩, ⟨0xF9E5, 0xF9E5, (-33795), 1⟩, ⟨0xF9E6, 0xF9E6, (-31341), 1⟩,
  ⟨0xF9E7, 0xF9E7, (-28952), 1⟩, ⟨0xF9E8, 0xF9E8, (-28935), 1⟩, ⟨0xF9E9, 0xF9E9, (-26653), 1⟩,
  ⟨0xF9EA, 0xF9EA, (-25352), 1⟩, ⟨0xF9EB, 0xF9EB, (-42668), 1⟩, ⟨0xF9EC, 0xF9EC, (-35634), 1⟩,
  ⟨0xF9ED, 0xF9ED, (-42448), 1⟩, ⟨0xF9EE, 0xF9EE, (-34846), 1⟩, ⟨0xF9EF, 0xF9EF, (-34135), 1⟩,
  ⟨0xF9F0, 0xF9F0, (-29686), 1⟩, ⟨0xF9F1, 0xF9F1, (-25422), 1⟩, ⟨0xF9F2, 0xF9F2, (-23963), 1⟩,
  ⟨0xF9F3, 0xF9F3, (-23380), 1⟩, ⟨0xF9F4, 0xF9F4, (-37469), 1⟩, ⟨0xF9F5, 0xF9F5, (-35882), 1⟩,
  ⟨0xF9F6, 0xF9F6, (-30734), 1⟩, ⟨0xF9F7, 0xF9F7, (-32556), 1⟩, ⟨0xF9F8, 0xF9F8, (-32472), 1⟩,
  ⟨0xF9F9, 0xF9F9, (-32103), 1⟩, ⟨0xF9FA, 0xF9FA, (-34618), 1⟩, ⟨0xF9FB, 0xF9FB, (-35170), 1⟩,
  ⟨0xF9FC, 0xF9FC, (-28324), 1⟩, ⟨0xF9FD, 0xF9FD, (-43837), 1⟩, ⟨0xF9FE, 0xF9FE, (-30408), 1⟩,
  ⟨0xF9FF, 0xF9FF, (-42949), 1⟩, ⟨0xFA00, 0xFA00, (-43001), 1⟩, ⟨0xFA01, 0xFA01, (-39771), 1⟩,
  ⟨0xFA02, 0xFA02, (-38703), 1⟩, ⟨0xFA03, 0xFA03, (-32045), 1⟩, ⟨0xFA04, 0xFA04, (-40575), 1⟩,
  ⟨0xFA05, 0xFA05, (-36071), 1⟩, ⟨0xFA06, 0xFA06, (-37714), 1⟩, ⟨0xFA07, 0xFA07, (-27340), 1⟩,
  ⟨0xFA08, 0xFA08, (-29116), 1⟩, ⟨0xFA09, 0xFA09, (-25532), 1⟩, ⟨0xFA0A, 0xFA0A, (-28799), 1⟩,
  ⟨0xFA0B, 0xFA0B, (-39736), 1⟩, ⟨0xFA0C, 0xFA0C, (-43212), 1⟩, ⟨0xFA0D, 0xFA0D, (-42061), 1⟩,
  ⟨0xFA10, 0xFA10, (-41398), 1⟩, ⟨0xFA12, 0xFA12, (-37790), 1⟩, ⟨0xFA15, 0xFA15, (-43063), 1⟩,
  ⟨0xFA16, 0xFA16, (-34540), 1⟩, ⟨0xFA17, 0xFA17, (-33613), 1⟩, ⟨0xFA18, 0xFA18, (-32988), 1⟩,
  ⟨0xFA19, 0xFA19, (-32955), 1⟩, ⟨0xFA1A, 0xFA1A, (-32949), 1⟩, ⟨0xFA1B, 0xFA1B, (-32908), 1⟩,
  ⟨0xFA1C, 0xFA1C, (-25286), 1⟩, ⟨0xFA1D, 0xFA1D, (-32095), 1⟩, ⟨0xFA1E, 0xFA1E, (-31329), 1⟩,
  ⟨0xFA20, 0xFA20, (-29710), 1⟩, ⟨0xFA22, 0xFA22, (-28458), 1⟩, ⟨0xFA25, 0xFA25, (-27117), 1⟩,
  ⟨0xFA26, 0xFA26, (-26921), 1⟩, ⟨0xFA2A, 0xFA2A, (-24891), 1⟩, ⟨0xFA2B, 0xFA2B, (-24879), 1⟩,
  ⟨0xFA2C, 0xFA2C, (-24836), 1⟩, ⟨0xFA2D, 0xFA2D, (-23673), 1⟩, ⟨0xFA2E, 0xFA2E, (-26960), 1⟩,
  ⟨0xFA2F, 0xFA2F, (-25464), 1⟩, ⟨0xFA30, 0xFA30, (-43650), 1⟩, ⟨0xFA31, 0xFA31, (-43338), 1⟩,
  ⟨0xFA32, 0xFA32, (-43237), 1⟩, ⟨0xFA33, 0xFA33, (-42858), 1⟩, ⟨0xFA34, 0xFA34, (-42832), 1⟩,
  ⟨0xFA35, 0xFA35, (-42724), 1⟩, ⟨0xFA36, 0xFA36, (-42137), 1⟩, ⟨0xFA37, 0xFA37, (-42033), 1⟩,
  ⟨0xFA38, 0xFA38, (-41936), 1⟩, ⟨0xFA39, 0xFA39, (-41465), 1⟩, ⟨0xFA3A, 0xFA3A, (-41362), 1⟩,
  ⟨0xFA3B, 0xFA3B, (-40407), 1⟩, ⟨0xFA3C, 0xFA3C, (-40398), 1⟩, ⟨0xFA3D, 0xFA3D, (-39337), 1⟩
]

/-- The mapping runs from U+FA3E on. -/
def idnaShiftRunsFromFA3E : List ShiftRun := [
  ⟨0xFA3E, 0xFA3E, (-39126), 1⟩, ⟨0xFA3F, 0xFA3F, (-39089), 1⟩, ⟨0xFA40, 0xFA40, (-38990), 1⟩,
  ⟨0xFA41, 0xFA41, (-38130), 1⟩, ⟨0xFA42, 0xFA42, (-37984), 1⟩, ⟨0xFA43, 0xFA43, (-37810), 1⟩,
  ⟨0xFA44, 0xFA44, (-37311), 1⟩, ⟨0xFA45, 0xFA45, (-36046), 1⟩, ⟨0xFA46, 0xFA46, (-35884), 1⟩,
  ⟨0xFA47, 0xFA47, (-35621), 1⟩, ⟨0xFA48, 0xFA48, (-35034), 1⟩, ⟨0xFA49, 0xFA49, (-34846), 1⟩,
  ⟨0xFA4A, 0xFA4A, (-34344), 1⟩, ⟨0xFA4B, 0xFA4B, (-33210), 1⟩, ⟨0xFA4C, 0xFA4C, (-33038), 1⟩,
  ⟨0xFA4D, 0xFA4D, (-33028), 1⟩, ⟨0xFA4E, 0xFA4E, (-33030), 1⟩, ⟨0xFA4F, 0xFA4F, (-33023), 1⟩,
  ⟨0xFA50, 0xFA50, (-33018), 1⟩, ⟨0xFA51, 0xFA51, (-33012), 1⟩, ⟨0xFA52, 0xFA53, (-32965), 1⟩,
  ⟨0xFA54, 0xFA54, (-32788), 1⟩, ⟨0xFA55, 0xFA55, (-32724), 1⟩, ⟨0xFA56, 0xFA56, (-32406), 1⟩,
  ⟨0xFA57, 0xFA57, (-31843), 1⟩, ⟨0xFA58, 0xFA58, (-31823), 1⟩, ⟨0xFA59, 0xFA59, (-31768), 1⟩,
  ⟨0xFA5A, 0xFA5A, (-31464), 1⟩, ⟨0xFA5B, 0xFA5B, (-31318), 1⟩, ⟨0xFA5C, 0xFA5C, (-30831), 1⟩,
  ⟨0xFA5D, 0xFA5D, (-30692), 1⟩, ⟨0xFA5E, 0xFA5E, (-30693), 1⟩, ⟨0xFA5F, 0xFA5F, (-30216), 1⟩,
  ⟨0xFA60, 0xFA60, (-29008), 1⟩, ⟨0xFA61, 0xFA61, (-28875), 1⟩, ⟨0xFA62, 0xFA62, (-28513), 1⟩,
  ⟨0xFA63, 0xFA63, (-28458), 1⟩, ⟨0xFA64, 0xFA64, (-28049), 1⟩, ⟨0xFA65, 0xFA65, (-27997), 1⟩,
  ⟨0xFA66, 0xFA66, (-27312), 1⟩, ⟨0xFA67, 0xFA67, (-27183), 1⟩, ⟨0xFA68, 0xFA68, (-25477), 1⟩,
  ⟨0xFA69, 0xFA69, (-25194), 1⟩, ⟨0xFA6A, 0xFA6A, (-25135), 1⟩, ⟨0xFA6B, 0xFA6B, (-39414), 1⟩,
  ⟨0xFA6C, 0xFA6C, 84098, 1⟩, ⟨0xFA6D, 0xFA6D, (-30805), 1⟩, ⟨0xFA70, 0xFA70, (-44106), 1⟩,
  ⟨0xFA71, 0xFA71, (-43196), 1⟩, ⟨0xFA72, 0xFA72, (-43274), 1⟩, ⟨0xFA73, 0xFA73, (-43763), 1⟩,
  ⟨0xFA74, 0xFA74, (-43311), 1⟩, ⟨0xFA75, 0xFA75, (-43253), 1⟩, ⟨0xFA76, 0xFA76, (-42927), 1⟩,
  ⟨0xFA77, 0xFA77, (-42877), 1⟩, ⟨0xFA78, 0xFA78, (-42203), 1⟩, ⟨0xFA79, 0xFA79, (-42276), 1⟩,
  ⟨0xFA7A, 0xFA7A, (-42209), 1⟩, ⟨0xFA7B, 0xFA7B, (-42137), 1⟩, ⟨0xFA7C, 0xFA7C, (-41506), 1⟩,
  ⟨0xFA7D, 0xFA7D, (-41418), 1⟩, ⟨0xFA7E, 0xFA7E, (-41274), 1⟩, ⟨0xFA7F, 0xFA7F, (-41259), 1⟩,
  ⟨0xFA80, 0xFA80, (-40990), 1⟩, ⟨0xFA81, 0xFA81, (-40793), 1⟩, ⟨0xFA82, 0xFA82, (-39856), 1⟩,
  ⟨0xFA83, 0xFA83, (-39850), 1⟩, ⟨0xFA84, 0xFA84, (-39707), 1⟩, ⟨0xFA85, 0xFA85, (-39640), 1⟩,
  ⟨0xFA86, 0xFA86, (-39342), 1⟩, ⟨0xFA87, 0xFA87, (-39225), 1⟩, ⟨0xFA88, 0xFA88, (-39296), 1⟩,
  ⟨0xFA89, 0xFA89, (-39163), 1⟩, ⟨0xFA8A, 0xFA8A, (-39210), 1⟩, ⟨0xFA8B, 0xFA8B, (-39065), 1⟩,
  ⟨0xFA8C, 0xFA8C, (-39000), 1⟩, ⟨0xFA8D, 0xFA8D, (-38601), 1⟩, ⟨0xFA8E, 0xFA8E, (-38514), 1⟩,
  ⟨0xFA8F, 0xFA8F, (-38461), 1⟩, ⟨0xFA90, 0xFA90, (-38202), 1⟩, ⟨0xFA91, 0xFA91, (-37917), 1⟩,
  ⟨0xFA92, 0xFA92, (-37755), 1⟩, ⟨0xFA93, 0xFA93, (-37752), 1⟩, ⟨0xFA94, 0xFA94, (-37694), 1⟩,
  ⟨0xFA95, 0xFA95, (-36636), 1⟩, ⟨0xFA96, 0xFA96, (-36572), 1⟩, ⟨0xFA97, 0xFA97, (-36182), 1⟩,
  ⟨0xFA98, 0xFA98, (-35773), 1⟩, ⟨0xFA99, 0xFA99, (-35790), 1⟩, ⟨0xFA9A, 0xFA9A, (-35704), 1⟩,
  ⟨0xFA9B, 0xFA9B, (-35453), 1⟩, ⟨0xFA9C, 0xFA9C, (-35118), 1⟩, ⟨0xFA9D, 0xFA9D, (-33526), 1⟩,
  ⟨0xFA9E, 0xFA9E, (-34921), 1⟩, ⟨0xFA9F, 0xFA9F, (-34800), 1⟩, ⟨0xFAA0, 0xFAA0, (-34678), 1⟩,
  ⟨0xFAA1, 0xFAA1, (-34352), 1⟩, ⟨0xFAA2, 0xFAA2, (-34204), 1⟩, ⟨0xFAA3, 0xFAA3, (-34152), 1⟩,
  ⟨0xFAA4, 0xFAA4, (-33927), 1⟩, ⟨0xFAA5, 0xFAA5, (-33926), 1⟩, ⟨0xFAA6, 0xFAA6, (-33756), 1⟩,
  ⟨0xFAA7, 0xFAA7, (-33740), 1⟩, ⟨0xFAA8, 0xFAA8, (-33716), 1⟩, ⟨0xFAA9, 0xFAA9, (-33631), 1⟩,
  ⟨0xFAAA, 0xFAAA, (-33642), 1⟩, ⟨0xFAAB, 0xFAAB, (-33247), 1⟩, ⟨0xFAAC, 0xFAAC, (-32763), 1⟩,
  ⟨0xFAAD, 0xFAAD, (-32493), 1⟩, ⟨0xFAAE, 0xFAAE, (-32307), 1⟩, ⟨0xFAAF, 0xFAAF, (-32084), 1⟩,
  ⟨0xFAB0, 0xFAB0, (-31932), 1⟩, ⟨0xFAB1, 0xFAB1, (-31603), 1⟩, ⟨0xFAB2, 0xFAB2, (-31405), 1⟩,
  ⟨0xFAB3, 0xFAB3, (-30561), 1⟩, ⟨0xFAB4, 0xFAB4, (-30405), 1⟩, ⟨0xFAB5, 0xFAB5, (-29500), 1⟩,
  ⟨0xFAB6, 0xFAB6, (-29045), 1⟩, ⟨0xFAB7, 0xFAB7, (-28977), 1⟩, ⟨0xFAB8, 0xFAB8, (-28962), 1⟩,
  ⟨0xFAB9, 0xFAB9, (-28666), 1⟩, ⟨0xFABA, 0xFABA, (-28610), 1⟩, ⟨0xFABB, 0xFABB, (-28656), 1⟩,
  ⟨0xFABC, 0xFABC, (-28603), 1⟩, ⟨0xFABD, 0xFABD, (-28607), 1⟩, ⟨0xFABE, 0xFABE, (-28625), 1⟩,
  ⟨0xFABF, 0xFABF, (-28550), 1⟩, ⟨0xFAC0, 0xFAC0, (-28470), 1⟩, ⟨0xFAC1, 0xFAC1, (-28089), 1⟩,
  ⟨0xFAC2, 0xFAC2, (-27530), 1⟩, ⟨0xFAC3, 0xFAC3, (-27217), 1⟩, ⟨0xFAC4, 0xFAC4, (-26923), 1⟩,
  ⟨0xFAC5, 0xFAC5, (-26703), 1⟩, ⟨0xFAC6, 0xFAC6, (-25674), 1⟩, ⟨0xFAC7, 0xFAC7, (-25572), 1⟩,
  ⟨0xFAC8, 0xFAC8, (-25458), 1⟩, ⟨0xFAC9, 0xFAC9, (-25326), 1⟩, ⟨0xFACA, 0xFACA, (-25291), 1⟩,
  ⟨0xFACB, 0xFACB, (-25280), 1⟩, ⟨0xFACC, 0xFACC, (-25233), 1⟩, ⟨0xFACD, 0xFACD, (-24507), 1⟩,
  ⟨0xFACE, 0xFACE, (-23346), 1⟩, ⟨0xFACF, 0xFACF, 77179, 1⟩, ⟨0xFAD0, 0xFAD0, 77172, 1⟩,
  ⟨0xFAD1, 0xFAD1, 80132, 1⟩, ⟨0xFAD2, 0xFAD2, (-48949), 1⟩, ⟨0xFAD3, 0xFAD3, (-47803), 1⟩,
  ⟨0xFAD4, 0xFAD4, (-47771), 1⟩, ⟨0xFAD5, 0xFAD5, 87924, 1⟩, ⟨0xFAD6, 0xFAD6, 90618, 1⟩,
  ⟨0xFAD7, 0xFAD7, 99324, 1⟩, ⟨0xFAD8, 0xFAD8, (-23445), 1⟩, ⟨0xFAD9, 0xFAD9, (-23371), 1⟩,
  ⟨0xFB20, 0xFB20, (-62782), 1⟩, ⟨0xFB21, 0xFB21, (-62801), 1⟩, ⟨0xFB22, 0xFB23, (-62799), 1⟩,
  ⟨0xFB24, 0xFB26, (-62793), 1⟩, ⟨0xFB27, 0xFB27, (-62783), 1⟩, ⟨0xFB28, 0xFB28, (-62782), 1⟩,
  ⟨0xFB29, 0xFB29, (-64254), 1⟩, ⟨0xFB50, 0xFB50, (-62687), 1⟩, ⟨0xFB51, 0xFB51, (-62688), 1⟩,
  ⟨0xFB52, 0xFB52, (-62679), 1⟩, ⟨0xFB53, 0xFB53, (-62680), 1⟩, ⟨0xFB54, 0xFB54, (-62681), 1⟩,
  ⟨0xFB55, 0xFB55, (-62682), 1⟩, ⟨0xFB56, 0xFB56, (-62680), 1⟩, ⟨0xFB57, 0xFB57, (-62681), 1⟩,
  ⟨0xFB58, 0xFB58, (-62682), 1⟩, ⟨0xFB59, 0xFB59, (-62683), 1⟩, ⟨0xFB5A, 0xFB5A, (-62682), 1⟩,
  ⟨0xFB5B, 0xFB5B, (-62683), 1⟩, ⟨0xFB5C, 0xFB5C, (-62684), 1⟩, ⟨0xFB5D, 0xFB5D, (-62685), 1⟩,
  ⟨0xFB5E, 0xFB5E, (-62692), 1⟩, ⟨0xFB5F, 0xFB5F, (-62693), 1⟩, ⟨0xFB60, 0xFB60, (-62694), 1⟩,
  ⟨0xFB61, 0xFB61, (-62695), 1⟩, ⟨0xFB62, 0xFB62, (-62691), 1⟩, ⟨0xFB63, 0xFB63, (-62692), 1⟩,
  ⟨0xFB64, 0xFB64, (-62693), 1⟩, ⟨0xFB65, 0xFB65, (-62694), 1⟩, ⟨0xFB66, 0xFB66, (-62701), 1⟩,
  ⟨0xFB67, 0xFB67, (-62702), 1⟩, ⟨0xFB68, 0xFB68, (-62703), 1⟩, ⟨0xFB69, 0xFB69, (-62704), 1⟩,
  ⟨0xFB6A, 0xFB6A, (-62662), 1⟩, ⟨0xFB6B, 0xFB6B, (-62663), 1⟩, ⟨0xFB6C, 0xFB6C, (-62664), 1⟩,
  ⟨0xFB6D, 0xFB6D, (-62665), 1⟩, ⟨0xFB6E, 0xFB6E, (-62664), 1⟩, ⟨0xFB6F, 0xFB6F, (-62665), 1⟩,
  ⟨0xFB70, 0xFB70, (-62666), 1⟩, ⟨0xFB71, 0xFB71, (-62667), 1⟩, ⟨0xFB72, 0xFB72, (-62702), 1⟩,
  ⟨0xFB73, 0xFB73, (-62703), 1⟩, ⟨0xFB74, 0xFB74, (-62704), 1⟩, ⟨0xFB75, 0xFB75, (-62705), 1⟩,
  ⟨0xFB76, 0xFB76, (-62707), 1⟩, ⟨0xFB77, 0xFB77, (-62708), 1⟩, ⟨0xFB78, 0xFB78, (-62709), 1⟩,
  ⟨0xFB79, 0xFB79, (-62710), 1⟩, ⟨0xFB7A, 0xFB7A, (-62708), 1⟩, ⟨0xFB7B, 0xFB7B, (-62709), 1⟩,
  ⟨0xFB7C, 0xFB7C, (-62710), 1⟩, ⟨0xFB7D, 0xFB7E, (-62711), 1⟩, ⟨0xFB7F, 0xFB7F, (-62712), 1⟩,
  ⟨0xFB80, 0xFB80, (-62713), 1⟩, ⟨0xFB81, 0xFB81, (-62714), 1⟩, ⟨0xFB82, 0xFB82, (-62709), 1⟩,
  ⟨0xFB83, 0xFB83, (-62710), 1⟩, ⟨0xFB84, 0xFB84, (-62712), 1⟩, ⟨0xFB85, 0xFB85, (-62713), 1⟩,
  ⟨0xFB86, 0xFB86, (-62712), 1⟩, ⟨0xFB87, 0xFB87, (-62713), 1⟩, ⟨0xFB88, 0xFB88, (-62720), 1⟩,
  ⟨0xFB89, 0xFB89, (-62721), 1⟩, ⟨0xFB8A, 0xFB8A, (-62706), 1⟩, ⟨0xFB8B, 0xFB8B, (-62707), 1⟩,
  ⟨0xFB8C, 0xFB8C, (-62715), 1⟩, ⟨0xFB8D, 0xFB8D, (-62716), 1⟩, ⟨0xFB8E, 0xFB8E, (-62693), 1⟩,
  ⟨0xFB8F, 0xFB8F, (-62694), 1⟩, ⟨0xFB90, 0xFB90, (-62695), 1⟩, ⟨0xFB91, 0xFB91, (-62696), 1⟩,
  ⟨0xFB92, 0xFB92, (-62691), 1⟩, ⟨0xFB93, 0xFB93, (-62692), 1⟩, ⟨0xFB94, 0xFB94, (-62693), 1⟩,
  ⟨0xFB95, 0xFB95, (-62694), 1⟩, ⟨0xFB96, 0xFB96, (-62691), 1⟩, ⟨0xFB97, 0xFB97, (-62692), 1⟩,
  ⟨0xFB98, 0xFB98, (-62693), 1⟩, ⟨0xFB99, 0xFB99, (-62694), 1⟩, ⟨0xFB9A, 0xFB9A, (-62697), 1⟩,
  ⟨0xFB9B, 0xFB9B, (-62698), 1⟩, ⟨0xFB9C, 0xFB9C, (-62699), 1⟩, ⟨0xFB9D, 0xFB9D, (-62700), 1⟩,
  ⟨0xFB9E, 0xFB9E, (-62692), 1⟩, ⟨0xFB9F, 0xFBA0, (-62693), 1⟩, ⟨0xFBA1, 0xFBA1, (-62694), 1⟩,
  ⟨0xFBA2, 0xFBA2, (-62695), 1⟩, ⟨0xFBA3, 0xFBA3, (-62696), 1⟩, ⟨0xFBA4, 0xFBA4, (-62692), 1⟩,
  ⟨0xFBA5, 0xFBA6, (-62693), 1⟩, ⟨0xFBA7, 0xFBA7, (-62694), 1⟩, ⟨0xFBA8, 0xFBA8, (-62695), 1⟩,
  ⟨0xFBA9, 0xFBA9, (-62696), 1⟩, ⟨0xFBAA, 0xFBAA, (-62700), 1⟩, ⟨0xFBAB, 0xFBAB, (-62701), 1⟩,
  ⟨0xFBAC, 0xFBAC, (-62702), 1⟩, ⟨0xFBAD, 0xFBAD, (-62703), 1⟩, ⟨0xFBAE, 0xFBAE, (-62684), 1⟩,
  ⟨0xFBAF, 0xFBB0, (-62685), 1⟩, ⟨0xFBB1, 0xFBB1, (-62686), 1⟩, ⟨0xFBD3, 0xFBD3, (-62758), 1⟩,
  ⟨0xFBD4, 0xFBD4, (-62759), 1⟩, ⟨0xFBD5, 0xFBD5, (-62760), 1⟩, ⟨0xFBD6, 0xFBD6, (-62761), 1⟩,
  ⟨0xFBD7, 0xFBD7, (-62736), 1⟩, ⟨0xFBD8, 0xFBD8, (-62737), 1⟩, ⟨0xFBD9, 0xFBD9, (-62739), 1⟩,
  ⟨0xFBDA, 0xFBDA, (-62740), 1⟩, ⟨0xFBDB, 0xFBDB, (-62739), 1⟩, ⟨0xFBDC, 0xFBDC, (-62740), 1⟩,
  ⟨0xFBDE, 0xFBDE, (-62739), 1⟩, ⟨0xFBDF, 0xFBDF, (-62740), 1⟩, ⟨0xFBE0, 0xFBE0, (-62747), 1⟩,
  ⟨0xFBE1, 0xFBE1, (-62748), 1⟩, ⟨0xFBE2, 0xFBE2, (-62745), 1⟩, ⟨0xFBE3, 0xFBE3, (-62746), 1⟩,
  ⟨0xFBE4, 0xFBE4, (-62740), 1⟩, ⟨0xFBE5, 0xFBE5, (-62741), 1⟩, ⟨0xFBE6, 0xFBE6, (-62742), 1⟩,
  ⟨0xFBE7, 0xFBE7, (-62743), 1⟩, ⟨0xFBE8, 0xFBE8, (-62879), 1⟩, ⟨0xFBE9, 0xFBE9, (-62880), 1⟩,
  ⟨0xFBFC, 0xFBFC, (-62768), 1⟩, ⟨0xFBFD, 0xFBFD, (-62769), 1⟩, ⟨0xFBFE, 0xFBFE, (-62770), 1⟩,
  ⟨0xFBFF, 0xFBFF, (-62771), 1⟩, ⟨0xFE10, 0xFE10, (-64996), 1⟩, ⟨0xFE11, 0xFE11, (-52752), 1⟩,
  ⟨0xFE13, 0xFE14, (-64985), 1⟩, ⟨0xFE15, 0xFE15, (-65012), 1⟩, ⟨0xFE16, 0xFE16, (-64983), 1⟩,
  ⟨0xFE17, 0xFE18, (-52737), 1⟩, ⟨0xFE31, 0xFE31, (-56861), 1⟩, ⟨0xFE32, 0xFE32, (-56863), 1⟩,
  ⟨0xFE33, 0xFE33, (-64980), 1⟩, ⟨0xFE34, 0xFE34, (-64981), 1⟩, ⟨0xFE35, 0xFE36, (-65037), 1⟩,
  ⟨0xFE37, 0xFE37, (-64956), 1⟩, ⟨0xFE38, 0xFE38, (-64955), 1⟩, ⟨0xFE39, 0xFE3A, (-52773), 1⟩,
  ⟨0xFE3B, 0xFE3C, (-52779), 1⟩, ⟨0xFE3D, 0xFE3E, (-52787), 1⟩, ⟨0xFE3F, 0xFE40, (-52791), 1⟩,
  ⟨0xFE41, 0xFE44, (-52789), 1⟩, ⟨0xFE47, 0xFE47, (-65004), 1⟩, ⟨0xFE48, 0xFE48, (-65003), 1⟩,
  ⟨0xFE4D, 0xFE4D, (-65006), 1⟩, ⟨0xFE4E, 0xFE4E, (-65007), 1⟩, ⟨0xFE4F, 0xFE4F, (-65008), 1⟩,
  ⟨0xFE50, 0xFE50, (-65060), 1⟩, ⟨0xFE51, 0xFE51, (-52816), 1⟩, ⟨0xFE54, 0xFE54, (-65049), 1⟩,
  ⟨0xFE55, 0xFE55, (-65051), 1⟩, ⟨0xFE56, 0xFE56, (-65047), 1⟩, ⟨0xFE57, 0xFE57, (-65078), 1⟩,
  ⟨0xFE58, 0xFE58, (-56900), 1⟩, ⟨0xFE59, 0xFE5A, (-65073), 1⟩, ⟨0xFE5B, 0xFE5B, (-64992), 1⟩,
  ⟨0xFE5C, 0xFE5C, (-64991), 1⟩, ⟨0xFE5D, 0xFE5E, (-52809), 1⟩, ⟨0xFE5F, 0xFE5F, (-65084), 1⟩,
  ⟨0xFE60, 0xFE60, (-65082), 1⟩, ⟨0xFE61, 0xFE62, (-65079), 1⟩, ⟨0xFE63, 0xFE63, (-65078), 1⟩,
  ⟨0xFE64, 0xFE64, (-65064), 1⟩, ⟨0xFE65, 0xFE65, (-65063), 1⟩, ⟨0xFE66, 0xFE66, (-65065), 1⟩,
  ⟨0xFE68, 0xFE68, (-65036), 1⟩, ⟨0xFE69, 0xFE6A, (-65093), 1⟩, ⟨0xFE6B, 0xFE6B, (-65067), 1⟩,
  ⟨0xFE80, 0xFE81, (-63583), 1⟩, ⟨0xFE82, 0xFE83, (-63584), 1⟩, ⟨0xFE84, 0xFE85, (-63585), 1⟩,
  ⟨0xFE86, 0xFE87, (-63586), 1⟩, ⟨0xFE88, 0xFE89, (-63587), 1⟩, ⟨0xFE8A, 0xFE8A, (-63588), 1⟩,
  ⟨0xFE8B, 0xFE8B, (-63589), 1⟩, ⟨0xFE8C, 0xFE8D, (-63590), 1⟩, ⟨0xFE8E, 0xFE8F, (-63591), 1⟩,
  ⟨0xFE90, 0xFE90, (-63592), 1⟩, ⟨0xFE91, 0xFE91, (-63593), 1⟩, ⟨0xFE92, 0xFE93, (-63594), 1⟩,
  ⟨0xFE94, 0xFE95, (-63595), 1⟩, ⟨0xFE96, 0xFE96, (-63596), 1⟩, ⟨0xFE97, 0xFE97, (-63597), 1⟩,
  ⟨0xFE98, 0xFE99, (-63598), 1⟩, ⟨0xFE9A, 0xFE9A, (-63599), 1⟩, ⟨0xFE9B, 0xFE9B, (-63600), 1⟩,
  ⟨0xFE9C, 0xFE9D, (-63601), 1⟩, ⟨0xFE9E, 0xFE9E, (-63602), 1⟩, ⟨0xFE9F, 0xFE9F, (-63603), 1⟩,
  ⟨0xFEA0, 0xFEA1, (-63604), 1⟩, ⟨0xFEA2, 0xFEA2, (-63605), 1⟩, ⟨0xFEA3, 0xFEA3, (-63606), 1⟩,
  ⟨0xFEA4, 0xFEA5, (-63607), 1⟩, ⟨0xFEA6, 0xFEA6, (-63608), 1⟩, ⟨0xFEA7, 0xFEA7, (-63609), 1⟩,
  ⟨0xFEA8, 0xFEA9, (-63610), 1⟩, ⟨0xFEAA, 0xFEAB, (-63611), 1⟩, ⟨0xFEAC, 0xFEAD, (-63612), 1⟩,
  ⟨0xFEAE, 0xFEAF, (-63613), 1⟩, ⟨0xFEB0, 0xFEB1, (-63614), 1⟩, ⟨0xFEB2, 0xFEB2, (-63615), 1⟩,
  ⟨0xFEB3, 0xFEB3, (-63616), 1⟩, ⟨0xFEB4, 0xFEB5, (-63617), 1⟩, ⟨0xFEB6, 0xFEB6, (-63618), 1⟩
]

/-- The mapping runs from U+FEB7 on. -/
def idnaShiftRunsFromFEB7 : List ShiftRun := [
  ⟨0xFEB7, 0xFEB7, (-63619), 1⟩, ⟨0xFEB8, 0xFEB9, (-63620), 1⟩, ⟨0xFEBA, 0xFEBA, (-63621), 1⟩,
  ⟨0xFEBB, 0xFEBB, (-63622), 1⟩, ⟨0xFEBC, 0xFEBD, (-63623), 1⟩, ⟨0xFEBE, 0xFEBE, (-63624), 1⟩,
  ⟨0xFEBF, 0xFEBF, (-63625), 1⟩, ⟨0xFEC0, 0xFEC1, (-63626), 1⟩, ⟨0xFEC2, 0xFEC2, (-63627), 1⟩,
  ⟨0xFEC3, 0xFEC3, (-63628), 1⟩, ⟨0xFEC4, 0xFEC5, (-63629), 1⟩, ⟨0xFEC6, 0xFEC6, (-63630), 1⟩,
  ⟨0xFEC7, 0xFEC7, (-63631), 1⟩, ⟨0xFEC8, 0xFEC9, (-63632), 1⟩, ⟨0xFECA, 0xFECA, (-63633), 1⟩,
  ⟨0xFECB, 0xFECB, (-63634), 1⟩, ⟨0xFECC, 0xFECD, (-63635), 1⟩, ⟨0xFECE, 0xFECE, (-63636), 1⟩,
  ⟨0xFECF, 0xFECF, (-63637), 1⟩, ⟨0xFED0, 0xFED0, (-63638), 1⟩, ⟨0xFED1, 0xFED1, (-63632), 1⟩,
  ⟨0xFED2, 0xFED2, (-63633), 1⟩, ⟨0xFED3, 0xFED3, (-63634), 1⟩, ⟨0xFED4, 0xFED5, (-63635), 1⟩,
  ⟨0xFED6, 0xFED6, (-63636), 1⟩, ⟨0xFED7, 0xFED7, (-63637), 1⟩, ⟨0xFED8, 0xFED9, (-63638), 1⟩,
  ⟨0xFEDA, 0xFEDA, (-63639), 1⟩, ⟨0xFEDB, 0xFEDB, (-63640), 1⟩, ⟨0xFEDC, 0xFEDD, (-63641), 1⟩,
  ⟨0xFEDE, 0xFEDE, (-63642), 1⟩, ⟨0xFEDF, 0xFEDF, (-63643), 1⟩, ⟨0xFEE0, 0xFEE1, (-63644), 1⟩,
  ⟨0xFEE2, 0xFEE2, (-63645), 1⟩, ⟨0xFEE3, 0xFEE3, (-63646), 1⟩, ⟨0xFEE4, 0xFEE5, (-63647), 1⟩,
  ⟨0xFEE6, 0xFEE6, (-63648), 1⟩, ⟨0xFEE7, 0xFEE7, (-63649), 1⟩, ⟨0xFEE8, 0xFEE9, (-63650), 1⟩,
  ⟨0xFEEA, 0xFEEA, (-63651), 1⟩, ⟨0xFEEB, 0xFEEB, (-63652), 1⟩, ⟨0xFEEC, 0xFEED, (-63653), 1⟩,
  ⟨0xFEEE, 0xFEEF, (-63654), 1⟩, ⟨0xFEF0, 0xFEF1, (-63655), 1⟩, ⟨0xFEF2, 0xFEF2, (-63656), 1⟩,
  ⟨0xFEF3, 0xFEF3, (-63657), 1⟩, ⟨0xFEF4, 0xFEF4, (-63658), 1⟩, ⟨0xFF01, 0xFF20, (-65248), 1⟩,
  ⟨0xFF21, 0xFF3A, (-65216), 1⟩, ⟨0xFF3B, 0xFF5E, (-65248), 1⟩, ⟨0xFF5F, 0xFF60, (-54746), 1⟩,
  ⟨0xFF61, 0xFF61, (-65331), 1⟩, ⟨0xFF62, 0xFF63, (-53078), 1⟩, ⟨0xFF64, 0xFF64, (-53091), 1⟩,
  ⟨0xFF65, 0xFF65, (-52842), 1⟩, ⟨0xFF66, 0xFF66, (-52852), 1⟩, ⟨0xFF67, 0xFF67, (-52934), 1⟩,
  ⟨0xFF68, 0xFF68, (-52933), 1⟩, ⟨0xFF69, 0xFF69, (-52932), 1⟩, ⟨0xFF6A, 0xFF6A, (-52931), 1⟩,
  ⟨0xFF6B, 0xFF6B, (-52930), 1⟩, ⟨0xFF6C, 0xFF6C, (-52873), 1⟩, ⟨0xFF6D, 0xFF6D, (-52872), 1⟩,
  ⟨0xFF6E, 0xFF6E, (-52871), 1⟩, ⟨0xFF6F, 0xFF6F, (-52908), 1⟩, ⟨0xFF70, 0xFF70, (-52852), 1⟩,
  ⟨0xFF71, 0xFF71, (-52943), 1⟩, ⟨0xFF72, 0xFF72, (-52942), 1⟩, ⟨0xFF73, 0xFF73, (-52941), 1⟩,
  ⟨0xFF74, 0xFF74, (-52940), 1⟩, ⟨0xFF75, 0xFF76, (-52939), 1⟩, ⟨0xFF77, 0xFF77, (-52938), 1⟩,
  ⟨0xFF78, 0xFF78, (-52937), 1⟩, ⟨0xFF79, 0xFF79, (-52936), 1⟩, ⟨0xFF7A, 0xFF7A, (-52935), 1⟩,
  ⟨0xFF7B, 0xFF7B, (-52934), 1⟩, ⟨0xFF7C, 0xFF7C, (-52933), 1⟩, ⟨0xFF7D, 0xFF7D, (-52932), 1⟩,
  ⟨0xFF7E, 0xFF7E, (-52931), 1⟩, ⟨0xFF7F, 0xFF7F, (-52930), 1⟩, ⟨0xFF80, 0xFF80, (-52929), 1⟩,
  ⟨0xFF81, 0xFF81, (-52928), 1⟩, ⟨0xFF82, 0xFF82, (-52926), 1⟩, ⟨0xFF83, 0xFF83, (-52925), 1⟩,
  ⟨0xFF84, 0xFF84, (-52924), 1⟩, ⟨0xFF85, 0xFF8A, (-52923), 1⟩, ⟨0xFF8B, 0xFF8B, (-52921), 1⟩,
  ⟨0xFF8C, 0xFF8C, (-52919), 1⟩, ⟨0xFF8D, 0xFF8D, (-52917), 1⟩, ⟨0xFF8E, 0xFF8E, (-52915), 1⟩,
  ⟨0xFF8F, 0xFF93, (-52913), 1⟩, ⟨0xFF94, 0xFF94, (-52912), 1⟩, ⟨0xFF95, 0xFF95, (-52911), 1⟩,
  ⟨0xFF96, 0xFF9B, (-52910), 1⟩, ⟨0xFF9C, 0xFF9C, (-52909), 1⟩, ⟨0xFF9D, 0xFF9D, (-52906), 1⟩,
  ⟨0xFF9E, 0xFF9F, (-52997), 1⟩, ⟨0xFFA1, 0xFFA2, (-61089), 1⟩, ⟨0xFFA3, 0xFFA3, (-60921), 1⟩,
  ⟨0xFFA4, 0xFFA4, (-61090), 1⟩, ⟨0xFFA5, 0xFFA6, (-60921), 1⟩, ⟨0xFFA7, 0xFFA9, (-61092), 1⟩,
  ⟨0xFFAA, 0xFFAF, (-60922), 1⟩, ⟨0xFFB0, 0xFFB0, (-61078), 1⟩, ⟨0xFFB1, 0xFFB3, (-61099), 1⟩,
  ⟨0xFFB4, 0xFFB4, (-61075), 1⟩, ⟨0xFFB5, 0xFFBE, (-61100), 1⟩, ⟨0xFFC2, 0xFFC7, (-61025), 1⟩,
  ⟨0xFFCA, 0xFFCF, (-61027), 1⟩, ⟨0xFFD2, 0xFFD7, (-61029), 1⟩, ⟨0xFFDA, 0xFFDC, (-61031), 1⟩,
  ⟨0xFFE0, 0xFFE1, (-65342), 1⟩, ⟨0xFFE2, 0xFFE2, (-65334), 1⟩, ⟨0xFFE4, 0xFFE4, (-65342), 1⟩,
  ⟨0xFFE5, 0xFFE5, (-65344), 1⟩, ⟨0xFFE6, 0xFFE6, (-57149), 1⟩, ⟨0xFFE8, 0xFFE8, (-56038), 1⟩,
  ⟨0xFFE9, 0xFFEC, (-56921), 1⟩, ⟨0xFFED, 0xFFED, (-55885), 1⟩, ⟨0xFFEE, 0xFFEE, (-55843), 1⟩,
  ⟨0x10400, 0x10427, 40, 1⟩, ⟨0x104B0, 0x104D3, 40, 1⟩, ⟨0x10570, 0x1057A, 39, 1⟩,
  ⟨0x1057C, 0x1058A, 39, 1⟩, ⟨0x1058C, 0x10592, 39, 1⟩, ⟨0x10594, 0x10595, 39, 1⟩,
  ⟨0x10781, 0x10782, (-66737), 1⟩, ⟨0x10783, 0x10783, (-67229), 1⟩, ⟨0x10784, 0x10784, (-66795), 1⟩,
  ⟨0x10785, 0x10785, (-66866), 1⟩, ⟨0x10787, 0x10787, (-66788), 1⟩, ⟨0x10788, 0x10788, (-23586), 1⟩,
  ⟨0x10789, 0x10789, (-66788), 1⟩, ⟨0x1078A, 0x1078A, (-66790), 1⟩, ⟨0x1078B, 0x1078C, (-66869), 1⟩,
  ⟨0x1078D, 0x1078D, (-59900), 1⟩, ⟨0x1078E, 0x1078E, (-66870), 1⟩, ⟨0x1078F, 0x1078F, (-66865), 1⟩,
  ⟨0x10790, 0x10790, (-66791), 1⟩, ⟨0x10791, 0x10791, (-66861), 1⟩, ⟨0x10792, 0x10792, (-66864), 1⟩,
  ⟨0x10793, 0x10793, (-66867), 1⟩, ⟨0x10794, 0x10794, (-66809), 1⟩, ⟨0x10795, 0x10795, (-67182), 1⟩,
  ⟨0x10796, 0x10796, (-66810), 1⟩, ⟨0x10797, 0x10797, (-66864), 1⟩, ⟨0x10798, 0x10798, (-66836), 1⟩,
  ⟨0x10799, 0x1079A, (-66799), 1⟩, ⟨0x1079B, 0x1079B, (-66863), 1⟩, ⟨0x1079C, 0x1079C, 55144, 1⟩,
  ⟨0x1079D, 0x1079D, (-24591), 1⟩, ⟨0x1079E, 0x1079E, (-66864), 1⟩, ⟨0x1079F, 0x1079F, 55142, 1⟩,
  ⟨0x107A0, 0x107A0, (-66834), 1⟩, ⟨0x107A1, 0x107A1, 55141, 1⟩, ⟨0x107A2, 0x107A2, (-67242), 1⟩,
  ⟨0x107A3, 0x107A4, (-66861), 1⟩, ⟨0x107A5, 0x107A5, (-67380), 1⟩, ⟨0x107A6, 0x107A6, (-66860), 1⟩,
  ⟨0x107A7, 0x107A7, 55137, 1⟩, ⟨0x107A8, 0x107A9, (-66859), 1⟩, ⟨0x107AA, 0x107AA, (-66858), 1⟩,
  ⟨0x107AB, 0x107AB, (-66819), 1⟩, ⟨0x107AC, 0x107AC, (-66822), 1⟩, ⟨0x107AD, 0x107AD, (-23622), 1⟩,
  ⟨0x107AE, 0x107AE, (-66823), 1⟩, ⟨0x107AF, 0x107AF, (-66855), 1⟩, ⟨0x107B0, 0x107B0, (-56127), 1⟩,
  ⟨0x107B2, 0x107B2, (-66851), 1⟩, ⟨0x107B3, 0x107B4, (-66834), 1⟩, ⟨0x107B5, 0x107B5, (-66845), 1⟩,
  ⟨0x107B6, 0x107B8, (-67062), 1⟩, ⟨0x107B9, 0x107B9, 55121, 1⟩, ⟨0x107BA, 0x107BA, 55140, 1⟩,
  ⟨0x10C80, 0x10CB2, 64, 1⟩, ⟨0x10D50, 0x10D65, 32, 1⟩, ⟨0x118A0, 0x118BF, 32, 1⟩,
  ⟨0x16E40, 0x16E5F, 32, 1⟩, ⟨0x16EA0, 0x16EB8, 27, 1⟩, ⟨0x1CCD6, 0x1CCEF, (-117877), 1⟩,
  ⟨0x1CCF0, 0x1CCF9, (-117952), 1⟩, ⟨0x1D400, 0x1D419, (-119711), 1⟩, ⟨0x1D41A, 0x1D433, (-119737), 1⟩,
  ⟨0x1D434, 0x1D44D, (-119763), 1⟩, ⟨0x1D44E, 0x1D454, (-119789), 1⟩, ⟨0x1D456, 0x1D467, (-119789), 1⟩,
  ⟨0x1D468, 0x1D481, (-119815), 1⟩, ⟨0x1D482, 0x1D49B, (-119841), 1⟩, ⟨0x1D49C, 0x1D49E, (-119867), 2⟩,
  ⟨0x1D49F, 0x1D49F, (-119867), 1⟩, ⟨0x1D4A2, 0x1D4A2, (-119867), 1⟩, ⟨0x1D4A5, 0x1D4A6, (-119867), 1⟩,
  ⟨0x1D4A9, 0x1D4AC, (-119867), 1⟩, ⟨0x1D4AE, 0x1D4B5, (-119867), 1⟩, ⟨0x1D4B6, 0x1D4B9, (-119893), 1⟩,
  ⟨0x1D4BB, 0x1D4BD, (-119893), 2⟩, ⟨0x1D4BE, 0x1D4C3, (-119893), 1⟩, ⟨0x1D4C5, 0x1D4CF, (-119893), 1⟩,
  ⟨0x1D4D0, 0x1D4E9, (-119919), 1⟩, ⟨0x1D4EA, 0x1D503, (-119945), 1⟩, ⟨0x1D504, 0x1D505, (-119971), 1⟩,
  ⟨0x1D507, 0x1D50A, (-119971), 1⟩, ⟨0x1D50D, 0x1D514, (-119971), 1⟩, ⟨0x1D516, 0x1D51C, (-119971), 1⟩,
  ⟨0x1D51E, 0x1D537, (-119997), 1⟩, ⟨0x1D538, 0x1D539, (-120023), 1⟩, ⟨0x1D53B, 0x1D53E, (-120023), 1⟩,
  ⟨0x1D540, 0x1D544, (-120023), 1⟩, ⟨0x1D546, 0x1D546, (-120023), 1⟩, ⟨0x1D54A, 0x1D550, (-120023), 1⟩,
  ⟨0x1D552, 0x1D56B, (-120049), 1⟩, ⟨0x1D56C, 0x1D585, (-120075), 1⟩, ⟨0x1D586, 0x1D59F, (-120101), 1⟩,
  ⟨0x1D5A0, 0x1D5B9, (-120127), 1⟩, ⟨0x1D5BA, 0x1D5D3, (-120153), 1⟩, ⟨0x1D5D4, 0x1D5ED, (-120179), 1⟩,
  ⟨0x1D5EE, 0x1D607, (-120205), 1⟩, ⟨0x1D608, 0x1D621, (-120231), 1⟩, ⟨0x1D622, 0x1D63B, (-120257), 1⟩,
  ⟨0x1D63C, 0x1D655, (-120283), 1⟩, ⟨0x1D656, 0x1D66F, (-120309), 1⟩, ⟨0x1D670, 0x1D689, (-120335), 1⟩,
  ⟨0x1D68A, 0x1D6A3, (-120361), 1⟩, ⟨0x1D6A4, 0x1D6A4, (-120179), 1⟩, ⟨0x1D6A5, 0x1D6A5, (-119918), 1⟩,
  ⟨0x1D6A8, 0x1D6B8, (-119543), 1⟩, ⟨0x1D6B9, 0x1D6B9, (-119553), 1⟩, ⟨0x1D6BA, 0x1D6C0, (-119543), 1⟩,
  ⟨0x1D6C1, 0x1D6C1, (-111802), 1⟩, ⟨0x1D6C2, 0x1D6D2, (-119569), 1⟩, ⟨0x1D6D3, 0x1D6D3, (-119568), 1⟩,
  ⟨0x1D6D4, 0x1D6DA, (-119569), 1⟩, ⟨0x1D6DB, 0x1D6DB, (-111833), 1⟩, ⟨0x1D6DC, 0x1D6DC, (-119591), 1⟩,
  ⟨0x1D6DD, 0x1D6DD, (-119589), 1⟩, ⟨0x1D6DE, 0x1D6DE, (-119588), 1⟩, ⟨0x1D6DF, 0x1D6DF, (-119577), 1⟩,
  ⟨0x1D6E0, 0x1D6E0, (-119583), 1⟩, ⟨0x1D6E1, 0x1D6E1, (-119585), 1⟩, ⟨0x1D6E2, 0x1D6F2, (-119601), 1⟩,
  ⟨0x1D6F3, 0x1D6F3, (-119611), 1⟩, ⟨0x1D6F4, 0x1D6FA, (-119601), 1⟩, ⟨0x1D6FB, 0x1D6FB, (-111860), 1⟩,
  ⟨0x1D6FC, 0x1D70C, (-119627), 1⟩, ⟨0x1D70D, 0x1D70D, (-119626), 1⟩, ⟨0x1D70E, 0x1D714, (-119627), 1⟩,
  ⟨0x1D715, 0x1D715, (-111891), 1⟩, ⟨0x1D716, 0x1D716, (-119649), 1⟩, ⟨0x1D717, 0x1D717, (-119647), 1⟩,
  ⟨0x1D718, 0x1D718, (-119646), 1⟩, ⟨0x1D719, 0x1D719, (-119635), 1⟩, ⟨0x1D71A, 0x1D71A, (-119641), 1⟩,
  ⟨0x1D71B, 0x1D71B, (-119643), 1⟩, ⟨0x1D71C, 0x1D72C, (-119659), 1⟩, ⟨0x1D72D, 0x1D72D, (-119669), 1⟩,
  ⟨0x1D72E, 0x1D734, (-119659), 1⟩, ⟨0x1D735, 0x1D735, (-111918), 1⟩, ⟨0x1D736, 0x1D746, (-119685), 1⟩,
  ⟨0x1D747, 0x1D747, (-119684), 1⟩, ⟨0x1D748, 0x1D74E, (-119685), 1⟩, ⟨0x1D74F, 0x1D74F, (-111949), 1⟩,
  ⟨0x1D750, 0x1D750, (-119707), 1⟩, ⟨0x1D751, 0x1D751, (-119705), 1⟩, ⟨0x1D752, 0x1D752, (-119704), 1⟩,
  ⟨0x1D753, 0x1D753, (-119693), 1⟩, ⟨0x1D754, 0x1D754, (-119699), 1⟩, ⟨0x1D755, 0x1D755, (-119701), 1⟩,
  ⟨0x1D756, 0x1D766, (-119717), 1⟩, ⟨0x1D767, 0x1D767, (-119727), 1⟩, ⟨0x1D768, 0x1D76E, (-119717), 1⟩,
  ⟨0x1D76F, 0x1D76F, (-111976), 1⟩, ⟨0x1D770, 0x1D780, (-119743), 1⟩, ⟨0x1D781, 0x1D781, (-119742), 1⟩,
  ⟨0x1D782, 0x1D788, (-119743), 1⟩, ⟨0x1D789, 0x1D789, (-112007), 1⟩, ⟨0x1D78A, 0x1D78A, (-119765), 1⟩,
  ⟨0x1D78B, 0x1D78B, (-119763), 1⟩, ⟨0x1D78C, 0x1D78C, (-119762), 1⟩, ⟨0x1D78D, 0x1D78D, (-119751), 1⟩,
  ⟨0x1D78E, 0x1D78E, (-119757), 1⟩, ⟨0x1D78F, 0x1D78F, (-119759), 1⟩, ⟨0x1D790, 0x1D7A0, (-119775), 1⟩,
  ⟨0x1D7A1, 0x1D7A1, (-119785), 1⟩, ⟨0x1D7A2, 0x1D7A8, (-119775), 1⟩, ⟨0x1D7A9, 0x1D7A9, (-112034), 1⟩,
  ⟨0x1D7AA, 0x1D7BA, (-119801), 1⟩, ⟨0x1D7BB, 0x1D7BB, (-119800), 1⟩, ⟨0x1D7BC, 0x1D7C2, (-119801), 1⟩,
  ⟨0x1D7C3, 0x1D7C3, (-112065), 1⟩, ⟨0x1D7C4, 0x1D7C4, (-119823), 1⟩, ⟨0x1D7C5, 0x1D7C5, (-119821), 1⟩,
  ⟨0x1D7C6, 0x1D7C6, (-119820), 1⟩, ⟨0x1D7C7, 0x1D7C7, (-119809), 1⟩, ⟨0x1D7C8, 0x1D7C8, (-119815), 1⟩,
  ⟨0x1D7C9, 0x1D7C9, (-119817), 1⟩, ⟨0x1D7CA, 0x1D7CA, (-119789), 1⟩, ⟨0x1D7CB, 0x1D7CB, (-119790), 1⟩,
  ⟨0x1D7CE, 0x1D7D7, (-120734), 1⟩, ⟨0x1D7D8, 0x1D7E1, (-120744), 1⟩, ⟨0x1D7E2, 0x1D7EB, (-120754), 1⟩,
  ⟨0x1D7EC, 0x1D7F5, (-120764), 1⟩, ⟨0x1D7F6, 0x1D7FF, (-120774), 1⟩, ⟨0x1E030, 0x1E038, (-121856), 1⟩,
  ⟨0x1E039, 0x1E03B, (-121855), 1⟩, ⟨0x1E03C, 0x1E046, (-121854), 1⟩, ⟨0x1E047, 0x1E047, (-121852), 1⟩,
  ⟨0x1E048, 0x1E049, (-121851), 1⟩, ⟨0x1E04A, 0x1E04A, (-80321), 1⟩, ⟨0x1E04B, 0x1E04B, (-121714), 1⟩,
  ⟨0x1E04C, 0x1E04C, (-121846), 1⟩, ⟨0x1E04D, 0x1E04D, (-121845), 1⟩, ⟨0x1E04E, 0x1E04E, (-121701), 1⟩,
  ⟨0x1E04F, 0x1E04F, (-121760), 1⟩, ⟨0x1E050, 0x1E050, (-121729), 1⟩, ⟨0x1E051, 0x1E059, (-121889), 1⟩,
  ⟨0x1E05A, 0x1E05B, (-121888), 1⟩, ⟨0x1E05C, 0x1E05D, (-121886), 1⟩, ⟨0x1E05E, 0x1E05E, (-121885), 1⟩,
  ⟨0x1E05F, 0x1E064, (-121884), 1⟩, ⟨0x1E065, 0x1E066, (-121883), 1⟩, ⟨0x1E067, 0x1E067, (-121814), 1⟩,
  ⟨0x1E068, 0x1E068, (-121874), 1⟩, ⟨0x1E069, 0x1E069, (-121876), 1⟩, ⟨0x1E06A, 0x1E06A, (-121867), 1⟩,
  ⟨0x1E06B, 0x1E06B, (-121792), 1⟩, ⟨0x1E06C, 0x1E06C, (-80411), 1⟩, ⟨0x1E06D, 0x1E06D, (-121788), 1⟩,
  ⟨0x1E900, 0x1E921, 34, 1⟩, ⟨0x1EE00, 0x1EE01, (-124889), 1⟩, ⟨0x1EE02, 0x1EE02, (-124886), 1⟩,
  ⟨0x1EE03, 0x1EE03, (-124884), 1⟩, ⟨0x1EE05, 0x1EE05, (-124861), 1⟩, ⟨0x1EE06, 0x1EE06, (-124884), 1⟩,
  ⟨0x1EE07, 0x1EE07, (-124890), 1⟩, ⟨0x1EE08, 0x1EE08, (-124881), 1⟩, ⟨0x1EE09, 0x1EE09, (-124863), 1⟩,
  ⟨0x1EE0A, 0x1EE0D, (-124871), 1⟩, ⟨0x1EE0E, 0x1EE0E, (-124891), 1⟩, ⟨0x1EE0F, 0x1EE0F, (-124886), 1⟩,
  ⟨0x1EE10, 0x1EE10, (-124879), 1⟩, ⟨0x1EE11, 0x1EE11, (-124892), 1⟩, ⟨0x1EE12, 0x1EE12, (-124880), 1⟩,
  ⟨0x1EE13, 0x1EE13, (-124898), 1⟩, ⟨0x1EE14, 0x1EE14, (-124896), 1⟩, ⟨0x1EE15, 0x1EE16, (-124907), 1⟩,
  ⟨0x1EE17, 0x1EE17, (-124905), 1⟩, ⟨0x1EE18, 0x1EE18, (-124904), 1⟩, ⟨0x1EE19, 0x1EE19, (-124899), 1⟩,
  ⟨0x1EE1A, 0x1EE1A, (-124898), 1⟩, ⟨0x1EE1B, 0x1EE1B, (-124897), 1⟩, ⟨0x1EE1C, 0x1EE1C, (-124846), 1⟩,
  ⟨0x1EE1D, 0x1EE1D, (-124771), 1⟩, ⟨0x1EE1E, 0x1EE1E, (-124797), 1⟩, ⟨0x1EE1F, 0x1EE1F, (-124848), 1⟩,
  ⟨0x1EE21, 0x1EE21, (-124921), 1⟩, ⟨0x1EE22, 0x1EE22, (-124918), 1⟩, ⟨0x1EE24, 0x1EE24, (-124893), 1⟩,
  ⟨0x1EE27, 0x1EE27, (-124922), 1⟩, ⟨0x1EE29, 0x1EE29, (-124895), 1⟩, ⟨0x1EE2A, 0x1EE2D, (-124903), 1⟩
]

/-- The mapping runs from U+1EE2E on. -/
def idnaShiftRunsFrom1EE2E : List ShiftRun := [
  ⟨0x1EE2E, 0x1EE2E, (-124923), 1⟩, ⟨0x1EE2F, 0x1EE2F, (-124918), 1⟩, ⟨0x1EE30, 0x1EE30, (-124911), 1⟩,
  ⟨0x1EE31, 0x1EE31, (-124924), 1⟩, ⟨0x1EE32, 0x1EE32, (-124912), 1⟩, ⟨0x1EE34, 0x1EE34, (-124928), 1⟩,
  ⟨0x1EE35, 0x1EE36, (-124939), 1⟩, ⟨0x1EE37, 0x1EE37, (-124937), 1⟩, ⟨0x1EE39, 0x1EE39, (-124931), 1⟩,
  ⟨0x1EE3B, 0x1EE3B, (-124929), 1⟩, ⟨0x1EE42, 0x1EE42, (-124950), 1⟩, ⟨0x1EE47, 0x1EE47, (-124954), 1⟩,
  ⟨0x1EE49, 0x1EE49, (-124927), 1⟩, ⟨0x1EE4B, 0x1EE4D, (-124935), 2⟩, ⟨0x1EE4E, 0x1EE4E, (-124955), 1⟩,
  ⟨0x1EE4F, 0x1EE4F, (-124950), 1⟩, ⟨0x1EE51, 0x1EE51, (-124956), 1⟩, ⟨0x1EE52, 0x1EE52, (-124944), 1⟩,
  ⟨0x1EE54, 0x1EE54, (-124960), 1⟩, ⟨0x1EE57, 0x1EE57, (-124969), 1⟩, ⟨0x1EE59, 0x1EE59, (-124963), 1⟩,
  ⟨0x1EE5B, 0x1EE5B, (-124961), 1⟩, ⟨0x1EE5D, 0x1EE5D, (-124835), 1⟩, ⟨0x1EE5F, 0x1EE5F, (-124912), 1⟩,
  ⟨0x1EE61, 0x1EE61, (-124985), 1⟩, ⟨0x1EE62, 0x1EE62, (-124982), 1⟩, ⟨0x1EE64, 0x1EE64, (-124957), 1⟩,
  ⟨0x1EE67, 0x1EE67, (-124986), 1⟩, ⟨0x1EE68, 0x1EE68, (-124977), 1⟩, ⟨0x1EE69, 0x1EE69, (-124959), 1⟩,
  ⟨0x1EE6A, 0x1EE6C, (-124967), 2⟩, ⟨0x1EE6D, 0x1EE6D, (-124967), 1⟩, ⟨0x1EE6E, 0x1EE6E, (-124987), 1⟩,
  ⟨0x1EE6F, 0x1EE6F, (-124982), 1⟩, ⟨0x1EE70, 0x1EE70, (-124975), 1⟩, ⟨0x1EE71, 0x1EE71, (-124988), 1⟩,
  ⟨0x1EE72, 0x1EE72, (-124976), 1⟩, ⟨0x1EE74, 0x1EE74, (-124992), 1⟩, ⟨0x1EE75, 0x1EE76, (-125003), 1⟩,
  ⟨0x1EE77, 0x1EE77, (-125001), 1⟩, ⟨0x1EE79, 0x1EE79, (-124995), 1⟩, ⟨0x1EE7A, 0x1EE7A, (-124994), 1⟩,
  ⟨0x1EE7B, 0x1EE7B, (-124993), 1⟩, ⟨0x1EE7C, 0x1EE7C, (-124942), 1⟩, ⟨0x1EE7E, 0x1EE7E, (-124893), 1⟩,
  ⟨0x1EE80, 0x1EE81, (-125017), 1⟩, ⟨0x1EE82, 0x1EE82, (-125014), 1⟩, ⟨0x1EE83, 0x1EE83, (-125012), 1⟩,
  ⟨0x1EE84, 0x1EE85, (-124989), 1⟩, ⟨0x1EE86, 0x1EE86, (-125012), 1⟩, ⟨0x1EE87, 0x1EE87, (-125018), 1⟩,
  ⟨0x1EE88, 0x1EE88, (-125009), 1⟩, ⟨0x1EE89, 0x1EE89, (-124991), 1⟩, ⟨0x1EE8B, 0x1EE8D, (-124999), 1⟩,
  ⟨0x1EE8E, 0x1EE8E, (-125019), 1⟩, ⟨0x1EE8F, 0x1EE8F, (-125014), 1⟩, ⟨0x1EE90, 0x1EE90, (-125007), 1⟩,
  ⟨0x1EE91, 0x1EE91, (-125020), 1⟩, ⟨0x1EE92, 0x1EE92, (-125008), 1⟩, ⟨0x1EE93, 0x1EE93, (-125026), 1⟩,
  ⟨0x1EE94, 0x1EE94, (-125024), 1⟩, ⟨0x1EE95, 0x1EE96, (-125035), 1⟩, ⟨0x1EE97, 0x1EE97, (-125033), 1⟩,
  ⟨0x1EE98, 0x1EE98, (-125032), 1⟩, ⟨0x1EE99, 0x1EE99, (-125027), 1⟩, ⟨0x1EE9A, 0x1EE9A, (-125026), 1⟩,
  ⟨0x1EE9B, 0x1EE9B, (-125025), 1⟩, ⟨0x1EEA1, 0x1EEA1, (-125049), 1⟩, ⟨0x1EEA2, 0x1EEA2, (-125046), 1⟩,
  ⟨0x1EEA3, 0x1EEA3, (-125044), 1⟩, ⟨0x1EEA5, 0x1EEA5, (-125021), 1⟩, ⟨0x1EEA6, 0x1EEA6, (-125044), 1⟩,
  ⟨0x1EEA7, 0x1EEA7, (-125050), 1⟩, ⟨0x1EEA8, 0x1EEA8, (-125041), 1⟩, ⟨0x1EEA9, 0x1EEA9, (-125023), 1⟩,
  ⟨0x1EEAB, 0x1EEAD, (-125031), 1⟩, ⟨0x1EEAE, 0x1EEAE, (-125051), 1⟩, ⟨0x1EEAF, 0x1EEAF, (-125046), 1⟩,
  ⟨0x1EEB0, 0x1EEB0, (-125039), 1⟩, ⟨0x1EEB1, 0x1EEB1, (-125052), 1⟩, ⟨0x1EEB2, 0x1EEB2, (-125040), 1⟩,
  ⟨0x1EEB3, 0x1EEB3, (-125058), 1⟩, ⟨0x1EEB4, 0x1EEB4, (-125056), 1⟩, ⟨0x1EEB5, 0x1EEB6, (-125067), 1⟩,
  ⟨0x1EEB7, 0x1EEB7, (-125065), 1⟩, ⟨0x1EEB8, 0x1EEB8, (-125064), 1⟩, ⟨0x1EEB9, 0x1EEB9, (-125059), 1⟩,
  ⟨0x1EEBA, 0x1EEBA, (-125058), 1⟩, ⟨0x1EEBB, 0x1EEBB, (-125057), 1⟩, ⟨0x1F12B, 0x1F12B, (-127176), 1⟩,
  ⟨0x1F12C, 0x1F12C, (-127162), 1⟩, ⟨0x1F130, 0x1F149, (-127183), 1⟩, ⟨0x1F202, 0x1F202, (-115021), 1⟩,
  ⟨0x1F210, 0x1F210, (-102341), 1⟩, ⟨0x1F211, 0x1F211, (-104122), 1⟩, ⟨0x1F212, 0x1F212, (-106054), 1⟩,
  ⟨0x1F213, 0x1F213, (-115020), 1⟩, ⟨0x1F214, 0x1F214, (-107400), 1⟩, ⟨0x1F215, 0x1F215, (-104699), 1⟩,
  ⟨0x1F216, 0x1F216, (-92211), 1⟩, ⟨0x1F217, 0x1F217, (-104686), 1⟩, ⟨0x1F218, 0x1F218, (-107380), 1⟩,
  ⟨0x1F219, 0x1F219, (-101369), 1⟩, ⟨0x1F21A, 0x1F21A, (-98553), 1⟩, ⟨0x1F21B, 0x1F21B, (-101506), 1⟩,
  ⟨0x1F21C, 0x1F21C, (-106447), 1⟩, ⟨0x1F21D, 0x1F21D, (-103057), 1⟩, ⟨0x1F21E, 0x1F21E, (-106641), 1⟩,
  ⟨0x1F21F, 0x1F21F, (-101487), 1⟩, ⟨0x1F220, 0x1F220, (-106499), 1⟩, ⟨0x1F221, 0x1F221, (-95455), 1⟩,
  ⟨0x1F222, 0x1F222, (-97539), 1⟩, ⟨0x1F223, 0x1F223, (-91514), 1⟩, ⟨0x1F224, 0x1F224, (-104756), 1⟩,
  ⟨0x1F225, 0x1F225, (-105964), 1⟩, ⟨0x1F226, 0x1F226, (-99090), 1⟩, ⟨0x1F227, 0x1F227, (-102290), 1⟩,
  ⟨0x1F228, 0x1F228, (-102099), 1⟩, ⟨0x1F229, 0x1F229, (-107561), 1⟩, ⟨0x1F22A, 0x1F22A, (-107553), 1⟩,
  ⟨0x1F22B, 0x1F22B, (-90593), 1⟩, ⟨0x1F22C, 0x1F22C, (-103494), 1⟩, ⟨0x1F22D, 0x1F22D, (-107520), 1⟩,
  ⟨0x1F22E, 0x1F22E, (-106043), 1⟩, ⟨0x1F22F, 0x1F22F, (-102184), 1⟩, ⟨0x1F230, 0x1F230, (-91328), 1⟩,
  ⟨0x1F231, 0x1F231, (-102366), 1⟩, ⟨0x1F232, 0x1F232, (-96433), 1⟩, ⟨0x1F233, 0x1F233, (-96185), 1⟩,
  ⟨0x1F234, 0x1F234, (-106028), 1⟩, ⟨0x1F235, 0x1F235, (-99253), 1⟩, ⟨0x1F236, 0x1F236, (-101165), 1⟩,
  ⟨0x1F237, 0x1F237, (-101167), 1⟩, ⟨0x1F238, 0x1F238, (-97541), 1⟩, ⟨0x1F239, 0x1F239, (-106439), 1⟩,
  ⟨0x1F23A, 0x1F23A, (-105604), 1⟩, ⟨0x1F23B, 0x1F23B, (-90350), 1⟩, ⟨0x1F250, 0x1F250, (-103097), 1⟩,
  ⟨0x1F251, 0x1F251, (-106082), 1⟩, ⟨0x1FBF0, 0x1FBF9, (-129984), 1⟩, ⟨0x2F800, 0x2F800, (-174531), 1⟩,
  ⟨0x2F801, 0x2F801, (-174537), 1⟩, ⟨0x2F802, 0x2F802, (-174529), 1⟩, ⟨0x2F803, 0x2F803, (-63201), 1⟩,
  ⟨0x2F804, 0x2F804, (-174244), 1⟩, ⟨0x2F805, 0x2F805, (-174167), 1⟩, ⟨0x2F806, 0x2F806, (-174155), 1⟩,
  ⟨0x2F807, 0x2F807, (-174085), 1⟩, ⟨0x2F808, 0x2F808, (-173966), 1⟩, ⟨0x2F809, 0x2F809, (-173936), 1⟩,
  ⟨0x2F80A, 0x2F80A, (-173859), 1⟩, ⟨0x2F80B, 0x2F80B, (-173884), 1⟩, ⟨0x2F80C, 0x2F80C, (-181102), 1⟩,
  ⟨0x2F80D, 0x2F80D, (-61907), 1⟩, ⟨0x2F80E, 0x2F80E, (-173761), 1⟩, ⟨0x2F80F, 0x2F80F, (-173755), 1⟩,
  ⟨0x2F810, 0x2F810, (-173740), 1⟩, ⟨0x2F811, 0x2F811, (-173722), 1⟩, ⟨0x2F812, 0x2F812, (-62198), 1⟩,
  ⟨0x2F813, 0x2F813, (-181082), 1⟩, ⟨0x2F814, 0x2F814, (-173741), 1⟩, ⟨0x2F815, 0x2F815, (-173704), 1⟩,
  ⟨0x2F816, 0x2F816, (-62155), 1⟩, ⟨0x2F817, 0x2F817, (-173696), 1⟩, ⟨0x2F818, 0x2F818, (-173684), 1⟩,
  ⟨0x2F819, 0x2F819, (-174413), 1⟩, ⟨0x2F81A, 0x2F81A, (-173678), 1⟩, ⟨0x2F81B, 0x2F81B, (-173670), 1⟩,
  ⟨0x2F81C, 0x2F81C, (-26173), 1⟩, ⟨0x2F81D, 0x2F81D, (-173608), 1⟩, ⟨0x2F81E, 0x2F81E, (-173595), 1⟩,
  ⟨0x2F81F, 0x2F81F, (-181056), 1⟩, ⟨0x2F820, 0x2F820, (-173541), 1⟩, ⟨0x2F821, 0x2F821, (-173531), 1⟩,
  ⟨0x2F822, 0x2F822, (-173488), 1⟩, ⟨0x2F823, 0x2F823, (-173484), 1⟩, ⟨0x2F824, 0x2F824, (-181007), 1⟩,
  ⟨0x2F825, 0x2F825, (-173406), 1⟩, ⟨0x2F826, 0x2F826, (-173405), 1⟩, ⟨0x2F827, 0x2F827, (-173379), 1⟩,
  ⟨0x2F828, 0x2F828, (-173358), 1⟩, ⟨0x2F829, 0x2F82A, (-173348), 1⟩, ⟨0x2F82B, 0x2F82B, (-173332), 1⟩,
  ⟨0x2F82C, 0x2F82C, (-173283), 1⟩, ⟨0x2F82D, 0x2F82D, (-173276), 1⟩, ⟨0x2F82E, 0x2F82E, (-173268), 1⟩,
  ⟨0x2F82F, 0x2F82F, (-173244), 1⟩, ⟨0x2F830, 0x2F830, (-173235), 1⟩, ⟨0x2F831, 0x2F831, (-173234), 1⟩,
  ⟨0x2F832, 0x2F832, (-173235), 1⟩, ⟨0x2F833, 0x2F833, (-173236), 1⟩, ⟨0x2F834, 0x2F834, (-60936), 1⟩,
  ⟨0x2F835, 0x2F835, (-165829), 1⟩, ⟨0x2F836, 0x2F836, (-173164), 1⟩, ⟨0x2F837, 0x2F837, (-173144), 1⟩,
  ⟨0x2F838, 0x2F838, (-60629), 1⟩, ⟨0x2F839, 0x2F839, (-173134), 1⟩, ⟨0x2F83A, 0x2F83A, (-173129), 1⟩,
  ⟨0x2F83B, 0x2F83B, (-173109), 1⟩, ⟨0x2F83C, 0x2F83C, (-172958), 1⟩, ⟨0x2F83D, 0x2F83D, (-173061), 1⟩,
  ⟨0x2F83E, 0x2F83E, (-173046), 1⟩, ⟨0x2F83F, 0x2F83F, (-173015), 1⟩, ⟨0x2F840, 0x2F840, (-172958), 1⟩,
  ⟨0x2F841, 0x2F841, (-172875), 1⟩, ⟨0x2F842, 0x2F842, (-172850), 1⟩, ⟨0x2F843, 0x2F843, (-172784), 1⟩,
  ⟨0x2F844, 0x2F844, (-172769), 1⟩, ⟨0x2F845, 0x2F845, (-172737), 1⟩, ⟨0x2F846, 0x2F846, (-172738), 1⟩,
  ⟨0x2F847, 0x2F847, (-172718), 1⟩, ⟨0x2F848, 0x2F848, (-172701), 1⟩, ⟨0x2F849, 0x2F849, (-172694), 1⟩,
  ⟨0x2F84A, 0x2F84A, (-172680), 1⟩, ⟨0x2F84B, 0x2F84B, (-172341), 1⟩, ⟨0x2F84C, 0x2F84C, (-172614), 1⟩,
  ⟨0x2F84D, 0x2F84D, (-172342), 1⟩, ⟨0x2F84E, 0x2F84E, (-172541), 1⟩, ⟨0x2F84F, 0x2F84F, (-172507), 1⟩,
  ⟨0x2F850, 0x2F850, (-173641), 1⟩, ⟨0x2F851, 0x2F851, (-171875), 1⟩, ⟨0x2F852, 0x2F852, (-172164), 1⟩,
  ⟨0x2F853, 0x2F853, (-172127), 1⟩, ⟨0x2F854, 0x2F854, (-172103), 1⟩, ⟨0x2F855, 0x2F855, (-172234), 1⟩,
  ⟨0x2F856, 0x2F856, (-172068), 1⟩, ⟨0x2F857, 0x2F857, (-172070), 1⟩, ⟨0x2F858, 0x2F858, (-171948), 1⟩,
  ⟨0x2F859, 0x2F859, (-58229), 1⟩, ⟨0x2F85A, 0x2F85A, (-171880), 1⟩, ⟨0x2F85B, 0x2F85B, (-171876), 1⟩,
  ⟨0x2F85C, 0x2F85C, (-171862), 1⟩, ⟨0x2F85D, 0x2F85D, (-171843), 1⟩, ⟨0x2F85E, 0x2F85E, (-171836), 1⟩,
  ⟨0x2F85F, 0x2F85F, (-171773), 1⟩, ⟨0x2F860, 0x2F860, (-57784), 1⟩, ⟨0x2F861, 0x2F861, (-57719), 1⟩,
  ⟨0x2F862, 0x2F862, (-171638), 1⟩, ⟨0x2F863, 0x2F863, (-171592), 1⟩, ⟨0x2F864, 0x2F864, (-171581), 1⟩,
  ⟨0x2F865, 0x2F865, (-171661), 1⟩, ⟨0x2F866, 0x2F866, (-171520), 1⟩, ⟨0x2F867, 0x2F867, (-180601), 1⟩,
  ⟨0x2F868, 0x2F868, (-180588), 1⟩, ⟨0x2F869, 0x2F869, (-171361), 1⟩, ⟨0x2F86A, 0x2F86A, (-171308), 1⟩,
  ⟨0x2F86B, 0x2F86B, (-171309), 1⟩, ⟨0x2F86C, 0x2F86C, (-56996), 1⟩, ⟨0x2F86D, 0x2F86D, (-171178), 1⟩,
  ⟨0x2F86E, 0x2F86E, (-171158), 1⟩, ⟨0x2F86F, 0x2F86F, (-171144), 1⟩, ⟨0x2F870, 0x2F870, (-171133), 1⟩,
  ⟨0x2F871, 0x2F871, (-56665), 1⟩, ⟨0x2F872, 0x2F872, (-171123), 1⟩, ⟨0x2F873, 0x2F873, (-171117), 1⟩,
  ⟨0x2F874, 0x2F874, (-170273), 1⟩, ⟨0x2F875, 0x2F875, (-171091), 1⟩, ⟨0x2F876, 0x2F876, (-180469), 1⟩,
  ⟨0x2F877, 0x2F877, (-171031), 1⟩, ⟨0x2F878, 0x2F878, (-171018), 1⟩, ⟨0x2F879, 0x2F879, (-170937), 1⟩,
  ⟨0x2F87A, 0x2F87A, (-170989), 1⟩, ⟨0x2F87B, 0x2F87B, (-55959), 1⟩, ⟨0x2F87C, 0x2F87C, (-170809), 1⟩,
  ⟨0x2F87D, 0x2F87D, (-55959), 1⟩, ⟨0x2F87E, 0x2F87E, (-170768), 1⟩, ⟨0x2F87F, 0x2F87F, (-170772), 1⟩,
  ⟨0x2F880, 0x2F880, (-170756), 1⟩, ⟨0x2F881, 0x2F882, (-170656), 1⟩, ⟨0x2F883, 0x2F883, (-180308), 1⟩,
  ⟨0x2F884, 0x2F884, (-170631), 1⟩, ⟨0x2F885, 0x2F885, (-170589), 1⟩, ⟨0x2F886, 0x2F886, (-170569), 1⟩,
  ⟨0x2F887, 0x2F887, (-170526), 1⟩, ⟨0x2F888, 0x2F888, (-180262), 1⟩, ⟨0x2F889, 0x2F889, (-55046), 1⟩,
  ⟨0x2F88A, 0x2F88A, (-180238), 1⟩, ⟨0x2F88B, 0x2F88B, (-170459), 1⟩, ⟨0x2F88C, 0x2F88C, (-170457), 1⟩,
  ⟨0x2F88D, 0x2F88D, (-170455), 1⟩, ⟨0x2F88E, 0x2F88E, (-170436), 1⟩, ⟨0x2F88F, 0x2F88F, (-21757), 1⟩,
  ⟨0x2F890, 0x2F890, (-170386), 1⟩, ⟨0x2F891, 0x2F891, (-54624), 1⟩, ⟨0x2F892, 0x2F892, (-54625), 1⟩,
  ⟨0x2F893, 0x2F893, (-161426), 1⟩, ⟨0x2F894, 0x2F894, (-170354), 1⟩, ⟨0x2F895, 0x2F895, (-170355), 1⟩,
  ⟨0x2F896, 0x2F896, (-180175), 1⟩, ⟨0x2F897, 0x2F897, (-50655), 1⟩, ⟨0x2F898, 0x2F898, (-38590), 1⟩,
  ⟨0x2F899, 0x2F899, (-170295), 1⟩, ⟨0x2F89A, 0x2F89A, (-170287), 1⟩, ⟨0x2F89B, 0x2F89B, (-180152), 1⟩,
  ⟨0x2F89C, 0x2F89C, (-170242), 1⟩, ⟨0x2F89D, 0x2F89D, (-170192), 1⟩, ⟨0x2F89E, 0x2F89E, (-170183), 1⟩,
  ⟨0x2F89F, 0x2F89F, (-170150), 1⟩, ⟨0x2F8A0, 0x2F8A0, (-170015), 1⟩, ⟨0x2F8A1, 0x2F8A1, (-180071), 1⟩,
  ⟨0x2F8A2, 0x2F8A2, (-180102), 1⟩, ⟨0x2F8A3, 0x2F8A3, (-169999), 1⟩, ⟨0x2F8A4, 0x2F8A4, (-53712), 1⟩,
  ⟨0x2F8A5, 0x2F8A5, (-169950), 1⟩, ⟨0x2F8A6, 0x2F8A6, (-169822), 1⟩, ⟨0x2F8A7, 0x2F8A7, (-169819), 1⟩,
  ⟨0x2F8A8, 0x2F8A8, (-169818), 1⟩, ⟨0x2F8A9, 0x2F8A9, (-169821), 1⟩, ⟨0x2F8AA, 0x2F8AA, (-169776), 1⟩,
  ⟨0x2F8AB, 0x2F8AB, (-169757), 1⟩, ⟨0x2F8AC, 0x2F8AC, (-169722), 1⟩, ⟨0x2F8AD, 0x2F8AD, (-169737), 1⟩,
  ⟨0x2F8AE, 0x2F8AE, (-169727), 1⟩, ⟨0x2F8AF, 0x2F8AF, (-169681), 1⟩, ⟨0x2F8B0, 0x2F8B0, (-169662), 1⟩,
  ⟨0x2F8B1, 0x2F8B1, (-169659), 1⟩, ⟨0x2F8B2, 0x2F8B2, (-169634), 1⟩, ⟨0x2F8B3, 0x2F8B3, (-169624), 1⟩,
  ⟨0x2F8B4, 0x2F8B4, (-169559), 1⟩, ⟨0x2F8B5, 0x2F8B5, (-169476), 1⟩, ⟨0x2F8B6, 0x2F8B6, (-169442), 1⟩,
  ⟨0x2F8B7, 0x2F8B7, (-169319), 1⟩, ⟨0x2F8B8, 0x2F8B8, (-52652), 1⟩, ⟨0x2F8B9, 0x2F8B9, (-169340), 1⟩,
  ⟨0x2F8BA, 0x2F8BA, (-169406), 1⟩, ⟨0x2F8BB, 0x2F8BB, (-169299), 1⟩, ⟨0x2F8BC, 0x2F8BC, (-169273), 1⟩,
  ⟨0x2F8BD, 0x2F8BD, (-169177), 1⟩, ⟨0x2F8BE, 0x2F8BE, (-52429), 1⟩, ⟨0x2F8BF, 0x2F8BF, (-169117), 1⟩,
  ⟨0x2F8C0, 0x2F8C0, (-169211), 1⟩, ⟨0x2F8C1, 0x2F8C1, (-169240), 1⟩, ⟨0x2F8C2, 0x2F8C2, (-179860), 1⟩,
  ⟨0x2F8C3, 0x2F8C3, (-169050), 1⟩, ⟨0x2F8C4, 0x2F8C4, (-169030), 1⟩, ⟨0x2F8C5, 0x2F8C5, (-169000), 1⟩,
  ⟨0x2F8C6, 0x2F8C6, (-169039), 1⟩, ⟨0x2F8C7, 0x2F8C7, (-179803), 1⟩, ⟨0x2F8C8, 0x2F8C8, (-168825), 1⟩,
  ⟨0x2F8C9, 0x2F8C9, (-168797), 1⟩, ⟨0x2F8CA, 0x2F8CA, (-51392), 1⟩, ⟨0x2F8CB, 0x2F8CB, (-168680), 1⟩,
  ⟨0x2F8CC, 0x2F8CC, (-168404), 1⟩, ⟨0x2F8CD, 0x2F8CD, (-168580), 1⟩, ⟨0x2F8CE, 0x2F8CE, (-179637), 1⟩,
  ⟨0x2F8CF, 0x2F8CF, (-168510), 1⟩, ⟨0x2F8D0, 0x2F8D0, (-179656), 1⟩, ⟨0x2F8D1, 0x2F8D1, (-179693), 1⟩,
  ⟨0x2F8D2, 0x2F8D2, (-173888), 1⟩, ⟨0x2F8D3, 0x2F8D3, (-173886), 1⟩, ⟨0x2F8D4, 0x2F8D4, (-168404), 1⟩,
  ⟨0x2F8D5, 0x2F8D5, (-168505), 1⟩, ⟨0x2F8D6, 0x2F8D6, (-161833), 1⟩, ⟨0x2F8D7, 0x2F8D7, (-177406), 1⟩,
  ⟨0x2F8D8, 0x2F8D8, (-168385), 1⟩, ⟨0x2F8D9, 0x2F8D9, (-168382), 1⟩, ⟨0x2F8DA, 0x2F8DA, (-168377), 1⟩,
  ⟨0x2F8DB, 0x2F8DB, (-168317), 1⟩, ⟨0x2F8DC, 0x2F8DC, (-168329), 1⟩, ⟨0x2F8DD, 0x2F8DD, (-50458), 1⟩
]

/-- The mapping runs from U+2F8DE on. -/
def idnaShiftRunsFrom2F8DE : List ShiftRun := [
  ⟨0x2F8DE, 0x2F8DE, (-179605), 1⟩, ⟨0x2F8DF, 0x2F8DF, (-168165), 1⟩, ⟨0x2F8E0, 0x2F8E0, (-168283), 1⟩,
  ⟨0x2F8E1, 0x2F8E1, (-168079), 1⟩, ⟨0x2F8E2, 0x2F8E2, (-168029), 1⟩, ⟨0x2F8E3, 0x2F8E3, (-50294), 1⟩,
  ⟨0x2F8E4, 0x2F8E4, (-168022), 1⟩, ⟨0x2F8E5, 0x2F8E5, (-168134), 1⟩, ⟨0x2F8E6, 0x2F8E6, (-167890), 1⟩,
  ⟨0x2F8E7, 0x2F8E7, (-179530), 1⟩, ⟨0x2F8E8, 0x2F8E8, (-167846), 1⟩, ⟨0x2F8E9, 0x2F8E9, (-167750), 1⟩,
  ⟨0x2F8EA, 0x2F8EA, (-167680), 1⟩, ⟨0x2F8EB, 0x2F8EB, (-167491), 1⟩, ⟨0x2F8EC, 0x2F8EC, (-49737), 1⟩,
  ⟨0x2F8ED, 0x2F8ED, (-167442), 1⟩, ⟨0x2F8EE, 0x2F8EE, (-179414), 1⟩, ⟨0x2F8EF, 0x2F8EF, (-167374), 1⟩,
  ⟨0x2F8F0, 0x2F8F0, (-49225), 1⟩, ⟨0x2F8F1, 0x2F8F1, (-167325), 1⟩, ⟨0x2F8F2, 0x2F8F2, (-179364), 1⟩,
  ⟨0x2F8F3, 0x2F8F3, (-167297), 1⟩, ⟨0x2F8F4, 0x2F8F4, (-167253), 1⟩, ⟨0x2F8F5, 0x2F8F6, (-167227), 1⟩,
  ⟨0x2F8F7, 0x2F8F7, (-48746), 1⟩, ⟨0x2F8F8, 0x2F8F8, (-56301), 1⟩, ⟨0x2F8F9, 0x2F8F9, (-48639), 1⟩,
  ⟨0x2F8FA, 0x2F8FA, (-167084), 1⟩, ⟨0x2F8FB, 0x2F8FB, (-48191), 1⟩, ⟨0x2F8FC, 0x2F8FC, (-166973), 1⟩,
  ⟨0x2F8FD, 0x2F8FD, (-166960), 1⟩, ⟨0x2F8FE, 0x2F8FE, (-167063), 1⟩, ⟨0x2F8FF, 0x2F8FF, (-166889), 1⟩,
  ⟨0x2F900, 0x2F900, (-166850), 1⟩, ⟨0x2F901, 0x2F901, (-166794), 1⟩, ⟨0x2F902, 0x2F902, (-166849), 1⟩,
  ⟨0x2F903, 0x2F903, (-166810), 1⟩, ⟨0x2F904, 0x2F904, (-166796), 1⟩, ⟨0x2F905, 0x2F905, (-166784), 1⟩,
  ⟨0x2F906, 0x2F906, (-48104), 1⟩, ⟨0x2F907, 0x2F907, (-166867), 1⟩, ⟨0x2F908, 0x2F908, (-166617), 1⟩,
  ⟨0x2F909, 0x2F909, (-166555), 1⟩, ⟨0x2F90A, 0x2F90A, (-179159), 1⟩, ⟨0x2F90B, 0x2F90B, (-166464), 1⟩,
  ⟨0x2F90C, 0x2F90C, (-166469), 1⟩, ⟨0x2F90D, 0x2F90D, (-47676), 1⟩, ⟨0x2F90E, 0x2F90E, (-166677), 1⟩,
  ⟨0x2F90F, 0x2F90F, (-166305), 1⟩, ⟨0x2F910, 0x2F910, (-47538), 1⟩, ⟨0x2F911, 0x2F911, (-47491), 1⟩,
  ⟨0x2F912, 0x2F912, (-166220), 1⟩, ⟨0x2F913, 0x2F913, (-166106), 1⟩, ⟨0x2F914, 0x2F914, (-166134), 1⟩,
  ⟨0x2F915, 0x2F915, (-166138), 1⟩, ⟨0x2F916, 0x2F916, (-179072), 1⟩, ⟨0x2F917, 0x2F917, (-166093), 1⟩,
  ⟨0x2F918, 0x2F918, (-166043), 1⟩, ⟨0x2F919, 0x2F919, (-166050), 1⟩, ⟨0x2F91A, 0x2F91A, (-165997), 1⟩,
  ⟨0x2F91B, 0x2F91B, (-62454), 1⟩, ⟨0x2F91C, 0x2F91C, (-165847), 1⟩, ⟨0x2F91D, 0x2F91D, (-46778), 1⟩,
  ⟨0x2F91E, 0x2F91E, (-165762), 1⟩, ⟨0x2F91F, 0x2F91F, (-46452), 1⟩, ⟨0x2F920, 0x2F920, (-165624), 1⟩,
  ⟨0x2F921, 0x2F921, (-165612), 1⟩, ⟨0x2F922, 0x2F922, (-165586), 1⟩, ⟨0x2F923, 0x2F923, (-45851), 1⟩,
  ⟨0x2F924, 0x2F924, (-165540), 1⟩, ⟨0x2F925, 0x2F925, (-165520), 1⟩, ⟨0x2F926, 0x2F926, (-45553), 1⟩,
  ⟨0x2F927, 0x2F927, (-45331), 1⟩, ⟨0x2F928, 0x2F928, (-165294), 1⟩, ⟨0x2F929, 0x2F929, (-165278), 1⟩,
  ⟨0x2F92A, 0x2F92A, (-178814), 1⟩, ⟨0x2F92B, 0x2F92B, (-165254), 1⟩, ⟨0x2F92C, 0x2F92C, (-178804), 1⟩,
  ⟨0x2F92D, 0x2F92D, (-178805), 1⟩, ⟨0x2F92E, 0x2F92E, (-165095), 1⟩, ⟨0x2F92F, 0x2F92F, (-165075), 1⟩,
  ⟨0x2F930, 0x2F930, (-165055), 1⟩, ⟨0x2F931, 0x2F931, (-165036), 1⟩, ⟨0x2F932, 0x2F932, (-164968), 1⟩,
  ⟨0x2F933, 0x2F933, (-178712), 1⟩, ⟨0x2F934, 0x2F934, (-164880), 1⟩, ⟨0x2F935, 0x2F935, (-44287), 1⟩,
  ⟨0x2F936, 0x2F936, (-164856), 1⟩, ⟨0x2F937, 0x2F937, (-44197), 1⟩, ⟨0x2F938, 0x2F938, (-164808), 1⟩,
  ⟨0x2F939, 0x2F939, (-55194), 1⟩, ⟨0x2F93A, 0x2F93A, (-164650), 1⟩, ⟨0x2F93B, 0x2F93B, (-43418), 1⟩,
  ⟨0x2F93C, 0x2F93C, (-43396), 1⟩, ⟨0x2F93D, 0x2F93D, (-43257), 1⟩, ⟨0x2F93E, 0x2F93E, (-178498), 1⟩,
  ⟨0x2F93F, 0x2F93F, (-178487), 1⟩, ⟨0x2F940, 0x2F940, (-164428), 1⟩, ⟨0x2F941, 0x2F941, (-43086), 1⟩,
  ⟨0x2F942, 0x2F942, (-43088), 1⟩, ⟨0x2F943, 0x2F943, (-43050), 1⟩, ⟨0x2F944, 0x2F944, (-43025), 1⟩,
  ⟨0x2F945, 0x2F946, (-164391), 1⟩, ⟨0x2F947, 0x2F947, (-164392), 1⟩, ⟨0x2F948, 0x2F948, (-164350), 1⟩,
  ⟨0x2F949, 0x2F949, (-178448), 1⟩, ⟨0x2F94A, 0x2F94A, (-164287), 1⟩, ⟨0x2F94B, 0x2F94B, (-178437), 1⟩,
  ⟨0x2F94C, 0x2F94C, (-178358), 1⟩, ⟨0x2F94D, 0x2F94D, (-42288), 1⟩, ⟨0x2F94E, 0x2F94E, (-164096), 1⟩,
  ⟨0x2F94F, 0x2F94F, (-164035), 1⟩, ⟨0x2F950, 0x2F950, (-163972), 1⟩, ⟨0x2F951, 0x2F951, (-178286), 1⟩,
  ⟨0x2F952, 0x2F952, (-41772), 1⟩, ⟨0x2F953, 0x2F953, (-163837), 1⟩, ⟨0x2F954, 0x2F954, (-41658), 1⟩,
  ⟨0x2F955, 0x2F955, (-41616), 1⟩, ⟨0x2F956, 0x2F956, (-163783), 1⟩, ⟨0x2F957, 0x2F957, (-163692), 1⟩,
  ⟨0x2F958, 0x2F958, (-178217), 1⟩, ⟨0x2F959, 0x2F959, (-163609), 1⟩, ⟨0x2F95A, 0x2F95A, (-163600), 1⟩,
  ⟨0x2F95B, 0x2F95B, (-163596), 1⟩, ⟨0x2F95C, 0x2F95C, (-40928), 1⟩, ⟨0x2F95D, 0x2F95D, (-40630), 1⟩,
  ⟨0x2F95E, 0x2F95E, (-40631), 1⟩, ⟨0x2F95F, 0x2F95F, (-163441), 1⟩, ⟨0x2F960, 0x2F960, (-178014), 1⟩,
  ⟨0x2F961, 0x2F961, (-40374), 1⟩, ⟨0x2F962, 0x2F962, (-163228), 1⟩, ⟨0x2F963, 0x2F963, (-163226), 1⟩,
  ⟨0x2F964, 0x2F964, (-177981), 1⟩, ⟨0x2F965, 0x2F965, (-40165), 1⟩, ⟨0x2F966, 0x2F966, (-162964), 1⟩,
  ⟨0x2F967, 0x2F967, (-177863), 1⟩, ⟨0x2F968, 0x2F968, (-162944), 1⟩, ⟨0x2F969, 0x2F969, (-162950), 1⟩,
  ⟨0x2F96A, 0x2F96A, (-162922), 1⟩, ⟨0x2F96B, 0x2F96B, (-39397), 1⟩, ⟨0x2F96C, 0x2F96C, (-162825), 1⟩,
  ⟨0x2F96D, 0x2F96D, (-177772), 1⟩, ⟨0x2F96E, 0x2F96E, (-162727), 1⟩, ⟨0x2F96F, 0x2F96F, (-162669), 1⟩,
  ⟨0x2F970, 0x2F970, (-162603), 1⟩, ⟨0x2F971, 0x2F971, (-177725), 1⟩, ⟨0x2F972, 0x2F972, (-38730), 1⟩,
  ⟨0x2F973, 0x2F973, (-38700), 1⟩, ⟨0x2F974, 0x2F974, (-177691), 1⟩, ⟨0x2F975, 0x2F975, (-38556), 1⟩,
  ⟨0x2F976, 0x2F976, (-162300), 1⟩, ⟨0x2F977, 0x2F977, (-38457), 1⟩, ⟨0x2F978, 0x2F978, (-162275), 1⟩,
  ⟨0x2F979, 0x2F979, (-162175), 1⟩, ⟨0x2F97A, 0x2F97A, (-162165), 1⟩, ⟨0x2F97B, 0x2F97B, (-38049), 1⟩,
  ⟨0x2F97C, 0x2F97C, (-37977), 1⟩, ⟨0x2F97D, 0x2F97D, (-162077), 1⟩, ⟨0x2F97E, 0x2F97E, (-37846), 1⟩,
  ⟨0x2F97F, 0x2F97F, (-162063), 1⟩, ⟨0x2F980, 0x2F980, (-50721), 1⟩, ⟨0x2F981, 0x2F981, (-177580), 1⟩,
  ⟨0x2F982, 0x2F982, (-162000), 1⟩, ⟨0x2F983, 0x2F983, (-161920), 1⟩, ⟨0x2F984, 0x2F984, (-177529), 1⟩,
  ⟨0x2F985, 0x2F985, (-161863), 1⟩, ⟨0x2F986, 0x2F986, (-171729), 1⟩, ⟨0x2F987, 0x2F987, (-37344), 1⟩,
  ⟨0x2F988, 0x2F988, (-37331), 1⟩, ⟨0x2F989, 0x2F989, (-50678), 1⟩, ⟨0x2F98A, 0x2F98A, (-50670), 1⟩,
  ⟨0x2F98B, 0x2F98B, (-161674), 1⟩, ⟨0x2F98C, 0x2F98C, (-161672), 1⟩, ⟨0x2F98D, 0x2F98D, (-158191), 1⟩,
  ⟨0x2F98E, 0x2F98E, (-177443), 1⟩, ⟨0x2F98F, 0x2F98F, (-161534), 1⟩, ⟨0x2F990, 0x2F990, (-161541), 1⟩,
  ⟨0x2F991, 0x2F991, (-161524), 1⟩, ⟨0x2F992, 0x2F992, (-173791), 1⟩, ⟨0x2F993, 0x2F993, (-161506), 1⟩,
  ⟨0x2F994, 0x2F994, (-161505), 1⟩, ⟨0x2F995, 0x2F995, (-161496), 1⟩, ⟨0x2F996, 0x2F996, (-161456), 1⟩,
  ⟨0x2F997, 0x2F997, (-36443), 1⟩, ⟨0x2F998, 0x2F998, (-161459), 1⟩, ⟨0x2F999, 0x2F999, (-161404), 1⟩,
  ⟨0x2F99A, 0x2F99A, (-161335), 1⟩, ⟨0x2F99B, 0x2F99B, (-161262), 1⟩, ⟨0x2F99C, 0x2F99C, (-161401), 1⟩,
  ⟨0x2F99D, 0x2F99D, (-161248), 1⟩, ⟨0x2F99E, 0x2F99E, (-161207), 1⟩, ⟨0x2F99F, 0x2F99F, (-161096), 1⟩,
  ⟨0x2F9A0, 0x2F9A0, (-161357), 1⟩, ⟨0x2F9A1, 0x2F9A1, (-161239), 1⟩, ⟨0x2F9A2, 0x2F9A2, (-161238), 1⟩,
  ⟨0x2F9A3, 0x2F9A3, (-161223), 1⟩, ⟨0x2F9A4, 0x2F9A4, (-36206), 1⟩, ⟨0x2F9A5, 0x2F9A5, (-35898), 1⟩,
  ⟨0x2F9A6, 0x2F9A6, (-36049), 1⟩, ⟨0x2F9A7, 0x2F9A7, (-177276), 1⟩, ⟨0x2F9A8, 0x2F9A8, (-160951), 1⟩,
  ⟨0x2F9A9, 0x2F9A9, (-160950), 1⟩, ⟨0x2F9AA, 0x2F9AA, (-160916), 1⟩, ⟨0x2F9AB, 0x2F9AB, (-34273), 1⟩,
  ⟨0x2F9AC, 0x2F9AC, (-160840), 1⟩, ⟨0x2F9AD, 0x2F9AD, (-35457), 1⟩, ⟨0x2F9AE, 0x2F9AE, (-177233), 1⟩,
  ⟨0x2F9AF, 0x2F9AF, (-177230), 1⟩, ⟨0x2F9B0, 0x2F9B0, (-35327), 1⟩, ⟨0x2F9B1, 0x2F9B1, (-35039), 1⟩,
  ⟨0x2F9B2, 0x2F9B2, (-177223), 1⟩, ⟨0x2F9B3, 0x2F9B3, (-160611), 1⟩, ⟨0x2F9B4, 0x2F9B4, (-160600), 1⟩,
  ⟨0x2F9B5, 0x2F9B5, (-160590), 1⟩, ⟨0x2F9B6, 0x2F9B6, (-160589), 1⟩, ⟨0x2F9B7, 0x2F9B7, (-160526), 1⟩,
  ⟨0x2F9B8, 0x2F9B8, (-160560), 1⟩, ⟨0x2F9B9, 0x2F9B9, (-160427), 1⟩, ⟨0x2F9BA, 0x2F9BA, (-160472), 1⟩,
  ⟨0x2F9BB, 0x2F9BB, (-160322), 1⟩, ⟨0x2F9BC, 0x2F9BC, (-160404), 1⟩, ⟨0x2F9BD, 0x2F9BD, (-160338), 1⟩,
  ⟨0x2F9BE, 0x2F9BE, (-160312), 1⟩, ⟨0x2F9BF, 0x2F9BF, (-177128), 1⟩, ⟨0x2F9C0, 0x2F9C0, (-160223), 1⟩,
  ⟨0x2F9C1, 0x2F9C1, (-160192), 1⟩, ⟨0x2F9C2, 0x2F9C2, (-177097), 1⟩, ⟨0x2F9C3, 0x2F9C3, (-160099), 1⟩,
  ⟨0x2F9C4, 0x2F9C4, (-160097), 1⟩, ⟨0x2F9C5, 0x2F9C5, (-33630), 1⟩, ⟨0x2F9C6, 0x2F9C6, (-159983), 1⟩,
  ⟨0x2F9C7, 0x2F9C7, (-159977), 1⟩, ⟨0x2F9C8, 0x2F9C8, (-177043), 1⟩, ⟨0x2F9C9, 0x2F9C9, (-159951), 1⟩,
  ⟨0x2F9CA, 0x2F9CA, (-181519), 1⟩, ⟨0x2F9CB, 0x2F9CB, (-33053), 1⟩, ⟨0x2F9CC, 0x2F9CC, (-32870), 1⟩,
  ⟨0x2F9CD, 0x2F9CD, (-176911), 1⟩, ⟨0x2F9CE, 0x2F9CE, (-176903), 1⟩, ⟨0x2F9CF, 0x2F9CF, (-159535), 1⟩,
  ⟨0x2F9D0, 0x2F9D0, (-159459), 1⟩, ⟨0x2F9D1, 0x2F9D1, (-159303), 1⟩, ⟨0x2F9D2, 0x2F9D2, (-159101), 1⟩,
  ⟨0x2F9D3, 0x2F9D3, (-32043), 1⟩, ⟨0x2F9D4, 0x2F9D4, (-159017), 1⟩, ⟨0x2F9D5, 0x2F9D5, (-158996), 1⟩,
  ⟨0x2F9D6, 0x2F9D6, (-158907), 1⟩, ⟨0x2F9D7, 0x2F9D7, (-158816), 1⟩, ⟨0x2F9D8, 0x2F9D8, (-31401), 1⟩,
  ⟨0x2F9D9, 0x2F9D9, (-61909), 1⟩, ⟨0x2F9DA, 0x2F9DA, (-158735), 1⟩, ⟨0x2F9DB, 0x2F9DB, (-158751), 1⟩,
  ⟨0x2F9DC, 0x2F9DC, (-158700), 1⟩, ⟨0x2F9DD, 0x2F9DD, (-61695), 1⟩, ⟨0x2F9DE, 0x2F9DE, (-158474), 1⟩,
  ⟨0x2F9DF, 0x2F9DF, (-158375), 1⟩, ⟨0x2F9E0, 0x2F9E0, (-29710), 1⟩, ⟨0x2F9E1, 0x2F9E1, (-29684), 1⟩,
  ⟨0x2F9E2, 0x2F9E2, (-158030), 1⟩, ⟨0x2F9E3, 0x2F9E3, (-157938), 1⟩, ⟨0x2F9E4, 0x2F9E4, (-157907), 1⟩,
  ⟨0x2F9E5, 0x2F9E5, (-29367), 1⟩, ⟨0x2F9E6, 0x2F9E6, (-157899), 1⟩, ⟨0x2F9E7, 0x2F9E7, (-157615), 1⟩,
  ⟨0x2F9E8, 0x2F9E9, (-157457), 1⟩, ⟨0x2F9EA, 0x2F9EA, (-157550), 1⟩, ⟨0x2F9EB, 0x2F9EB, (-157170), 1⟩,
  ⟨0x2F9EC, 0x2F9EC, (-157143), 1⟩, ⟨0x2F9ED, 0x2F9ED, (-28147), 1⟩, ⟨0x2F9EE, 0x2F9EE, (-156771), 1⟩,
  ⟨0x2F9EF, 0x2F9EF, (-176218), 1⟩, ⟨0x2F9F0, 0x2F9F0, (-156729), 1⟩, ⟨0x2F9F1, 0x2F9F1, (-27770), 1⟩,
  ⟨0x2F9F2, 0x2F9F2, (-176140), 1⟩, ⟨0x2F9F3, 0x2F9F3, (-156464), 1⟩, ⟨0x2F9F4, 0x2F9F4, (-171074), 1⟩,
  ⟨0x2F9F5, 0x2F9F5, (-156370), 1⟩, ⟨0x2F9F6, 0x2F9F6, (-26801), 1⟩, ⟨0x2F9F7, 0x2F9F7, (-26589), 1⟩,
  ⟨0x2F9F8, 0x2F9F8, (-176010), 1⟩, ⟨0x2F9F9, 0x2F9F9, (-176003), 1⟩, ⟨0x2F9FA, 0x2F9FA, (-156186), 1⟩,
  ⟨0x2F9FB, 0x2F9FB, (-26097), 1⟩, ⟨0x2F9FC, 0x2F9FC, (-175946), 1⟩, ⟨0x2F9FD, 0x2F9FD, (-25959), 1⟩,
  ⟨0x2F9FE, 0x2F9FE, (-156147), 1⟩, ⟨0x2F9FF, 0x2F9FF, (-156148), 1⟩, ⟨0x2FA00, 0x2FA00, (-156119), 1⟩,
  ⟨0x2FA01, 0x2FA01, (-25675), 1⟩, ⟨0x2FA02, 0x2FA02, (-155936), 1⟩, ⟨0x2FA03, 0x2FA03, (-175824), 1⟩,
  ⟨0x2FA04, 0x2FA04, (-155867), 1⟩, ⟨0x2FA05, 0x2FA05, (-155742), 1⟩, ⟨0x2FA06, 0x2FA06, (-155716), 1⟩,
  ⟨0x2FA07, 0x2FA07, (-155657), 1⟩, ⟨0x2FA08, 0x2FA08, (-175674), 1⟩, ⟨0x2FA09, 0x2FA09, (-24281), 1⟩,
  ⟨0x2FA0A, 0x2FA0A, (-155384), 1⟩, ⟨0x2FA0B, 0x2FA0B, (-155083), 1⟩, ⟨0x2FA0C, 0x2FA0C, (-154895), 1⟩,
  ⟨0x2FA0D, 0x2FA0D, (-175423), 1⟩, ⟨0x2FA0E, 0x2FA0E, (-175393), 1⟩, ⟨0x2FA0F, 0x2FA0F, (-154792), 1⟩,
  ⟨0x2FA10, 0x2FA10, (-22850), 1⟩, ⟨0x2FA11, 0x2FA11, (-175385), 1⟩, ⟨0x2FA12, 0x2FA12, (-22797), 1⟩,
  ⟨0x2FA13, 0x2FA13, (-22533), 1⟩, ⟨0x2FA14, 0x2FA14, (-22403), 1⟩, ⟨0x2FA15, 0x2FA15, (-154458), 1⟩,
  ⟨0x2FA16, 0x2FA16, (-175296), 1⟩, ⟨0x2FA17, 0x2FA17, (-154398), 1⟩, ⟨0x2FA18, 0x2FA18, (-154394), 1⟩,
  ⟨0x2FA19, 0x2FA19, (-154388), 1⟩, ⟨0x2FA1A, 0x2FA1A, (-154379), 1⟩, ⟨0x2FA1B, 0x2FA1B, (-154373), 1⟩,
  ⟨0x2FA1C, 0x2FA1C, (-154337), 1⟩, ⟨0x2FA1D, 0x2FA1D, (-21533), 1⟩
]

/-- Code points mapped to one other code point, in runs that share an offset. -/
def idnaShiftRuns : List ShiftRun :=
  idnaShiftRunsFrom0041 ++
  idnaShiftRunsFrom2F06 ++
  idnaShiftRunsFrom32E4 ++
  idnaShiftRunsFromFA3E ++
  idnaShiftRunsFromFEB7 ++
  idnaShiftRunsFrom1EE2E ++
  idnaShiftRunsFrom2F8DE
/-- The expansions from U+00A8 on. -/
def idnaExpansionsFrom00A8 : List (Nat × Nat × List Nat) := [
  (0xA8, 0xA8, [0x20, 0x308]), (0xAF, 0xAF, [0x20, 0x304]),
  (0xB4, 0xB4, [0x20, 0x301]), (0xB8, 0xB8, [0x20, 0x327]),
  (0xBC, 0xBC, [0x31, 0x2044, 0x34]), (0xBD, 0xBD, [0x31, 0x2044, 0x32]),
  (0xBE, 0xBE, [0x33, 0x2044, 0x34]), (0x130, 0x130, [0x69, 0x307]),
  (0x132, 0x133, [0x69, 0x6A]), (0x13F, 0x140, [0x6C, 0xB7]),
  (0x149, 0x149, [0x2BC, 0x6E]), (0x1C4, 0x1C6, [0x64, 0x17E]),
  (0x1C7, 0x1C9, [0x6C, 0x6A]), (0x1CA, 0x1CC, [0x6E, 0x6A]),
  (0x1F1, 0x1F3, [0x64, 0x7A]), (0x2D8, 0x2D8, [0x20, 0x306]),
  (0x2D9, 0x2D9, [0x20, 0x307]), (0x2DA, 0x2DA, [0x20, 0x30A]),
  (0x2DB, 0x2DB, [0x20, 0x328]), (0x2DC, 0x2DC, [0x20, 0x303]),
  (0x2DD, 0x2DD, [0x20, 0x30B]), (0x344, 0x344, [0x308, 0x301]),
  (0x37A, 0x37A, [0x20, 0x3B9]), (0x384, 0x384, [0x20, 0x301]),
  (0x385, 0x385, [0x20, 0x308, 0x301]), (0x587, 0x587, [0x565, 0x582]),
  (0x675, 0x675, [0x627, 0x674]), (0x676, 0x676, [0x648, 0x674]),
  (0x677, 0x677, [0x6C7, 0x674]), (0x678, 0x678, [0x64A, 0x674]),
  (0x958, 0x958, [0x915, 0x93C]), (0x959, 0x959, [0x916, 0x93C]),
  (0x95A, 0x95A, [0x917, 0x93C]), (0x95B, 0x95B, [0x91C, 0x93C]),
  (0x95C, 0x95C, [0x921, 0x93C]), (0x95D, 0x95D, [0x922, 0x93C]),
  (0x95E, 0x95E, [0x92B, 0x93C]), (0x95F, 0x95F, [0x92F, 0x93C]),
  (0x9DC, 0x9DC, [0x9A1, 0x9BC]), (0x9DD, 0x9DD, [0x9A2, 0x9BC]),
  (0x9DF, 0x9DF, [0x9AF, 0x9BC]), (0xA33, 0xA33, [0xA32, 0xA3C]),
  (0xA36, 0xA36, [0xA38, 0xA3C]), (0xA59, 0xA59, [0xA16, 0xA3C]),
  (0xA5A, 0xA5A, [0xA17, 0xA3C]), (0xA5B, 0xA5B, [0xA1C, 0xA3C]),
  (0xA5E, 0xA5E, [0xA2B, 0xA3C]), (0xB5C, 0xB5C, [0xB21, 0xB3C]),
  (0xB5D, 0xB5D, [0xB22, 0xB3C]), (0xE33, 0xE33, [0xE4D, 0xE32]),
  (0xEB3, 0xEB3, [0xECD, 0xEB2]), (0xEDC, 0xEDC, [0xEAB, 0xE99]),
  (0xEDD, 0xEDD, [0xEAB, 0xEA1]), (0xF43, 0xF43, [0xF42, 0xFB7]),
  (0xF4D, 0xF4D, [0xF4C, 0xFB7]), (0xF52, 0xF52, [0xF51, 0xFB7]),
  (0xF57, 0xF57, [0xF56, 0xFB7]), (0xF5C, 0xF5C, [0xF5B, 0xFB7]),
  (0xF69, 0xF69, [0xF40, 0xFB5]), (0xF73, 0xF73, [0xF71, 0xF72]),
  (0xF75, 0xF75, [0xF71, 0xF74]), (0xF76, 0xF76, [0xFB2, 0xF80]),
  (0xF77, 0xF77, [0xFB2, 0xF71, 0xF80]), (0xF78, 0xF78, [0xFB3, 0xF80]),
  (0xF79, 0xF79, [0xFB3, 0xF71, 0xF80]), (0xF81, 0xF81, [0xF71, 0xF80]),
  (0xF93, 0xF93, [0xF92, 0xFB7]), (0xF9D, 0xF9D, [0xF9C, 0xFB7]),
  (0xFA2, 0xFA2, [0xFA1, 0xFB7]), (0xFA7, 0xFA7, [0xFA6, 0xFB7]),
  (0xFAC, 0xFAC, [0xFAB, 0xFB7]), (0xFB9, 0xFB9, [0xF90, 0xFB5]),
  (0x1E9A, 0x1E9A, [0x61, 0x2BE]), (0x1F80, 0x1F80, [0x1F00, 0x3B9]),
  (0x1F81, 0x1F81, [0x1F01, 0x3B9]), (0x1F82, 0x1F82, [0x1F02, 0x3B9]),
  (0x1F83, 0x1F83, [0x1F03, 0x3B9]), (0x1F84, 0x1F84, [0x1F04, 0x3B9]),
  (0x1F85, 0x1F85, [0x1F05, 0x3B9]), (0x1F86, 0x1F86, [0x1F06, 0x3B9]),
  (0x1F87, 0x1F87, [0x1F07, 0x3B9]), (0x1F88, 0x1F88, [0x1F00, 0x3B9]),
  (0x1F89, 0x1F89, [0x1F01, 0x3B9]), (0x1F8A, 0x1F8A, [0x1F02, 0x3B9]),
  (0x1F8B, 0x1F8B, [0x1F03, 0x3B9]), (0x1F8C, 0x1F8C, [0x1F04, 0x3B9]),
  (0x1F8D, 0x1F8D, [0x1F05, 0x3B9]), (0x1F8E, 0x1F8E, [0x1F06, 0x3B9]),
  (0x1F8F, 0x1F8F, [0x1F07, 0x3B9]), (0x1F90, 0x1F90, [0x1F20, 0x3B9]),
  (0x1F91, 0x1F91, [0x1F21, 0x3B9]), (0x1F92, 0x1F92, [0x1F22, 0x3B9]),
  (0x1F93, 0x1F93, [0x1F23, 0x3B9]), (0x1F94, 0x1F94, [0x1F24, 0x3B9]),
  (0x1F95, 0x1F95, [0x1F25, 0x3B9]), (0x1F96, 0x1F96, [0x1F26, 0x3B9]),
  (0x1F97, 0x1F97, [0x1F27, 0x3B9]), (0x1F98, 0x1F98, [0x1F20, 0x3B9]),
  (0x1F99, 0x1F99, [0x1F21, 0x3B9]), (0x1F9A, 0x1F9A, [0x1F22, 0x3B9]),
  (0x1F9B, 0x1F9B, [0x1F23, 0x3B9]), (0x1F9C, 0x1F9C, [0x1F24, 0x3B9]),
  (0x1F9D, 0x1F9D, [0x1F25, 0x3B9]), (0x1F9E, 0x1F9E, [0x1F26, 0x3B9]),
  (0x1F9F, 0x1F9F, [0x1F27, 0x3B9]), (0x1FA0, 0x1FA0, [0x1F60, 0x3B9]),
  (0x1FA1, 0x1FA1, [0x1F61, 0x3B9]), (0x1FA2, 0x1FA2, [0x1F62, 0x3B9]),
  (0x1FA3, 0x1FA3, [0x1F63, 0x3B9]), (0x1FA4, 0x1FA4, [0x1F64, 0x3B9]),
  (0x1FA5, 0x1FA5, [0x1F65, 0x3B9]), (0x1FA6, 0x1FA6, [0x1F66, 0x3B9]),
  (0x1FA7, 0x1FA7, [0x1F67, 0x3B9]), (0x1FA8, 0x1FA8, [0x1F60, 0x3B9]),
  (0x1FA9, 0x1FA9, [0x1F61, 0x3B9]), (0x1FAA, 0x1FAA, [0x1F62, 0x3B9]),
  (0x1FAB, 0x1FAB, [0x1F63, 0x3B9]), (0x1FAC, 0x1FAC, [0x1F64, 0x3B9]),
  (0x1FAD, 0x1FAD, [0x1F65, 0x3B9]), (0x1FAE, 0x1FAE, [0x1F66, 0x3B9]),
  (0x1FAF, 0x1FAF, [0x1F67, 0x3B9]), (0x1FB2, 0x1FB2, [0x1F70, 0x3B9]),
  (0x1FB3, 0x1FB3, [0x3B1, 0x3B9]), (0x1FB4, 0x1FB4, [0x3AC, 0x3B9]),
  (0x1FB7, 0x1FB7, [0x1FB6, 0x3B9]), (0x1FBC, 0x1FBC, [0x3B1, 0x3B9]),
  (0x1FBD, 0x1FBD, [0x20, 0x313]), (0x1FBF, 0x1FBF, [0x20, 0x313]),
  (0x1FC0, 0x1FC0, [0x20, 0x342]), (0x1FC1, 0x1FC1, [0x20, 0x308, 0x342]),
  (0x1FC2, 0x1FC2, [0x1F74, 0x3B9]), (0x1FC3, 0x1FC3, [0x3B7, 0x3B9]),
  (0x1FC4, 0x1FC4, [0x3AE, 0x3B9]), (0x1FC7, 0x1FC7, [0x1FC6, 0x3B9]),
  (0x1FCC, 0x1FCC, [0x3B7, 0x3B9]), (0x1FCD, 0x1FCD, [0x20, 0x313, 0x300]),
  (0x1FCE, 0x1FCE, [0x20, 0x313, 0x301]), (0x1FCF, 0x1FCF, [0x20, 0x313, 0x342]),
  (0x1FDD, 0x1FDD, [0x20, 0x314, 0x300]), (0x1FDE, 0x1FDE, [0x20, 0x314, 0x301]),
  (0x1FDF, 0x1FDF, [0x20, 0x314, 0x342]), (0x1FED, 0x1FED, [0x20, 0x308, 0x300]),
  (0x1FEE, 0x1FEE, [0x20, 0x308, 0x301]), (0x1FF2, 0x1FF2, [0x1F7C, 0x3B9]),
  (0x1FF3, 0x1FF3, [0x3C9, 0x3B9]), (0x1FF4, 0x1FF4, [0x3CE, 0x3B9]),
  (0x1FF7, 0x1FF7, [0x1FF6, 0x3B9]), (0x1FFC, 0x1FFC, [0x3C9, 0x3B9]),
  (0x1FFD, 0x1FFD, [0x20, 0x301]), (0x1FFE, 0x1FFE, [0x20, 0x314]),
  (0x2017, 0x2017, [0x20, 0x333]), (0x2033, 0x2033, [0x2032, 0x2032]),
  (0x2034, 0x2034, [0x2032, 0x2032, 0x2032]), (0x2036, 0x2036, [0x2035, 0x2035]),
  (0x2037, 0x2037, [0x2035, 0x2035, 0x2035]), (0x203C, 0x203C, [0x21, 0x21]),
  (0x203E, 0x203E, [0x20, 0x305]), (0x2047, 0x2047, [0x3F, 0x3F]),
  (0x2048, 0x2048, [0x3F, 0x21]), (0x2049, 0x2049, [0x21, 0x3F]),
  (0x2057, 0x2057, [0x2032, 0x2032, 0x2032, 0x2032]), (0x20A8, 0x20A8, [0x72, 0x73]),
  (0x2100, 0x2100, [0x61, 0x2F, 0x63]), (0x2101, 0x2101, [0x61, 0x2F, 0x73]),
  (0x2103, 0x2103, [0xB0, 0x63]), (0x2105, 0x2105, [0x63, 0x2F, 0x6F]),
  (0x2106, 0x2106, [0x63, 0x2F, 0x75]), (0x2109, 0x2109, [0xB0, 0x66]),
  (0x2116, 0x2116, [0x6E, 0x6F]), (0x2120, 0x2120, [0x73, 0x6D]),
  (0x2121, 0x2121, [0x74, 0x65, 0x6C]), (0x2122, 0x2122, [0x74, 0x6D]),
  (0x213B, 0x213B, [0x66, 0x61, 0x78]), (0x2150, 0x2150, [0x31, 0x2044, 0x37]),
  (0x2151, 0x2151, [0x31, 0x2044, 0x39]), (0x2152, 0x2152, [0x31, 0x2044, 0x31, 0x30]),
  (0x2153, 0x2153, [0x31, 0x2044, 0x33]), (0x2154, 0x2154, [0x32, 0x2044, 0x33]),
  (0x2155, 0x2155, [0x31, 0x2044, 0x35]), (0x2156, 0x2156, [0x32, 0x2044, 0x35]),
  (0x2157, 0x2157, [0x33, 0x2044, 0x35]), (0x2158, 0x2158, [0x34, 0x2044, 0x35]),
  (0x2159, 0x2159, [0x31, 0x2044, 0x36]), (0x215A, 0x215A, [0x35, 0x2044, 0x36]),
  (0x215B, 0x215B, [0x31, 0x2044, 0x38]), (0x215C, 0x215C, [0x33, 0x2044, 0x38]),
  (0x215D, 0x215D, [0x35, 0x2044, 0x38]), (0x215E, 0x215E, [0x37, 0x2044, 0x38]),
  (0x215F, 0x215F, [0x31, 0x2044]), (0x2161, 0x2161, [0x69, 0x69]),
  (0x2162, 0x2162, [0x69, 0x69, 0x69]), (0x2163, 0x2163, [0x69, 0x76]),
  (0x2165, 0x2165, [0x76, 0x69]), (0x2166, 0x2166, [0x76, 0x69, 0x69]),
  (0x2167, 0x2167, [0x76, 0x69, 0x69, 0x69]), (0x2168, 0x2168, [0x69, 0x78]),
  (0x216A, 0x216A, [0x78, 0x69]), (0x216B, 0x216B, [0x78, 0x69, 0x69]),
  (0x2171, 0x2171, [0x69, 0x69]), (0x2172, 0x2172, [0x69, 0x69, 0x69]),
  (0x2173, 0x2173, [0x69, 0x76]), (0x2175, 0x2175, [0x76, 0x69]),
  (0x2176, 0x2176, [0x76, 0x69, 0x69]), (0x2177, 0x2177, [0x76, 0x69, 0x69, 0x69]),
  (0x2178, 0x2178, [0x69, 0x78]), (0x217A, 0x217A, [0x78, 0x69]),
  (0x217B, 0x217B, [0x78, 0x69, 0x69]), (0x2189, 0x2189, [0x30, 0x2044, 0x33]),
  (0x222C, 0x222C, [0x222B, 0x222B]), (0x222D, 0x222D, [0x222B, 0x222B, 0x222B]),
  (0x222F, 0x222F, [0x222E, 0x222E]), (0x2230, 0x2230, [0x222E, 0x222E, 0x222E]),
  (0x2469, 0x2469, [0x31, 0x30]), (0x246A, 0x246A, [0x31, 0x31]),
  (0x246B, 0x246B, [0x31, 0x32]), (0x246C, 0x246C, [0x31, 0x33]),
  (0x246D, 0x246D, [0x31, 0x34]), (0x246E, 0x246E, [0x31, 0x35]),
  (0x246F, 0x246F, [0x31, 0x36]), (0x2470, 0x2470, [0x31, 0x37]),
  (0x2471, 0x2471, [0x31, 0x38]), (0x2472, 0x2472, [0x31, 0x39]),
  (0x2473, 0x2473, [0x32, 0x30]), (0x2474, 0x2474, [0x28, 0x31, 0x29]),
  (0x2475, 0x2475, [0x28, 0x32, 0x29]), (0x2476, 0x2476, [0x28, 0x33, 0x29]),
  (0x2477, 0x2477, [0x28, 0x34, 0x29]), (0x2478, 0x2478, [0x28, 0x35, 0x29]),
  (0x2479, 0x2479, [0x28, 0x36, 0x29]), (0x247A, 0x247A, [0x28, 0x37, 0x29]),
  (0x247B, 0x247B, [0x28, 0x38, 0x29]), (0x247C, 0x247C, [0x28, 0x39, 0x29]),
  (0x247D, 0x247D, [0x28, 0x31, 0x30, 0x29]), (0x247E, 0x247E, [0x28, 0x31, 0x31, 0x29]),
  (0x247F, 0x247F, [0x28, 0x31, 0x32, 0x29]), (0x2480, 0x2480, [0x28, 0x31, 0x33, 0x29]),
  (0x2481, 0x2481, [0x28, 0x31, 0x34, 0x29]), (0x2482, 0x2482, [0x28, 0x31, 0x35, 0x29]),
  (0x2483, 0x2483, [0x28, 0x31, 0x36, 0x29]), (0x2484, 0x2484, [0x28, 0x31, 0x37, 0x29]),
  (0x2485, 0x2485, [0x28, 0x31, 0x38, 0x29]), (0x2486, 0x2486, [0x28, 0x31, 0x39, 0x29]),
  (0x2487, 0x2487, [0x28, 0x32, 0x30, 0x29]), (0x249C, 0x249C, [0x28, 0x61, 0x29]),
  (0x249D, 0x249D, [0x28, 0x62, 0x29]), (0x249E, 0x249E, [0x28, 0x63, 0x29]),
  (0x249F, 0x249F, [0x28, 0x64, 0x29]), (0x24A0, 0x24A0, [0x28, 0x65, 0x29]),
  (0x24A1, 0x24A1, [0x28, 0x66, 0x29]), (0x24A2, 0x24A2, [0x28, 0x67, 0x29]),
  (0x24A3, 0x24A3, [0x28, 0x68, 0x29]), (0x24A4, 0x24A4, [0x28, 0x69, 0x29]),
  (0x24A5, 0x24A5, [0x28, 0x6A, 0x29]), (0x24A6, 0x24A6, [0x28, 0x6B, 0x29]),
  (0x24A7, 0x24A7, [0x28, 0x6C, 0x29]), (0x24A8, 0x24A8, [0x28, 0x6D, 0x29]),
  (0x24A9, 0x24A9, [0x28, 0x6E, 0x29]), (0x24AA, 0x24AA, [0x28, 0x6F, 0x29]),
  (0x24AB, 0x24AB, [0x28, 0x70, 0x29]), (0x24AC, 0x24AC, [0x28, 0x71, 0x29]),
  (0x24AD, 0x24AD, [0x28, 0x72, 0x29]), (0x24AE, 0x24AE, [0x28, 0x73, 0x29]),
  (0x24AF, 0x24AF, [0x28, 0x74, 0x29]), (0x24B0, 0x24B0, [0x28, 0x75, 0x29]),
  (0x24B1, 0x24B1, [0x28, 0x76, 0x29]), (0x24B2, 0x24B2, [0x28, 0x77, 0x29]),
  (0x24B3, 0x24B3, [0x28, 0x78, 0x29]), (0x24B4, 0x24B4, [0x28, 0x79, 0x29]),
  (0x24B5, 0x24B5, [0x28, 0x7A, 0x29]), (0x2A0C, 0x2A0C, [0x222B, 0x222B, 0x222B, 0x222B]),
  (0x2A74, 0x2A74, [0x3A, 0x3A, 0x3D]), (0x2A75, 0x2A75, [0x3D, 0x3D]),
  (0x2A76, 0x2A76, [0x3D, 0x3D, 0x3D]), (0x2ADC, 0x2ADC, [0x2ADD, 0x338]),
  (0x309B, 0x309B, [0x20, 0x3099]), (0x309C, 0x309C, [0x20, 0x309A]),
  (0x309F, 0x309F, [0x3088, 0x308A]), (0x30FF, 0x30FF, [0x30B3, 0x30C8]),
  (0x3200, 0x3200, [0x28, 0x1100, 0x29]), (0x3201, 0x3201, [0x28, 0x1102, 0x29]),
  (0x3202, 0x3202, [0x28, 0x1103, 0x29]), (0x3203, 0x3203, [0x28, 0x1105, 0x29]),
  (0x3204, 0x3204, [0x28, 0x1106, 0x29]), (0x3205, 0x3205, [0x28, 0x1107, 0x29]),
  (0x3206, 0x3206, [0x28, 0x1109, 0x29]), (0x3207, 0x3207, [0x28, 0x110B, 0x29]),
  (0x3208, 0x3208, [0x28, 0x110C, 0x29]), (0x3209, 0x3209, [0x28, 0x110E, 0x29]),
  (0x320A, 0x320A, [0x28, 0x110F, 0x29]), (0x320B, 0x320B, [0x28, 0x1110, 0x29]),
  (0x320C, 0x320C, [0x28, 0x1111, 0x29]), (0x320D, 0x320D, [0x28, 0x1112, 0x29]),
  (0x320E, 0x320E, [0x28, 0xAC00, 0x29]), (0x320F, 0x320F, [0x28, 0xB098, 0x29]),
  (0x3210, 0x3210, [0x28, 0xB2E4, 0x29]), (0x3211, 0x3211, [0x28, 0xB77C, 0x29]),
  (0x3212, 0x3212, [0x28, 0xB9C8, 0x29]), (0x3213, 0x3213, [0x28, 0xBC14, 0x29]),
  (0x3214, 0x3214, [0x28, 0xC0AC, 0x29]), (0x3215, 0x3215, [0x28, 0xC544, 0x29]),
  (0x3216, 0x3216, [0x28, 0xC790, 0x29]), (0x3217, 0x3217, [0x28, 0xCC28, 0x29]),
  (0x3218, 0x3218, [0x28, 0xCE74, 0x29]), (0x3219, 0x3219, [0x28, 0xD0C0, 0x29]),
  (0x321A, 0x321A, [0x28, 0xD30C, 0x29]), (0x321B, 0x321B, [0x28, 0xD558, 0x29]),
  (0x321C, 0x321C, [0x28, 0xC8FC, 0x29]), (0x321D, 0x321D, [0x28, 0xC624, 0xC804, 0x29]),
  (0x321E, 0x321E, [0x28, 0xC624, 0xD6C4, 0x29]), (0x3220, 0x3220, [0x28, 0x4E00, 0x29]),
  (0x3221, 0x3221, [0x28, 0x4E8C, 0x29]), (0x3222, 0x3222, [0x28, 0x4E09, 0x29]),
  (0x3223, 0x3223, [0x28, 0x56DB, 0x29]), (0x3224, 0x3224, [0x28, 0x4E94, 0x29]),
  (0x3225, 0x3225, [0x28, 0x516D, 0x29]), (0x3226, 0x3226, [0x28, 0x4E03, 0x29]),
  (0x3227, 0x3227, [0x28, 0x516B, 0x29]), (0x3228, 0x3228, [0x28, 0x4E5D, 0x29]),
  (0x3229, 0x3229, [0x28, 0x5341, 0x29]), (0x322A, 0x322A, [0x28, 0x6708, 0x29]),
  (0x322B, 0x322B, [0x28, 0x706B, 0x29]), (0x322C, 0x322C, [0x28, 0x6C34, 0x29]),
  (0x322D, 0x322D, [0x28, 0x6728, 0x29]), (0x322E, 0x322E, [0x28, 0x91D1, 0x29]),
  (0x322F, 0x322F, [0x28, 0x571F, 0x29]), (0x3230, 0x3230, [0x28, 0x65E5, 0x29]),
  (0x3231, 0x3231, [0x28, 0x682A, 0x29]), (0x3232, 0x3232, [0x28, 0x6709, 0x29]),
  (0x3233, 0x3233, [0x28, 0x793E, 0x29]), (0x3234, 0x3234, [0x28, 0x540D, 0x29]),
  (0x3235, 0x3235, [0x28, 0x7279, 0x29]), (0x3236, 0x3236, [0x28, 0x8CA1, 0x29]),
  (0x3237, 0x3237, [0x28, 0x795D, 0x29]), (0x3238, 0x3238, [0x28, 0x52B4, 0x29]),
  (0x3239, 0x3239, [0x28, 0x4EE3, 0x29]), (0x323A, 0x323A, [0x28, 0x547C, 0x29]),
  (0x323B, 0x323B, [0x28, 0x5B66, 0x29]), (0x323C, 0x323C, [0x28, 0x76E3, 0x29]),
  (0x323D, 0x323D, [0x28, 0x4F01, 0x29]), (0x323E, 0x323E, [0x28, 0x8CC7, 0x29]),
  (0x323F, 0x323F, [0x28, 0x5354, 0x29]), (0x3240, 0x3240, [0x28, 0x796D, 0x29]),
  (0x3241, 0x3241, [0x28, 0x4F11, 0x29]), (0x3242, 0x3242, [0x28, 0x81EA, 0x29]),
  (0x3243, 0x3243, [0x28, 0x81F3, 0x29]), (0x3250, 0x3250, [0x70, 0x74, 0x65]),
  (0x3251, 0x3251, [0x32, 0x31]), (0x3252, 0x3252, [0x32, 0x32]),
  (0x3253, 0x3253, [0x32, 0x33]), (0x3254, 0x3254, [0x32, 0x34]),
  (0x3255, 0x3255, [0x32, 0x35]), (0x3256, 0x3256, [0x32, 0x36]),
  (0x3257, 0x3257, [0x32, 0x37]), (0x3258, 0x3258, [0x32, 0x38]),
  (0x3259, 0x3259, [0x32, 0x39]), (0x325A, 0x325A, [0x33, 0x30]),
  (0x325B, 0x325B, [0x33, 0x31]), (0x325C, 0x325C, [0x33, 0x32]),
  (0x325D, 0x325D, [0x33, 0x33]), (0x325E, 0x325E, [0x33, 0x34])
]

/-- The expansions from U+325F on. -/
def idnaExpansionsFrom325F : List (Nat × Nat × List Nat) := [
  (0x325F, 0x325F, [0x33, 0x35]), (0x327C, 0x327C, [0xCC38, 0xACE0]),
  (0x327D, 0x327D, [0xC8FC, 0xC758]), (0x32B1, 0x32B1, [0x33, 0x36]),
  (0x32B2, 0x32B2, [0x33, 0x37]), (0x32B3, 0x32B3, [0x33, 0x38]),
  (0x32B4, 0x32B4, [0x33, 0x39]), (0x32B5, 0x32B5, [0x34, 0x30]),
  (0x32B6, 0x32B6, [0x34, 0x31]), (0x32B7, 0x32B7, [0x34, 0x32]),
  (0x32B8, 0x32B8, [0x34, 0x33]), (0x32B9, 0x32B9, [0x34, 0x34]),
  (0x32BA, 0x32BA, [0x34, 0x35]), (0x32BB, 0x32BB, [0x34, 0x36]),
  (0x32BC, 0x32BC, [0x34, 0x37]), (0x32BD, 0x32BD, [0x34, 0x38]),
  (0x32BE, 0x32BE, [0x34, 0x39]), (0x32BF, 0x32BF, [0x35, 0x30]),
  (0x32C0, 0x32C0, [0x31, 0x6708]), (0x32C1, 0x32C1, [0x32, 0x6708]),
  (0x32C2, 0x32C2, [0x33, 0x6708]), (0x32C3, 0x32C3, [0x34, 0x6708]),
  (0x32C4, 0x32C4, [0x35, 0x6708]), (0x32C5, 0x32C5, [0x36, 0x6708]),
  (0x32C6, 0x32C6, [0x37, 0x6708]), (0x32C7, 0x32C7, [0x38, 0x6708]),
  (0x32C8, 0x32C8, [0x39, 0x6708]), (0x32C9, 0x32C9, [0x31, 0x30, 0x6708]),
  (0x32CA, 0x32CA, [0x31, 0x31, 0x6708]), (0x32CB, 0x32CB, [0x31, 0x32, 0x6708]),
  (0x32CC, 0x32CC, [0x68, 0x67]), (0x32CD, 0x32CD, [0x65, 0x72, 0x67]),
  (0x32CE, 0x32CE, [0x65, 0x76]), (0x32CF, 0x32CF, [0x6C, 0x74, 0x64]),
  (0x32FF, 0x32FF, [0x4EE4, 0x548C]), (0x3300, 0x3300, [0x30A2, 0x30D1, 0x30FC, 0x30C8]),
  (0x3301, 0x3301, [0x30A2, 0x30EB, 0x30D5, 0x30A1]), (0x3302, 0x3302, [0x30A2, 0x30F3, 0x30DA, 0x30A2]),
  (0x3303, 0x3303, [0x30A2, 0x30FC, 0x30EB]), (0x3304, 0x3304, [0x30A4, 0x30CB, 0x30F3, 0x30B0]),
  (0x3305, 0x3305, [0x30A4, 0x30F3, 0x30C1]), (0x3306, 0x3306, [0x30A6, 0x30A9, 0x30F3]),
  (0x3307, 0x3307, [0x30A8, 0x30B9, 0x30AF, 0x30FC, 0x30C9]), (0x3308, 0x3308, [0x30A8, 0x30FC, 0x30AB, 0x30FC]),
  (0x3309, 0x3309, [0x30AA, 0x30F3, 0x30B9]), (0x330A, 0x330A, [0x30AA, 0x30FC, 0x30E0]),
  (0x330B, 0x330B, [0x30AB, 0x30A4, 0x30EA]), (0x330C, 0x330C, [0x30AB, 0x30E9, 0x30C3, 0x30C8]),
  (0x330D, 0x330D, [0x30AB, 0x30ED, 0x30EA, 0x30FC]), (0x330E, 0x330E, [0x30AC, 0x30ED, 0x30F3]),
  (0x330F, 0x330F, [0x30AC, 0x30F3, 0x30DE]), (0x3310, 0x3310, [0x30AE, 0x30AC]),
  (0x3311, 0x3311, [0x30AE, 0x30CB, 0x30FC]), (0x3312, 0x3312, [0x30AD, 0x30E5, 0x30EA, 0x30FC]),
  (0x3313, 0x3313, [0x30AE, 0x30EB, 0x30C0, 0x30FC]), (0x3314, 0x3314, [0x30AD, 0x30ED]),
  (0x3315, 0x3315, [0x30AD, 0x30ED, 0x30B0, 0x30E9, 0x30E0]), (0x3316, 0x3316, [0x30AD, 0x30ED, 0x30E1, 0x30FC, 0x30C8, 0x30EB]),
  (0x3317, 0x3317, [0x30AD, 0x30ED, 0x30EF, 0x30C3, 0x30C8]), (0x3318, 0x3318, [0x30B0, 0x30E9, 0x30E0]),
  (0x3319, 0x3319, [0x30B0, 0x30E9, 0x30E0, 0x30C8, 0x30F3]), (0x331A, 0x331A, [0x30AF, 0x30EB, 0x30BC, 0x30A4, 0x30ED]),
  (0x331B, 0x331B, [0x30AF, 0x30ED, 0x30FC, 0x30CD]), (0x331C, 0x331C, [0x30B1, 0x30FC, 0x30B9]),
  (0x331D, 0x331D, [0x30B3, 0x30EB, 0x30CA]), (0x331E, 0x331E, [0x30B3, 0x30FC, 0x30DD]),
  (0x331F, 0x331F, [0x30B5, 0x30A4, 0x30AF, 0x30EB]), (0x3320, 0x3320, [0x30B5, 0x30F3, 0x30C1, 0x30FC, 0x30E0]),
  (0x3321, 0x3321, [0x30B7, 0x30EA, 0x30F3, 0x30B0]), (0x3322, 0x3322, [0x30BB, 0x30F3, 0x30C1]),
  (0x3323, 0x3323, [0x30BB, 0x30F3, 0x30C8]), (0x3324, 0x3324, [0x30C0, 0x30FC, 0x30B9]),
  (0x3325, 0x3325, [0x30C7, 0x30B7]), (0x3326, 0x3326, [0x30C9, 0x30EB]),
  (0x3327, 0x3327, [0x30C8, 0x30F3]), (0x3328, 0x3328, [0x30CA, 0x30CE]),
  (0x3329, 0x3329, [0x30CE, 0x30C3, 0x30C8]), (0x332A, 0x332A, [0x30CF, 0x30A4, 0x30C4]),
  (0x332B, 0x332B, [0x30D1, 0x30FC, 0x30BB, 0x30F3, 0x30C8]), (0x332C, 0x332C, [0x30D1, 0x30FC, 0x30C4]),
  (0x332D, 0x332D, [0x30D0, 0x30FC, 0x30EC, 0x30EB]), (0x332E, 0x332E, [0x30D4, 0x30A2, 0x30B9, 0x30C8, 0x30EB]),
  (0x332F, 0x332F, [0x30D4, 0x30AF, 0x30EB]), (0x3330, 0x3330, [0x30D4, 0x30B3]),
  (0x3331, 0x3331, [0x30D3, 0x30EB]), (0x3332, 0x3332, [0x30D5, 0x30A1, 0x30E9, 0x30C3, 0x30C9]),
  (0x3333, 0x3333, [0x30D5, 0x30A3, 0x30FC, 0x30C8]), (0x3334, 0x3334, [0x30D6, 0x30C3, 0x30B7, 0x30A7, 0x30EB]),
  (0x3335, 0x3335, [0x30D5, 0x30E9, 0x30F3]), (0x3336, 0x3336, [0x30D8, 0x30AF, 0x30BF, 0x30FC, 0x30EB]),
  (0x3337, 0x3337, [0x30DA, 0x30BD]), (0x3338, 0x3338, [0x30DA, 0x30CB, 0x30D2]),
  (0x3339, 0x3339, [0x30D8, 0x30EB, 0x30C4]), (0x333A, 0x333A, [0x30DA, 0x30F3, 0x30B9]),
  (0x333B, 0x333B, [0x30DA, 0x30FC, 0x30B8]), (0x333C, 0x333C, [0x30D9, 0x30FC, 0x30BF]),
  (0x333D, 0x333D, [0x30DD, 0x30A4, 0x30F3, 0x30C8]), (0x333E, 0x333E, [0x30DC, 0x30EB, 0x30C8]),
  (0x333F, 0x333F, [0x30DB, 0x30F3]), (0x3340, 0x3340, [0x30DD, 0x30F3, 0x30C9]),
  (0x3341, 0x3341, [0x30DB, 0x30FC, 0x30EB]), (0x3342, 0x3342, [0x30DB, 0x30FC, 0x30F3]),
  (0x3343, 0x3343, [0x30DE, 0x30A4, 0x30AF, 0x30ED]), (0x3344, 0x3344, [0x30DE, 0x30A4, 0x30EB]),
  (0x3345, 0x3345, [0x30DE, 0x30C3, 0x30CF]), (0x3346, 0x3346, [0x30DE, 0x30EB, 0x30AF]),
  (0x3347, 0x3347, [0x30DE, 0x30F3, 0x30B7, 0x30E7, 0x30F3]), (0x3348, 0x3348, [0x30DF, 0x30AF, 0x30ED, 0x30F3]),
  (0x3349, 0x3349, [0x30DF, 0x30EA]), (0x334A, 0x334A, [0x30DF, 0x30EA, 0x30D0, 0x30FC, 0x30EB]),
  (0x334B, 0x334B, [0x30E1, 0x30AC]), (0x334C, 0x334C, [0x30E1, 0x30AC, 0x30C8, 0x30F3]),
  (0x334D, 0x334D, [0x30E1, 0x30FC, 0x30C8, 0x30EB]), (0x334E, 0x334E, [0x30E4, 0x30FC, 0x30C9]),
  (0x334F, 0x334F, [0x30E4, 0x30FC, 0x30EB]), (0x3350, 0x3350, [0x30E6, 0x30A2, 0x30F3]),
  (0x3351, 0x3351, [0x30EA, 0x30C3, 0x30C8, 0x30EB]), (0x3352, 0x3352, [0x30EA, 0x30E9]),
  (0x3353, 0x3353, [0x30EB, 0x30D4, 0x30FC]), (0x3354, 0x3354, [0x30EB, 0x30FC, 0x30D6, 0x30EB]),
  (0x3355, 0x3355, [0x30EC, 0x30E0]), (0x3356, 0x3356, [0x30EC, 0x30F3, 0x30C8, 0x30B2, 0x30F3]),
  (0x3357, 0x3357, [0x30EF, 0x30C3, 0x30C8]), (0x3358, 0x3358, [0x30, 0x70B9]),
  (0x3359, 0x3359, [0x31, 0x70B9]), (0x335A, 0x335A, [0x32, 0x70B9]),
  (0x335B, 0x335B, [0x33, 0x70B9]), (0x335C, 0x335C, [0x34, 0x70B9]),
  (0x335D, 0x335D, [0x35, 0x70B9]), (0x335E, 0x335E, [0x36, 0x70B9]),
  (0x335F, 0x335F, [0x37, 0x70B9]), (0x3360, 0x3360, [0x38, 0x70B9]),
  (0x3361, 0x3361, [0x39, 0x70B9]), (0x3362, 0x3362, [0x31, 0x30, 0x70B9]),
  (0x3363, 0x3363, [0x31, 0x31, 0x70B9]), (0x3364, 0x3364, [0x31, 0x32, 0x70B9]),
  (0x3365, 0x3365, [0x31, 0x33, 0x70B9]), (0x3366, 0x3366, [0x31, 0x34, 0x70B9]),
  (0x3367, 0x3367, [0x31, 0x35, 0x70B9]), (0x3368, 0x3368, [0x31, 0x36, 0x70B9]),
  (0x3369, 0x3369, [0x31, 0x37, 0x70B9]), (0x336A, 0x336A, [0x31, 0x38, 0x70B9]),
  (0x336B, 0x336B, [0x31, 0x39, 0x70B9]), (0x336C, 0x336C, [0x32, 0x30, 0x70B9]),
  (0x336D, 0x336D, [0x32, 0x31, 0x70B9]), (0x336E, 0x336E, [0x32, 0x32, 0x70B9]),
  (0x336F, 0x336F, [0x32, 0x33, 0x70B9]), (0x3370, 0x3370, [0x32, 0x34, 0x70B9]),
  (0x3371, 0x3371, [0x68, 0x70, 0x61]), (0x3372, 0x3372, [0x64, 0x61]),
  (0x3373, 0x3373, [0x61, 0x75]), (0x3374, 0x3374, [0x62, 0x61, 0x72]),
  (0x3375, 0x3375, [0x6F, 0x76]), (0x3376, 0x3376, [0x70, 0x63]),
  (0x3377, 0x3377, [0x64, 0x6D]), (0x3378, 0x3378, [0x64, 0x6D, 0x32]),
  (0x3379, 0x3379, [0x64, 0x6D, 0x33]), (0x337A, 0x337A, [0x69, 0x75]),
  (0x337B, 0x337B, [0x5E73, 0x6210]), (0x337C, 0x337C, [0x662D, 0x548C]),
  (0x337D, 0x337D, [0x5927, 0x6B63]), (0x337E, 0x337E, [0x660E, 0x6CBB]),
  (0x337F, 0x337F, [0x682A, 0x5F0F, 0x4F1A, 0x793E]), (0x3380, 0x3380, [0x70, 0x61]),
  (0x3381, 0x3381, [0x6E, 0x61]), (0x3382, 0x3382, [0x3BC, 0x61]),
  (0x3383, 0x3383, [0x6D, 0x61]), (0x3384, 0x3384, [0x6B, 0x61]),
  (0x3385, 0x3385, [0x6B, 0x62]), (0x3386, 0x3386, [0x6D, 0x62]),
  (0x3387, 0x3387, [0x67, 0x62]), (0x3388, 0x3388, [0x63, 0x61, 0x6C]),
  (0x3389, 0x3389, [0x6B, 0x63, 0x61, 0x6C]), (0x338A, 0x338A, [0x70, 0x66]),
  (0x338B, 0x338B, [0x6E, 0x66]), (0x338C, 0x338C, [0x3BC, 0x66]),
  (0x338D, 0x338D, [0x3BC, 0x67]), (0x338E, 0x338E, [0x6D, 0x67]),
  (0x338F, 0x338F, [0x6B, 0x67]), (0x3390, 0x3390, [0x68, 0x7A]),
  (0x3391, 0x3391, [0x6B, 0x68, 0x7A]), (0x3392, 0x3392, [0x6D, 0x68, 0x7A]),
  (0x3393, 0x3393, [0x67, 0x68, 0x7A]), (0x3394, 0x3394, [0x74, 0x68, 0x7A]),
  (0x3395, 0x3395, [0x3BC, 0x6C]), (0x3396, 0x3396, [0x6D, 0x6C]),
  (0x3397, 0x3397, [0x64, 0x6C]), (0x3398, 0x3398, [0x6B, 0x6C]),
  (0x3399, 0x3399, [0x66, 0x6D]), (0x339A, 0x339A, [0x6E, 0x6D]),
  (0x339B, 0x339B, [0x3BC, 0x6D]), (0x339C, 0x339C, [0x6D, 0x6D]),
  (0x339D, 0x339D, [0x63, 0x6D]), (0x339E, 0x339E, [0x6B, 0x6D]),
  (0x339F, 0x339F, [0x6D, 0x6D, 0x32]), (0x33A0, 0x33A0, [0x63, 0x6D, 0x32]),
  (0x33A1, 0x33A1, [0x6D, 0x32]), (0x33A2, 0x33A2, [0x6B, 0x6D, 0x32]),
  (0x33A3, 0x33A3, [0x6D, 0x6D, 0x33]), (0x33A4, 0x33A4, [0x63, 0x6D, 0x33]),
  (0x33A5, 0x33A5, [0x6D, 0x33]), (0x33A6, 0x33A6, [0x6B, 0x6D, 0x33]),
  (0x33A7, 0x33A7, [0x6D, 0x2215, 0x73]), (0x33A8, 0x33A8, [0x6D, 0x2215, 0x73, 0x32]),
  (0x33A9, 0x33A9, [0x70, 0x61]), (0x33AA, 0x33AA, [0x6B, 0x70, 0x61]),
  (0x33AB, 0x33AB, [0x6D, 0x70, 0x61]), (0x33AC, 0x33AC, [0x67, 0x70, 0x61]),
  (0x33AD, 0x33AD, [0x72, 0x61, 0x64]), (0x33AE, 0x33AE, [0x72, 0x61, 0x64, 0x2215, 0x73]),
  (0x33AF, 0x33AF, [0x72, 0x61, 0x64, 0x2215, 0x73, 0x32]), (0x33B0, 0x33B0, [0x70, 0x73]),
  (0x33B1, 0x33B1, [0x6E, 0x73]), (0x33B2, 0x33B2, [0x3BC, 0x73]),
  (0x33B3, 0x33B3, [0x6D, 0x73]), (0x33B4, 0x33B4, [0x70, 0x76]),
  (0x33B5, 0x33B5, [0x6E, 0x76]), (0x33B6, 0x33B6, [0x3BC, 0x76]),
  (0x33B7, 0x33B7, [0x6D, 0x76]), (0x33B8, 0x33B8, [0x6B, 0x76]),
  (0x33B9, 0x33B9, [0x6D, 0x76]), (0x33BA, 0x33BA, [0x70, 0x77]),
  (0x33BB, 0x33BB, [0x6E, 0x77]), (0x33BC, 0x33BC, [0x3BC, 0x77]),
  (0x33BD, 0x33BD, [0x6D, 0x77]), (0x33BE, 0x33BE, [0x6B, 0x77]),
  (0x33BF, 0x33BF, [0x6D, 0x77]), (0x33C0, 0x33C0, [0x6B, 0x3C9]),
  (0x33C1, 0x33C1, [0x6D, 0x3C9]), (0x33C3, 0x33C3, [0x62, 0x71]),
  (0x33C4, 0x33C4, [0x63, 0x63]), (0x33C5, 0x33C5, [0x63, 0x64]),
  (0x33C6, 0x33C6, [0x63, 0x2215, 0x6B, 0x67]), (0x33C8, 0x33C8, [0x64, 0x62]),
  (0x33C9, 0x33C9, [0x67, 0x79]), (0x33CA, 0x33CA, [0x68, 0x61]),
  (0x33CB, 0x33CB, [0x68, 0x70]), (0x33CC, 0x33CC, [0x69, 0x6E]),
  (0x33CD, 0x33CD, [0x6B, 0x6B]), (0x33CE, 0x33CE, [0x6B, 0x6D]),
  (0x33CF, 0x33CF, [0x6B, 0x74]), (0x33D0, 0x33D0, [0x6C, 0x6D]),
  (0x33D1, 0x33D1, [0x6C, 0x6E]), (0x33D2, 0x33D2, [0x6C, 0x6F, 0x67]),
  (0x33D3, 0x33D3, [0x6C, 0x78]), (0x33D4, 0x33D4, [0x6D, 0x62]),
  (0x33D5, 0x33D5, [0x6D, 0x69, 0x6C]), (0x33D6, 0x33D6, [0x6D, 0x6F, 0x6C]),
  (0x33D7, 0x33D7, [0x70, 0x68]), (0x33D9, 0x33D9, [0x70, 0x70, 0x6D]),
  (0x33DA, 0x33DA, [0x70, 0x72]), (0x33DB, 0x33DB, [0x73, 0x72]),
  (0x33DC, 0x33DC, [0x73, 0x76]), (0x33DD, 0x33DD, [0x77, 0x62]),
  (0x33DE, 0x33DE, [0x76, 0x2215, 0x6D]), (0x33DF, 0x33DF, [0x61, 0x2215, 0x6D]),
  (0x33E0, 0x33E0, [0x31, 0x65E5]), (0x33E1, 0x33E1, [0x32, 0x65E5]),
  (0x33E2, 0x33E2, [0x33, 0x65E5]), (0x33E3, 0x33E3, [0x34, 0x65E5]),
  (0x33E4, 0x33E4, [0x35, 0x65E5]), (0x33E5, 0x33E5, [0x36, 0x65E5]),
  (0x33E6, 0x33E6, [0x37, 0x65E5]), (0x33E7, 0x33E7, [0x38, 0x65E5]),
  (0x33E8, 0x33E8, [0x39, 0x65E5]), (0x33E9, 0x33E9, [0x31, 0x30, 0x65E5]),
  (0x33EA, 0x33EA, [0x31, 0x31, 0x65E5]), (0x33EB, 0x33EB, [0x31, 0x32, 0x65E5]),
  (0x33EC, 0x33EC, [0x31, 0x33, 0x65E5]), (0x33ED, 0x33ED, [0x31, 0x34, 0x65E5]),
  (0x33EE, 0x33EE, [0x31, 0x35, 0x65E5]), (0x33EF, 0x33EF, [0x31, 0x36, 0x65E5]),
  (0x33F0, 0x33F0, [0x31, 0x37, 0x65E5]), (0x33F1, 0x33F1, [0x31, 0x38, 0x65E5]),
  (0x33F2, 0x33F2, [0x31, 0x39, 0x65E5]), (0x33F3, 0x33F3, [0x32, 0x30, 0x65E5]),
  (0x33F4, 0x33F4, [0x32, 0x31, 0x65E5]), (0x33F5, 0x33F5, [0x32, 0x32, 0x65E5]),
  (0x33F6, 0x33F6, [0x32, 0x33, 0x65E5]), (0x33F7, 0x33F7, [0x32, 0x34, 0x65E5]),
  (0x33F8, 0x33F8, [0x32, 0x35, 0x65E5]), (0x33F9, 0x33F9, [0x32, 0x36, 0x65E5]),
  (0x33FA, 0x33FA, [0x32, 0x37, 0x65E5]), (0x33FB, 0x33FB, [0x32, 0x38, 0x65E5]),
  (0x33FC, 0x33FC, [0x32, 0x39, 0x65E5]), (0x33FD, 0x33FD, [0x33, 0x30, 0x65E5]),
  (0x33FE, 0x33FE, [0x33, 0x31, 0x65E5]), (0x33FF, 0x33FF, [0x67, 0x61, 0x6C]),
  (0xFB00, 0xFB00, [0x66, 0x66]), (0xFB01, 0xFB01, [0x66, 0x69]),
  (0xFB02, 0xFB02, [0x66, 0x6C]), (0xFB03, 0xFB03, [0x66, 0x66, 0x69]),
  (0xFB04, 0xFB04, [0x66, 0x66, 0x6C]), (0xFB05, 0xFB06, [0x73, 0x74]),
  (0xFB13, 0xFB13, [0x574, 0x576]), (0xFB14, 0xFB14, [0x574, 0x565]),
  (0xFB15, 0xFB15, [0x574, 0x56B]), (0xFB16, 0xFB16, [0x57E, 0x576]),
  (0xFB17, 0xFB17, [0x574, 0x56D]), (0xFB1D, 0xFB1D, [0x5D9, 0x5B4]),
  (0xFB1F, 0xFB1F, [0x5F2, 0x5B7]), (0xFB2A, 0xFB2A, [0x5E9, 0x5C1]),
  (0xFB2B, 0xFB2B, [0x5E9, 0x5C2]), (0xFB2C, 0xFB2C, [0x5E9, 0x5BC, 0x5C1]),
  (0xFB2D, 0xFB2D, [0x5E9, 0x5BC, 0x5C2]), (0xFB2E, 0xFB2E, [0x5D0, 0x5B7]),
  (0xFB2F, 0xFB2F, [0x5D0, 0x5B8]), (0xFB30, 0xFB30, [0x5D0, 0x5BC]),
  (0xFB31, 0xFB31, [0x5D1, 0x5BC]), (0xFB32, 0xFB32, [0x5D2, 0x5BC]),
  (0xFB33, 0xFB33, [0x5D3, 0x5BC]), (0xFB34, 0xFB34, [0x5D4, 0x5BC]),
  (0xFB35, 0xFB35, [0x5D5, 0x5BC]), (0xFB36, 0xFB36, [0x5D6, 0x5BC]),
  (0xFB38, 0xFB38, [0x5D8, 0x5BC]), (0xFB39, 0xFB39, [0x5D9, 0x5BC]),
  (0xFB3A, 0xFB3A, [0x5DA, 0x5BC]), (0xFB3B, 0xFB3B, [0x5DB, 0x5BC]),
  (0xFB3C, 0xFB3C, [0x5DC, 0x5BC]), (0xFB3E, 0xFB3E, [0x5DE, 0x5BC]),
  (0xFB40, 0xFB40, [0x5E0, 0x5BC]), (0xFB41, 0xFB41, [0x5E1, 0x5BC]),
  (0xFB43, 0xFB43, [0x5E3, 0x5BC]), (0xFB44, 0xFB44, [0x5E4, 0x5BC]),
  (0xFB46, 0xFB46, [0x5E6, 0x5BC]), (0xFB47, 0xFB47, [0x5E7, 0x5BC]),
  (0xFB48, 0xFB48, [0x5E8, 0x5BC]), (0xFB49, 0xFB49, [0x5E9, 0x5BC]),
  (0xFB4A, 0xFB4A, [0x5EA, 0x5BC]), (0xFB4B, 0xFB4B, [0x5D5, 0x5B9]),
  (0xFB4C, 0xFB4C, [0x5D1, 0x5BF]), (0xFB4D, 0xFB4D, [0x5DB, 0x5BF]),
  (0xFB4E, 0xFB4E, [0x5E4, 0x5BF]), (0xFB4F, 0xFB4F, [0x5D0, 0x5DC]),
  (0xFBDD, 0xFBDD, [0x6C7, 0x674]), (0xFBEA, 0xFBEB, [0x626, 0x627]),
  (0xFBEC, 0xFBED, [0x626, 0x6D5]), (0xFBEE, 0xFBEF, [0x626, 0x648]),
  (0xFBF0, 0xFBF1, [0x626, 0x6C7]), (0xFBF2, 0xFBF3, [0x626, 0x6C6]),
  (0xFBF4, 0xFBF5, [0x626, 0x6C8]), (0xFBF6, 0xFBF8, [0x626, 0x6D0]),
  (0xFBF9, 0xFBFB, [0x626, 0x649]), (0xFC00, 0xFC00, [0x626, 0x62C]),
  (0xFC01, 0xFC01, [0x626, 0x62D]), (0xFC02, 0xFC02, [0x626, 0x645]),
  (0xFC03, 0xFC03, [0x626, 0x649]), (0xFC04, 0xFC04, [0x626, 0x64A]),
  (0xFC05, 0xFC05, [0x628, 0x62C]), (0xFC06, 0xFC06, [0x628, 0x62D]),
  (0xFC07, 0xFC07, [0x628, 0x62E]), (0xFC08, 0xFC08, [0x628, 0x645]),
  (0xFC09, 0xFC09, [0x628, 0x649]), (0xFC0A, 0xFC0A, [0x628, 0x64A]),
  (0xFC0B, 0xFC0B, [0x62A, 0x62C]), (0xFC0C, 0xFC0C, [0x62A, 0x62D]),
  (0xFC0D, 0xFC0D, [0x62A, 0x62E]), (0xFC0E, 0xFC0E, [0x62A, 0x645]),
  (0xFC0F, 0xFC0F, [0x62A, 0x649]), (0xFC10, 0xFC10, [0x62A, 0x64A])
]

/-- The expansions from U+FC11 on. -/
def idnaExpansionsFromFC11 : List (Nat × Nat × List Nat) := [
  (0xFC11, 0xFC11, [0x62B, 0x62C]), (0xFC12, 0xFC12, [0x62B, 0x645]),
  (0xFC13, 0xFC13, [0x62B, 0x649]), (0xFC14, 0xFC14, [0x62B, 0x64A]),
  (0xFC15, 0xFC15, [0x62C, 0x62D]), (0xFC16, 0xFC16, [0x62C, 0x645]),
  (0xFC17, 0xFC17, [0x62D, 0x62C]), (0xFC18, 0xFC18, [0x62D, 0x645]),
  (0xFC19, 0xFC19, [0x62E, 0x62C]), (0xFC1A, 0xFC1A, [0x62E, 0x62D]),
  (0xFC1B, 0xFC1B, [0x62E, 0x645]), (0xFC1C, 0xFC1C, [0x633, 0x62C]),
  (0xFC1D, 0xFC1D, [0x633, 0x62D]), (0xFC1E, 0xFC1E, [0x633, 0x62E]),
  (0xFC1F, 0xFC1F, [0x633, 0x645]), (0xFC20, 0xFC20, [0x635, 0x62D]),
  (0xFC21, 0xFC21, [0x635, 0x645]), (0xFC22, 0xFC22, [0x636, 0x62C]),
  (0xFC23, 0xFC23, [0x636, 0x62D]), (0xFC24, 0xFC24, [0x636, 0x62E]),
  (0xFC25, 0xFC25, [0x636, 0x645]), (0xFC26, 0xFC26, [0x637, 0x62D]),
  (0xFC27, 0xFC27, [0x637, 0x645]), (0xFC28, 0xFC28, [0x638, 0x645]),
  (0xFC29, 0xFC29, [0x639, 0x62C]), (0xFC2A, 0xFC2A, [0x639, 0x645]),
  (0xFC2B, 0xFC2B, [0x63A, 0x62C]), (0xFC2C, 0xFC2C, [0x63A, 0x645]),
  (0xFC2D, 0xFC2D, [0x641, 0x62C]), (0xFC2E, 0xFC2E, [0x641, 0x62D]),
  (0xFC2F, 0xFC2F, [0x641, 0x62E]), (0xFC30, 0xFC30, [0x641, 0x645]),
  (0xFC31, 0xFC31, [0x641, 0x649]), (0xFC32, 0xFC32, [0x641, 0x64A]),
  (0xFC33, 0xFC33, [0x642, 0x62D]), (0xFC34, 0xFC34, [0x642, 0x645]),
  (0xFC35, 0xFC35, [0x642, 0x649]), (0xFC36, 0xFC36, [0x642, 0x64A]),
  (0xFC37, 0xFC37, [0x643, 0x627]), (0xFC38, 0xFC38, [0x643, 0x62C]),
  (0xFC39, 0xFC39, [0x643, 0x62D]), (0xFC3A, 0xFC3A, [0x643, 0x62E]),
  (0xFC3B, 0xFC3B, [0x643, 0x644]), (0xFC3C, 0xFC3C, [0x643, 0x645]),
  (0xFC3D, 0xFC3D, [0x643, 0x649]), (0xFC3E, 0xFC3E, [0x643, 0x64A]),
  (0xFC3F, 0xFC3F, [0x644, 0x62C]), (0xFC40, 0xFC40, [0x644, 0x62D]),
  (0xFC41, 0xFC41, [0x644, 0x62E]), (0xFC42, 0xFC42, [0x644, 0x645]),
  (0xFC43, 0xFC43, [0x644, 0x649]), (0xFC44, 0xFC44, [0x644, 0x64A]),
  (0xFC45, 0xFC45, [0x645, 0x62C]), (0xFC46, 0xFC46, [0x645, 0x62D]),
  (0xFC47, 0xFC47, [0x645, 0x62E]), (0xFC48, 0xFC48, [0x645, 0x645]),
  (0xFC49, 0xFC49, [0x645, 0x649]), (0xFC4A, 0xFC4A, [0x645, 0x64A]),
  (0xFC4B, 0xFC4B, [0x646, 0x62C]), (0xFC4C, 0xFC4C, [0x646, 0x62D]),
  (0xFC4D, 0xFC4D, [0x646, 0x62E]), (0xFC4E, 0xFC4E, [0x646, 0x645]),
  (0xFC4F, 0xFC4F, [0x646, 0x649]), (0xFC50, 0xFC50, [0x646, 0x64A]),
  (0xFC51, 0xFC51, [0x647, 0x62C]), (0xFC52, 0xFC52, [0x647, 0x645]),
  (0xFC53, 0xFC53, [0x647, 0x649]), (0xFC54, 0xFC54, [0x647, 0x64A]),
  (0xFC55, 0xFC55, [0x64A, 0x62C]), (0xFC56, 0xFC56, [0x64A, 0x62D]),
  (0xFC57, 0xFC57, [0x64A, 0x62E]), (0xFC58, 0xFC58, [0x64A, 0x645]),
  (0xFC59, 0xFC59, [0x64A, 0x649]), (0xFC5A, 0xFC5A, [0x64A, 0x64A]),
  (0xFC5B, 0xFC5B, [0x630, 0x670]), (0xFC5C, 0xFC5C, [0x631, 0x670]),
  (0xFC5D, 0xFC5D, [0x649, 0x670]), (0xFC5E, 0xFC5E, [0x20, 0x64C, 0x651]),
  (0xFC5F, 0xFC5F, [0x20, 0x64D, 0x651]), (0xFC60, 0xFC60, [0x20, 0x64E, 0x651]),
  (0xFC61, 0xFC61, [0x20, 0x64F, 0x651]), (0xFC62, 0xFC62, [0x20, 0x650, 0x651]),
  (0xFC63, 0xFC63, [0x20, 0x651, 0x670]), (0xFC64, 0xFC64, [0x626, 0x631]),
  (0xFC65, 0xFC65, [0x626, 0x632]), (0xFC66, 0xFC66, [0x626, 0x645]),
  (0xFC67, 0xFC67, [0x626, 0x646]), (0xFC68, 0xFC68, [0x626, 0x649]),
  (0xFC69, 0xFC69, [0x626, 0x64A]), (0xFC6A, 0xFC6A, [0x628, 0x631]),
  (0xFC6B, 0xFC6B, [0x628, 0x632]), (0xFC6C, 0xFC6C, [0x628, 0x645]),
  (0xFC6D, 0xFC6D, [0x628, 0x646]), (0xFC6E, 0xFC6E, [0x628, 0x649]),
  (0xFC6F, 0xFC6F, [0x628, 0x64A]), (0xFC70, 0xFC70, [0x62A, 0x631]),
  (0xFC71, 0xFC71, [0x62A, 0x632]), (0xFC72, 0xFC72, [0x62A, 0x645]),
  (0xFC73, 0xFC73, [0x62A, 0x646]), (0xFC74, 0xFC74, [0x62A, 0x649]),
  (0xFC75, 0xFC75, [0x62A, 0x64A]), (0xFC76, 0xFC76, [0x62B, 0x631]),
  (0xFC77, 0xFC77, [0x62B, 0x632]), (0xFC78, 0xFC78, [0x62B, 0x645]),
  (0xFC79, 0xFC79, [0x62B, 0x646]), (0xFC7A, 0xFC7A, [0x62B, 0x649]),
  (0xFC7B, 0xFC7B, [0x62B, 0x64A]), (0xFC7C, 0xFC7C, [0x641, 0x649]),
  (0xFC7D, 0xFC7D, [0x641, 0x64A]), (0xFC7E, 0xFC7E, [0x642, 0x649]),
  (0xFC7F, 0xFC7F, [0x642, 0x64A]), (0xFC80, 0xFC80, [0x643, 0x627]),
  (0xFC81, 0xFC81, [0x643, 0x644]), (0xFC82, 0xFC82, [0x643, 0x645]),
  (0xFC83, 0xFC83, [0x643, 0x649]), (0xFC84, 0xFC84, [0x643, 0x64A]),
  (0xFC85, 0xFC85, [0x644, 0x645]), (0xFC86, 0xFC86, [0x644, 0x649]),
  (0xFC87, 0xFC87, [0x644, 0x64A]), (0xFC88, 0xFC88, [0x645, 0x627]),
  (0xFC89, 0xFC89, [0x645, 0x645]), (0xFC8A, 0xFC8A, [0x646, 0x631]),
  (0xFC8B, 0xFC8B, [0x646, 0x632]), (0xFC8C, 0xFC8C, [0x646, 0x645]),
  (0xFC8D, 0xFC8D, [0x646, 0x646]), (0xFC8E, 0xFC8E, [0x646, 0x649]),
  (0xFC8F, 0xFC8F, [0x646, 0x64A]), (0xFC90, 0xFC90, [0x649, 0x670]),
  (0xFC91, 0xFC91, [0x64A, 0x631]), (0xFC92, 0xFC92, [0x64A, 0x632]),
  (0xFC93, 0xFC93, [0x64A, 0x645]), (0xFC94, 0xFC94, [0x64A, 0x646]),
  (0xFC95, 0xFC95, [0x64A, 0x649]), (0xFC96, 0xFC96, [0x64A, 0x64A]),
  (0xFC97, 0xFC97, [0x626, 0x62C]), (0xFC98, 0xFC98, [0x626, 0x62D]),
  (0xFC99, 0xFC99, [0x626, 0x62E]), (0xFC9A, 0xFC9A, [0x626, 0x645]),
  (0xFC9B, 0xFC9B, [0x626, 0x647]), (0xFC9C, 0xFC9C, [0x628, 0x62C]),
  (0xFC9D, 0xFC9D, [0x628, 0x62D]), (0xFC9E, 0xFC9E, [0x628, 0x62E]),
  (0xFC9F, 0xFC9F, [0x628, 0x645]), (0xFCA0, 0xFCA0, [0x628, 0x647]),
  (0xFCA1, 0xFCA1, [0x62A, 0x62C]), (0xFCA2, 0xFCA2, [0x62A, 0x62D]),
  (0xFCA3, 0xFCA3, [0x62A, 0x62E]), (0xFCA4, 0xFCA4, [0x62A, 0x645]),
  (0xFCA5, 0xFCA5, [0x62A, 0x647]), (0xFCA6, 0xFCA6, [0x62B, 0x645]),
  (0xFCA7, 0xFCA7, [0x62C, 0x62D]), (0xFCA8, 0xFCA8, [0x62C, 0x645]),
  (0xFCA9, 0xFCA9, [0x62D, 0x62C]), (0xFCAA, 0xFCAA, [0x62D, 0x645]),
  (0xFCAB, 0xFCAB, [0x62E, 0x62C]), (0xFCAC, 0xFCAC, [0x62E, 0x645]),
  (0xFCAD, 0xFCAD, [0x633, 0x62C]), (0xFCAE, 0xFCAE, [0x633, 0x62D]),
  (0xFCAF, 0xFCAF, [0x633, 0x62E]), (0xFCB0, 0xFCB0, [0x633, 0x645]),
  (0xFCB1, 0xFCB1, [0x635, 0x62D]), (0xFCB2, 0xFCB2, [0x635, 0x62E]),
  (0xFCB3, 0xFCB3, [0x635, 0x645]), (0xFCB4, 0xFCB4, [0x636, 0x62C]),
  (0xFCB5, 0xFCB5, [0x636, 0x62D]), (0xFCB6, 0xFCB6, [0x636, 0x62E]),
  (0xFCB7, 0xFCB7, [0x636, 0x645]), (0xFCB8, 0xFCB8, [0x637, 0x62D]),
  (0xFCB9, 0xFCB9, [0x638, 0x645]), (0xFCBA, 0xFCBA, [0x639, 0x62C]),
  (0xFCBB, 0xFCBB, [0x639, 0x645]), (0xFCBC, 0xFCBC, [0x63A, 0x62C]),
  (0xFCBD, 0xFCBD, [0x63A, 0x645]), (0xFCBE, 0xFCBE, [0x641, 0x62C]),
  (0xFCBF, 0xFCBF, [0x641, 0x62D]), (0xFCC0, 0xFCC0, [0x641, 0x62E]),
  (0xFCC1, 0xFCC1, [0x641, 0x645]), (0xFCC2, 0xFCC2, [0x642, 0x62D]),
  (0xFCC3, 0xFCC3, [0x642, 0x645]), (0xFCC4, 0xFCC4, [0x643, 0x62C]),
  (0xFCC5, 0xFCC5, [0x643, 0x62D]), (0xFCC6, 0xFCC6, [0x643, 0x62E]),
  (0xFCC7, 0xFCC7, [0x643, 0x644]), (0xFCC8, 0xFCC8, [0x643, 0x645]),
  (0xFCC9, 0xFCC9, [0x644, 0x62C]), (0xFCCA, 0xFCCA, [0x644, 0x62D]),
  (0xFCCB, 0xFCCB, [0x644, 0x62E]), (0xFCCC, 0xFCCC, [0x644, 0x645]),
  (0xFCCD, 0xFCCD, [0x644, 0x647]), (0xFCCE, 0xFCCE, [0x645, 0x62C]),
  (0xFCCF, 0xFCCF, [0x645, 0x62D]), (0xFCD0, 0xFCD0, [0x645, 0x62E]),
  (0xFCD1, 0xFCD1, [0x645, 0x645]), (0xFCD2, 0xFCD2, [0x646, 0x62C]),
  (0xFCD3, 0xFCD3, [0x646, 0x62D]), (0xFCD4, 0xFCD4, [0x646, 0x62E]),
  (0xFCD5, 0xFCD5, [0x646, 0x645]), (0xFCD6, 0xFCD6, [0x646, 0x647]),
  (0xFCD7, 0xFCD7, [0x647, 0x62C]), (0xFCD8, 0xFCD8, [0x647, 0x645]),
  (0xFCD9, 0xFCD9, [0x647, 0x670]), (0xFCDA, 0xFCDA, [0x64A, 0x62C]),
  (0xFCDB, 0xFCDB, [0x64A, 0x62D]), (0xFCDC, 0xFCDC, [0x64A, 0x62E]),
  (0xFCDD, 0xFCDD, [0x64A, 0x645]), (0xFCDE, 0xFCDE, [0x64A, 0x647]),
  (0xFCDF, 0xFCDF, [0x626, 0x645]), (0xFCE0, 0xFCE0, [0x626, 0x647]),
  (0xFCE1, 0xFCE1, [0x628, 0x645]), (0xFCE2, 0xFCE2, [0x628, 0x647]),
  (0xFCE3, 0xFCE3, [0x62A, 0x645]), (0xFCE4, 0xFCE4, [0x62A, 0x647]),
  (0xFCE5, 0xFCE5, [0x62B, 0x645]), (0xFCE6, 0xFCE6, [0x62B, 0x647]),
  (0xFCE7, 0xFCE7, [0x633, 0x645]), (0xFCE8, 0xFCE8, [0x633, 0x647]),
  (0xFCE9, 0xFCE9, [0x634, 0x645]), (0xFCEA, 0xFCEA, [0x634, 0x647]),
  (0xFCEB, 0xFCEB, [0x643, 0x644]), (0xFCEC, 0xFCEC, [0x643, 0x645]),
  (0xFCED, 0xFCED, [0x644, 0x645]), (0xFCEE, 0xFCEE, [0x646, 0x645]),
  (0xFCEF, 0xFCEF, [0x646, 0x647]), (0xFCF0, 0xFCF0, [0x64A, 0x645]),
  (0xFCF1, 0xFCF1, [0x64A, 0x647]), (0xFCF2, 0xFCF2, [0x640, 0x64E, 0x651]),
  (0xFCF3, 0xFCF3, [0x640, 0x64F, 0x651]), (0xFCF4, 0xFCF4, [0x640, 0x650, 0x651]),
  (0xFCF5, 0xFCF5, [0x637, 0x649]), (0xFCF6, 0xFCF6, [0x637, 0x64A]),
  (0xFCF7, 0xFCF7, [0x639, 0x649]), (0xFCF8, 0xFCF8, [0x639, 0x64A]),
  (0xFCF9, 0xFCF9, [0x63A, 0x649]), (0xFCFA, 0xFCFA, [0x63A, 0x64A]),
  (0xFCFB, 0xFCFB, [0x633, 0x649]), (0xFCFC, 0xFCFC, [0x633, 0x64A]),
  (0xFCFD, 0xFCFD, [0x634, 0x649]), (0xFCFE, 0xFCFE, [0x634, 0x64A]),
  (0xFCFF, 0xFCFF, [0x62D, 0x649]), (0xFD00, 0xFD00, [0x62D, 0x64A]),
  (0xFD01, 0xFD01, [0x62C, 0x649]), (0xFD02, 0xFD02, [0x62C, 0x64A]),
  (0xFD03, 0xFD03, [0x62E, 0x649]), (0xFD04, 0xFD04, [0x62E, 0x64A]),
  (0xFD05, 0xFD05, [0x635, 0x649]), (0xFD06, 0xFD06, [0x635, 0x64A]),
  (0xFD07, 0xFD07, [0x636, 0x649]), (0xFD08, 0xFD08, [0x636, 0x64A]),
  (0xFD09, 0xFD09, [0x634, 0x62C]), (0xFD0A, 0xFD0A, [0x634, 0x62D]),
  (0xFD0B, 0xFD0B, [0x634, 0x62E]), (0xFD0C, 0xFD0C, [0x634, 0x645]),
  (0xFD0D, 0xFD0D, [0x634, 0x631]), (0xFD0E, 0xFD0E, [0x633, 0x631]),
  (0xFD0F, 0xFD0F, [0x635, 0x631]), (0xFD10, 0xFD10, [0x636, 0x631]),
  (0xFD11, 0xFD11, [0x637, 0x649]), (0xFD12, 0xFD12, [0x637, 0x64A]),
  (0xFD13, 0xFD13, [0x639, 0x649]), (0xFD14, 0xFD14, [0x639, 0x64A]),
  (0xFD15, 0xFD15, [0x63A, 0x649]), (0xFD16, 0xFD16, [0x63A, 0x64A]),
  (0xFD17, 0xFD17, [0x633, 0x649]), (0xFD18, 0xFD18, [0x633, 0x64A]),
  (0xFD19, 0xFD19, [0x634, 0x649]), (0xFD1A, 0xFD1A, [0x634, 0x64A]),
  (0xFD1B, 0xFD1B, [0x62D, 0x649]), (0xFD1C, 0xFD1C, [0x62D, 0x64A]),
  (0xFD1D, 0xFD1D, [0x62C, 0x649]), (0xFD1E, 0xFD1E, [0x62C, 0x64A]),
  (0xFD1F, 0xFD1F, [0x62E, 0x649]), (0xFD20, 0xFD20, [0x62E, 0x64A]),
  (0xFD21, 0xFD21, [0x635, 0x649]), (0xFD22, 0xFD22, [0x635, 0x64A]),
  (0xFD23, 0xFD23, [0x636, 0x649]), (0xFD24, 0xFD24, [0x636, 0x64A]),
  (0xFD25, 0xFD25, [0x634, 0x62C]), (0xFD26, 0xFD26, [0x634, 0x62D]),
  (0xFD27, 0xFD27, [0x634, 0x62E]), (0xFD28, 0xFD28, [0x634, 0x645]),
  (0xFD29, 0xFD29, [0x634, 0x631]), (0xFD2A, 0xFD2A, [0x633, 0x631]),
  (0xFD2B, 0xFD2B, [0x635, 0x631]), (0xFD2C, 0xFD2C, [0x636, 0x631]),
  (0xFD2D, 0xFD2D, [0x634, 0x62C]), (0xFD2E, 0xFD2E, [0x634, 0x62D]),
  (0xFD2F, 0xFD2F, [0x634, 0x62E]), (0xFD30, 0xFD30, [0x634, 0x645]),
  (0xFD31, 0xFD31, [0x633, 0x647]), (0xFD32, 0xFD32, [0x634, 0x647]),
  (0xFD33, 0xFD33, [0x637, 0x645]), (0xFD34, 0xFD34, [0x633, 0x62C]),
  (0xFD35, 0xFD35, [0x633, 0x62D]), (0xFD36, 0xFD36, [0x633, 0x62E]),
  (0xFD37, 0xFD37, [0x634, 0x62C]), (0xFD38, 0xFD38, [0x634, 0x62D]),
  (0xFD39, 0xFD39, [0x634, 0x62E]), (0xFD3A, 0xFD3A, [0x637, 0x645]),
  (0xFD3B, 0xFD3B, [0x638, 0x645]), (0xFD3C, 0xFD3D, [0x627, 0x64B]),
  (0xFD50, 0xFD50, [0x62A, 0x62C, 0x645]), (0xFD51, 0xFD52, [0x62A, 0x62D, 0x62C]),
  (0xFD53, 0xFD53, [0x62A, 0x62D, 0x645]), (0xFD54, 0xFD54, [0x62A, 0x62E, 0x645]),
  (0xFD55, 0xFD55, [0x62A, 0x645, 0x62C]), (0xFD56, 0xFD56, [0x62A, 0x645, 0x62D]),
  (0xFD57, 0xFD57, [0x62A, 0x645, 0x62E]), (0xFD58, 0xFD59, [0x62C, 0x645, 0x62D]),
  (0xFD5A, 0xFD5A, [0x62D, 0x645, 0x64A]), (0xFD5B, 0xFD5B, [0x62D, 0x645, 0x649]),
  (0xFD5C, 0xFD5C, [0x633, 0x62D, 0x62C]), (0xFD5D, 0xFD5D, [0x633, 0x62C, 0x62D]),
  (0xFD5E, 0xFD5E, [0x633, 0x62C, 0x649]), (0xFD5F, 0xFD60, [0x633, 0x645, 0x62D]),
  (0xFD61, 0xFD61, [0x633, 0x645, 0x62C]), (0xFD62, 0xFD63, [0x633, 0x645, 0x645]),
  (0xFD64, 0xFD65, [0x635, 0x62D, 0x62D]), (0xFD66, 0xFD66, [0x635, 0x645, 0x645]),
  (0xFD67, 0xFD68, [0x634, 0x62D, 0x645]), (0xFD69, 0xFD69, [0x634, 0x62C, 0x64A]),
  (0xFD6A, 0xFD6B, [0x634, 0x645, 0x62E]), (0xFD6C, 0xFD6D, [0x634, 0x645, 0x645]),
  (0xFD6E, 0xFD6E, [0x636, 0x62D, 0x649]), (0xFD6F, 0xFD70, [0x636, 0x62E, 0x645]),
  (0xFD71, 0xFD72, [0x637, 0x645, 0x62D]), (0xFD73, 0xFD73, [0x637, 0x645, 0x645]),
  (0xFD74, 0xFD74, [0x637, 0x645, 0x64A]), (0xFD75, 0xFD75, [0x639, 0x62C, 0x645]),
  (0xFD76, 0xFD77, [0x639, 0x645, 0x645]), (0xFD78, 0xFD78, [0x639, 0x645, 0x649]),
  (0xFD79, 0xFD79, [0x63A, 0x645, 0x645]), (0xFD7A, 0xFD7A, [0x63A, 0x645, 0x64A]),
  (0xFD7B, 0xFD7B, [0x63A, 0x645, 0x649]), (0xFD7C, 0xFD7D, [0x641, 0x62E, 0x645]),
  (0xFD7E, 0xFD7E, [0x642, 0x645, 0x62D]), (0xFD7F, 0xFD7F, [0x642, 0x645, 0x645]),
  (0xFD80, 0xFD80, [0x644, 0x62D, 0x645]), (0xFD81, 0xFD81, [0x644, 0x62D, 0x64A]),
  (0xFD82, 0xFD82, [0x644, 0x62D, 0x649]), (0xFD83, 0xFD84, [0x644, 0x62C, 0x62C]),
  (0xFD85, 0xFD86, [0x644, 0x62E, 0x645]), (0xFD87, 0xFD88, [0x644, 0x645, 0x62D]),
  (0xFD89, 0xFD89, [0x645, 0x62D, 0x62C]), (0xFD8A, 0xFD8A, [0x645, 0x62D, 0x645]),
  (0xFD8B, 0xFD8B, [0x645, 0x62D, 0x64A]), (0xFD8C, 0xFD8C, [0x645, 0x62C, 0x62D]),
  (0xFD8D, 0xFD8D, [0x645, 0x62C, 0x645]), (0xFD8E, 0xFD8E, [0x645, 0x62E, 0x62C]),
  (0xFD8F, 0xFD8F, [0x645, 0x62E, 0x645]), (0xFD92, 0xFD92, [0x645, 0x62C, 0x62E]),
  (0xFD93, 0xFD93, [0x647, 0x645, 0x62C]), (0xFD94, 0xFD94, [0x647, 0x645, 0x645]),
  (0xFD95, 0xFD95, [0x646, 0x62D, 0x645]), (0xFD96, 0xFD96, [0x646, 0x62D, 0x649]),
  (0xFD97, 0xFD98, [0x646, 0x62C, 0x645]), (0xFD99, 0xFD99, [0x646, 0x62C, 0x649]),
  (0xFD9A, 0xFD9A, [0x646, 0x645, 0x64A]), (0xFD9B, 0xFD9B, [0x646, 0x645, 0x649]),
  (0xFD9C, 0xFD9D, [0x64A, 0x645, 0x645]), (0xFD9E, 0xFD9E, [0x628, 0x62E, 0x64A])
]

/-- The expansions from U+FD9F on. -/
def idnaExpansionsFromFD9F : List (Nat × Nat × List Nat) := [
  (0xFD9F, 0xFD9F, [0x62A, 0x62C, 0x64A]), (0xFDA0, 0xFDA0, [0x62A, 0x62C, 0x649]),
  (0xFDA1, 0xFDA1, [0x62A, 0x62E, 0x64A]), (0xFDA2, 0xFDA2, [0x62A, 0x62E, 0x649]),
  (0xFDA3, 0xFDA3, [0x62A, 0x645, 0x64A]), (0xFDA4, 0xFDA4, [0x62A, 0x645, 0x649]),
  (0xFDA5, 0xFDA5, [0x62C, 0x645, 0x64A]), (0xFDA6, 0xFDA6, [0x62C, 0x62D, 0x649]),
  (0xFDA7, 0xFDA7, [0x62C, 0x645, 0x649]), (0xFDA8, 0xFDA8, [0x633, 0x62E, 0x649]),
  (0xFDA9, 0xFDA9, [0x635, 0x62D, 0x64A]), (0xFDAA, 0xFDAA, [0x634, 0x62D, 0x64A]),
  (0xFDAB, 0xFDAB, [0x636, 0x62D, 0x64A]), (0xFDAC, 0xFDAC, [0x644, 0x62C, 0x64A]),
  (0xFDAD, 0xFDAD, [0x644, 0x645, 0x64A]), (0xFDAE, 0xFDAE, [0x64A, 0x62D, 0x64A]),
  (0xFDAF, 0xFDAF, [0x64A, 0x62C, 0x64A]), (0xFDB0, 0xFDB0, [0x64A, 0x645, 0x64A]),
  (0xFDB1, 0xFDB1, [0x645, 0x645, 0x64A]), (0xFDB2, 0xFDB2, [0x642, 0x645, 0x64A]),
  (0xFDB3, 0xFDB3, [0x646, 0x62D, 0x64A]), (0xFDB4, 0xFDB4, [0x642, 0x645, 0x62D]),
  (0xFDB5, 0xFDB5, [0x644, 0x62D, 0x645]), (0xFDB6, 0xFDB6, [0x639, 0x645, 0x64A]),
  (0xFDB7, 0xFDB7, [0x643, 0x645, 0x64A]), (0xFDB8, 0xFDB8, [0x646, 0x62C, 0x62D]),
  (0xFDB9, 0xFDB9, [0x645, 0x62E, 0x64A]), (0xFDBA, 0xFDBA, [0x644, 0x62C, 0x645]),
  (0xFDBB, 0xFDBB, [0x643, 0x645, 0x645]), (0xFDBC, 0xFDBC, [0x644, 0x62C, 0x645]),
  (0xFDBD, 0xFDBD, [0x646, 0x62C, 0x62D]), (0xFDBE, 0xFDBE, [0x62C, 0x62D, 0x64A]),
  (0xFDBF, 0xFDBF, [0x62D, 0x62C, 0x64A]), (0xFDC0, 0xFDC0, [0x645, 0x62C, 0x64A]),
  (0xFDC1, 0xFDC1, [0x641, 0x645, 0x64A]), (0xFDC2, 0xFDC2, [0x628, 0x62D, 0x64A]),
  (0xFDC3, 0xFDC3, [0x643, 0x645, 0x645]), (0xFDC4, 0xFDC4, [0x639, 0x62C, 0x645]),
  (0xFDC5, 0xFDC5, [0x635, 0x645, 0x645]), (0xFDC6, 0xFDC6, [0x633, 0x62E, 0x64A]),
  (0xFDC7, 0xFDC7, [0x646, 0x62C, 0x64A]), (0xFDF0, 0xFDF0, [0x635, 0x644, 0x6D2]),
  (0xFDF1, 0xFDF1, [0x642, 0x644, 0x6D2]), (0xFDF2, 0xFDF2, [0x627, 0x644, 0x644, 0x647]),
  (0xFDF3, 0xFDF3, [0x627, 0x643, 0x628, 0x631]), (0xFDF4, 0xFDF4, [0x645, 0x62D, 0x645, 0x62F]),
  (0xFDF5, 0xFDF5, [0x635, 0x644, 0x639, 0x645]), (0xFDF6, 0xFDF6, [0x631, 0x633, 0x648, 0x644]),
  (0xFDF7, 0xFDF7, [0x639, 0x644, 0x64A, 0x647]), (0xFDF8, 0xFDF8, [0x648, 0x633, 0x644, 0x645]),
  (0xFDF9, 0xFDF9, [0x635, 0x644, 0x649]), (0xFDFA, 0xFDFA, [0x635, 0x644, 0x649, 0x20, 0x627, 0x644, 0x644, 0x647, 0x20, 0x639, 0x644, 0x64A, 0x647, 0x20, 0x648, 0x633, 0x644, 0x645]),
  (0xFDFB, 0xFDFB, [0x62C, 0x644, 0x20, 0x62C, 0x644, 0x627, 0x644, 0x647]), (0xFDFC, 0xFDFC, [0x631, 0x6CC, 0x627, 0x644]),
  (0xFE49, 0xFE4C, [0x20, 0x305]), (0xFE70, 0xFE70, [0x20, 0x64B]),
  (0xFE71, 0xFE71, [0x640, 0x64B]), (0xFE72, 0xFE72, [0x20, 0x64C]),
  (0xFE74, 0xFE74, [0x20, 0x64D]), (0xFE76, 0xFE76, [0x20, 0x64E]),
  (0xFE77, 0xFE77, [0x640, 0x64E]), (0xFE78, 0xFE78, [0x20, 0x64F]),
  (0xFE79, 0xFE79, [0x640, 0x64F]), (0xFE7A, 0xFE7A, [0x20, 0x650]),
  (0xFE7B, 0xFE7B, [0x640, 0x650]), (0xFE7C, 0xFE7C, [0x20, 0x651]),
  (0xFE7D, 0xFE7D, [0x640, 0x651]), (0xFE7E, 0xFE7E, [0x20, 0x652]),
  (0xFE7F, 0xFE7F, [0x640, 0x652]), (0xFEF5, 0xFEF6, [0x644, 0x622]),
  (0xFEF7, 0xFEF8, [0x644, 0x623]), (0xFEF9, 0xFEFA, [0x644, 0x625]),
  (0xFEFB, 0xFEFC, [0x644, 0x627]), (0xFFE3, 0xFFE3, [0x20, 0x304]),
  (0x1D15E, 0x1D15E, [0x1D157, 0x1D165]), (0x1D15F, 0x1D15F, [0x1D158, 0x1D165]),
  (0x1D160, 0x1D160, [0x1D158, 0x1D165, 0x1D16E]), (0x1D161, 0x1D161, [0x1D158, 0x1D165, 0x1D16F]),
  (0x1D162, 0x1D162, [0x1D158, 0x1D165, 0x1D170]), (0x1D163, 0x1D163, [0x1D158, 0x1D165, 0x1D171]),
  (0x1D164, 0x1D164, [0x1D158, 0x1D165, 0x1D172]), (0x1D1BB, 0x1D1BB, [0x1D1B9, 0x1D165]),
  (0x1D1BC, 0x1D1BC, [0x1D1BA, 0x1D165]), (0x1D1BD, 0x1D1BD, [0x1D1B9, 0x1D165, 0x1D16E]),
  (0x1D1BE, 0x1D1BE, [0x1D1BA, 0x1D165, 0x1D16E]), (0x1D1BF, 0x1D1BF, [0x1D1B9, 0x1D165, 0x1D16F]),
  (0x1D1C0, 0x1D1C0, [0x1D1BA, 0x1D165, 0x1D16F]), (0x1F101, 0x1F101, [0x30, 0x2C]),
  (0x1F102, 0x1F102, [0x31, 0x2C]), (0x1F103, 0x1F103, [0x32, 0x2C]),
  (0x1F104, 0x1F104, [0x33, 0x2C]), (0x1F105, 0x1F105, [0x34, 0x2C]),
  (0x1F106, 0x1F106, [0x35, 0x2C]), (0x1F107, 0x1F107, [0x36, 0x2C]),
  (0x1F108, 0x1F108, [0x37, 0x2C]), (0x1F109, 0x1F109, [0x38, 0x2C]),
  (0x1F10A, 0x1F10A, [0x39, 0x2C]), (0x1F110, 0x1F110, [0x28, 0x61, 0x29]),
  (0x1F111, 0x1F111, [0x28, 0x62, 0x29]), (0x1F112, 0x1F112, [0x28, 0x63, 0x29]),
  (0x1F113, 0x1F113, [0x28, 0x64, 0x29]), (0x1F114, 0x1F114, [0x28, 0x65, 0x29]),
  (0x1F115, 0x1F115, [0x28, 0x66, 0x29]), (0x1F116, 0x1F116, [0x28, 0x67, 0x29]),
  (0x1F117, 0x1F117, [0x28, 0x68, 0x29]), (0x1F118, 0x1F118, [0x28, 0x69, 0x29]),
  (0x1F119, 0x1F119, [0x28, 0x6A, 0x29]), (0x1F11A, 0x1F11A, [0x28, 0x6B, 0x29]),
  (0x1F11B, 0x1F11B, [0x28, 0x6C, 0x29]), (0x1F11C, 0x1F11C, [0x28, 0x6D, 0x29]),
  (0x1F11D, 0x1F11D, [0x28, 0x6E, 0x29]), (0x1F11E, 0x1F11E, [0x28, 0x6F, 0x29]),
  (0x1F11F, 0x1F11F, [0x28, 0x70, 0x29]), (0x1F120, 0x1F120, [0x28, 0x71, 0x29]),
  (0x1F121, 0x1F121, [0x28, 0x72, 0x29]), (0x1F122, 0x1F122, [0x28, 0x73, 0x29]),
  (0x1F123, 0x1F123, [0x28, 0x74, 0x29]), (0x1F124, 0x1F124, [0x28, 0x75, 0x29]),
  (0x1F125, 0x1F125, [0x28, 0x76, 0x29]), (0x1F126, 0x1F126, [0x28, 0x77, 0x29]),
  (0x1F127, 0x1F127, [0x28, 0x78, 0x29]), (0x1F128, 0x1F128, [0x28, 0x79, 0x29]),
  (0x1F129, 0x1F129, [0x28, 0x7A, 0x29]), (0x1F12A, 0x1F12A, [0x3014, 0x73, 0x3015]),
  (0x1F12D, 0x1F12D, [0x63, 0x64]), (0x1F12E, 0x1F12E, [0x77, 0x7A]),
  (0x1F14A, 0x1F14A, [0x68, 0x76]), (0x1F14B, 0x1F14B, [0x6D, 0x76]),
  (0x1F14C, 0x1F14C, [0x73, 0x64]), (0x1F14D, 0x1F14D, [0x73, 0x73]),
  (0x1F14E, 0x1F14E, [0x70, 0x70, 0x76]), (0x1F14F, 0x1F14F, [0x77, 0x63]),
  (0x1F16A, 0x1F16A, [0x6D, 0x63]), (0x1F16B, 0x1F16B, [0x6D, 0x64]),
  (0x1F16C, 0x1F16C, [0x6D, 0x72]), (0x1F190, 0x1F190, [0x64, 0x6A]),
  (0x1F200, 0x1F200, [0x307B, 0x304B]), (0x1F201, 0x1F201, [0x30B3, 0x30B3]),
  (0x1F240, 0x1F240, [0x3014, 0x672C, 0x3015]), (0x1F241, 0x1F241, [0x3014, 0x4E09, 0x3015]),
  (0x1F242, 0x1F242, [0x3014, 0x4E8C, 0x3015]), (0x1F243, 0x1F243, [0x3014, 0x5B89, 0x3015]),
  (0x1F244, 0x1F244, [0x3014, 0x70B9, 0x3015]), (0x1F245, 0x1F245, [0x3014, 0x6253, 0x3015]),
  (0x1F246, 0x1F246, [0x3014, 0x76D7, 0x3015]), (0x1F247, 0x1F247, [0x3014, 0x52DD, 0x3015]),
  (0x1F248, 0x1F248, [0x3014, 0x6557, 0x3015])
]

/-- Code points mapped to several code points, in ranges that share the mapping. -/
def idnaExpansions : List (Nat × Nat × List Nat) :=
  idnaExpansionsFrom00A8 ++
  idnaExpansionsFrom325F ++
  idnaExpansionsFromFC11 ++
  idnaExpansionsFromFD9F
/-- The disallowed ranges from U+0080 on. -/
def idnaDisallowedFrom0080 : List CodeRange := [
  (0x80, 0x9F), (0x378, 0x379), (0x380, 0x38D), (0x3A2, 0x3A2),
  (0x530, 0x558), (0x58B, 0x58C), (0x590, 0x590), (0x5C8, 0x5CF),
  (0x5EB, 0x5EE), (0x5F5, 0x605), (0x61C, 0x61C), (0x6DD, 0x6DD),
  (0x70E, 0x70F), (0x74B, 0x74C), (0x7B2, 0x7BF), (0x7FB, 0x7FC),
  (0x82E, 0x82F), (0x83F, 0x83F), (0x85C, 0x85D), (0x85F, 0x85F),
  (0x86B, 0x86F), (0x890, 0x896), (0x8E2, 0x8E2), (0x984, 0x984),
  (0x98D, 0x98E), (0x991, 0x992), (0x9A9, 0x9A9), (0x9B1, 0x9B1),
  (0x9B3, 0x9B5), (0x9BA, 0x9BB), (0x9C5, 0x9C6), (0x9C9, 0x9CA),
  (0x9CF, 0x9D6), (0x9D8, 0x9DE), (0x9E4, 0x9E5), (0x9FF, 0xA00),
  (0xA04, 0xA04), (0xA0B, 0xA0E), (0xA11, 0xA12), (0xA29, 0xA29),
  (0xA31, 0xA31), (0xA34, 0xA34), (0xA37, 0xA37), (0xA3A, 0xA3B),
  (0xA3D, 0xA3D), (0xA43, 0xA46), (0xA49, 0xA4A), (0xA4E, 0xA50),
  (0xA52, 0xA58), (0xA5D, 0xA65), (0xA77, 0xA80), (0xA84, 0xA84),
  (0xA8E, 0xA8E), (0xA92, 0xA92), (0xAA9, 0xAA9), (0xAB1, 0xAB1),
  (0xAB4, 0xAB4), (0xABA, 0xABB), (0xAC6, 0xAC6), (0xACA, 0xACA),
  (0xACE, 0xACF), (0xAD1, 0xADF), (0xAE4, 0xAE5), (0xAF2, 0xAF8),
  (0xB00, 0xB00), (0xB04, 0xB04), (0xB0D, 0xB0E), (0xB11, 0xB12),
  (0xB29, 0xB29), (0xB31, 0xB31), (0xB34, 0xB34), (0xB3A, 0xB3B),
  (0xB45, 0xB46), (0xB49, 0xB4A), (0xB4E, 0xB54), (0xB58, 0xB5E),
  (0xB64, 0xB65), (0xB78, 0xB81), (0xB84, 0xB84), (0xB8B, 0xB8D),
  (0xB91, 0xB91), (0xB96, 0xB98), (0xB9B, 0xB9B), (0xB9D, 0xB9D),
  (0xBA0, 0xBA2), (0xBA5, 0xBA7), (0xBAB, 0xBAD), (0xBBA, 0xBBD),
  (0xBC3, 0xBC5), (0xBC9, 0xBC9), (0xBCE, 0xBCF), (0xBD1, 0xBD6),
  (0xBD8, 0xBE5), (0xBFB, 0xBFF), (0xC0D, 0xC0D), (0xC11, 0xC11),
  (0xC29, 0xC29), (0xC3A, 0xC3B), (0xC45, 0xC45), (0xC49, 0xC49),
  (0xC4E, 0xC54), (0xC57, 0xC57), (0xC5B, 0xC5B), (0xC5E, 0xC5F),
  (0xC64, 0xC65), (0xC70, 0xC76), (0xC8D, 0xC8D), (0xC91, 0xC91),
  (0xCA9, 0xCA9), (0xCB4, 0xCB4), (0xCBA, 0xCBB), (0xCC5, 0xCC5),
  (0xCC9, 0xCC9), (0xCCE, 0xCD4), (0xCD7, 0xCDB), (0xCDF, 0xCDF),
  (0xCE4, 0xCE5), (0xCF0, 0xCF0), (0xCF4, 0xCFF), (0xD0D, 0xD0D),
  (0xD11, 0xD11), (0xD45, 0xD45), (0xD49, 0xD49), (0xD50, 0xD53),
  (0xD64, 0xD65), (0xD80, 0xD80), (0xD84, 0xD84), (0xD97, 0xD99),
  (0xDB2, 0xDB2), (0xDBC, 0xDBC), (0xDBE, 0xDBF), (0xDC7, 0xDC9),
  (0xDCB, 0xDCE), (0xDD5, 0xDD5), (0xDD7, 0xDD7), (0xDE0, 0xDE5),
  (0xDF0, 0xDF1), (0xDF5, 0xE00), (0xE3B, 0xE3E), (0xE5C, 0xE80),
  (0xE83, 0xE83), (0xE85, 0xE85), (0xE8B, 0xE8B), (0xEA4, 0xEA4),
  (0xEA6, 0xEA6), (0xEBE, 0xEBF), (0xEC5, 0xEC5), (0xEC7, 0xEC7),
  (0xECF, 0xECF), (0xEDA, 0xEDB), (0xEE0, 0xEFF), (0xF48, 0xF48),
  (0xF6D, 0xF70), (0xF98, 0xF98), (0xFBD, 0xFBD), (0xFCD, 0xFCD),
  (0xFDB, 0xFFF), (0x10C6, 0x10CF), (0x1249, 0x1249), (0x124E, 0x124F),
  (0x1257, 0x1257), (0x1259, 0x1259), (0x125E, 0x125F), (0x1289, 0x1289),
  (0x128E, 0x128F), (0x12B1, 0x12B1), (0x12B6, 0x12B7), (0x12BF, 0x12BF),
  (0x12C1, 0x12C1), (0x12C6, 0x12C7), (0x12D7, 0x12D7), (0x1311, 0x1311),
  (0x1316, 0x1317), (0x135B, 0x135C), (0x137D, 0x137F), (0x139A, 0x139F),
  (0x13F6, 0x13FF), (0x1680, 0x1680), (0x169D, 0x169F), (0x16F9, 0x16FF),
  (0x1716, 0x171E), (0x1737, 0x173F), (0x1754, 0x175F), (0x176D, 0x176D),
  (0x1771, 0x1771), (0x1774, 0x177F), (0x17DE, 0x17DF), (0x17EA, 0x17EF),
  (0x17FA, 0x17FF), (0x181A, 0x181F), (0x1879, 0x187F), (0x18AB, 0x18AF),
  (0x18F6, 0x18FF), (0x191F, 0x191F), (0x192C, 0x192F), (0x193C, 0x193F),
  (0x1941, 0x1943), (0x196E, 0x196F), (0x1975, 0x197F), (0x19AC, 0x19AF),
  (0x19CA, 0x19CF), (0x19DB, 0x19DD), (0x1A1C, 0x1A1D), (0x1A5F, 0x1A5F),
  (0x1A7D, 0x1A7E), (0x1A8A, 0x1A8F), (0x1A9A, 0x1A9F), (0x1AAE, 0x1AAF),
  (0x1ADE, 0x1ADF), (0x1AEC, 0x1AFF), (0x1B4D, 0x1B4D), (0x1BF4, 0x1BFB),
  (0x1C38, 0x1C3A), (0x1C4A, 0x1C4C), (0x1C8B, 0x1CBC), (0x1CC8, 0x1CCF),
  (0x1CFB, 0x1CFF), (0x1F16, 0x1F1F), (0x1F46, 0x1F4F), (0x1F58, 0x1F5E),
  (0x1F7E, 0x1F7F), (0x1FB5, 0x1FB5), (0x1FC5, 0x1FC5), (0x1FD4, 0x1FD5),
  (0x1FDC, 0x1FDC), (0x1FF0, 0x1FF5), (0x1FFF, 0x1FFF), (0x200E, 0x200F),
  (0x2024, 0x2026), (0x2028, 0x202E), (0x2065, 0x2069), (0x2072, 0x209F),
  (0x20C2, 0x20CF), (0x20F1, 0x20FF), (0x218C, 0x218F), (0x242A, 0x243F),
  (0x244B, 0x249B), (0x2B74, 0x2B75), (0x2CF4, 0x2CF8), (0x2D26, 0x2D26),
  (0x2D28, 0x2D2C), (0x2D2E, 0x2D2F), (0x2D68, 0x2D6E), (0x2D71, 0x2D7E),
  (0x2D97, 0x2D9F), (0x2DA7, 0x2DA7), (0x2DAF, 0x2DAF), (0x2DB7, 0x2DB7),
  (0x2DBF, 0x2DBF), (0x2DC7, 0x2DC7), (0x2DCF, 0x2DCF), (0x2DD7, 0x2DD7),
  (0x2DDF, 0x2DDF), (0x2E5E, 0x2E7F), (0x2E9A, 0x2E9A), (0x2EF4, 0x2FFF),
  (0x3040, 0x3040), (0x3097, 0x3098), (0x3100, 0x3104), (0x3130, 0x3130),
  (0x318F, 0x318F), (0x31E6, 0x31EF), (0x321F, 0x321F), (0x33C2, 0x33D8),
  (0xA48D, 0xA48F), (0xA4C7, 0xA4CF), (0xA62C, 0xA63F), (0xA6F8, 0xA6FF),
  (0xA7DD, 0xA7F0), (0xA82D, 0xA82F), (0xA83A, 0xA83F), (0xA878, 0xA87F),
  (0xA8C6, 0xA8CD), (0xA8DA, 0xA8DF), (0xA954, 0xA95E), (0xA97D, 0xA97F),
  (0xA9CE, 0xA9CE), (0xA9DA, 0xA9DD), (0xA9FF, 0xA9FF), (0xAA37, 0xAA3F),
  (0xAA4E, 0xAA4F), (0xAA5A, 0xAA5B), (0xAAC3, 0xAADA), (0xAAF7, 0xAB00),
  (0xAB07, 0xAB08), (0xAB0F, 0xAB10), (0xAB17, 0xAB1F), (0xAB27, 0xAB27),
  (0xAB2F, 0xAB2F), (0xAB6C, 0xAB6F), (0xABEE, 0xABEF), (0xABFA, 0xABFF),
  (0xD7A4, 0xD7AF), (0xD7C7, 0xD7CA), (0xD7FC, 0xF8FF), (0xFA6E, 0xFB1C),
  (0xFB37, 0xFB45), (0xFDD0, 0xFDEF), (0xFE12, 0xFE1F), (0xFE30, 0xFE30),
  (0xFE52, 0xFE6F), (0xFE75, 0xFEFE), (0xFF00, 0xFF00), (0xFFBF, 0xFFFF),
  (0x1000C, 0x1000C), (0x10027, 0x10027), (0x1003B, 0x1003B), (0x1003E, 0x1003E),
  (0x1004E, 0x1004F), (0x1005E, 0x1007F), (0x100FB, 0x100FF), (0x10103, 0x10106),
  (0x10134, 0x10136), (0x1018F, 0x1018F), (0x1019D, 0x1019F), (0x101A1, 0x101CF),
  (0x101FE, 0x1027F), (0x1029D, 0x1029F), (0x102D1, 0x102DF), (0x102FC, 0x102FF),
  (0x10324, 0x1032C), (0x1034B, 0x1034F), (0x1037B, 0x1037F), (0x1039E, 0x1039E),
  (0x103C4, 0x103C7), (0x103D6, 0x103FF), (0x1049E, 0x1049F), (0x104AA, 0x104D7),
  (0x104FC, 0x104FF), (0x10528, 0x1052F), (0x10564, 0x1056E), (0x1057B, 0x10596),
  (0x105A2, 0x105A2), (0x105B2, 0x105B2), (0x105BA, 0x105BA), (0x105BD, 0x105BF),
  (0x105F4, 0x105FF), (0x10737, 0x1073F), (0x10756, 0x1075F), (0x10768, 0x1077F),
  (0x10786, 0x107FF), (0x10806, 0x10807), (0x10809, 0x10809), (0x10836, 0x10836),
  (0x10839, 0x1083B), (0x1083D, 0x1083E), (0x10856, 0x10856), (0x1089F, 0x108A6),
  (0x108B0, 0x108DF), (0x108F3, 0x108F3), (0x108F6, 0x108FA), (0x1091C, 0x1091E),
  (0x1093A, 0x1093E), (0x1095A, 0x1097F), (0x109B8, 0x109BB), (0x109D0, 0x109D1),
  (0x10A04, 0x10A04), (0x10A07, 0x10A0B), (0x10A14, 0x10A14), (0x10A18, 0x10A18)
]

/-- The disallowed ranges from U+10A36 on. -/
def idnaDisallowedFrom10A36 : List CodeRange := [
  (0x10A36, 0x10A37), (0x10A3B, 0x10A3E), (0x10A49, 0x10A4F), (0x10A59, 0x10A5F),
  (0x10AA0, 0x10ABF), (0x10AE7, 0x10AEA), (0x10AF7, 0x10AFF), (0x10B36, 0x10B38),
  (0x10B56, 0x10B57), (0x10B73, 0x10B77), (0x10B92, 0x10B98), (0x10B9D, 0x10BA8),
  (0x10BB0, 0x10BFF), (0x10C49, 0x10CBF), (0x10CF3, 0x10CF9), (0x10D28, 0x10D2F),
  (0x10D3A, 0x10D3F), (0x10D66, 0x10D68), (0x10D86, 0x10D8D), (0x10D90, 0x10E5F),
  (0x10E7F, 0x10E7F), (0x10EAA, 0x10EAA), (0x10EAE, 0x10EAF), (0x10EB2, 0x10EC1),
  (0x10EC8, 0x10ECF), (0x10ED9, 0x10EF9), (0x10F28, 0x10F2F), (0x10F5A, 0x10F6F),
  (0x10F8A, 0x10FAF), (0x10FCC, 0x10FDF), (0x10FF7, 0x10FFF), (0x1104E, 0x11051),
  (0x11076, 0x1107E), (0x110BD, 0x110BD), (0x110C3, 0x110CF), (0x110E9, 0x110EF),
  (0x110FA, 0x110FF), (0x11135, 0x11135), (0x11148, 0x1114F), (0x11177, 0x1117F),
  (0x111E0, 0x111E0), (0x111F5, 0x111FF), (0x11212, 0x11212), (0x11242, 0x1127F),
  (0x11287, 0x11287), (0x11289, 0x11289), (0x1128E, 0x1128E), (0x1129E, 0x1129E),
  (0x112AA, 0x112AF), (0x112EB, 0x112EF), (0x112FA, 0x112FF), (0x11304, 0x11304),
  (0x1130D, 0x1130E), (0x11311, 0x11312), (0x11329, 0x11329), (0x11331, 0x11331),
  (0x11334, 0x11334), (0x1133A, 0x1133A), (0x11345, 0x11346), (0x11349, 0x1134A),
  (0x1134E, 0x1134F), (0x11351, 0x11356), (0x11358, 0x1135C), (0x11364, 0x11365),
  (0x1136D, 0x1136F), (0x11375, 0x1137F), (0x1138A, 0x1138A), (0x1138C, 0x1138D),
  (0x1138F, 0x1138F), (0x113B6, 0x113B6), (0x113C1, 0x113C1), (0x113C3, 0x113C4),
  (0x113C6, 0x113C6), (0x113CB, 0x113CB), (0x113D6, 0x113D6), (0x113D9, 0x113E0),
  (0x113E3, 0x113FF), (0x1145C, 0x1145C), (0x11462, 0x1147F), (0x114C8, 0x114CF),
  (0x114DA, 0x1157F), (0x115B6, 0x115B7), (0x115DE, 0x115FF), (0x11645, 0x1164F),
  (0x1165A, 0x1165F), (0x1166D, 0x1167F), (0x116BA, 0x116BF), (0x116CA, 0x116CF),
  (0x116E4, 0x116FF), (0x1171B, 0x1171C), (0x1172C, 0x1172F), (0x11747, 0x117FF),
  (0x1183C, 0x1189F), (0x118F3, 0x118FE), (0x11907, 0x11908), (0x1190A, 0x1190B),
  (0x11914, 0x11914), (0x11917, 0x11917), (0x11936, 0x11936), (0x11939, 0x1193A),
  (0x11947, 0x1194F), (0x1195A, 0x1199F), (0x119A8, 0x119A9), (0x119D8, 0x119D9),
  (0x119E5, 0x119FF), (0x11A48, 0x11A4F), (0x11AA3, 0x11AAF), (0x11AF9, 0x11AFF),
  (0x11B0A, 0x11B5F), (0x11B68, 0x11BBF), (0x11BE2, 0x11BEF), (0x11BFA, 0x11BFF),
  (0x11C09, 0x11C09), (0x11C37, 0x11C37), (0x11C46, 0x11C4F), (0x11C6D, 0x11C6F),
  (0x11C90, 0x11C91), (0x11CA8, 0x11CA8), (0x11CB7, 0x11CFF), (0x11D07, 0x11D07),
  (0x11D0A, 0x11D0A), (0x11D37, 0x11D39), (0x11D3B, 0x11D3B), (0x11D3E, 0x11D3E),
  (0x11D48, 0x11D4F), (0x11D5A, 0x11D5F), (0x11D66, 0x11D66), (0x11D69, 0x11D69),
  (0x11D8F, 0x11D8F), (0x11D92, 0x11D92), (0x11D99, 0x11D9F), (0x11DAA, 0x11DAF),
  (0x11DDC, 0x11DDF), (0x11DEA, 0x11EDF), (0x11EF9, 0x11EFF), (0x11F11, 0x11F11),
  (0x11F3B, 0x11F3D), (0x11F5B, 0x11FAF), (0x11FB1, 0x11FBF), (0x11FF2, 0x11FFE),
  (0x1239A, 0x123FF), (0x1246F, 0x1246F), (0x12475, 0x1247F), (0x12544, 0x12F8F),
  (0x12FF3, 0x12FFF), (0x13430, 0x1343F), (0x13456, 0x1345F), (0x143FB, 0x143FF),
  (0x14647, 0x160FF), (0x1613A, 0x167FF), (0x16A39, 0x16A3F), (0x16A5F, 0x16A5F),
  (0x16A6A, 0x16A6D), (0x16ABF, 0x16ABF), (0x16ACA, 0x16ACF), (0x16AEE, 0x16AEF),
  (0x16AF6, 0x16AFF), (0x16B46, 0x16B4F), (0x16B5A, 0x16B5A), (0x16B62, 0x16B62),
  (0x16B78, 0x16B7C), (0x16B90, 0x16D3F), (0x16D7A, 0x16E3F), (0x16E9B, 0x16EBA),
  (0x16ED4, 0x16EFF), (0x16F4B, 0x16F4E), (0x16F88, 0x16F8E), (0x16FA0, 0x16FDF),
  (0x16FE5, 0x16FEF), (0x16FF7, 0x16FFF), (0x18CD6, 0x18CFE), (0x18D1F, 0x18D7F),
  (0x18DF3, 0x1AFEF), (0x1AFF4, 0x1AFF4), (0x1AFFC, 0x1AFFC), (0x1AFFF, 0x1AFFF),
  (0x1B123, 0x1B131), (0x1B133, 0x1B14F), (0x1B153, 0x1B154), (0x1B156, 0x1B163),
  (0x1B168, 0x1B16F), (0x1B2FC, 0x1BBFF), (0x1BC6B, 0x1BC6F), (0x1BC7D, 0x1BC7F),
  (0x1BC89, 0x1BC8F), (0x1BC9A, 0x1BC9B), (0x1BCA4, 0x1CBFF), (0x1CCFD, 0x1CCFF),
  (0x1CEB4, 0x1CEB9), (0x1CED1, 0x1CEDF), (0x1CEF1, 0x1CEFF), (0x1CF2E, 0x1CF2F),
  (0x1CF47, 0x1CF4F), (0x1CFC4, 0x1CFFF), (0x1D0F6, 0x1D0FF), (0x1D127, 0x1D128),
  (0x1D1EB, 0x1D1FF), (0x1D246, 0x1D2BF), (0x1D2D4, 0x1D2DF), (0x1D2F4, 0x1D2FF),
  (0x1D357, 0x1D35F), (0x1D379, 0x1D7CD), (0x1DA8C, 0x1DA9A), (0x1DAA0, 0x1DAA0),
  (0x1DAB0, 0x1DEFF), (0x1DF1F, 0x1DF24), (0x1DF2B, 0x1DFFF), (0x1E007, 0x1E007),
  (0x1E019, 0x1E01A), (0x1E022, 0x1E022), (0x1E025, 0x1E025), (0x1E02B, 0x1E08E),
  (0x1E090, 0x1E0FF), (0x1E12D, 0x1E12F), (0x1E13E, 0x1E13F), (0x1E14A, 0x1E14D),
  (0x1E150, 0x1E28F), (0x1E2AF, 0x1E2BF), (0x1E2FA, 0x1E2FE), (0x1E300, 0x1E4CF),
  (0x1E4FA, 0x1E5CF), (0x1E5FB, 0x1E5FE), (0x1E600, 0x1E6BF), (0x1E6DF, 0x1E6DF),
  (0x1E6F6, 0x1E6FD), (0x1E700, 0x1E7DF), (0x1E7E7, 0x1E7E7), (0x1E7EC, 0x1E7EC),
  (0x1E7EF, 0x1E7EF), (0x1E7FF, 0x1E7FF), (0x1E8C5, 0x1E8C6), (0x1E8D7, 0x1E8FF),
  (0x1E94C, 0x1E94F), (0x1E95A, 0x1E95D), (0x1E960, 0x1EC70), (0x1ECB5, 0x1ED00),
  (0x1ED3E, 0x1EEEF), (0x1EEF2, 0x1EFFF), (0x1F02C, 0x1F02F), (0x1F094, 0x1F09F),
  (0x1F0AF, 0x1F0B0), (0x1F0C0, 0x1F0C0), (0x1F0D0, 0x1F0D0), (0x1F0F6, 0x1F100),
  (0x1F1AE, 0x1F1E5), (0x1F203, 0x1F25F), (0x1F266, 0x1F2FF), (0x1F6D9, 0x1F6DB),
  (0x1F6ED, 0x1F6EF), (0x1F6FD, 0x1F6FF), (0x1F7DA, 0x1F7DF), (0x1F7EC, 0x1F7EF),
  (0x1F7F1, 0x1F7FF), (0x1F80C, 0x1F80F), (0x1F848, 0x1F84F), (0x1F85A, 0x1F85F),
  (0x1F888, 0x1F88F), (0x1F8AE, 0x1F8AF), (0x1F8BC, 0x1F8BF), (0x1F8C2, 0x1F8CF),
  (0x1F8D9, 0x1F8FF), (0x1FA58, 0x1FA5F), (0x1FA6E, 0x1FA6F), (0x1FA7D, 0x1FA7F),
  (0x1FA8B, 0x1FA8D), (0x1FAC7, 0x1FAC7), (0x1FAC9, 0x1FACC), (0x1FADD, 0x1FADE),
  (0x1FAEB, 0x1FAEE), (0x1FAF9, 0x1FAFF), (0x1FB93, 0x1FB93), (0x1FBFB, 0x1FFFF),
  (0x2A6E0, 0x2A6FF), (0x2B81E, 0x2B81F), (0x2CEAE, 0x2CEAF), (0x2EBE1, 0x2EBEF),
  (0x2EE5E, 0x2FFFF), (0x3134B, 0x3134F), (0x3347A, 0xE00FF), (0xE01F0, 0x10FFFF)
]

/-- Disallowed code points, in ranges that may span mapped ones. -/
def idnaDisallowed : List CodeRange :=
  idnaDisallowedFrom0080 ++
  idnaDisallowedFrom10A36
/-- Code points left out of a domain name. -/
def idnaIgnored : List CodeRange := [
  (0xAD, 0xAD), (0x34F, 0x34F), (0x115F, 0x1160), (0x17B4, 0x17B5),
  (0x180B, 0x180F), (0x200B, 0x200B), (0x2060, 0x2064), (0x206A, 0x206F),
  (0x3164, 0x3164), (0xFE00, 0xFE0F), (0xFEFF, 0xFEFF), (0xFFA0, 0xFFA0),
  (0x1BCA0, 0x1BCA3), (0x1D173, 0x1D17A), (0xE0100, 0xE01EF)
]

end DraftPool.Text
