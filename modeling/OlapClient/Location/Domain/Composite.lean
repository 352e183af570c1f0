namespace OlapClient.Location.Domain

/-!
# Composite letters

* `composites` — the permitted characters that stand for a letter and marks, with the parts that
  they stand for. Syllables of Hangul are not listed: their parts are computed.
-/

/-- The code points of composite letters, each with those of its parts. -/
def composites : List (Nat × List Nat) := [
    (0xE0, [0x61, 0x300]), (0xE1, [0x61, 0x301]), (0xE2, [0x61, 0x302]), (0xE3, [0x61, 0x303]),
    (0xE4, [0x61, 0x308]), (0xE5, [0x61, 0x30A]), (0xE7, [0x63, 0x327]), (0xE8, [0x65, 0x300]),
    (0xE9, [0x65, 0x301]), (0xEA, [0x65, 0x302]), (0xEB, [0x65, 0x308]), (0xEC, [0x69, 0x300]),
    (0xED, [0x69, 0x301]), (0xEE, [0x69, 0x302]), (0xEF, [0x69, 0x308]), (0xF1, [0x6E, 0x303]),
    (0xF2, [0x6F, 0x300]), (0xF3, [0x6F, 0x301]), (0xF4, [0x6F, 0x302]), (0xF5, [0x6F, 0x303]),
    (0xF6, [0x6F, 0x308]), (0xF9, [0x75, 0x300]), (0xFA, [0x75, 0x301]), (0xFB, [0x75, 0x302]),
    (0xFC, [0x75, 0x308]), (0xFD, [0x79, 0x301]), (0xFF, [0x79, 0x308]), (0x101, [0x61, 0x304]),
    (0x103, [0x61, 0x306]), (0x105, [0x61, 0x328]), (0x107, [0x63, 0x301]), (0x109, [0x63, 0x302]),
    (0x10B, [0x63, 0x307]), (0x10D, [0x63, 0x30C]), (0x10F, [0x64, 0x30C]), (0x113, [0x65, 0x304]),
    (0x115, [0x65, 0x306]), (0x117, [0x65, 0x307]), (0x119, [0x65, 0x328]), (0x11B, [0x65, 0x30C]),
    (0x11D, [0x67, 0x302]), (0x11F, [0x67, 0x306]), (0x121, [0x67, 0x307]), (0x123, [0x67, 0x327]),
    (0x125, [0x68, 0x302]), (0x129, [0x69, 0x303]), (0x12B, [0x69, 0x304]), (0x12D, [0x69, 0x306]),
    (0x12F, [0x69, 0x328]), (0x135, [0x6A, 0x302]), (0x137, [0x6B, 0x327]), (0x13A, [0x6C, 0x301]),
    (0x13C, [0x6C, 0x327]), (0x13E, [0x6C, 0x30C]), (0x144, [0x6E, 0x301]), (0x146, [0x6E, 0x327]),
    (0x148, [0x6E, 0x30C]), (0x14D, [0x6F, 0x304]), (0x14F, [0x6F, 0x306]), (0x151, [0x6F, 0x30B]),
    (0x155, [0x72, 0x301]), (0x157, [0x72, 0x327]), (0x159, [0x72, 0x30C]), (0x15B, [0x73, 0x301]),
    (0x15D, [0x73, 0x302]), (0x15F, [0x73, 0x327]), (0x161, [0x73, 0x30C]), (0x163, [0x74, 0x327]),
    (0x165, [0x74, 0x30C]), (0x169, [0x75, 0x303]), (0x16B, [0x75, 0x304]), (0x16D, [0x75, 0x306]),
    (0x16F, [0x75, 0x30A]), (0x171, [0x75, 0x30B]), (0x173, [0x75, 0x328]), (0x175, [0x77, 0x302]),
    (0x177, [0x79, 0x302]), (0x17A, [0x7A, 0x301]), (0x17C, [0x7A, 0x307]), (0x17E, [0x7A, 0x30C]),
    (0x1A1, [0x6F, 0x31B]), (0x1B0, [0x75, 0x31B]), (0x1CE, [0x61, 0x30C]), (0x1D0, [0x69, 0x30C]),
    (0x1D2, [0x6F, 0x30C]), (0x1D4, [0x75, 0x30C]), (0x1D6, [0x75, 0x308, 0x304]),
    (0x1D8, [0x75, 0x308, 0x301]), (0x1DA, [0x75, 0x308, 0x30C]), (0x1DC, [0x75, 0x308, 0x300]),
    (0x1DF, [0x61, 0x308, 0x304]), (0x1E1, [0x61, 0x307, 0x304]), (0x1E3, [0xE6, 0x304]),
    (0x1E7, [0x67, 0x30C]), (0x1E9, [0x6B, 0x30C]), (0x1EB, [0x6F, 0x328]),
    (0x1ED, [0x6F, 0x328, 0x304]), (0x1EF, [0x292, 0x30C]), (0x1F0, [0x6A, 0x30C]),
    (0x1F5, [0x67, 0x301]), (0x1F9, [0x6E, 0x300]), (0x1FB, [0x61, 0x30A, 0x301]),
    (0x1FD, [0xE6, 0x301]), (0x1FF, [0xF8, 0x301]), (0x201, [0x61, 0x30F]), (0x203, [0x61, 0x311]),
    (0x205, [0x65, 0x30F]), (0x207, [0x65, 0x311]), (0x209, [0x69, 0x30F]), (0x20B, [0x69, 0x311]),
    (0x20D, [0x6F, 0x30F]), (0x20F, [0x6F, 0x311]), (0x211, [0x72, 0x30F]), (0x213, [0x72, 0x311]),
    (0x215, [0x75, 0x30F]), (0x217, [0x75, 0x311]), (0x219, [0x73, 0x326]), (0x21B, [0x74, 0x326]),
    (0x21F, [0x68, 0x30C]), (0x227, [0x61, 0x307]), (0x229, [0x65, 0x327]),
    (0x22B, [0x6F, 0x308, 0x304]), (0x22D, [0x6F, 0x303, 0x304]), (0x22F, [0x6F, 0x307]),
    (0x231, [0x6F, 0x307, 0x304]), (0x233, [0x79, 0x304]), (0x390, [0x3B9, 0x308, 0x301]),
    (0x3AC, [0x3B1, 0x301]), (0x3AD, [0x3B5, 0x301]), (0x3AE, [0x3B7, 0x301]),
    (0x3AF, [0x3B9, 0x301]), (0x3B0, [0x3C5, 0x308, 0x301]), (0x3CA, [0x3B9, 0x308]),
    (0x3CB, [0x3C5, 0x308]), (0x3CC, [0x3BF, 0x301]), (0x3CD, [0x3C5, 0x301]),
    (0x3CE, [0x3C9, 0x301]), (0x439, [0x438, 0x306]), (0x450, [0x435, 0x300]),
    (0x451, [0x435, 0x308]), (0x453, [0x433, 0x301]), (0x457, [0x456, 0x308]),
    (0x45C, [0x43A, 0x301]), (0x45D, [0x438, 0x300]), (0x45E, [0x443, 0x306]),
    (0x477, [0x475, 0x30F]), (0x4C2, [0x436, 0x306]), (0x4D1, [0x430, 0x306]),
    (0x4D3, [0x430, 0x308]), (0x4D7, [0x435, 0x306]), (0x4DB, [0x4D9, 0x308]),
    (0x4DD, [0x436, 0x308]), (0x4DF, [0x437, 0x308]), (0x4E3, [0x438, 0x304]),
    (0x4E5, [0x438, 0x308]), (0x4E7, [0x43E, 0x308]), (0x4EB, [0x4E9, 0x308]),
    (0x4ED, [0x44D, 0x308]), (0x4EF, [0x443, 0x304]), (0x4F1, [0x443, 0x308]),
    (0x4F3, [0x443, 0x30B]), (0x4F5, [0x447, 0x308]), (0x4F9, [0x44B, 0x308]),
    (0x622, [0x627, 0x653]), (0x623, [0x627, 0x654]), (0x624, [0x648, 0x654]),
    (0x625, [0x627, 0x655]), (0x626, [0x64A, 0x654]), (0x6C0, [0x6D5, 0x654]),
    (0x6C2, [0x6C1, 0x654]), (0x6D3, [0x6D2, 0x654]), (0x929, [0x928, 0x93C]),
    (0x931, [0x930, 0x93C]), (0x934, [0x933, 0x93C]), (0x9CB, [0x9C7, 0x9BE]),
    (0x9CC, [0x9C7, 0x9D7]), (0xB48, [0xB47, 0xB56]), (0xB4B, [0xB47, 0xB3E]),
    (0xB4C, [0xB47, 0xB57]), (0xB94, [0xB92, 0xBD7]), (0xBCA, [0xBC6, 0xBBE]),
    (0xBCB, [0xBC7, 0xBBE]), (0xBCC, [0xBC6, 0xBD7]), (0xC48, [0xC46, 0xC56]),
    (0xCC0, [0xCBF, 0xCD5]), (0xCC7, [0xCC6, 0xCD5]), (0xCC8, [0xCC6, 0xCD6]),
    (0xCCA, [0xCC6, 0xCC2]), (0xCCB, [0xCC6, 0xCC2, 0xCD5]), (0xD4A, [0xD46, 0xD3E]),
    (0xD4B, [0xD47, 0xD3E]), (0xD4C, [0xD46, 0xD57]), (0xDDA, [0xDD9, 0xDCA]),
    (0xDDC, [0xDD9, 0xDCF]), (0xDDD, [0xDD9, 0xDCF, 0xDCA]), (0xDDE, [0xDD9, 0xDDF]),
    (0x1026, [0x1025, 0x102E]), (0x1B06, [0x1B05, 0x1B35]), (0x1B08, [0x1B07, 0x1B35]),
    (0x1B0A, [0x1B09, 0x1B35]), (0x1B0C, [0x1B0B, 0x1B35]), (0x1B0E, [0x1B0D, 0x1B35]),
    (0x1B12, [0x1B11, 0x1B35]), (0x1B3B, [0x1B3A, 0x1B35]), (0x1B3D, [0x1B3C, 0x1B35]),
    (0x1B40, [0x1B3E, 0x1B35]), (0x1B41, [0x1B3F, 0x1B35]), (0x1B43, [0x1B42, 0x1B35]),
    (0x1E01, [0x61, 0x325]), (0x1E03, [0x62, 0x307]), (0x1E05, [0x62, 0x323]),
    (0x1E07, [0x62, 0x331]), (0x1E09, [0x63, 0x327, 0x301]), (0x1E0B, [0x64, 0x307]),
    (0x1E0D, [0x64, 0x323]), (0x1E0F, [0x64, 0x331]), (0x1E11, [0x64, 0x327]),
    (0x1E13, [0x64, 0x32D]), (0x1E15, [0x65, 0x304, 0x300]), (0x1E17, [0x65, 0x304, 0x301]),
    (0x1E19, [0x65, 0x32D]), (0x1E1B, [0x65, 0x330]), (0x1E1D, [0x65, 0x327, 0x306]),
    (0x1E1F, [0x66, 0x307]), (0x1E21, [0x67, 0x304]), (0x1E23, [0x68, 0x307]),
    (0x1E25, [0x68, 0x323]), (0x1E27, [0x68, 0x308]), (0x1E29, [0x68, 0x327]),
    (0x1E2B, [0x68, 0x32E]), (0x1E2D, [0x69, 0x330]), (0x1E2F, [0x69, 0x308, 0x301]),
    (0x1E31, [0x6B, 0x301]), (0x1E33, [0x6B, 0x323]), (0x1E35, [0x6B, 0x331]),
    (0x1E37, [0x6C, 0x323]), (0x1E39, [0x6C, 0x323, 0x304]), (0x1E3B, [0x6C, 0x331]),
    (0x1E3D, [0x6C, 0x32D]), (0x1E3F, [0x6D, 0x301]), (0x1E41, [0x6D, 0x307]),
    (0x1E43, [0x6D, 0x323]), (0x1E45, [0x6E, 0x307]), (0x1E47, [0x6E, 0x323]),
    (0x1E49, [0x6E, 0x331]), (0x1E4B, [0x6E, 0x32D]), (0x1E4D, [0x6F, 0x303, 0x301]),
    (0x1E4F, [0x6F, 0x303, 0x308]), (0x1E51, [0x6F, 0x304, 0x300]), (0x1E53, [0x6F, 0x304, 0x301]),
    (0x1E55, [0x70, 0x301]), (0x1E57, [0x70, 0x307]), (0x1E59, [0x72, 0x307]),
    (0x1E5B, [0x72, 0x323]), (0x1E5D, [0x72, 0x323, 0x304]), (0x1E5F, [0x72, 0x331]),
    (0x1E61, [0x73, 0x307]), (0x1E63, [0x73, 0x323]), (0x1E65, [0x73, 0x301, 0x307]),
    (0x1E67, [0x73, 0x30C, 0x307]), (0x1E69, [0x73, 0x323, 0x307]), (0x1E6B, [0x74, 0x307]),
    (0x1E6D, [0x74, 0x323]), (0x1E6F, [0x74, 0x331]), (0x1E71, [0x74, 0x32D]),
    (0x1E73, [0x75, 0x324]), (0x1E75, [0x75, 0x330]), (0x1E77, [0x75, 0x32D]),
    (0x1E79, [0x75, 0x303, 0x301]), (0x1E7B, [0x75, 0x304, 0x308]), (0x1E7D, [0x76, 0x303]),
    (0x1E7F, [0x76, 0x323]), (0x1E81, [0x77, 0x300]), (0x1E83, [0x77, 0x301]),
    (0x1E85, [0x77, 0x308]), (0x1E87, [0x77, 0x307]), (0x1E89, [0x77, 0x323]),
    (0x1E8B, [0x78, 0x307]), (0x1E8D, [0x78, 0x308]), (0x1E8F, [0x79, 0x307]),
    (0x1E91, [0x7A, 0x302]), (0x1E93, [0x7A, 0x323]), (0x1E95, [0x7A, 0x331]),
    (0x1E96, [0x68, 0x331]), (0x1E97, [0x74, 0x308]), (0x1E98, [0x77, 0x30A]),
    (0x1E99, [0x79, 0x30A]), (0x1EA1, [0x61, 0x323]), (0x1EA3, [0x61, 0x309]),
    (0x1EA5, [0x61, 0x302, 0x301]), (0x1EA7, [0x61, 0x302, 0x300]), (0x1EA9, [0x61, 0x302, 0x309]),
    (0x1EAB, [0x61, 0x302, 0x303]), (0x1EAD, [0x61, 0x323, 0x302]), (0x1EAF, [0x61, 0x306, 0x301]),
    (0x1EB1, [0x61, 0x306, 0x300]), (0x1EB3, [0x61, 0x306, 0x309]), (0x1EB5, [0x61, 0x306, 0x303]),
    (0x1EB7, [0x61, 0x323, 0x306]), (0x1EB9, [0x65, 0x323]), (0x1EBB, [0x65, 0x309]),
    (0x1EBD, [0x65, 0x303]), (0x1EBF, [0x65, 0x302, 0x301]), (0x1EC1, [0x65, 0x302, 0x300]),
    (0x1EC3, [0x65, 0x302, 0x309]), (0x1EC5, [0x65, 0x302, 0x303]), (0x1EC7, [0x65, 0x323, 0x302]),
    (0x1EC9, [0x69, 0x309]), (0x1ECB, [0x69, 0x323]), (0x1ECD, [0x6F, 0x323]),
    (0x1ECF, [0x6F, 0x309]), (0x1ED1, [0x6F, 0x302, 0x301]), (0x1ED3, [0x6F, 0x302, 0x300]),
    (0x1ED5, [0x6F, 0x302, 0x309]), (0x1ED7, [0x6F, 0x302, 0x303]), (0x1ED9, [0x6F, 0x323, 0x302]),
    (0x1EDB, [0x6F, 0x31B, 0x301]), (0x1EDD, [0x6F, 0x31B, 0x300]), (0x1EDF, [0x6F, 0x31B, 0x309]),
    (0x1EE1, [0x6F, 0x31B, 0x303]), (0x1EE3, [0x6F, 0x31B, 0x323]), (0x1EE5, [0x75, 0x323]),
    (0x1EE7, [0x75, 0x309]), (0x1EE9, [0x75, 0x31B, 0x301]), (0x1EEB, [0x75, 0x31B, 0x300]),
    (0x1EED, [0x75, 0x31B, 0x309]), (0x1EEF, [0x75, 0x31B, 0x303]), (0x1EF1, [0x75, 0x31B, 0x323]),
    (0x1EF3, [0x79, 0x300]), (0x1EF5, [0x79, 0x323]), (0x1EF7, [0x79, 0x309]),
    (0x1EF9, [0x79, 0x303]), (0x1F00, [0x3B1, 0x313]), (0x1F01, [0x3B1, 0x314]),
    (0x1F02, [0x3B1, 0x313, 0x300]), (0x1F03, [0x3B1, 0x314, 0x300]),
    (0x1F04, [0x3B1, 0x313, 0x301]), (0x1F05, [0x3B1, 0x314, 0x301]),
    (0x1F06, [0x3B1, 0x313, 0x342]), (0x1F07, [0x3B1, 0x314, 0x342]), (0x1F10, [0x3B5, 0x313]),
    (0x1F11, [0x3B5, 0x314]), (0x1F12, [0x3B5, 0x313, 0x300]), (0x1F13, [0x3B5, 0x314, 0x300]),
    (0x1F14, [0x3B5, 0x313, 0x301]), (0x1F15, [0x3B5, 0x314, 0x301]), (0x1F20, [0x3B7, 0x313]),
    (0x1F21, [0x3B7, 0x314]), (0x1F22, [0x3B7, 0x313, 0x300]), (0x1F23, [0x3B7, 0x314, 0x300]),
    (0x1F24, [0x3B7, 0x313, 0x301]), (0x1F25, [0x3B7, 0x314, 0x301]),
    (0x1F26, [0x3B7, 0x313, 0x342]), (0x1F27, [0x3B7, 0x314, 0x342]), (0x1F30, [0x3B9, 0x313]),
    (0x1F31, [0x3B9, 0x314]), (0x1F32, [0x3B9, 0x313, 0x300]), (0x1F33, [0x3B9, 0x314, 0x300]),
    (0x1F34, [0x3B9, 0x313, 0x301]), (0x1F35, [0x3B9, 0x314, 0x301]),
    (0x1F36, [0x3B9, 0x313, 0x342]), (0x1F37, [0x3B9, 0x314, 0x342]), (0x1F40, [0x3BF, 0x313]),
    (0x1F41, [0x3BF, 0x314]), (0x1F42, [0x3BF, 0x313, 0x300]), (0x1F43, [0x3BF, 0x314, 0x300]),
    (0x1F44, [0x3BF, 0x313, 0x301]), (0x1F45, [0x3BF, 0x314, 0x301]), (0x1F50, [0x3C5, 0x313]),
    (0x1F51, [0x3C5, 0x314]), (0x1F52, [0x3C5, 0x313, 0x300]), (0x1F53, [0x3C5, 0x314, 0x300]),
    (0x1F54, [0x3C5, 0x313, 0x301]), (0x1F55, [0x3C5, 0x314, 0x301]),
    (0x1F56, [0x3C5, 0x313, 0x342]), (0x1F57, [0x3C5, 0x314, 0x342]), (0x1F60, [0x3C9, 0x313]),
    (0x1F61, [0x3C9, 0x314]), (0x1F62, [0x3C9, 0x313, 0x300]), (0x1F63, [0x3C9, 0x314, 0x300]),
    (0x1F64, [0x3C9, 0x313, 0x301]), (0x1F65, [0x3C9, 0x314, 0x301]),
    (0x1F66, [0x3C9, 0x313, 0x342]), (0x1F67, [0x3C9, 0x314, 0x342]), (0x1F70, [0x3B1, 0x300]),
    (0x1F72, [0x3B5, 0x300]), (0x1F74, [0x3B7, 0x300]), (0x1F76, [0x3B9, 0x300]),
    (0x1F78, [0x3BF, 0x300]), (0x1F7A, [0x3C5, 0x300]), (0x1F7C, [0x3C9, 0x300]),
    (0x1FB0, [0x3B1, 0x306]), (0x1FB1, [0x3B1, 0x304]), (0x1FB6, [0x3B1, 0x342]),
    (0x1FC6, [0x3B7, 0x342]), (0x1FD0, [0x3B9, 0x306]), (0x1FD1, [0x3B9, 0x304]),
    (0x1FD2, [0x3B9, 0x308, 0x300]), (0x1FD6, [0x3B9, 0x342]), (0x1FD7, [0x3B9, 0x308, 0x342]),
    (0x1FE0, [0x3C5, 0x306]), (0x1FE1, [0x3C5, 0x304]), (0x1FE2, [0x3C5, 0x308, 0x300]),
    (0x1FE4, [0x3C1, 0x313]), (0x1FE5, [0x3C1, 0x314]), (0x1FE6, [0x3C5, 0x342]),
    (0x1FE7, [0x3C5, 0x308, 0x342]), (0x1FF6, [0x3C9, 0x342]), (0x219A, [0x2190, 0x338]),
    (0x219B, [0x2192, 0x338]), (0x21AE, [0x2194, 0x338]), (0x21CD, [0x21D0, 0x338]),
    (0x21CE, [0x21D4, 0x338]), (0x21CF, [0x21D2, 0x338]), (0x2204, [0x2203, 0x338]),
    (0x2209, [0x2208, 0x338]), (0x220C, [0x220B, 0x338]), (0x2224, [0x2223, 0x338]),
    (0x2226, [0x2225, 0x338]), (0x2241, [0x223C, 0x338]), (0x2244, [0x2243, 0x338]),
    (0x2247, [0x2245, 0x338]), (0x2249, [0x2248, 0x338]), (0x2260, [0x3D, 0x338]),
    (0x2262, [0x2261, 0x338]), (0x226D, [0x224D, 0x338]), (0x226E, [0x3C, 0x338]),
    (0x226F, [0x3E, 0x338]), (0x2270, [0x2264, 0x338]), (0x2271, [0x2265, 0x338]),
    (0x2274, [0x2272, 0x338]), (0x2275, [0x2273, 0x338]), (0x2278, [0x2276, 0x338]),
    (0x2279, [0x2277, 0x338]), (0x2280, [0x227A, 0x338]), (0x2281, [0x227B, 0x338]),
    (0x2284, [0x2282, 0x338]), (0x2285, [0x2283, 0x338]), (0x2288, [0x2286, 0x338]),
    (0x2289, [0x2287, 0x338]), (0x22AC, [0x22A2, 0x338]), (0x22AD, [0x22A8, 0x338]),
    (0x22AE, [0x22A9, 0x338]), (0x22AF, [0x22AB, 0x338]), (0x22E0, [0x227C, 0x338]),
    (0x22E1, [0x227D, 0x338]), (0x22E2, [0x2291, 0x338]), (0x22E3, [0x2292, 0x338]),
    (0x22EA, [0x22B2, 0x338]), (0x22EB, [0x22B3, 0x338]), (0x22EC, [0x22B4, 0x338]),
    (0x22ED, [0x22B5, 0x338]), (0x304C, [0x304B, 0x3099]), (0x304E, [0x304D, 0x3099]),
    (0x3050, [0x304F, 0x3099]), (0x3052, [0x3051, 0x3099]), (0x3054, [0x3053, 0x3099]),
    (0x3056, [0x3055, 0x3099]), (0x3058, [0x3057, 0x3099]), (0x305A, [0x3059, 0x3099]),
    (0x305C, [0x305B, 0x3099]), (0x305E, [0x305D, 0x3099]), (0x3060, [0x305F, 0x3099]),
    (0x3062, [0x3061, 0x3099]), (0x3065, [0x3064, 0x3099]), (0x3067, [0x3066, 0x3099]),
    (0x3069, [0x3068, 0x3099]), (0x3070, [0x306F, 0x3099]), (0x3071, [0x306F, 0x309A]),
    (0x3073, [0x3072, 0x3099]), (0x3074, [0x3072, 0x309A]), (0x3076, [0x3075, 0x3099]),
    (0x3077, [0x3075, 0x309A]), (0x3079, [0x3078, 0x3099]), (0x307A, [0x3078, 0x309A]),
    (0x307C, [0x307B, 0x3099]), (0x307D, [0x307B, 0x309A]), (0x3094, [0x3046, 0x3099]),
    (0x309E, [0x309D, 0x3099]), (0x30AC, [0x30AB, 0x3099]), (0x30AE, [0x30AD, 0x3099]),
    (0x30B0, [0x30AF, 0x3099]), (0x30B2, [0x30B1, 0x3099]), (0x30B4, [0x30B3, 0x3099]),
    (0x30B6, [0x30B5, 0x3099]), (0x30B8, [0x30B7, 0x3099]), (0x30BA, [0x30B9, 0x3099]),
    (0x30BC, [0x30BB, 0x3099]), (0x30BE, [0x30BD, 0x3099]), (0x30C0, [0x30BF, 0x3099]),
    (0x30C2, [0x30C1, 0x3099]), (0x30C5, [0x30C4, 0x3099]), (0x30C7, [0x30C6, 0x3099]),
    (0x30C9, [0x30C8, 0x3099]), (0x30D0, [0x30CF, 0x3099]), (0x30D1, [0x30CF, 0x309A]),
    (0x30D3, [0x30D2, 0x3099]), (0x30D4, [0x30D2, 0x309A]), (0x30D6, [0x30D5, 0x3099]),
    (0x30D7, [0x30D5, 0x309A]), (0x30D9, [0x30D8, 0x3099]), (0x30DA, [0x30D8, 0x309A]),
    (0x30DC, [0x30DB, 0x3099]), (0x30DD, [0x30DB, 0x309A]), (0x30F4, [0x30A6, 0x3099]),
    (0x30F7, [0x30EF, 0x3099]), (0x30F8, [0x30F0, 0x3099]), (0x30F9, [0x30F1, 0x3099]),
    (0x30FA, [0x30F2, 0x3099]), (0x30FE, [0x30FD, 0x3099]), (0x105C9, [0x105D2, 0x307]),
    (0x105E4, [0x105DA, 0x307]), (0x1109A, [0x11099, 0x110BA]), (0x1109C, [0x1109B, 0x110BA]),
    (0x110AB, [0x110A5, 0x110BA]), (0x1112E, [0x11131, 0x11127]), (0x1112F, [0x11132, 0x11127]),
    (0x1134B, [0x11347, 0x1133E]), (0x1134C, [0x11347, 0x11357]), (0x11383, [0x11382, 0x113C9]),
    (0x11385, [0x11384, 0x113BB]), (0x1138E, [0x1138B, 0x113C2]), (0x11391, [0x11390, 0x113C9]),
    (0x113C5, [0x113C2, 0x113C2]), (0x113C7, [0x113C2, 0x113B8]), (0x113C8, [0x113C2, 0x113C9]),
    (0x114BB, [0x114B9, 0x114BA]), (0x114BC, [0x114B9, 0x114B0]), (0x114BE, [0x114B9, 0x114BD]),
    (0x115BA, [0x115B8, 0x115AF]), (0x115BB, [0x115B9, 0x115AF]), (0x11938, [0x11935, 0x11930]),
    (0x16121, [0x1611E, 0x1611E]), (0x16122, [0x1611E, 0x16129]), (0x16123, [0x1611E, 0x1611F]),
    (0x16124, [0x16129, 0x1611F]), (0x16125, [0x1611E, 0x16120]),
    (0x16126, [0x1611E, 0x1611E, 0x1611F]), (0x16127, [0x1611E, 0x16129, 0x1611F]),
    (0x16128, [0x1611E, 0x1611E, 0x16120]), (0x16D68, [0x16D67, 0x16D67]),
    (0x16D69, [0x16D63, 0x16D67]), (0x16D6A, [0x16D63, 0x16D67, 0x16D67])]

end OlapClient.Location.Domain
