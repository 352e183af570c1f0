import OlapClient.Text.CharSet

namespace OlapClient.Location.Domain

/-!
# Combining classes

* `combiningClasses` — the canonical combining class of every character.
* `virama` — the class of the marks that join consonants.
-/

/-- The canonical combining class of every character. -/
def combiningClasses : CharClasses Nat := .mk 0 [
    (0x300, 230), (0x315, 232), (0x316, 220), (0x31A, 232), (0x31B, 216), (0x31C, 220),
    (0x321, 202), (0x323, 220), (0x327, 202), (0x329, 220), (0x334, 1), (0x339, 220), (0x33D, 230),
    (0x340, 0), (0x342, 230), (0x343, 0), (0x345, 240), (0x346, 230), (0x347, 220), (0x34A, 230),
    (0x34D, 220), (0x34F, 0), (0x350, 230), (0x353, 220), (0x357, 230), (0x358, 232), (0x359, 220),
    (0x35B, 230), (0x35C, 233), (0x35D, 234), (0x35F, 233), (0x360, 234), (0x362, 233),
    (0x363, 230), (0x370, 0), (0x483, 230), (0x488, 0), (0x591, 220), (0x592, 230), (0x596, 220),
    (0x597, 230), (0x59A, 222), (0x59B, 220), (0x59C, 230), (0x5A2, 220), (0x5A8, 230),
    (0x5AA, 220), (0x5AB, 230), (0x5AD, 222), (0x5AE, 228), (0x5AF, 230), (0x5B0, 10), (0x5B1, 11),
    (0x5B2, 12), (0x5B3, 13), (0x5B4, 14), (0x5B5, 15), (0x5B6, 16), (0x5B7, 17), (0x5B8, 18),
    (0x5B9, 19), (0x5BB, 20), (0x5BC, 21), (0x5BD, 22), (0x5BE, 0), (0x5BF, 23), (0x5C0, 0),
    (0x5C1, 24), (0x5C2, 25), (0x5C3, 0), (0x5C4, 230), (0x5C5, 220), (0x5C6, 0), (0x5C7, 18),
    (0x5C8, 0), (0x610, 230), (0x618, 30), (0x619, 31), (0x61A, 32), (0x61B, 0), (0x64B, 27),
    (0x64C, 28), (0x64D, 29), (0x64E, 30), (0x64F, 31), (0x650, 32), (0x651, 33), (0x652, 34),
    (0x653, 230), (0x655, 220), (0x657, 230), (0x65C, 220), (0x65D, 230), (0x65F, 220), (0x660, 0),
    (0x670, 35), (0x671, 0), (0x6D6, 230), (0x6DD, 0), (0x6DF, 230), (0x6E3, 220), (0x6E4, 230),
    (0x6E5, 0), (0x6E7, 230), (0x6E9, 0), (0x6EA, 220), (0x6EB, 230), (0x6ED, 220), (0x6EE, 0),
    (0x711, 36), (0x712, 0), (0x730, 230), (0x731, 220), (0x732, 230), (0x734, 220), (0x735, 230),
    (0x737, 220), (0x73A, 230), (0x73B, 220), (0x73D, 230), (0x73E, 220), (0x73F, 230),
    (0x742, 220), (0x743, 230), (0x744, 220), (0x745, 230), (0x746, 220), (0x747, 230),
    (0x748, 220), (0x749, 230), (0x74B, 0), (0x7EB, 230), (0x7F2, 220), (0x7F3, 230), (0x7F4, 0),
    (0x7FD, 220), (0x7FE, 0), (0x816, 230), (0x81A, 0), (0x81B, 230), (0x824, 0), (0x825, 230),
    (0x828, 0), (0x829, 230), (0x82E, 0), (0x859, 220), (0x85C, 0), (0x897, 230), (0x899, 220),
    (0x89C, 230), (0x8A0, 0), (0x8CA, 230), (0x8CF, 220), (0x8D4, 230), (0x8E2, 0), (0x8E3, 220),
    (0x8E4, 230), (0x8E6, 220), (0x8E7, 230), (0x8E9, 220), (0x8EA, 230), (0x8ED, 220), (0x8F0, 27),
    (0x8F1, 28), (0x8F2, 29), (0x8F3, 230), (0x8F6, 220), (0x8F7, 230), (0x8F9, 220), (0x8FB, 230),
    (0x900, 0), (0x93C, 7), (0x93D, 0), (0x94D, 9), (0x94E, 0), (0x951, 230), (0x952, 220),
    (0x953, 230), (0x955, 0), (0x9BC, 7), (0x9BD, 0), (0x9CD, 9), (0x9CE, 0), (0x9FE, 230),
    (0x9FF, 0), (0xA3C, 7), (0xA3D, 0), (0xA4D, 9), (0xA4E, 0), (0xABC, 7), (0xABD, 0), (0xACD, 9),
    (0xACE, 0), (0xB3C, 7), (0xB3D, 0), (0xB4D, 9), (0xB4E, 0), (0xBCD, 9), (0xBCE, 0), (0xC3C, 7),
    (0xC3D, 0), (0xC4D, 9), (0xC4E, 0), (0xC55, 84), (0xC56, 91), (0xC57, 0), (0xCBC, 7),
    (0xCBD, 0), (0xCCD, 9), (0xCCE, 0), (0xD3B, 9), (0xD3D, 0), (0xD4D, 9), (0xD4E, 0), (0xDCA, 9),
    (0xDCB, 0), (0xE38, 103), (0xE3A, 9), (0xE3B, 0), (0xE48, 107), (0xE4C, 0), (0xEB8, 118),
    (0xEBA, 9), (0xEBB, 0), (0xEC8, 122), (0xECC, 0), (0xF18, 220), (0xF1A, 0), (0xF35, 220),
    (0xF36, 0), (0xF37, 220), (0xF38, 0), (0xF39, 216), (0xF3A, 0), (0xF71, 129), (0xF72, 130),
    (0xF73, 0), (0xF74, 132), (0xF75, 0), (0xF7A, 130), (0xF7E, 0), (0xF80, 130), (0xF81, 0),
    (0xF82, 230), (0xF84, 9), (0xF85, 0), (0xF86, 230), (0xF88, 0), (0xFC6, 220), (0xFC7, 0),
    (0x1037, 7), (0x1038, 0), (0x1039, 9), (0x103B, 0), (0x108D, 220), (0x108E, 0), (0x135D, 230),
    (0x1360, 0), (0x1714, 9), (0x1716, 0), (0x1734, 9), (0x1735, 0), (0x17D2, 9), (0x17D3, 0),
    (0x17DD, 230), (0x17DE, 0), (0x18A9, 228), (0x18AA, 0), (0x1939, 222), (0x193A, 230),
    (0x193B, 220), (0x193C, 0), (0x1A17, 230), (0x1A18, 220), (0x1A19, 0), (0x1A60, 9), (0x1A61, 0),
    (0x1A75, 230), (0x1A7D, 0), (0x1A7F, 220), (0x1A80, 0), (0x1AB0, 230), (0x1AB5, 220),
    (0x1ABB, 230), (0x1ABD, 220), (0x1ABE, 0), (0x1ABF, 220), (0x1AC1, 230), (0x1AC3, 220),
    (0x1AC5, 230), (0x1ACA, 220), (0x1ACB, 230), (0x1ADD, 220), (0x1ADE, 0), (0x1AE0, 230),
    (0x1AE6, 220), (0x1AE7, 230), (0x1AEB, 234), (0x1AEC, 0), (0x1B34, 7), (0x1B35, 0), (0x1B44, 9),
    (0x1B45, 0), (0x1B6B, 230), (0x1B6C, 220), (0x1B6D, 230), (0x1B74, 0), (0x1BAA, 9), (0x1BAC, 0),
    (0x1BE6, 7), (0x1BE7, 0), (0x1BF2, 9), (0x1BF4, 0), (0x1C37, 7), (0x1C38, 0), (0x1CD0, 230),
    (0x1CD3, 0), (0x1CD4, 1), (0x1CD5, 220), (0x1CDA, 230), (0x1CDC, 220), (0x1CE0, 230),
    (0x1CE1, 0), (0x1CE2, 1), (0x1CE9, 0), (0x1CED, 220), (0x1CEE, 0), (0x1CF4, 230), (0x1CF5, 0),
    (0x1CF8, 230), (0x1CFA, 0), (0x1DC0, 230), (0x1DC2, 220), (0x1DC3, 230), (0x1DCA, 220),
    (0x1DCB, 230), (0x1DCD, 234), (0x1DCE, 214), (0x1DCF, 220), (0x1DD0, 202), (0x1DD1, 230),
    (0x1DF6, 232), (0x1DF7, 228), (0x1DF9, 220), (0x1DFA, 218), (0x1DFB, 230), (0x1DFC, 233),
    (0x1DFD, 220), (0x1DFE, 230), (0x1DFF, 220), (0x1E00, 0), (0x20D0, 230), (0x20D2, 1),
    (0x20D4, 230), (0x20D8, 1), (0x20DB, 230), (0x20DD, 0), (0x20E1, 230), (0x20E2, 0), (0x20E5, 1),
    (0x20E7, 230), (0x20E8, 220), (0x20E9, 230), (0x20EA, 1), (0x20EC, 220), (0x20F0, 230),
    (0x20F1, 0), (0x2CEF, 230), (0x2CF2, 0), (0x2D7F, 9), (0x2D80, 0), (0x2DE0, 230), (0x2E00, 0),
    (0x302A, 218), (0x302B, 228), (0x302C, 232), (0x302D, 222), (0x302E, 224), (0x3030, 0),
    (0x3099, 8), (0x309B, 0), (0xA66F, 230), (0xA670, 0), (0xA674, 230), (0xA67E, 0), (0xA69E, 230),
    (0xA6A0, 0), (0xA6F0, 230), (0xA6F2, 0), (0xA806, 9), (0xA807, 0), (0xA82C, 9), (0xA82D, 0),
    (0xA8C4, 9), (0xA8C5, 0), (0xA8E0, 230), (0xA8F2, 0), (0xA92B, 220), (0xA92E, 0), (0xA953, 9),
    (0xA954, 0), (0xA9B3, 7), (0xA9B4, 0), (0xA9C0, 9), (0xA9C1, 0), (0xAAB0, 230), (0xAAB1, 0),
    (0xAAB2, 230), (0xAAB4, 220), (0xAAB5, 0), (0xAAB7, 230), (0xAAB9, 0), (0xAABE, 230),
    (0xAAC0, 0), (0xAAC1, 230), (0xAAC2, 0), (0xAAF6, 9), (0xAAF7, 0), (0xABED, 9), (0xABEE, 0),
    (0xFB1E, 26), (0xFB1F, 0), (0xFE20, 230), (0xFE27, 220), (0xFE2E, 230), (0xFE30, 0),
    (0x101FD, 220), (0x101FE, 0), (0x102E0, 220), (0x102E1, 0), (0x10376, 230), (0x1037B, 0),
    (0x10A0D, 220), (0x10A0E, 0), (0x10A0F, 230), (0x10A10, 0), (0x10A38, 230), (0x10A39, 1),
    (0x10A3A, 220), (0x10A3B, 0), (0x10A3F, 9), (0x10A40, 0), (0x10AE5, 230), (0x10AE6, 220),
    (0x10AE7, 0), (0x10D24, 230), (0x10D28, 0), (0x10D69, 230), (0x10D6E, 0), (0x10EAB, 230),
    (0x10EAD, 0), (0x10EFA, 220), (0x10EFC, 0), (0x10EFD, 220), (0x10F00, 0), (0x10F46, 220),
    (0x10F48, 230), (0x10F4B, 220), (0x10F4C, 230), (0x10F4D, 220), (0x10F51, 0), (0x10F82, 230),
    (0x10F83, 220), (0x10F84, 230), (0x10F85, 220), (0x10F86, 0), (0x11046, 9), (0x11047, 0),
    (0x11070, 9), (0x11071, 0), (0x1107F, 9), (0x11080, 0), (0x110B9, 9), (0x110BA, 7),
    (0x110BB, 0), (0x11100, 230), (0x11103, 0), (0x11133, 9), (0x11135, 0), (0x11173, 7),
    (0x11174, 0), (0x111C0, 9), (0x111C1, 0), (0x111CA, 7), (0x111CB, 0), (0x11235, 9),
    (0x11236, 7), (0x11237, 0), (0x112E9, 7), (0x112EA, 9), (0x112EB, 0), (0x1133B, 7),
    (0x1133D, 0), (0x1134D, 9), (0x1134E, 0), (0x11366, 230), (0x1136D, 0), (0x11370, 230),
    (0x11375, 0), (0x113CE, 9), (0x113D1, 0), (0x11442, 9), (0x11443, 0), (0x11446, 7),
    (0x11447, 0), (0x1145E, 230), (0x1145F, 0), (0x114C2, 9), (0x114C3, 7), (0x114C4, 0),
    (0x115BF, 9), (0x115C0, 7), (0x115C1, 0), (0x1163F, 9), (0x11640, 0), (0x116B6, 9),
    (0x116B7, 7), (0x116B8, 0), (0x1172B, 9), (0x1172C, 0), (0x11839, 9), (0x1183A, 7),
    (0x1183B, 0), (0x1193D, 9), (0x1193F, 0), (0x11943, 7), (0x11944, 0), (0x119E0, 9),
    (0x119E1, 0), (0x11A34, 9), (0x11A35, 0), (0x11A47, 9), (0x11A48, 0), (0x11A99, 9),
    (0x11A9A, 0), (0x11C3F, 9), (0x11C40, 0), (0x11D42, 7), (0x11D43, 0), (0x11D44, 9),
    (0x11D46, 0), (0x11D97, 9), (0x11D98, 0), (0x11F41, 9), (0x11F43, 0), (0x1612F, 9),
    (0x16130, 0), (0x16AF0, 1), (0x16AF5, 0), (0x16B30, 230), (0x16B37, 0), (0x16FF0, 6),
    (0x16FF2, 0), (0x1BC9E, 1), (0x1BC9F, 0), (0x1D165, 216), (0x1D167, 1), (0x1D16A, 0),
    (0x1D16D, 226), (0x1D16E, 216), (0x1D173, 0), (0x1D17B, 220), (0x1D183, 0), (0x1D185, 230),
    (0x1D18A, 220), (0x1D18C, 0), (0x1D1AA, 230), (0x1D1AE, 0), (0x1D242, 230), (0x1D245, 0),
    (0x1E000, 230), (0x1E007, 0), (0x1E008, 230), (0x1E019, 0), (0x1E01B, 230), (0x1E022, 0),
    (0x1E023, 230), (0x1E025, 0), (0x1E026, 230), (0x1E02B, 0), (0x1E08F, 230), (0x1E090, 0),
    (0x1E130, 230), (0x1E137, 0), (0x1E2AE, 230), (0x1E2AF, 0), (0x1E2EC, 230), (0x1E2F0, 0),
    (0x1E4EC, 232), (0x1E4EE, 220), (0x1E4EF, 230), (0x1E4F0, 0), (0x1E5EE, 230), (0x1E5EF, 220),
    (0x1E5F0, 0), (0x1E6E3, 230), (0x1E6E4, 0), (0x1E6E6, 230), (0x1E6E7, 0), (0x1E6EE, 230),
    (0x1E6F0, 0), (0x1E6F5, 230), (0x1E6F6, 0), (0x1E8D0, 220), (0x1E8D7, 0), (0x1E944, 230),
    (0x1E94A, 7), (0x1E94B, 0)]

/-- The canonical combining class of a character. Marks of different classes do not touch. -/
def combiningClass (c : Char) : Nat :=
  combiningClasses.classOf c

/-- The class of the marks that join consonants. -/
def virama : Nat := 9

end OlapClient.Location.Domain
