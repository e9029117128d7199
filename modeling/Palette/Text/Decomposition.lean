import Palette.Text.HexDigit
import Palette.Text.Parts

/-!
# Decompositions of characters

Some characters that may stand in a name mean others: a letter with a mark means the
letter and the mark, and a letter of another width or style means the plain letter.
`decomposition?` gives what a character means, one step deep, and tells whether the two
characters that it means are made one again when they follow each other.
-/

namespace Palette.Text

/-- Rows of characters that mean one character each: the first, the last, and what the
first one means. -/
def shiftedRows : List (Nat × Nat × Nat) :=
  [(0x1D33, 0x1D3A, 0x47), (0x313A, 0x313F, 0x11B0), (0x3145, 0x314E, 0x1109),
  (0x314F, 0x3163, 0x1161), (0x3178, 0x317C, 0x112B), (0xFF10, 0xFF19, 0x30),
  (0xFF21, 0xFF3A, 0x41), (0xFF41, 0xFF5A, 0x61), (0xFF85, 0xFF8A, 0x30CA),
  (0xFF8F, 0xFF93, 0x30DE), (0xFF96, 0xFF9B, 0x30E8), (0xFFA1, 0xFFBE, 0x3131),
  (0xFFC2, 0xFFC7, 0x314F), (0xFFCA, 0xFFCF, 0x3155), (0xFFD2, 0xFFD7, 0x315B),
  (0x1D400, 0x1D419, 0x41), (0x1D41A, 0x1D433, 0x61), (0x1D434, 0x1D44D, 0x41),
  (0x1D44E, 0x1D454, 0x61), (0x1D456, 0x1D467, 0x69), (0x1D468, 0x1D481, 0x41),
  (0x1D482, 0x1D49B, 0x61), (0x1D4AE, 0x1D4B5, 0x53), (0x1D4BD, 0x1D4C3, 0x68),
  (0x1D4C5, 0x1D4CF, 0x70), (0x1D4D0, 0x1D4E9, 0x41), (0x1D4EA, 0x1D503, 0x61),
  (0x1D50D, 0x1D514, 0x4A), (0x1D516, 0x1D51C, 0x53), (0x1D51E, 0x1D537, 0x61),
  (0x1D540, 0x1D544, 0x49), (0x1D54A, 0x1D550, 0x53), (0x1D552, 0x1D56B, 0x61),
  (0x1D56C, 0x1D585, 0x41), (0x1D586, 0x1D59F, 0x61), (0x1D5A0, 0x1D5B9, 0x41),
  (0x1D5BA, 0x1D5D3, 0x61), (0x1D5D4, 0x1D5ED, 0x41), (0x1D5EE, 0x1D607, 0x61),
  (0x1D608, 0x1D621, 0x41), (0x1D622, 0x1D63B, 0x61), (0x1D63C, 0x1D655, 0x41),
  (0x1D656, 0x1D66F, 0x61), (0x1D670, 0x1D689, 0x41), (0x1D68A, 0x1D6A3, 0x61),
  (0x1D6A8, 0x1D6B8, 0x391), (0x1D6BA, 0x1D6C0, 0x3A3), (0x1D6C2, 0x1D6DA, 0x3B1),
  (0x1D6E2, 0x1D6F2, 0x391), (0x1D6F4, 0x1D6FA, 0x3A3), (0x1D6FC, 0x1D714, 0x3B1),
  (0x1D71C, 0x1D72C, 0x391), (0x1D72E, 0x1D734, 0x3A3), (0x1D736, 0x1D74E, 0x3B1),
  (0x1D756, 0x1D766, 0x391), (0x1D768, 0x1D76E, 0x3A3), (0x1D770, 0x1D788, 0x3B1),
  (0x1D790, 0x1D7A0, 0x391), (0x1D7A2, 0x1D7A8, 0x3A3), (0x1D7AA, 0x1D7C2, 0x3B1),
  (0x1D7CE, 0x1D7D7, 0x30), (0x1D7D8, 0x1D7E1, 0x30), (0x1D7E2, 0x1D7EB, 0x30),
  (0x1D7EC, 0x1D7F5, 0x30), (0x1D7F6, 0x1D7FF, 0x30), (0x1FBF0, 0x1FBF9, 0x30)]

/-- What all other characters mean, sixteen to a row.  The code points of a meaning are
joined by plus signs if they are made one again, and else by points; a hyphen stands for
a character that means itself. -/
def decompositionRows : List (Nat × String) :=
  [(0xA, "- - - - - - - - - - 61"),
  (0xB, "- - - - - 3BC - - - - 6F"),
  (0xC, "41+300 41+301 41+302 41+303 41+308 41+30A - 43+327 45+300 45+301 45+302 " ++
      "45+308 49+300 49+301 49+302 49+308"),
  (0xD, "- 4E+303 4F+300 4F+301 4F+302 4F+303 4F+308 - - 55+300 55+301 55+302 55+308 " ++
      "59+301"),
  (0xE, "61+300 61+301 61+302 61+303 61+308 61+30A - 63+327 65+300 65+301 65+302 " ++
      "65+308 69+300 69+301 69+302 69+308"),
  (0xF, "- 6E+303 6F+300 6F+301 6F+302 6F+303 6F+308 - - 75+300 75+301 75+302 75+308 " ++
      "79+301 - 79+308"),
  (0x10, "41+304 61+304 41+306 61+306 41+328 61+328 43+301 63+301 43+302 63+302 43+307 " ++
      "63+307 43+30C 63+30C 44+30C 64+30C"),
  (0x11, "- - 45+304 65+304 45+306 65+306 45+307 65+307 45+328 65+328 45+30C 65+30C " ++
      "47+302 67+302 47+306 67+306"),
  (0x12, "47+307 67+307 47+327 67+327 48+302 68+302 - - 49+303 69+303 49+304 69+304 " ++
      "49+306 69+306 49+328 69+328"),
  (0x13, "49+307 - 49.4A 69.6A 4A+302 6A+302 4B+327 6B+327 - 4C+301 6C+301 4C+327 " ++
      "6C+327 4C+30C 6C+30C 4C.B7"),
  (0x14, "6C.B7 - - 4E+301 6E+301 4E+327 6E+327 4E+30C 6E+30C 2BC.6E - - 4F+304 6F+304 " ++
      "4F+306 6F+306"),
  (0x15, "4F+30B 6F+30B - - 52+301 72+301 52+327 72+327 52+30C 72+30C 53+301 73+301 " ++
      "53+302 73+302 53+327 73+327"),
  (0x16, "53+30C 73+30C 54+327 74+327 54+30C 74+30C - - 55+303 75+303 55+304 75+304 " ++
      "55+306 75+306 55+30A 75+30A"),
  (0x17, "55+30B 75+30B 55+328 75+328 57+302 77+302 59+302 79+302 59+308 5A+301 7A+301 " ++
      "5A+307 7A+307 5A+30C 7A+30C 73"),
  (0x1A, "4F+31B 6F+31B - - - - - - - - - - - - - 55+31B"),
  (0x1B, "75+31B"),
  (0x1C, "- - - - 44.17D 44.17E 64.17E 4C.4A 4C.6A 6C.6A 4E.4A 4E.6A 6E.6A 41+30C " ++
      "61+30C 49+30C"),
  (0x1D, "69+30C 4F+30C 6F+30C 55+30C 75+30C DC+304 FC+304 DC+301 FC+301 DC+30C FC+30C " ++
      "DC+300 FC+300 - C4+304 E4+304"),
  (0x1E, "226+304 227+304 C6+304 E6+304 - - 47+30C 67+30C 4B+30C 6B+30C 4F+328 6F+328 " ++
      "1EA+304 1EB+304 1B7+30C 292+30C"),
  (0x1F, "6A+30C 44.5A 44.7A 64.7A 47+301 67+301 - - 4E+300 6E+300 C5+301 E5+301 " ++
      "C6+301 E6+301 D8+301 F8+301"),
  (0x20, "41+30F 61+30F 41+311 61+311 45+30F 65+30F 45+311 65+311 49+30F 69+30F 49+311 " ++
      "69+311 4F+30F 6F+30F 4F+311 6F+311"),
  (0x21, "52+30F 72+30F 52+311 72+311 55+30F 75+30F 55+311 75+311 53+326 73+326 54+326 " ++
      "74+326 - - 48+30C 68+30C"),
  (0x22, "- - - - - - 41+307 61+307 45+327 65+327 D6+304 F6+304 D5+304 F5+304 4F+307 " ++
      "6F+307"),
  (0x23, "22E+304 22F+304 59+304 79+304"),
  (0x2B, "68 266 6A 72 279 27B 281 77 79"),
  (0x2E, "263 6C 73 78 295"),
  (0x34, "300 301 - 313 308.301"),
  (0x37, "- - - - 2B9"),
  (0x38, "- - - - - - 391+301 B7 395+301 397+301 399+301 - 39F+301 - 3A5+301 3A9+301"),
  (0x39, "3CA+301"),
  (0x3A, "- - - - - - - - - - 399+308 3A5+308 3B1+301 3B5+301 3B7+301 3B9+301"),
  (0x3B, "3CB+301"),
  (0x3C, "- - - - - - - - - - 3B9+308 3C5+308 3BF+301 3C5+301 3C9+301"),
  (0x3D, "3B2 3B8 3A5 3D2+301 3D2+308 3C6 3C0"),
  (0x3F, "3BA 3C1 3C2 - 398 3B5 - - - 3A3"),
  (0x40, "415+300 415+308 - 413+301 - - - 406+308 - - - - 41A+301 418+300 423+306"),
  (0x41, "- - - - - - - - - 418+306"),
  (0x43, "- - - - - - - - - 438+306"),
  (0x45, "435+300 435+308 - 433+301 - - - 456+308 - - - - 43A+301 438+300 443+306"),
  (0x47, "- - - - - - 474+30F 475+30F"),
  (0x4C, "- 416+306 436+306"),
  (0x4D, "410+306 430+306 410+308 430+308 - - 415+306 435+306 - - 4D8+308 4D9+308 " ++
      "416+308 436+308 417+308 437+308"),
  (0x4E, "- - 418+304 438+304 418+308 438+308 41E+308 43E+308 - - 4E8+308 4E9+308 " ++
      "42D+308 44D+308 423+304 443+304"),
  (0x4F, "423+308 443+308 423+30B 443+30B 427+308 447+308 - - 42B+308 44B+308"),
  (0x58, "- - - - - - - 565.582"),
  (0x62, "- - 627+653 627+654 648+654 627+655 64A+654"),
  (0x67, "- - - - - 627.674 648.674 6C7.674 64A.674"),
  (0x6C, "6D5+654 - 6C1+654"),
  (0x6D, "- - - 6D2+654"),
  (0x92, "- - - - - - - - - 928+93C"),
  (0x93, "- 930+93C - - 933+93C"),
  (0x95, "- - - - - - - - 915.93C 916.93C 917.93C 91C.93C 921.93C 922.93C 92B.93C " ++
      "92F.93C"),
  (0x9C, "- - - - - - - - - - - 9C7+9BE 9C7+9D7"),
  (0x9D, "- - - - - - - - - - - - 9A1.9BC 9A2.9BC - 9AF.9BC"),
  (0xA3, "- - - A32.A3C - - A38.A3C"),
  (0xA5, "- - - - - - - - - A16.A3C A17.A3C A1C.A3C - - A2B.A3C"),
  (0xB4, "- - - - - - - - B47+B56 - - B47+B3E B47+B57"),
  (0xB5, "- - - - - - - - - - - - B21.B3C B22.B3C"),
  (0xB9, "- - - - B92+BD7"),
  (0xBC, "- - - - - - - - - - BC6+BBE BC7+BBE BC6+BD7"),
  (0xC4, "- - - - - - - - C46+C56"),
  (0xCC, "CBF+CD5 - - - - - - CC6+CD5 CC6+CD6 - CC6+CC2 CCA+CD5"),
  (0xD4, "- - - - - - - - - - D46+D3E D47+D3E D46+D57"),
  (0xDD, "- - - - - - - - - - DD9+DCA - DD9+DCF DDC+DCA DD9+DDF"),
  (0xE3, "- - - E4D.E32"),
  (0xEB, "- - - ECD.EB2"),
  (0xED, "- - - - - - - - - - - - EAB.E99 EAB.EA1"),
  (0xF4, "- - - F42.FB7 - - - - - - - - - F4C.FB7"),
  (0xF5, "- - F51.FB7 - - - - F56.FB7 - - - - F5B.FB7"),
  (0xF6, "- - - - - - - - - F40.FB5"),
  (0xF7, "- - - F71.F72 - F71.F74 FB2.F80 FB2.F81 FB3.F80 FB3.F81"),
  (0xF8, "- F71.F80"),
  (0xF9, "- - - F92.FB7 - - - - - - - - - F9C.FB7"),
  (0xFA, "- - FA1.FB7 - - - - FA6.FB7 - - - - FAB.FB7"),
  (0xFB, "- - - - - - - - - F90.FB5"),
  (0x102, "- - - - - - 1025+102E"),
  (0x10F, "- - - - - - - - - - - - 10DC"),
  (0x1B0, "- - - - - - 1B05+1B35 - 1B07+1B35 - 1B09+1B35 - 1B0B+1B35 - 1B0D+1B35"),
  (0x1B1, "- - 1B11+1B35"),
  (0x1B3, "- - - - - - - - - - - 1B3A+1B35 - 1B3C+1B35"),
  (0x1B4, "1B3E+1B35 1B3F+1B35 - 1B42+1B35"),
  (0x1D2, "- - - - - - - - - - - - 41 C6 42"),
  (0x1D3, "44 45 18E - - - - - - - - - 4F 222 50 52"),
  (0x1D4, "54 55 57 61 250 251 1D02 62 64 65 259 25B 25C 67 - 6B"),
  (0x1D5, "6D 14B 6F 254 1D16 1D17 70 74 75 1D1D 26F 76 1D25 3B2 3B3 3B4"),
  (0x1D6, "3C6 3C7 69 72 75 76 3B2 3B3 3C1 3C6 3C7"),
  (0x1D7, "- - - - - - - - 43D"),
  (0x1D9, "- - - - - - - - - - - 252 63 255 F0 25C"),
  (0x1DA, "66 25F 261 265 268 269 26A 1D7B 29D 26D 1D85 29F 271 270 272 273"),
  (0x1DB, "274 275 278 282 283 1AB 289 28A 1D1C 28B 28C 7A 290 291 292 3B8"),
  (0x1E0, "41+325 61+325 42+307 62+307 42+323 62+323 42+331 62+331 C7+301 E7+301 44+307 " ++
      "64+307 44+323 64+323 44+331 64+331"),
  (0x1E1, "44+327 64+327 44+32D 64+32D 112+300 113+300 112+301 113+301 45+32D 65+32D " ++
      "45+330 65+330 228+306 229+306 46+307 66+307"),
  (0x1E2, "47+304 67+304 48+307 68+307 48+323 68+323 48+308 68+308 48+327 68+327 48+32E " ++
      "68+32E 49+330 69+330 CF+301 EF+301"),
  (0x1E3, "4B+301 6B+301 4B+323 6B+323 4B+331 6B+331 4C+323 6C+323 1E36+304 1E37+304 " ++
      "4C+331 6C+331 4C+32D 6C+32D 4D+301 6D+301"),
  (0x1E4, "4D+307 6D+307 4D+323 6D+323 4E+307 6E+307 4E+323 6E+323 4E+331 6E+331 4E+32D " ++
      "6E+32D D5+301 F5+301 D5+308 F5+308"),
  (0x1E5, "14C+300 14D+300 14C+301 14D+301 50+301 70+301 50+307 70+307 52+307 72+307 " ++
      "52+323 72+323 1E5A+304 1E5B+304 52+331 72+331"),
  (0x1E6, "53+307 73+307 53+323 73+323 15A+307 15B+307 160+307 161+307 1E62+307 " ++
      "1E63+307 54+307 74+307 54+323 74+323 54+331 74+331"),
  (0x1E7, "54+32D 74+32D 55+324 75+324 55+330 75+330 55+32D 75+32D 168+301 169+301 " ++
      "16A+308 16B+308 56+303 76+303 56+323 76+323"),
  (0x1E8, "57+300 77+300 57+301 77+301 57+308 77+308 57+307 77+307 57+323 77+323 58+307 " ++
      "78+307 58+308 78+308 59+307 79+307"),
  (0x1E9, "5A+302 7A+302 5A+323 7A+323 5A+331 7A+331 68+331 74+308 77+30A 79+30A 61.2BE " ++
      "17F+307"),
  (0x1EA, "41+323 61+323 41+309 61+309 C2+301 E2+301 C2+300 E2+300 C2+309 E2+309 C2+303 " ++
      "E2+303 1EA0+302 1EA1+302 102+301 103+301"),
  (0x1EB, "102+300 103+300 102+309 103+309 102+303 103+303 1EA0+306 1EA1+306 45+323 " ++
      "65+323 45+309 65+309 45+303 65+303 CA+301 EA+301"),
  (0x1EC, "CA+300 EA+300 CA+309 EA+309 CA+303 EA+303 1EB8+302 1EB9+302 49+309 69+309 " ++
      "49+323 69+323 4F+323 6F+323 4F+309 6F+309"),
  (0x1ED, "D4+301 F4+301 D4+300 F4+300 D4+309 F4+309 D4+303 F4+303 1ECC+302 1ECD+302 " ++
      "1A0+301 1A1+301 1A0+300 1A1+300 1A0+309 1A1+309"),
  (0x1EE, "1A0+303 1A1+303 1A0+323 1A1+323 55+323 75+323 55+309 75+309 1AF+301 1B0+301 " ++
      "1AF+300 1B0+300 1AF+309 1B0+309 1AF+303 1B0+303"),
  (0x1EF, "1AF+323 1B0+323 59+300 79+300 59+323 79+323 59+309 79+309 59+303 79+303"),
  (0x1F0, "3B1+313 3B1+314 1F00+300 1F01+300 1F00+301 1F01+301 1F00+342 1F01+342 " ++
      "391+313 391+314 1F08+300 1F09+300 1F08+301 1F09+301 1F08+342 1F09+342"),
  (0x1F1, "3B5+313 3B5+314 1F10+300 1F11+300 1F10+301 1F11+301 - - 395+313 395+314 " ++
      "1F18+300 1F19+300 1F18+301 1F19+301"),
  (0x1F2, "3B7+313 3B7+314 1F20+300 1F21+300 1F20+301 1F21+301 1F20+342 1F21+342 " ++
      "397+313 397+314 1F28+300 1F29+300 1F28+301 1F29+301 1F28+342 1F29+342"),
  (0x1F3, "3B9+313 3B9+314 1F30+300 1F31+300 1F30+301 1F31+301 1F30+342 1F31+342 " ++
      "399+313 399+314 1F38+300 1F39+300 1F38+301 1F39+301 1F38+342 1F39+342"),
  (0x1F4, "3BF+313 3BF+314 1F40+300 1F41+300 1F40+301 1F41+301 - - 39F+313 39F+314 " ++
      "1F48+300 1F49+300 1F48+301 1F49+301"),
  (0x1F5, "3C5+313 3C5+314 1F50+300 1F51+300 1F50+301 1F51+301 1F50+342 1F51+342 - " ++
      "3A5+314 - 1F59+300 - 1F59+301 - 1F59+342"),
  (0x1F6, "3C9+313 3C9+314 1F60+300 1F61+300 1F60+301 1F61+301 1F60+342 1F61+342 " ++
      "3A9+313 3A9+314 1F68+300 1F69+300 1F68+301 1F69+301 1F68+342 1F69+342"),
  (0x1F7, "3B1+300 3AC 3B5+300 3AD 3B7+300 3AE 3B9+300 3AF 3BF+300 3CC 3C5+300 3CD " ++
      "3C9+300 3CE"),
  (0x1F8, "1F00+345 1F01+345 1F02+345 1F03+345 1F04+345 1F05+345 1F06+345 1F07+345 " ++
      "1F08+345 1F09+345 1F0A+345 1F0B+345 1F0C+345 1F0D+345 1F0E+345 1F0F+345"),
  (0x1F9, "1F20+345 1F21+345 1F22+345 1F23+345 1F24+345 1F25+345 1F26+345 1F27+345 " ++
      "1F28+345 1F29+345 1F2A+345 1F2B+345 1F2C+345 1F2D+345 1F2E+345 1F2F+345"),
  (0x1FA, "1F60+345 1F61+345 1F62+345 1F63+345 1F64+345 1F65+345 1F66+345 1F67+345 " ++
      "1F68+345 1F69+345 1F6A+345 1F6B+345 1F6C+345 1F6D+345 1F6E+345 1F6F+345"),
  (0x1FB, "3B1+306 3B1+304 1F70+345 3B1+345 3AC+345 - 3B1+342 1FB6+345 391+306 391+304 " ++
      "391+300 386 391+345 - 3B9"),
  (0x1FC, "- - 1F74+345 3B7+345 3AE+345 - 3B7+342 1FC6+345 395+300 388 397+300 389 " ++
      "397+345"),
  (0x1FD, "3B9+306 3B9+304 3CA+300 390 - - 3B9+342 3CA+342 399+306 399+304 399+300 38A"),
  (0x1FE, "3C5+306 3C5+304 3CB+300 3B0 3C1+313 3C1+314 3C5+342 3CB+342 3A5+306 3A5+304 " ++
      "3A5+300 38E 3A1+314"),
  (0x1FF, "- - 1F7C+345 3C9+345 3CE+345 - 3C9+342 1FF6+345 39F+300 38C 3A9+300 38F " ++
      "3A9+345"),
  (0x207, "- 69 - - - - - - - - - - - - - 6E"),
  (0x209, "61 65 6F 78 259 68 6B 6C 6D 6E 70 73 74"),
  (0x210, "- - 43 - - - - 190 - - 67 48 48 48 68 127"),
  (0x211, "49 49 4C 6C - 4E - - - 50 51 52 52 52"),
  (0x212, "- - - - 5A - 3A9 - 5A - 4B C5 42 43 - 65"),
  (0x213, "45 46 - 4D 6F 5D0 5D1 5D2 5D3 69 - - 3C0 3B3 393 3A0"),
  (0x214, "- - - - - 44 64 65 69 6A"),
  (0x216, "49 49.49 49.49.49 49.56 56 56.49 56.49.49 56.49.49.49 49.58 58 58.49 " ++
      "58.49.49 4C 43 44 4D"),
  (0x217, "69 69.69 69.69.69 69.76 76 76.69 76.69.69 76.69.69.69 69.78 78 78.69 " ++
      "78.69.69 6C 63 64 6D"),
  (0x2C7, "- - - - - - - - - - - - 6A 56"),
  (0x2D6, "- - - - - - - - - - - - - - - 2D61"),
  (0x303, "- - - - - - - - 5341 5344 5345"),
  (0x304, "- - - - - - - - - - - - 304B+3099 - 304D+3099"),
  (0x305, "304F+3099 - 3051+3099 - 3053+3099 - 3055+3099 - 3057+3099 - 3059+3099 - " ++
      "305B+3099 - 305D+3099"),
  (0x306, "305F+3099 - 3061+3099 - - 3064+3099 - 3066+3099 - 3068+3099"),
  (0x307, "306F+3099 306F+309A - 3072+3099 3072+309A - 3075+3099 3075+309A - 3078+3099 " ++
      "3078+309A - 307B+3099 307B+309A"),
  (0x309, "- - - - 3046+3099 - - - - - - - - - 309D+3099 3088.308A"),
  (0x30A, "- - - - - - - - - - - - 30AB+3099 - 30AD+3099"),
  (0x30B, "30AF+3099 - 30B1+3099 - 30B3+3099 - 30B5+3099 - 30B7+3099 - 30B9+3099 - " ++
      "30BB+3099 - 30BD+3099"),
  (0x30C, "30BF+3099 - 30C1+3099 - - 30C4+3099 - 30C6+3099 - 30C8+3099"),
  (0x30D, "30CF+3099 30CF+309A - 30D2+3099 30D2+309A - 30D5+3099 30D5+309A - 30D8+3099 " ++
      "30D8+309A - 30DB+3099 30DB+309A"),
  (0x30F, "- - - - 30A6+3099 - - 30EF+3099 30F0+3099 30F1+3099 30F2+3099 - - - " ++
      "30FD+3099 30B3.30C8"),
  (0x313, "- 1100 1101 11AA 1102 11AC 11AD 1103 1104 1105"),
  (0x314, "111A 1106 1107 1108 1121"),
  (0x316, "- - - - 1160 1114 1115 11C7 11C8 11CC 11CE 11D3 11D7 11D9 111C 11DD"),
  (0x317, "11DF 111D 111E 1120 1122 1123 1127 1129 - - - - - 1132 1136 1140"),
  (0x318, "1147 114C 11F1 11F2 1157 1158 1159 1184 1185 1188 1191 1192 1194 119E 11A1"),
  (0xA69, "- - - - - - - - - - - - 44A 44C"),
  (0xA77, "A76F"),
  (0xA7F, "- - 43 46 51 - - - 126 153"),
  (0xAB5, "- - - - - - - - - - - - A727 AB37 26B AB52"),
  (0xAB6, "- - - - - - - - - 28D"),
  (0xF90, "8C48 66F4 8ECA 8CC8 6ED1 4E32 53E5 9F9C 9F9C 5951 91D1 5587 5948 61F6 7669 " ++
      "7F85"),
  (0xF91, "863F 87BA 88F8 908F 6A02 6D1B 70D9 73DE 843D 916A 99F1 4E82 5375 6B04 721B " ++
      "862D"),
  (0xF92, "9E1E 5D50 6FEB 85CD 8964 62C9 81D8 881F 5ECA 6717 6D6A 72FC 90CE 4F86 51B7 " ++
      "52DE"),
  (0xF93, "64C4 6AD3 7210 76E7 8001 8606 865C 8DEF 9732 9B6F 9DFA 788C 797F 7DA0 83C9 " ++
      "9304"),
  (0xF94, "9E7F 8AD6 58DF 5F04 7C60 807E 7262 78CA 8CC2 96F7 58D8 5C62 6A13 6DDA 6F0F " ++
      "7D2F"),
  (0xF95, "7E37 964B 52D2 808B 51DC 51CC 7A1C 7DBE 83F1 9675 8B80 62CF 6A02 8AFE 4E39 " ++
      "5BE7"),
  (0xF96, "6012 7387 7570 5317 78FB 4FBF 5FA9 4E0D 6CCC 6578 7D22 53C3 585E 7701 8449 " ++
      "8AAA"),
  (0xF97, "6BBA 8FB0 6C88 62FE 82E5 63A0 7565 4EAE 5169 51C9 6881 7CE7 826F 8AD2 91CF " ++
      "52F5"),
  (0xF98, "5442 5973 5EEC 65C5 6FFE 792A 95AD 9A6A 9E97 9ECE 529B 66C6 6B77 8F62 5E74 " ++
      "6190"),
  (0xF99, "6200 649A 6F23 7149 7489 79CA 7DF4 806F 8F26 84EE 9023 934A 5217 52A3 54BD " ++
      "70C8"),
  (0xF9A, "88C2 8AAA 5EC9 5FF5 637B 6BAE 7C3E 7375 4EE4 56F9 5BE7 5DBA 601C 73B2 7469 " ++
      "7F9A"),
  (0xF9B, "8046 9234 96F6 9748 9818 4F8B 79AE 91B4 96B8 60E1 4E86 50DA 5BEE 5C3F 6599 " ++
      "6A02"),
  (0xF9C, "71CE 7642 84FC 907C 9F8D 6688 962E 5289 677B 67F3 6D41 6E9C 7409 7559 786B " ++
      "7D10"),
  (0xF9D, "985E 516D 622E 9678 502B 5D19 6DEA 8F2A 5F8B 6144 6817 7387 9686 5229 540F " ++
      "5C65"),
  (0xF9E, "6613 674E 68A8 6CE5 7406 75E2 7F79 88CF 88E1 91CC 96E2 533F 6EBA 541D 71D0 " ++
      "7498"),
  (0xF9F, "85FA 96A3 9C57 9E9F 6797 6DCB 81E8 7ACB 7B20 7C92 72C0 7099 8B58 4EC0 8336 " ++
      "523A"),
  (0xFA0, "5207 5EA6 62D3 7CD6 5B85 6D1E 66B4 8F3B 884C 964D 898B 5ED3 5140 55C0"),
  (0xFA1, "585A - 6674 - - 51DE 732A 76CA 793C 795E 7965 798F 9756 7CBE 7FBD"),
  (0xFA2, "8612 - 8AF8 - - 9038 90FD - - - 98EF 98FC 9928 9DB4 90DE 96B7"),
  (0xFA3, "4FAE 50E7 514D 52C9 52E4 5351 559D 5606 5668 5840 58A8 5C64 5C6E 6094 6168 " ++
      "618E"),
  (0xFA4, "61F2 654F 65E2 6691 6885 6D77 6E1A 6F22 716E 722B 7422 7891 793E 7949 7948 " ++
      "7950"),
  (0xFA5, "7956 795D 798D 798E 7A40 7A81 7BC0 7DF4 7E09 7E41 7F72 8005 81ED 8279 8279 " ++
      "8457"),
  (0xFA6, "8910 8996 8B01 8B39 8CD3 8D08 8FB6 9038 96E3 97FF 983B 6075 242EE 8218"),
  (0xFA7, "4E26 51B5 5168 4F80 5145 5180 52C7 52FA 559D 5555 5599 55E2 585A 58B3 5944 " ++
      "5954"),
  (0xFA8, "5A62 5B28 5ED2 5ED9 5F69 5FAD 60D8 614E 6108 618E 6160 61F2 6234 63C4 641C " ++
      "6452"),
  (0xFA9, "6556 6674 6717 671B 6756 6B79 6BBA 6D41 6EDB 6ECB 6F22 701E 716E 77A7 7235 " ++
      "72AF"),
  (0xFAA, "732A 7471 7506 753B 761D 761F 76CA 76DB 76F4 774A 7740 78CC 7AB1 7BC0 7C7B " ++
      "7D5B"),
  (0xFAB, "7DF4 7F3E 8005 8352 83EF 8779 8941 8986 8996 8ABF 8AF8 8ACB 8B01 8AFE 8AED " ++
      "8B39"),
  (0xFAC, "8B8A 8D08 8F38 9072 9199 9276 967C 96E3 9756 97DB 97FF 980B 983B 9B12 9F9C " ++
      "2284A"),
  (0xFAD, "22844 233D5 3B9D 4018 4039 25249 25CD0 27ED3 9F43 9F8E"),
  (0xFB0, "66.66 66.69 66.6C 66.66.69 66.66.6C 17F.74 73.74"),
  (0xFB1, "- - - 574.576 574.565 574.56B 57E.576 574.56D - - - - - 5D9.5B4 - 5F2.5B7"),
  (0xFB2, "5E2 5D0 5D3 5D4 5DB 5DC 5DD 5E8 5EA - 5E9.5C1 5E9.5C2 FB49.5C1 FB49.5C2 " ++
      "5D0.5B7 5D0.5B8"),
  (0xFB3, "5D0.5BC 5D1.5BC 5D2.5BC 5D3.5BC 5D4.5BC 5D5.5BC 5D6.5BC - 5D8.5BC 5D9.5BC " ++
      "5DA.5BC 5DB.5BC 5DC.5BC - 5DE.5BC"),
  (0xFB4, "5E0.5BC 5E1.5BC - 5E3.5BC 5E4.5BC - 5E6.5BC 5E7.5BC 5E8.5BC 5E9.5BC 5EA.5BC " ++
      "5D5.5B9 5D1.5BF 5DB.5BF 5E4.5BF 5D0.5DC"),
  (0xFB5, "671 671 67B 67B 67B 67B 67E 67E 67E 67E 680 680 680 680 67A 67A"),
  (0xFB6, "67A 67A 67F 67F 67F 67F 679 679 679 679 6A4 6A4 6A4 6A4 6A6 6A6"),
  (0xFB7, "6A6 6A6 684 684 684 684 683 683 683 683 686 686 686 686 687 687"),
  (0xFB8, "687 687 68D 68D 68C 68C 68E 68E 688 688 698 698 691 691 6A9 6A9"),
  (0xFB9, "6A9 6A9 6AF 6AF 6AF 6AF 6B3 6B3 6B3 6B3 6B1 6B1 6B1 6B1 6BA 6BA"),
  (0xFBA, "6BB 6BB 6BB 6BB 6C0 6C0 6C1 6C1 6C1 6C1 6BE 6BE 6BE 6BE 6D2 6D2"),
  (0xFBB, "6D3 6D3"),
  (0xFBD, "- - - 6AD 6AD 6AD 6AD 6C7 6C7 6C6 6C6 6C8 6C8 677 6CB 6CB"),
  (0xFBE, "6C5 6C5 6C9 6C9 6D0 6D0 6D0 6D0 649 649 626.627 626.627 626.6D5 626.6D5 " ++
      "626.648 626.648"),
  (0xFBF, "626.6C7 626.6C7 626.6C6 626.6C6 626.6C8 626.6C8 626.6D0 626.6D0 626.6D0 " ++
      "626.649 626.649 626.649 6CC 6CC 6CC 6CC"),
  (0xFC0, "626.62C 626.62D 626.645 626.649 626.64A 628.62C 628.62D 628.62E 628.645 " ++
      "628.649 628.64A 62A.62C 62A.62D 62A.62E 62A.645 62A.649"),
  (0xFC1, "62A.64A 62B.62C 62B.645 62B.649 62B.64A 62C.62D 62C.645 62D.62C 62D.645 " ++
      "62E.62C 62E.62D 62E.645 633.62C 633.62D 633.62E 633.645"),
  (0xFC2, "635.62D 635.645 636.62C 636.62D 636.62E 636.645 637.62D 637.645 638.645 " ++
      "639.62C 639.645 63A.62C 63A.645 641.62C 641.62D 641.62E"),
  (0xFC3, "641.645 641.649 641.64A 642.62D 642.645 642.649 642.64A 643.627 643.62C " ++
      "643.62D 643.62E 643.644 643.645 643.649 643.64A 644.62C"),
  (0xFC4, "644.62D 644.62E 644.645 644.649 644.64A 645.62C 645.62D 645.62E 645.645 " ++
      "645.649 645.64A 646.62C 646.62D 646.62E 646.645 646.649"),
  (0xFC5, "646.64A 647.62C 647.645 647.649 647.64A 64A.62C 64A.62D 64A.62E 64A.645 " ++
      "64A.649 64A.64A 630.670 631.670 649.670"),
  (0xFC6, "- - - - 626.631 626.632 626.645 626.646 626.649 626.64A 628.631 628.632 " ++
      "628.645 628.646 628.649 628.64A"),
  (0xFC7, "62A.631 62A.632 62A.645 62A.646 62A.649 62A.64A 62B.631 62B.632 62B.645 " ++
      "62B.646 62B.649 62B.64A 641.649 641.64A 642.649 642.64A"),
  (0xFC8, "643.627 643.644 643.645 643.649 643.64A 644.645 644.649 644.64A 645.627 " ++
      "645.645 646.631 646.632 646.645 646.646 646.649 646.64A"),
  (0xFC9, "649.670 64A.631 64A.632 64A.645 64A.646 64A.649 64A.64A 626.62C 626.62D " ++
      "626.62E 626.645 626.647 628.62C 628.62D 628.62E 628.645"),
  (0xFCA, "628.647 62A.62C 62A.62D 62A.62E 62A.645 62A.647 62B.645 62C.62D 62C.645 " ++
      "62D.62C 62D.645 62E.62C 62E.645 633.62C 633.62D 633.62E"),
  (0xFCB, "633.645 635.62D 635.62E 635.645 636.62C 636.62D 636.62E 636.645 637.62D " ++
      "638.645 639.62C 639.645 63A.62C 63A.645 641.62C 641.62D"),
  (0xFCC, "641.62E 641.645 642.62D 642.645 643.62C 643.62D 643.62E 643.644 643.645 " ++
      "644.62C 644.62D 644.62E 644.645 644.647 645.62C 645.62D"),
  (0xFCD, "645.62E 645.645 646.62C 646.62D 646.62E 646.645 646.647 647.62C 647.645 " ++
      "647.670 64A.62C 64A.62D 64A.62E 64A.645 64A.647 626.645"),
  (0xFCE, "626.647 628.645 628.647 62A.645 62A.647 62B.645 62B.647 633.645 633.647 " ++
      "634.645 634.647 643.644 643.645 644.645 646.645 646.647"),
  (0xFCF, "64A.645 64A.647 640.64E.651 640.64F.651 640.650.651 637.649 637.64A 639.649 " ++
      "639.64A 63A.649 63A.64A 633.649 633.64A 634.649 634.64A 62D.649"),
  (0xFD0, "62D.64A 62C.649 62C.64A 62E.649 62E.64A 635.649 635.64A 636.649 636.64A " ++
      "634.62C 634.62D 634.62E 634.645 634.631 633.631 635.631"),
  (0xFD1, "636.631 637.649 637.64A 639.649 639.64A 63A.649 63A.64A 633.649 633.64A " ++
      "634.649 634.64A 62D.649 62D.64A 62C.649 62C.64A 62E.649"),
  (0xFD2, "62E.64A 635.649 635.64A 636.649 636.64A 634.62C 634.62D 634.62E 634.645 " ++
      "634.631 633.631 635.631 636.631 634.62C 634.62D 634.62E"),
  (0xFD3, "634.645 633.647 634.647 637.645 633.62C 633.62D 633.62E 634.62C 634.62D " ++
      "634.62E 637.645 638.645 627.64B 627.64B"),
  (0xFD5, "62A.62C.645 62A.62D.62C 62A.62D.62C 62A.62D.645 62A.62E.645 62A.645.62C " ++
      "62A.645.62D 62A.645.62E 62C.645.62D 62C.645.62D 62D.645.64A 62D.645.649 633.62D.62C " ++
      "633.62C.62D 633.62C.649 633.645.62D"),
  (0xFD6, "633.645.62D 633.645.62C 633.645.645 633.645.645 635.62D.62D 635.62D.62D " ++
      "635.645.645 634.62D.645 634.62D.645 634.62C.64A 634.645.62E 634.645.62E 634.645.645 " ++
      "634.645.645 636.62D.649 636.62E.645"),
  (0xFD7, "636.62E.645 637.645.62D 637.645.62D 637.645.645 637.645.64A 639.62C.645 " ++
      "639.645.645 639.645.645 639.645.649 63A.645.645 63A.645.64A 63A.645.649 641.62E.645 " ++
      "641.62E.645 642.645.62D 642.645.645"),
  (0xFD8, "644.62D.645 644.62D.64A 644.62D.649 644.62C.62C 644.62C.62C 644.62E.645 " ++
      "644.62E.645 644.645.62D 644.645.62D 645.62D.62C 645.62D.645 645.62D.64A 645.62C.62D " ++
      "645.62C.645 645.62E.62C 645.62E.645"),
  (0xFD9, "- - 645.62C.62E 647.645.62C 647.645.645 646.62D.645 646.62D.649 646.62C.645 " ++
      "646.62C.645 646.62C.649 646.645.64A 646.645.649 64A.645.645 64A.645.645 628.62E.64A " ++
      "62A.62C.64A"),
  (0xFDA, "62A.62C.649 62A.62E.64A 62A.62E.649 62A.645.64A 62A.645.649 62C.645.64A " ++
      "62C.62D.649 62C.645.649 633.62E.649 635.62D.64A 634.62D.64A 636.62D.64A 644.62C.64A " ++
      "644.645.64A 64A.62D.64A 64A.62C.64A"),
  (0xFDB, "64A.645.64A 645.645.64A 642.645.64A 646.62D.64A 642.645.62D 644.62D.645 " ++
      "639.645.64A 643.645.64A 646.62C.62D 645.62E.64A 644.62C.645 643.645.645 644.62C.645 " ++
      "646.62C.62D 62C.62D.64A 62D.62C.64A"),
  (0xFDC, "645.62C.64A 641.645.64A 628.62D.64A 643.645.645 639.62C.645 635.645.645 " ++
      "633.62E.64A 646.62C.64A"),
  (0xFDF, "635.644.6D2 642.644.6D2 627.644.644.647 627.643.628.631 645.62D.645.62F " ++
      "635.644.639.645 631.633.648.644 639.644.64A.647 648.633.644.645 635.644.649"),
  (0xFE3, "- - - 5F 5F"),
  (0xFE4, "- - - - - - - - - - - - - 5F 5F 5F"),
  (0xFE7, "- 640.64B - - - - - 640.64E - 640.64F - 640.650 - 640.651 - 640.652"),
  (0xFE8, "621 622 622 623 623 624 624 625 625 626 626 626 626 627 627 628"),
  (0xFE9, "628 628 628 629 629 62A 62A 62A 62A 62B 62B 62B 62B 62C 62C 62C"),
  (0xFEA, "62C 62D 62D 62D 62D 62E 62E 62E 62E 62F 62F 630 630 631 631 632"),
  (0xFEB, "632 633 633 633 633 634 634 634 634 635 635 635 635 636 636 636"),
  (0xFEC, "636 637 637 637 637 638 638 638 638 639 639 639 639 63A 63A 63A"),
  (0xFED, "63A 641 641 641 641 642 642 642 642 643 643 643 643 644 644 644"),
  (0xFEE, "644 645 645 645 645 646 646 646 646 647 647 647 647 648 648 649"),
  (0xFEF, "649 64A 64A 64A 64A 644.622 644.622 644.623 644.623 644.625 644.625 644.627 " ++
      "644.627"),
  (0xFF3, "- - - - - - - - - - - - - - - 5F"),
  (0xFF6, "- - - - - - 30F2 30A1 30A3 30A5 30A7 30A9 30E3 30E5 30E7 30C3"),
  (0xFF7, "30FC 30A2 30A4 30A6 30A8 30AA 30AB 30AD 30AF 30B1 30B3 30B5 30B7 30B9 30BB " ++
      "30BD"),
  (0xFF8, "30BF 30C1 30C4 30C6 30C8 - - - - - - 30D2 30D5 30D8 30DB"),
  (0xFF9, "- - - - 30E4 30E6 - - - - - - 30EF 30F3 3099 309A"),
  (0xFFA, "3164"),
  (0xFFD, "- - - - - - - - - - 3161 3162 3163"),
  (0x1078, "- 2D0 2D1 E6 299 253 - 2A3 AB66 2A5 2A4 256 257 1D91 258 25E"),
  (0x1079, "2A9 264 262 260 29B 127 29C 267 284 2AA 2AB 26C 1DF04 A78E 26E 1DF05"),
  (0x107A, "28E 1DF06 F8 276 277 71 27A 1DF08 27D 27E 280 2A8 2A6 AB67 2A7 288"),
  (0x107B, "2C71 - 28F 2A1 2A2 298 1C0 1C1 1C2 1DF0A 1DF1E"),
  (0x1109, "- - - - - - - - - - 11099+110BA - 1109B+110BA"),
  (0x110A, "- - - - - - - - - - - 110A5+110BA"),
  (0x1112, "- - - - - - - - - - - - - - 11131+11127 11132+11127"),
  (0x1134, "- - - - - - - - - - - 11347+1133E 11347+11357"),
  (0x114B, "- - - - - - - - - - - 114B9+114BA 114B9+114B0 - 114B9+114BD"),
  (0x115B, "- - - - - - - - - - 115B8+115AF 115B9+115AF"),
  (0x1193, "- - - - - - - - 11935+11930"),
  (0x1D49, "- - - - - - - - - - - - 41 - 43 44"),
  (0x1D4A, "- - 47 - - 4A 4B - - 4E 4F 50 51"),
  (0x1D4B, "- - - - - - 61 62 63 64 - 66"),
  (0x1D50, "- - - - 41 42 - 44 45 46 47"),
  (0x1D53, "- - - - - - - - 41 42 - 44 45 46 47"),
  (0x1D54, "- - - - - - 4F"),
  (0x1D6A, "- - - - 131 237"),
  (0x1D6B, "- - - - - - - - - 3F4"),
  (0x1D6D, "- - - - - - - - - - - - 3F5 3D1 3F0 3D5"),
  (0x1D6E, "3F1 3D6"),
  (0x1D6F, "- - - 3F4"),
  (0x1D71, "- - - - - - 3F5 3D1 3F0 3D5 3F1 3D6"),
  (0x1D72, "- - - - - - - - - - - - - 3F4"),
  (0x1D75, "3F5 3D1 3F0 3D5 3F1 3D6"),
  (0x1D76, "- - - - - - - 3F4"),
  (0x1D78, "- - - - - - - - - - 3F5 3D1 3F0 3D5 3F1 3D6"),
  (0x1D7A, "- 3F4"),
  (0x1D7C, "- - - - 3F5 3D1 3F0 3D5 3F1 3D6 3DC 3DD"),
  (0x1EE0, "627 628 62C 62F - 648 632 62D 637 64A 643 644 645 646 633 639"),
  (0x1EE1, "641 635 642 631 634 62A 62B 62E 630 636 638 63A 66E 6BA 6A1 66F"),
  (0x1EE2, "- 628 62C - 647 - - 62D - 64A 643 644 645 646 633 639"),
  (0x1EE3, "641 635 642 - 634 62A 62B 62E - 636 - 63A"),
  (0x1EE4, "- - 62C - - - - 62D - 64A - 644 - 646 633 639"),
  (0x1EE5, "- 635 642 - 634 - - 62E - 636 - 63A - 6BA - 66F"),
  (0x1EE6, "- 628 62C - 647 - - 62D 637 64A 643 - 645 646 633 639"),
  (0x1EE7, "641 635 642 - 634 62A 62B 62E - 636 638 63A 66E - 6A1"),
  (0x1EE8, "627 628 62C 62F 647 648 632 62D 637 64A - 644 645 646 633 639"),
  (0x1EE9, "641 635 642 631 634 62A 62B 62E 630 636 638 63A"),
  (0x1EEA, "- 628 62C 62F - 648 632 62D 637 64A - 644 645 646 633 639"),
  (0x1EEB, "641 635 642 631 634 62A 62B 62E 630 636 638 63A"),
  (0x2F80, "4E3D 4E38 4E41 20122 4F60 4FAE 4FBB 5002 507A 5099 50E7 50CF 349E 2063A 514D " ++
      "5154"),
  (0x2F81, "5164 5177 2051C 34B9 5167 518D 2054B 5197 51A4 4ECC 51AC 51B5 291DF 51F5 " ++
      "5203 34DF"),
  (0x2F82, "523B 5246 5272 5277 3515 52C7 52C9 52E4 52FA 5305 5306 5317 5349 5351 535A " ++
      "5373"),
  (0x2F83, "537D 537F 537F 537F 20A2C 7070 53CA 53DF 20B63 53EB 53F1 5406 549E 5438 5448 " ++
      "5468"),
  (0x2F84, "54A2 54F6 5510 5553 5563 5584 5584 5599 55AB 55B3 55C2 5716 5606 5717 5651 " ++
      "5674"),
  (0x2F85, "5207 58EE 57CE 57F4 580D 578B 5832 5831 58AC 214E4 58F2 58F7 5906 591A 5922 " ++
      "5962"),
  (0x2F86, "216A8 216EA 59EC 5A1B 5A27 59D8 5A66 36EE 36FC 5B08 5B3E 5B3E 219C8 5BC3 " ++
      "5BD8 5BE7"),
  (0x2F87, "5BF3 21B18 5BFF 5C06 5F53 5C22 3781 5C60 5C6E 5CC0 5C8D 21DE4 5D43 21DE6 " ++
      "5D6E 5D6B"),
  (0x2F88, "5D7C 5DE1 5DE2 382F 5DFD 5E28 5E3D 5E69 3862 22183 387C 5EB0 5EB3 5EB6 5ECA " ++
      "2A392"),
  (0x2F89, "5EFE 22331 22331 8201 5F22 5F22 38C7 232B8 261DA 5F62 5F6B 38E3 5F9A 5FCD " ++
      "5FD7 5FF9"),
  (0x2F8A, "6081 393A 391C 6094 226D4 60C7 6148 614C 614E 614C 617A 618E 61B2 61A4 61AF " ++
      "61DE"),
  (0x2F8B, "61F2 61F6 6210 621B 625D 62B1 62D4 6350 22B0C 633D 62FC 6368 6383 63E4 22BF1 " ++
      "6422"),
  (0x2F8C, "63C5 63A9 3A2E 6469 647E 649D 6477 3A6C 654F 656C 2300A 65E3 66F8 6649 3B19 " ++
      "6691"),
  (0x2F8D, "3B08 3AE4 5192 5195 6700 669C 80AD 43D9 6717 671B 6721 675E 6753 233C3 3B49 " ++
      "67FA"),
  (0x2F8E, "6785 6852 6885 2346D 688E 681F 6914 3B9D 6942 69A3 69EA 6AA8 236A3 6ADB 3C18 " ++
      "6B21"),
  (0x2F8F, "238A7 6B54 3C4E 6B72 6B9F 6BBA 6BBB 23A8D 21D0B 23AFA 6C4E 23CBC 6CBF 6CCD " ++
      "6C67 6D16"),
  (0x2F90, "6D3E 6D77 6D41 6D69 6D78 6D85 23D1E 6D34 6E2F 6E6E 3D33 6ECB 6EC7 23ED1 6DF9 " ++
      "6F6E"),
  (0x2F91, "23F5E 23F8E 6FC6 7039 701E 701B 3D96 704A 707D 7077 70AD 20525 7145 24263 " ++
      "719C 243AB"),
  (0x2F92, "7228 7235 7250 24608 7280 7295 24735 24814 737A 738B 3EAC 73A5 3EB8 3EB8 " ++
      "7447 745C"),
  (0x2F93, "7471 7485 74CA 3F1B 7524 24C36 753E 24C92 7570 2219F 7610 24FA1 24FB8 25044 " ++
      "3FFC 4008"),
  (0x2F94, "76F4 250F3 250F2 25119 25133 771E 771F 771F 774A 4039 778B 4046 4096 2541D " ++
      "784E 788C"),
  (0x2F95, "78CC 40E3 25626 7956 2569A 256C5 798F 79EB 412F 7A40 7A4A 7A4F 2597C 25AA7 " ++
      "25AA7 7AEE"),
  (0x2F96, "4202 25BAB 7BC6 7BC9 4227 25C80 7CD2 42A0 7CE8 7CE3 7D00 25F86 7D63 4301 " ++
      "7DC7 7E02"),
  (0x2F97, "7E45 4334 26228 26247 4359 262D9 7F7A 2633E 7F95 7FFA 8005 264DA 26523 8060 " ++
      "265A8 8070"),
  (0x2F98, "2335F 43D5 80B2 8103 440B 813E 5AB5 267A7 267B5 23393 2339C 8201 8204 8F9E " ++
      "446B 8291"),
  (0x2F99, "828B 829D 52B3 82B1 82B3 82BD 82E6 26B3C 82E5 831D 8363 83AD 8323 83BD 83E7 " ++
      "8457"),
  (0x2F9A, "8353 83CA 83CC 83DC 26C36 26D6B 26CD5 452B 84F1 84F3 8516 273CA 8564 26F2C " ++
      "455D 4561"),
  (0x2F9B, "26FB1 270D2 456B 8650 865C 8667 8669 86A9 8688 870E 86E2 8779 8728 876B 8786 " ++
      "45D7"),
  (0x2F9C, "87E1 8801 45F9 8860 8863 27667 88D7 88DE 4635 88FA 34BB 278AE 27966 46BE " ++
      "46C7 8AA0"),
  (0x2F9D, "8AED 8B8A 8C55 27CA8 8CAB 8CC1 8D1B 8D77 27F2F 20804 8DCB 8DBC 8DF0 208DE " ++
      "8ED4 8F38"),
  (0x2F9E, "285D2 285ED 9094 90F1 9111 2872E 911B 9238 92D7 92D8 927C 93F9 9415 28BFA " ++
      "958B 4995"),
  (0x2F9F, "95B7 28D77 49E6 96C3 5DB2 9723 29145 2921A 4A6E 4A76 97E0 2940A 4AB2 29496 " ++
      "980B 980B"),
  (0x2FA0, "9829 295B6 98E2 4B33 9929 99A7 99C2 99FE 4BCE 29B30 9B12 9C40 9CFD 4CCE 4CED " ++
      "9D67"),
  (0x2FA1, "2A0CE 4CF8 2A105 2A20E 2A291 9EBB 4D56 9EF9 9EFE 9F05 9F0F 9F16 9F3B 2A600")]

/-- What a character means. -/
structure Decomposition where
  codes : List Nat
  /-- Both characters are made one again when they follow each other. -/
  composes : Bool
  deriving DecidableEq, Repr

/-- The meaning that a word of a row spells. -/
def readDecomposition? (word : List Char) : Option Decomposition :=
  if word = ['-'] then none
  else
    some
      { codes :=
          (parts '.' (word.map fun mark => if mark = '+' then '.' else mark)).map hexValue
        composes := word.contains '+' }

/-- What the character of a code point means. -/
def decomposition? (code : Nat) : Option Decomposition :=
  match shiftedRows.find? fun row => row.1 ≤ code && code ≤ row.2.1 with
  | some (first, _, meaning) => some ⟨[meaning + (code - first)], false⟩
  | none => do
    let row ← decompositionRows.lookup (code / 16)
    readDecomposition? (← (parts ' ' row.toList)[code % 16]?)

/-- The meanings of a row that are made one again, each with its character. -/
def rowCompositions (row : Nat × String) : List (List Nat × Nat) :=
  (parts ' ' row.2.toList).zipIdx.filterMap fun (word, index) =>
    if word.contains '+' then
      (readDecomposition? word).map fun meaning => (meaning.codes, 16 * row.1 + index)
    else none

/-- All meanings that are made one again, each with its character. -/
def compositions : List (List Nat × Nat) :=
  decompositionRows.flatMap rowCompositions

end Palette.Text
