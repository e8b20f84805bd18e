import PingPost.Text.Composition
import PingPost.Text.Case

/-!
Images of characters in host names.

A character of a name is replaced by the plain character or characters it is a form of: wide and
narrow forms, superscripts, ligatures, letters in circles, presentation forms and the ideographs
kept for compatibility. What has no image of its own is replaced by its simple case folding.
-/

namespace PingPost.Net

/-- Images of single characters that go in parallel: first and last character, step and shift. -/
def nameRuns : Text.CaseRuns := [
  (0x1D33, 0x1D3A, 1, -7372), (0x1DAE, 0x1DB1, 1, -6972), (0x2074, 0x2079, 1, -8256),
  (0x2080, 0x2089, 1, -8272), (0x2096, 0x2099, 1, -8235), (0x2135, 0x2138, 1, -7013),
  (0x2460, 0x2468, 1, -9263), (0x24B6, 0x24CF, 1, -9301), (0x24D0, 0x24E9, 1, -9327),
  (0x313A, 0x313F, 1, -8074), (0x3145, 0x314E, 1, -8252), (0x314F, 0x3163, 1, -8174),
  (0x3178, 0x317C, 1, -8269), (0x3269, 0x326D, 1, -8539), (0x32E4, 0x32E9, 1, -538),
  (0x32EE, 0x32F2, 1, -528), (0x32F5, 0x32FA, 1, -525), (0x32FB, 0x32FE, 1, -524),
  (0xFE41, 0xFE44, 1, -52789), (0xFF01, 0xFF20, 1, -65248), (0xFF21, 0xFF3A, 1, -65216),
  (0xFF3B, 0xFF5E, 1, -65248), (0xFF85, 0xFF8A, 1, -52923), (0xFF8F, 0xFF93, 1, -52913),
  (0xFF96, 0xFF9B, 1, -52910), (0xFFAA, 0xFFAF, 1, -60922), (0xFFB5, 0xFFBE, 1, -61100),
  (0xFFC2, 0xFFC7, 1, -61025), (0xFFCA, 0xFFCF, 1, -61027), (0xFFD2, 0xFFD7, 1, -61029),
  (0xFFE9, 0xFFEC, 1, -56921), (0x1CCD6, 0x1CCEF, 1, -117877), (0x1CCF0, 0x1CCF9, 1, -117952),
  (0x1D400, 0x1D419, 1, -119711), (0x1D41A, 0x1D433, 1, -119737), (0x1D434, 0x1D44D, 1, -119763),
  (0x1D44E, 0x1D454, 1, -119789), (0x1D456, 0x1D467, 1, -119789), (0x1D468, 0x1D481, 1, -119815),
  (0x1D482, 0x1D49B, 1, -119841), (0x1D4A9, 0x1D4AC, 1, -119867), (0x1D4AE, 0x1D4B5, 1, -119867),
  (0x1D4B6, 0x1D4B9, 1, -119893), (0x1D4BD, 0x1D4C3, 1, -119893), (0x1D4C5, 0x1D4CF, 1, -119893),
  (0x1D4D0, 0x1D4E9, 1, -119919), (0x1D4EA, 0x1D503, 1, -119945), (0x1D507, 0x1D50A, 1, -119971),
  (0x1D50D, 0x1D514, 1, -119971), (0x1D516, 0x1D51C, 1, -119971), (0x1D51E, 0x1D537, 1, -119997),
  (0x1D53B, 0x1D53E, 1, -120023), (0x1D540, 0x1D544, 1, -120023), (0x1D54A, 0x1D550, 1, -120023),
  (0x1D552, 0x1D56B, 1, -120049), (0x1D56C, 0x1D585, 1, -120075), (0x1D586, 0x1D59F, 1, -120101),
  (0x1D5A0, 0x1D5B9, 1, -120127), (0x1D5BA, 0x1D5D3, 1, -120153), (0x1D5D4, 0x1D5ED, 1, -120179),
  (0x1D5EE, 0x1D607, 1, -120205), (0x1D608, 0x1D621, 1, -120231), (0x1D622, 0x1D63B, 1, -120257),
  (0x1D63C, 0x1D655, 1, -120283), (0x1D656, 0x1D66F, 1, -120309), (0x1D670, 0x1D689, 1, -120335),
  (0x1D68A, 0x1D6A3, 1, -120361), (0x1D6A8, 0x1D6B8, 1, -119543), (0x1D6BA, 0x1D6C0, 1, -119543),
  (0x1D6C2, 0x1D6D2, 1, -119569), (0x1D6D4, 0x1D6DA, 1, -119569), (0x1D6E2, 0x1D6F2, 1, -119601),
  (0x1D6F4, 0x1D6FA, 1, -119601), (0x1D6FC, 0x1D70C, 1, -119627), (0x1D70E, 0x1D714, 1, -119627),
  (0x1D71C, 0x1D72C, 1, -119659), (0x1D72E, 0x1D734, 1, -119659), (0x1D736, 0x1D746, 1, -119685),
  (0x1D748, 0x1D74E, 1, -119685), (0x1D756, 0x1D766, 1, -119717), (0x1D768, 0x1D76E, 1, -119717),
  (0x1D770, 0x1D780, 1, -119743), (0x1D782, 0x1D788, 1, -119743), (0x1D790, 0x1D7A0, 1, -119775),
  (0x1D7A2, 0x1D7A8, 1, -119775), (0x1D7AA, 0x1D7BA, 1, -119801), (0x1D7BC, 0x1D7C2, 1, -119801),
  (0x1D7CE, 0x1D7D7, 1, -120734), (0x1D7D8, 0x1D7E1, 1, -120744), (0x1D7E2, 0x1D7EB, 1, -120754),
  (0x1D7EC, 0x1D7F5, 1, -120764), (0x1D7F6, 0x1D7FF, 1, -120774), (0x1E030, 0x1E038, 1, -121856),
  (0x1E03C, 0x1E046, 1, -121854), (0x1E051, 0x1E059, 1, -121889), (0x1E05F, 0x1E064, 1, -121884),
  (0x1EE0A, 0x1EE0D, 1, -124871), (0x1EE2A, 0x1EE2D, 1, -124903), (0x1F130, 0x1F149, 1, -127183),
  (0x1FBF0, 0x1FBF9, 1, -129984)]

/-- Images of consecutive characters from a code point on, in hexadecimal, with a plus sign between
the characters of an image. -/
def nameImageLists : List (Nat × String) := [
  (0xA0, "20"),
  (0xA8, "20+308"),
  (0xAA, "61"),
  (0xAF, "20+304"),
  (0xB2, "32 33 20+301"),
  (0xB8, "20+327 31 6F"),
  (0xBC, "31+2044+34 31+2044+32 33+2044+34"),
  (0x130, "69+307"),
  (0x132, "69+6A 69+6A"),
  (0x13F, "6C+B7 6C+B7"),
  (0x149, "2BC+6E"),
  (0x1C4, "64+17E 64+17E 64+17E 6C+6A 6C+6A 6C+6A 6E+6A 6E+6A 6E+6A"),
  (0x1F1, "64+7A 64+7A 64+7A"),
  (0x2B0, "68 266 6A 72 279 27B 281 77 79"),
  (0x2D8, "20+306 20+307 20+30A 20+328 20+303 20+30B"),
  (0x2E0, "263 6C 73 78 295"),
  (0x340, "300 301"),
  (0x343, "313 308+301"),
  (0x374, "2B9"),
  (0x37A, "20+3B9"),
  (0x37E, "3B"),
  (0x384, "20+301 20+308+301"),
  (0x387, "B7"),
  (0x3C2, "3C2"),
  (0x3D2, "3C5 3CD 3CB"),
  (0x3F2, "3C3"),
  (0x3F9, "3C3"),
  (0x587, "565+582"),
  (0x675, "627+674 648+674 6C7+674 64A+674"),
  (0x958, "915+93C 916+93C 917+93C 91C+93C 921+93C 922+93C 92B+93C 92F+93C"),
  (0x9DC, "9A1+9BC 9A2+9BC"),
  (0x9DF, "9AF+9BC"),
  (0xA33, "A32+A3C"),
  (0xA36, "A38+A3C"),
  (0xA59, "A16+A3C A17+A3C A1C+A3C"),
  (0xA5E, "A2B+A3C"),
  (0xB5C, "B21+B3C B22+B3C"),
  (0xE33, "E4D+E32"),
  (0xEB3, "ECD+EB2"),
  (0xEDC, "EAB+E99 EAB+EA1"),
  (0xF0C, "F0B"),
  (0xF43, "F42+FB7"),
  (0xF4D, "F4C+FB7"),
  (0xF52, "F51+FB7"),
  (0xF57, "F56+FB7"),
  (0xF5C, "F5B+FB7"),
  (0xF69, "F40+FB5"),
  (0xF73, "F71+F72"),
  (0xF75, "F71+F74 FB2+F80 FB2+F71+F80 FB3+F80 FB3+F71+F80"),
  (0xF81, "F71+F80"),
  (0xF93, "F92+FB7"),
  (0xF9D, "F9C+FB7"),
  (0xFA2, "FA1+FB7"),
  (0xFA7, "FA6+FB7"),
  (0xFAC, "FAB+FB7"),
  (0xFB9, "F90+FB5"),
  (0x10FC, "10DC"),
  (0x1D2C, "61 E6 62"),
  (0x1D30, "64 65 1DD"),
  (0x1D3C, "6F 223 70 72 74 75 77 61 250 251 1D02 62 64 65 259 25B 25C 67"),
  (0x1D4F,
    "6B 6D 14B 6F 254 1D16 1D17 70 74 75 1D1D 26F 76 1D25 3B2 3B3 3B4 3C6 3C7 69 72 75 76 3B2 3B3
    3C1 3C6 3C7"),
  (0x1D78, "43D"),
  (0x1D9B, "252 63 255 F0 25C 66 25F 261 265 268 269 26A 1D7B 29D 26D 1D85 29F 271 270"),
  (0x1DB2, "278 282 283 1AB 289 28A 1D1C 28B 28C 7A 290 291 292 3B8"),
  (0x1E9A, "61+2BE"),
  (0x1F71, "3AC"),
  (0x1F73, "3AD"),
  (0x1F75, "3AE"),
  (0x1F77, "3AF"),
  (0x1F79, "3CC"),
  (0x1F7B, "3CD"),
  (0x1F7D, "3CE"),
  (0x1F80,
    "1F00+3B9 1F01+3B9 1F02+3B9 1F03+3B9 1F04+3B9 1F05+3B9 1F06+3B9 1F07+3B9 1F00+3B9 1F01+3B9
    1F02+3B9 1F03+3B9 1F04+3B9 1F05+3B9 1F06+3B9 1F07+3B9 1F20+3B9 1F21+3B9 1F22+3B9 1F23+3B9
    1F24+3B9 1F25+3B9 1F26+3B9 1F27+3B9 1F20+3B9 1F21+3B9 1F22+3B9 1F23+3B9 1F24+3B9 1F25+3B9
    1F26+3B9 1F27+3B9 1F60+3B9 1F61+3B9 1F62+3B9 1F63+3B9 1F64+3B9 1F65+3B9 1F66+3B9 1F67+3B9
    1F60+3B9 1F61+3B9 1F62+3B9 1F63+3B9 1F64+3B9 1F65+3B9 1F66+3B9 1F67+3B9"),
  (0x1FB2, "1F70+3B9 3B1+3B9 3AC+3B9"),
  (0x1FB7, "1FB6+3B9"),
  (0x1FBB, "3AC 3B1+3B9 20+313"),
  (0x1FBF, "20+313 20+342 20+308+342 1F74+3B9 3B7+3B9 3AE+3B9"),
  (0x1FC7, "1FC6+3B9"),
  (0x1FC9, "3AD"),
  (0x1FCB, "3AE 3B7+3B9 20+313+300 20+313+301 20+313+342"),
  (0x1FDB, "3AF"),
  (0x1FDD, "20+314+300 20+314+301 20+314+342"),
  (0x1FEB, "3CD"),
  (0x1FED, "20+308+300 20+308+301 60"),
  (0x1FF2, "1F7C+3B9 3C9+3B9 3CE+3B9"),
  (0x1FF7, "1FF6+3B9"),
  (0x1FF9, "3CC"),
  (0x1FFB, "3CE 3C9+3B9 20+301 20+314"),
  (0x2000, "20 20 20 20 20 20 20 20 20 20 20"),
  (0x2011, "2010"),
  (0x2017, "20+333"),
  (0x202F, "20"),
  (0x2033, "2032+2032 2032+2032+2032"),
  (0x2036, "2035+2035 2035+2035+2035"),
  (0x203C, "21+21"),
  (0x203E, "20+305"),
  (0x2047, "3F+3F 3F+21 21+3F"),
  (0x2057, "2032+2032+2032+2032"),
  (0x205F, "20"),
  (0x2070, "30 69"),
  (0x207A, "2B 2212 3D 28 29 6E"),
  (0x208A, "2B 2212 3D 28 29"),
  (0x2090, "61 65 6F 78 259 68"),
  (0x209A, "70 73 74"),
  (0x20A8, "72+73"),
  (0x2100, "61+2F+63 61+2F+73 63 B0+63"),
  (0x2105, "63+2F+6F 63+2F+75 25B"),
  (0x2109, "B0+66 67 68 68 68 68 127 69 69 6C 6C"),
  (0x2115, "6E 6E+6F"),
  (0x2119, "70 71 72 72 72"),
  (0x2120, "73+6D 74+65+6C 74+6D"),
  (0x2124, "7A"),
  (0x2128, "7A"),
  (0x212C, "62 63"),
  (0x212F, "65 65 66"),
  (0x2133, "6D 6F"),
  (0x2139, "69"),
  (0x213B, "66+61+78 3C0 3B3 3B3 3C0 2211"),
  (0x2145, "64 64 65 69 6A"),
  (0x2150,
    "31+2044+37 31+2044+39 31+2044+31+30 31+2044+33 32+2044+33 31+2044+35 32+2044+35 33+2044+35
    34+2044+35 31+2044+36 35+2044+36 31+2044+38 33+2044+38 35+2044+38 37+2044+38 31+2044 69 69+69
    69+69+69 69+76 76 76+69 76+69+69 76+69+69+69 69+78 78 78+69 78+69+69 6C 63 64 6D 69 69+69
    69+69+69 69+76 76 76+69 76+69+69 76+69+69+69 69+78 78 78+69 78+69+69 6C 63 64 6D"),
  (0x2189, "30+2044+33"),
  (0x222C, "222B+222B 222B+222B+222B"),
  (0x222F, "222E+222E 222E+222E+222E"),
  (0x2329, "3008 3009"),
  (0x2469,
    "31+30 31+31 31+32 31+33 31+34 31+35 31+36 31+37 31+38 31+39 32+30 28+31+29 28+32+29 28+33+29
    28+34+29 28+35+29 28+36+29 28+37+29 28+38+29 28+39+29 28+31+30+29 28+31+31+29 28+31+32+29
    28+31+33+29 28+31+34+29 28+31+35+29 28+31+36+29 28+31+37+29 28+31+38+29 28+31+39+29
    28+32+30+29"),
  (0x249C,
    "28+61+29 28+62+29 28+63+29 28+64+29 28+65+29 28+66+29 28+67+29 28+68+29 28+69+29 28+6A+29
    28+6B+29 28+6C+29 28+6D+29 28+6E+29 28+6F+29 28+70+29 28+71+29 28+72+29 28+73+29 28+74+29
    28+75+29 28+76+29 28+77+29 28+78+29 28+79+29 28+7A+29"),
  (0x24EA, "30"),
  (0x2A0C, "222B+222B+222B+222B"),
  (0x2A74, "3A+3A+3D 3D+3D 3D+3D+3D"),
  (0x2ADC, "2ADD+338"),
  (0x2C7C, "6A 76"),
  (0x2D6F, "2D61"),
  (0x2E9F, "6BCD"),
  (0x2EF3, "9F9F"),
  (0x3000, "20"),
  (0x3002, "2E"),
  (0x3036, "3012"),
  (0x3038, "5341 5344 5345"),
  (0x309B, "20+3099 20+309A"),
  (0x309F, "3088+308A"),
  (0x30FF, "30B3+30C8"),
  (0x3131, "1100 1101 11AA 1102 11AC 11AD 1103 1104 1105"),
  (0x3140, "111A 1106 1107 1108 1121"),
  (0x3165,
    "1114 1115 11C7 11C8 11CC 11CE 11D3 11D7 11D9 111C 11DD 11DF 111D 111E 1120 1122 1123 1127 1129"),
  (0x317D,
    "1132 1136 1140 1147 114C 11F1 11F2 1157 1158 1159 1184 1185 1188 1191 1192 1194 119E 11A1"),
  (0x3192, "4E00 4E8C 4E09 56DB 4E0A 4E2D 4E0B 7532 4E59 4E19 4E01 5929 5730 4EBA"),
  (0x3200,
    "28+1100+29 28+1102+29 28+1103+29 28+1105+29 28+1106+29 28+1107+29 28+1109+29 28+110B+29
    28+110C+29 28+110E+29 28+110F+29 28+1110+29 28+1111+29 28+1112+29 28+AC00+29 28+B098+29
    28+B2E4+29 28+B77C+29 28+B9C8+29 28+BC14+29 28+C0AC+29 28+C544+29 28+C790+29 28+CC28+29
    28+CE74+29 28+D0C0+29 28+D30C+29 28+D558+29 28+C8FC+29 28+C624+C804+29 28+C624+D6C4+29"),
  (0x3220,
    "28+4E00+29 28+4E8C+29 28+4E09+29 28+56DB+29 28+4E94+29 28+516D+29 28+4E03+29 28+516B+29
    28+4E5D+29 28+5341+29 28+6708+29 28+706B+29 28+6C34+29 28+6728+29 28+91D1+29 28+571F+29
    28+65E5+29 28+682A+29 28+6709+29 28+793E+29 28+540D+29 28+7279+29 28+8CA1+29 28+795D+29
    28+52B4+29 28+4EE3+29 28+547C+29 28+5B66+29 28+76E3+29 28+4F01+29 28+8CC7+29 28+5354+29
    28+796D+29 28+4F11+29 28+81EA+29 28+81F3+29 554F 5E7C 6587 7B8F"),
  (0x3250,
    "70+74+65 32+31 32+32 32+33 32+34 32+35 32+36 32+37 32+38 32+39 33+30 33+31 33+32 33+33 33+34
    33+35 1100 1102 1103 1105 1106 1107 1109 110B 110C"),
  (0x326E,
    "AC00 B098 B2E4 B77C B9C8 BC14 C0AC C544 C790 CC28 CE74 D0C0 D30C D558 CC38+ACE0 C8FC+C758 C6B0"),
  (0x3280,
    "4E00 4E8C 4E09 56DB 4E94 516D 4E03 516B 4E5D 5341 6708 706B 6C34 6728 91D1 571F 65E5 682A 6709
    793E 540D 7279 8CA1 795D 52B4 79D8 7537 5973 9069 512A 5370 6CE8 9805 4F11 5199 6B63 4E0A 4E2D
    4E0B 5DE6 53F3 533B 5B97 5B66 76E3 4F01 8CC7 5354 591C 33+36 33+37 33+38 33+39 34+30 34+31
    34+32 34+33 34+34 34+35 34+36 34+37 34+38 34+39 35+30 31+6708 32+6708 33+6708 34+6708 35+6708
    36+6708 37+6708 38+6708 39+6708 31+30+6708 31+31+6708 31+32+6708 68+67 65+72+67 65+76 6C+74+64
    30A2 30A4 30A6 30A8 30AA 30AB 30AD 30AF 30B1 30B3 30B5 30B7 30B9 30BB 30BD 30BF 30C1 30C4 30C6
    30C8"),
  (0x32EA, "30D2 30D5 30D8 30DB"),
  (0x32F3, "30E4 30E6"),
  (0x32FF,
    "4EE4+548C 30A2+30D1+30FC+30C8 30A2+30EB+30D5+30A1 30A2+30F3+30DA+30A2 30A2+30FC+30EB
    30A4+30CB+30F3+30B0 30A4+30F3+30C1 30A6+30A9+30F3 30A8+30B9+30AF+30FC+30C9 30A8+30FC+30AB+30FC
    30AA+30F3+30B9 30AA+30FC+30E0 30AB+30A4+30EA 30AB+30E9+30C3+30C8 30AB+30ED+30EA+30FC
    30AC+30ED+30F3 30AC+30F3+30DE 30AE+30AC 30AE+30CB+30FC 30AD+30E5+30EA+30FC 30AE+30EB+30C0+30FC
    30AD+30ED 30AD+30ED+30B0+30E9+30E0 30AD+30ED+30E1+30FC+30C8+30EB 30AD+30ED+30EF+30C3+30C8
    30B0+30E9+30E0 30B0+30E9+30E0+30C8+30F3 30AF+30EB+30BC+30A4+30ED 30AF+30ED+30FC+30CD
    30B1+30FC+30B9 30B3+30EB+30CA 30B3+30FC+30DD 30B5+30A4+30AF+30EB 30B5+30F3+30C1+30FC+30E0
    30B7+30EA+30F3+30B0 30BB+30F3+30C1 30BB+30F3+30C8 30C0+30FC+30B9 30C7+30B7 30C9+30EB 30C8+30F3
    30CA+30CE 30CE+30C3+30C8 30CF+30A4+30C4 30D1+30FC+30BB+30F3+30C8 30D1+30FC+30C4
    30D0+30FC+30EC+30EB 30D4+30A2+30B9+30C8+30EB 30D4+30AF+30EB 30D4+30B3 30D3+30EB
    30D5+30A1+30E9+30C3+30C9 30D5+30A3+30FC+30C8 30D6+30C3+30B7+30A7+30EB 30D5+30E9+30F3
    30D8+30AF+30BF+30FC+30EB 30DA+30BD 30DA+30CB+30D2 30D8+30EB+30C4 30DA+30F3+30B9 30DA+30FC+30B8
    30D9+30FC+30BF 30DD+30A4+30F3+30C8 30DC+30EB+30C8 30DB+30F3 30DD+30F3+30C9 30DB+30FC+30EB
    30DB+30FC+30F3 30DE+30A4+30AF+30ED 30DE+30A4+30EB 30DE+30C3+30CF 30DE+30EB+30AF
    30DE+30F3+30B7+30E7+30F3 30DF+30AF+30ED+30F3 30DF+30EA 30DF+30EA+30D0+30FC+30EB 30E1+30AC
    30E1+30AC+30C8+30F3 30E1+30FC+30C8+30EB 30E4+30FC+30C9 30E4+30FC+30EB 30E6+30A2+30F3
    30EA+30C3+30C8+30EB 30EA+30E9 30EB+30D4+30FC 30EB+30FC+30D6+30EB 30EC+30E0
    30EC+30F3+30C8+30B2+30F3 30EF+30C3+30C8 30+70B9 31+70B9 32+70B9 33+70B9 34+70B9 35+70B9
    36+70B9 37+70B9 38+70B9 39+70B9 31+30+70B9 31+31+70B9 31+32+70B9 31+33+70B9 31+34+70B9
    31+35+70B9 31+36+70B9 31+37+70B9 31+38+70B9 31+39+70B9 32+30+70B9 32+31+70B9 32+32+70B9
    32+33+70B9 32+34+70B9 68+70+61 64+61 61+75 62+61+72 6F+76 70+63 64+6D 64+6D+32 64+6D+33 69+75
    5E73+6210 662D+548C 5927+6B63 660E+6CBB 682A+5F0F+4F1A+793E 70+61 6E+61 3BC+61 6D+61 6B+61
    6B+62 6D+62 67+62 63+61+6C 6B+63+61+6C 70+66 6E+66 3BC+66 3BC+67 6D+67 6B+67 68+7A 6B+68+7A
    6D+68+7A 67+68+7A 74+68+7A 3BC+6C 6D+6C 64+6C 6B+6C 66+6D 6E+6D 3BC+6D 6D+6D 63+6D 6B+6D
    6D+6D+32 63+6D+32 6D+32 6B+6D+32 6D+6D+33 63+6D+33 6D+33 6B+6D+33 6D+2215+73 6D+2215+73+32
    70+61 6B+70+61 6D+70+61 67+70+61 72+61+64 72+61+64+2215+73 72+61+64+2215+73+32 70+73 6E+73
    3BC+73 6D+73 70+76 6E+76 3BC+76 6D+76 6B+76 6D+76 70+77 6E+77 3BC+77 6D+77 6B+77 6D+77 6B+3C9
    6D+3C9"),
  (0x33C3, "62+71 63+63 63+64 63+2215+6B+67"),
  (0x33C8,
    "64+62 67+79 68+61 68+70 69+6E 6B+6B 6B+6D 6B+74 6C+6D 6C+6E 6C+6F+67 6C+78 6D+62 6D+69+6C
    6D+6F+6C 70+68"),
  (0x33D9,
    "70+70+6D 70+72 73+72 73+76 77+62 76+2215+6D 61+2215+6D 31+65E5 32+65E5 33+65E5 34+65E5 35+65E5
    36+65E5 37+65E5 38+65E5 39+65E5 31+30+65E5 31+31+65E5 31+32+65E5 31+33+65E5 31+34+65E5
    31+35+65E5 31+36+65E5 31+37+65E5 31+38+65E5 31+39+65E5 32+30+65E5 32+31+65E5 32+32+65E5
    32+33+65E5 32+34+65E5 32+35+65E5 32+36+65E5 32+37+65E5 32+38+65E5 32+39+65E5 33+30+65E5
    33+31+65E5 67+61+6C"),
  (0xA69C, "44A 44C"),
  (0xA770, "A76F"),
  (0xA7F2, "63 66 71"),
  (0xA7F8, "127 153"),
  (0xAB5C, "A727 AB37 26B AB52"),
  (0xAB69, "28D"),
  (0xFB00, "66+66 66+69 66+6C 66+66+69 66+66+6C 73+74 73+74"),
  (0xFB13, "574+576 574+565 574+56B 57E+576 574+56D"),
  (0xFB1D, "5D9+5B4"),
  (0xFB1F,
    "5F2+5B7 5E2 5D0 5D3 5D4 5DB 5DC 5DD 5E8 5EA 2B 5E9+5C1 5E9+5C2 5E9+5BC+5C1 5E9+5BC+5C2 5D0+5B7
    5D0+5B8 5D0+5BC 5D1+5BC 5D2+5BC 5D3+5BC 5D4+5BC 5D5+5BC 5D6+5BC"),
  (0xFB38, "5D8+5BC 5D9+5BC 5DA+5BC 5DB+5BC 5DC+5BC"),
  (0xFB3E, "5DE+5BC"),
  (0xFB40, "5E0+5BC 5E1+5BC"),
  (0xFB43, "5E3+5BC 5E4+5BC"),
  (0xFB46,
    "5E6+5BC 5E7+5BC 5E8+5BC 5E9+5BC 5EA+5BC 5D5+5B9 5D1+5BF 5DB+5BF 5E4+5BF 5D0+5DC 671 671 67B
    67B 67B 67B 67E 67E 67E 67E 680 680 680 680 67A 67A 67A 67A 67F 67F 67F 67F 679 679 679 679
    6A4 6A4 6A4 6A4 6A6 6A6 6A6 6A6 684 684 684 684 683 683 683 683 686 686 686 686 687 687 687
    687 68D 68D 68C 68C 68E 68E 688 688 698 698 691 691 6A9 6A9 6A9 6A9 6AF 6AF 6AF 6AF 6B3 6B3
    6B3 6B3 6B1 6B1 6B1 6B1 6BA 6BA 6BB 6BB 6BB 6BB 6C0 6C0 6C1 6C1 6C1 6C1 6BE 6BE 6BE 6BE 6D2
    6D2 6D3 6D3"),
  (0xFBD3,
    "6AD 6AD 6AD 6AD 6C7 6C7 6C6 6C6 6C8 6C8 6C7+674 6CB 6CB 6C5 6C5 6C9 6C9 6D0 6D0 6D0 6D0 649
    649 626+627 626+627 626+6D5 626+6D5 626+648 626+648 626+6C7 626+6C7 626+6C6 626+6C6 626+6C8
    626+6C8 626+6D0 626+6D0 626+6D0 626+649 626+649 626+649 6CC 6CC 6CC 6CC 626+62C 626+62D
    626+645 626+649 626+64A 628+62C 628+62D 628+62E 628+645 628+649 628+64A 62A+62C 62A+62D
    62A+62E 62A+645 62A+649 62A+64A 62B+62C 62B+645 62B+649 62B+64A 62C+62D 62C+645 62D+62C
    62D+645 62E+62C 62E+62D 62E+645 633+62C 633+62D 633+62E 633+645 635+62D 635+645 636+62C
    636+62D 636+62E 636+645 637+62D 637+645 638+645 639+62C 639+645 63A+62C 63A+645 641+62C
    641+62D 641+62E 641+645 641+649 641+64A 642+62D 642+645 642+649 642+64A 643+627 643+62C
    643+62D 643+62E 643+644 643+645 643+649 643+64A 644+62C 644+62D 644+62E 644+645 644+649
    644+64A 645+62C 645+62D 645+62E 645+645 645+649 645+64A 646+62C 646+62D 646+62E 646+645
    646+649 646+64A 647+62C 647+645 647+649 647+64A 64A+62C 64A+62D 64A+62E 64A+645 64A+649
    64A+64A 630+670 631+670 649+670 20+64C+651 20+64D+651 20+64E+651 20+64F+651 20+650+651
    20+651+670 626+631 626+632 626+645 626+646 626+649 626+64A 628+631 628+632 628+645 628+646
    628+649 628+64A 62A+631 62A+632 62A+645 62A+646 62A+649 62A+64A 62B+631 62B+632 62B+645
    62B+646 62B+649 62B+64A 641+649 641+64A 642+649 642+64A 643+627 643+644 643+645 643+649
    643+64A 644+645 644+649 644+64A 645+627 645+645 646+631 646+632 646+645 646+646 646+649
    646+64A 649+670 64A+631 64A+632 64A+645 64A+646 64A+649 64A+64A 626+62C 626+62D 626+62E
    626+645 626+647 628+62C 628+62D 628+62E 628+645 628+647 62A+62C 62A+62D 62A+62E 62A+645
    62A+647 62B+645 62C+62D 62C+645 62D+62C 62D+645 62E+62C 62E+645 633+62C 633+62D 633+62E
    633+645 635+62D 635+62E 635+645 636+62C 636+62D 636+62E 636+645 637+62D 638+645 639+62C
    639+645 63A+62C 63A+645 641+62C 641+62D 641+62E 641+645 642+62D 642+645 643+62C 643+62D
    643+62E 643+644 643+645 644+62C 644+62D 644+62E 644+645 644+647 645+62C 645+62D 645+62E
    645+645 646+62C 646+62D 646+62E 646+645 646+647 647+62C 647+645 647+670 64A+62C 64A+62D
    64A+62E 64A+645 64A+647 626+645 626+647 628+645 628+647 62A+645 62A+647 62B+645 62B+647
    633+645 633+647 634+645 634+647 643+644 643+645 644+645 646+645 646+647 64A+645 64A+647
    640+64E+651 640+64F+651 640+650+651 637+649 637+64A 639+649 639+64A 63A+649 63A+64A 633+649
    633+64A 634+649 634+64A 62D+649 62D+64A 62C+649 62C+64A 62E+649 62E+64A 635+649 635+64A
    636+649 636+64A 634+62C 634+62D 634+62E 634+645 634+631 633+631 635+631 636+631 637+649
    637+64A 639+649 639+64A 63A+649 63A+64A 633+649 633+64A 634+649 634+64A 62D+649 62D+64A
    62C+649 62C+64A 62E+649 62E+64A 635+649 635+64A 636+649 636+64A 634+62C 634+62D 634+62E
    634+645 634+631 633+631 635+631 636+631 634+62C 634+62D 634+62E 634+645 633+647 634+647
    637+645 633+62C 633+62D 633+62E 634+62C 634+62D 634+62E 637+645 638+645 627+64B 627+64B"),
  (0xFD50,
    "62A+62C+645 62A+62D+62C 62A+62D+62C 62A+62D+645 62A+62E+645 62A+645+62C 62A+645+62D
    62A+645+62E 62C+645+62D 62C+645+62D 62D+645+64A 62D+645+649 633+62D+62C 633+62C+62D
    633+62C+649 633+645+62D 633+645+62D 633+645+62C 633+645+645 633+645+645 635+62D+62D
    635+62D+62D 635+645+645 634+62D+645 634+62D+645 634+62C+64A 634+645+62E 634+645+62E
    634+645+645 634+645+645 636+62D+649 636+62E+645 636+62E+645 637+645+62D 637+645+62D
    637+645+645 637+645+64A 639+62C+645 639+645+645 639+645+645 639+645+649 63A+645+645
    63A+645+64A 63A+645+649 641+62E+645 641+62E+645 642+645+62D 642+645+645 644+62D+645
    644+62D+64A 644+62D+649 644+62C+62C 644+62C+62C 644+62E+645 644+62E+645 644+645+62D
    644+645+62D 645+62D+62C 645+62D+645 645+62D+64A 645+62C+62D 645+62C+645 645+62E+62C
    645+62E+645"),
  (0xFD92,
    "645+62C+62E 647+645+62C 647+645+645 646+62D+645 646+62D+649 646+62C+645 646+62C+645
    646+62C+649 646+645+64A 646+645+649 64A+645+645 64A+645+645 628+62E+64A 62A+62C+64A
    62A+62C+649 62A+62E+64A 62A+62E+649 62A+645+64A 62A+645+649 62C+645+64A 62C+62D+649
    62C+645+649 633+62E+649 635+62D+64A 634+62D+64A 636+62D+64A 644+62C+64A 644+645+64A
    64A+62D+64A 64A+62C+64A 64A+645+64A 645+645+64A 642+645+64A 646+62D+64A 642+645+62D
    644+62D+645 639+645+64A 643+645+64A 646+62C+62D 645+62E+64A 644+62C+645 643+645+645
    644+62C+645 646+62C+62D 62C+62D+64A 62D+62C+64A 645+62C+64A 641+645+64A 628+62D+64A
    643+645+645 639+62C+645 635+645+645 633+62E+64A 646+62C+64A"),
  (0xFDF0,
    "635+644+6D2 642+644+6D2 627+644+644+647 627+643+628+631 645+62D+645+62F 635+644+639+645
    631+633+648+644 639+644+64A+647 648+633+644+645 635+644+649
    635+644+649+20+627+644+644+647+20+639+644+64A+647+20+648+633+644+645
    62C+644+20+62C+644+627+644+647 631+6CC+627+644"),
  (0xFE10, "2C 3001"),
  (0xFE13, "3A 3B 21 3F 3016 3017"),
  (0xFE31, "2014 2013 5F 5F 28 29 7B 7D 3014 3015 3010 3011 300A 300B 3008 3009"),
  (0xFE47, "5B 5D 20+305 20+305 20+305 20+305 5F 5F 5F 2C 3001"),
  (0xFE54, "3B 3A 3F 21 2014 28 29 7B 7D 3014 3015 23 26 2A 2B 2D 3C 3E 3D"),
  (0xFE68, "5C 24 25 40"),
  (0xFE70, "20+64B 640+64B 20+64C"),
  (0xFE74, "20+64D"),
  (0xFE76,
    "20+64E 640+64E 20+64F 640+64F 20+650 640+650 20+651 640+651 20+652 640+652 621 622 622 623 623
    624 624 625 625 626 626 626 626 627 627 628 628 628 628 629 629 62A 62A 62A 62A 62B 62B 62B
    62B 62C 62C 62C 62C 62D 62D 62D 62D 62E 62E 62E 62E 62F 62F 630 630 631 631 632 632 633 633
    633 633 634 634 634 634 635 635 635 635 636 636 636 636 637 637 637 637 638 638 638 638 639
    639 639 639 63A 63A 63A 63A 641 641 641 641 642 642 642 642 643 643 643 643 644 644 644 644
    645 645 645 645 646 646 646 646 647 647 647 647 648 648 649 649 64A 64A 64A 64A 644+622
    644+622 644+623 644+623 644+625 644+625 644+627 644+627"),
  (0xFF5F,
    "2985 2986 2E 300C 300D 3001 30FB 30F2 30A1 30A3 30A5 30A7 30A9 30E3 30E5 30E7 30C3 30FC 30A2
    30A4 30A6 30A8 30AA 30AB 30AD 30AF 30B1 30B3 30B5 30B7 30B9 30BB 30BD 30BF 30C1 30C4 30C6 30C8"),
  (0xFF8B, "30D2 30D5 30D8 30DB"),
  (0xFF94, "30E4 30E6"),
  (0xFF9C, "30EF 30F3 3099 309A"),
  (0xFFA1, "1100 1101 11AA 1102 11AC 11AD 1103 1104 1105"),
  (0xFFB0, "111A 1106 1107 1108 1121"),
  (0xFFDA, "1173 1174 1175"),
  (0xFFE0, "A2 A3 AC 20+304 A6 A5 20A9"),
  (0xFFE8, "2502"),
  (0xFFED, "25A0 25CB"),
  (0x10781, "2D0 2D1 E6 299 253"),
  (0x10787,
    "2A3 AB66 2A5 2A4 256 257 1D91 258 25E 2A9 264 262 260 29B 127 29C 267 284 2AA 2AB 26C 1DF04
    A78E 26E 1DF05 28E 1DF06 F8 276 277 71 27A 1DF08 27D 27E 280 2A8 2A6 AB67 2A7 288 2C71"),
  (0x107B2, "28F 2A1 2A2 298 1C0 1C1 1C2 1DF0A 1DF1E"),
  (0x1D15E,
    "1D157+1D165 1D158+1D165 1D158+1D165+1D16E 1D158+1D165+1D16F 1D158+1D165+1D170
    1D158+1D165+1D171 1D158+1D165+1D172"),
  (0x1D1BB,
    "1D1B9+1D165 1D1BA+1D165 1D1B9+1D165+1D16E 1D1BA+1D165+1D16E 1D1B9+1D165+1D16F
    1D1BA+1D165+1D16F"),
  (0x1D49C, "61"),
  (0x1D49E, "63 64"),
  (0x1D4A2, "67"),
  (0x1D4A5, "6A 6B"),
  (0x1D4BB, "66"),
  (0x1D504, "61 62"),
  (0x1D538, "61 62"),
  (0x1D546, "6F"),
  (0x1D6A4, "131 237"),
  (0x1D6B9, "3B8"),
  (0x1D6C1, "2207"),
  (0x1D6D3, "3C3"),
  (0x1D6DB, "2202 3B5 3B8 3BA 3C6 3C1 3C0"),
  (0x1D6F3, "3B8"),
  (0x1D6FB, "2207"),
  (0x1D70D, "3C3"),
  (0x1D715, "2202 3B5 3B8 3BA 3C6 3C1 3C0"),
  (0x1D72D, "3B8"),
  (0x1D735, "2207"),
  (0x1D747, "3C3"),
  (0x1D74F, "2202 3B5 3B8 3BA 3C6 3C1 3C0"),
  (0x1D767, "3B8"),
  (0x1D76F, "2207"),
  (0x1D781, "3C3"),
  (0x1D789, "2202 3B5 3B8 3BA 3C6 3C1 3C0"),
  (0x1D7A1, "3B8"),
  (0x1D7A9, "2207"),
  (0x1D7BB, "3C3"),
  (0x1D7C3, "2202 3B5 3B8 3BA 3C6 3C1 3C0 3DD 3DD"),
  (0x1E039, "43A 43B 43C"),
  (0x1E047, "44B 44D 44E A689 4D9 456 458 4E9 4AF 4CF"),
  (0x1E05A, "43A 43B 43E 43F 441"),
  (0x1E065, "44A 44B 491 456 455 45F 4AB A651 4B1"),
  (0x1EE00, "627 628 62C 62F"),
  (0x1EE05, "648 632 62D 637 64A"),
  (0x1EE0E, "633 639 641 635 642 631 634 62A 62B 62E 630 636 638 63A 66E 6BA 6A1 66F"),
  (0x1EE21, "628 62C"),
  (0x1EE24, "647"),
  (0x1EE27, "62D"),
  (0x1EE29, "64A"),
  (0x1EE2E, "633 639 641 635 642"),
  (0x1EE34, "634 62A 62B 62E"),
  (0x1EE39, "636"),
  (0x1EE3B, "63A"),
  (0x1EE42, "62C"),
  (0x1EE47, "62D"),
  (0x1EE49, "64A"),
  (0x1EE4B, "644"),
  (0x1EE4D, "646 633 639"),
  (0x1EE51, "635 642"),
  (0x1EE54, "634"),
  (0x1EE57, "62E"),
  (0x1EE59, "636"),
  (0x1EE5B, "63A"),
  (0x1EE5D, "6BA"),
  (0x1EE5F, "66F"),
  (0x1EE61, "628 62C"),
  (0x1EE64, "647"),
  (0x1EE67, "62D 637 64A 643"),
  (0x1EE6C, "645 646 633 639 641 635 642"),
  (0x1EE74, "634 62A 62B 62E"),
  (0x1EE79, "636 638 63A 66E"),
  (0x1EE7E, "6A1"),
  (0x1EE80, "627 628 62C 62F 647 648 632 62D 637 64A"),
  (0x1EE8B, "644 645 646 633 639 641 635 642 631 634 62A 62B 62E 630 636 638 63A"),
  (0x1EEA1, "628 62C 62F"),
  (0x1EEA5, "648 632 62D 637 64A"),
  (0x1EEAB, "644 645 646 633 639 641 635 642 631 634 62A 62B 62E 630 636 638 63A"),
  (0x1F101, "30+2C 31+2C 32+2C 33+2C 34+2C 35+2C 36+2C 37+2C 38+2C 39+2C"),
  (0x1F110,
    "28+61+29 28+62+29 28+63+29 28+64+29 28+65+29 28+66+29 28+67+29 28+68+29 28+69+29 28+6A+29
    28+6B+29 28+6C+29 28+6D+29 28+6E+29 28+6F+29 28+70+29 28+71+29 28+72+29 28+73+29 28+74+29
    28+75+29 28+76+29 28+77+29 28+78+29 28+79+29 28+7A+29 3014+73+3015 63 72 63+64 77+7A"),
  (0x1F14A, "68+76 6D+76 73+64 73+73 70+70+76 77+63"),
  (0x1F16A, "6D+63 6D+64 6D+72"),
  (0x1F190, "64+6A"),
  (0x1F200, "307B+304B 30B3+30B3 30B5"),
  (0x1F210,
    "624B 5B57 53CC 30C7 4E8C 591A 89E3 5929 4EA4 6620 7121 6599 524D 5F8C 518D 65B0 521D 7D42 751F
    8CA9 58F0 5439 6F14 6295 6355 4E00 4E09 904A 5DE6 4E2D 53F3 6307 8D70 6253 7981 7A7A 5408 6E80
    6709 6708 7533 5272 55B6 914D"),
  (0x1F240,
    "3014+672C+3015 3014+4E09+3015 3014+4E8C+3015 3014+5B89+3015 3014+70B9+3015 3014+6253+3015
    3014+76D7+3015 3014+52DD+3015 3014+6557+3015"),
  (0x1F250, "5F97 53EF")]

/-- Images of consecutive ideographs from a code point on. -/
def ideographImageLists : List (Nat × String) := [
  (0x2F00,
    "一丨丶丿乙亅二亠人儿入八冂冖冫几凵刀力勹匕匚匸十卜卩厂厶又口囗土士夂夊夕大女子宀寸小尢尸
    屮山巛工己巾干幺广廴廾弋弓彐彡彳心戈戶手支攴文斗斤方无日曰月木欠止歹殳毋比毛氏气水火爪父
    爻爿片牙牛犬玄玉瓜瓦甘生用田疋疒癶白皮皿目矛矢石示禸禾穴立竹米糸缶网羊羽老而耒耳聿肉臣自
    至臼舌舛舟艮色艸虍虫血行衣襾見角言谷豆豕豸貝赤走足身車辛辰辵邑酉釆里金長門阜隶隹雨靑非面
    革韋韭音頁風飛食首香馬骨高髟鬥鬯鬲鬼魚鳥鹵鹿麥麻黃黍黑黹黽鼎鼓鼠鼻齊齒龍龜龠"),
  (0xF900,
    "豈更車賈滑串句龜龜契金喇奈懶癩羅蘿螺裸邏樂洛烙珞落酪駱亂卵欄爛蘭鸞嵐濫藍襤拉臘蠟廊朗浪狼
    郎來冷勞擄櫓爐盧老蘆虜路露魯鷺碌祿綠菉錄鹿論壟弄籠聾牢磊賂雷壘屢樓淚漏累縷陋勒肋凜凌稜綾
    菱陵讀拏樂諾丹寧怒率異北磻便復不泌數索參塞省葉說殺辰沈拾若掠略亮兩凉梁糧良諒量勵呂女廬旅
    濾礪閭驪麗黎力曆歷轢年憐戀撚漣煉璉秊練聯輦蓮連鍊列劣咽烈裂說廉念捻殮簾獵令囹寧嶺怜玲瑩羚
    聆鈴零靈領例禮醴隸惡了僚寮尿料樂燎療蓼遼龍暈阮劉杻柳流溜琉留硫紐類六戮陸倫崙淪輪律慄栗率
    隆利吏履易李梨泥理痢罹裏裡里離匿溺吝燐璘藺隣鱗麟林淋臨立笠粒狀炙識什茶刺切度拓糖宅洞暴輻
    行降見廓兀嗀"),
  (0xFA10,
    "塚"),
  (0xFA12,
    "晴"),
  (0xFA15,
    "凞猪益礼神祥福靖精羽"),
  (0xFA20,
    "蘒"),
  (0xFA22,
    "諸"),
  (0xFA25,
    "逸都"),
  (0xFA2A,
    "飯飼館鶴郞隷侮僧免勉勤卑喝嘆器塀墨層屮悔慨憎懲敏既暑梅海渚漢煮爫琢碑社祉祈祐祖祝禍禎穀突
    節練縉繁署者臭艹艹著褐視謁謹賓贈辶逸難響頻恵𤋮舘"),
  (0xFA70,
    "並况全侀充冀勇勺喝啕喙嗢塚墳奄奔婢嬨廒廙彩徭惘慎愈憎慠懲戴揄搜摒敖晴朗望杖歹殺流滛滋漢瀞
    煮瞧爵犯猪瑱甆画瘝瘟益盛直睊着磌窱節类絛練缾者荒華蝹襁覆視調諸請謁諾諭謹變贈輸遲醙鉶陼難
    靖韛響頋頻鬒龜𢡊𢡄𣏕㮝䀘䀹𥉉𥳐𧻓齃龎"),
  (0x2F800,
    "丽丸乁𠄢你侮侻倂偺備僧像㒞𠘺免兔兤具𠔜㒹內再𠕋冗冤仌冬况𩇟凵刃㓟刻剆割剷㔕勇勉勤勺包匆北
    卉卑博即卽卿卿卿𠨬灰及叟𠭣叫叱吆咞吸呈周咢哶唐啓啣善善喙喫喳嗂圖嘆圗噑噴切壮城埴堍型堲報
    墬𡓤売壷夆多夢奢𡚨𡛪姬娛娧姘婦㛮㛼嬈嬾嬾𡧈寃寘寧寳𡬘寿将当尢㞁屠屮峀岍𡷤嵃𡷦嵮嵫嵼巡巢㠯
    巽帨帽幩㡢𢆃㡼庰庳庶廊𪎒廾𢌱𢌱舁弢弢㣇𣊸𦇚形彫㣣徚忍志忹悁㤺㤜悔𢛔惇慈慌慎慌慺憎憲憤憯懞
    懲懶成戛扝抱拔捐𢬌挽拼捨掃揤𢯱搢揅掩㨮摩摾撝摷㩬敏敬𣀊旣書晉㬙暑㬈㫤冒冕最暜肭䏙朗望朡杞
    杓𣏃㭉柺枅桒梅𣑭梎栟椔㮝楂榣槪檨𣚣櫛㰘次𣢧歔㱎歲殟殺殻𣪍𡴋𣫺汎𣲼沿泍汧洖派海流浩浸涅𣴞洴
    港湮㴳滋滇𣻑淹潮𣽞𣾎濆瀹瀞瀛㶖灊災灷炭𠔥煅𤉣熜𤎫爨爵牐𤘈犀犕𤜵𤠔獺王㺬玥㺸㺸瑇瑜瑱璅瓊㼛
    甤𤰶甾𤲒異𢆟瘐𤾡𤾸𥁄㿼䀈直𥃳𥃲𥄙𥄳眞真真睊䀹瞋䁆䂖𥐝硎碌磌䃣𥘦祖𥚚𥛅福秫䄯穀穊穏𥥼𥪧𥪧竮
    䈂𥮫篆築䈧𥲀糒䊠糨糣紀𥾆絣䌁緇縂繅䌴𦈨𦉇䍙𦋙罺𦌾羕翺者𦓚𦔣聠𦖨聰𣍟䏕育脃䐋脾媵𦞧𦞵𣎓𣎜舁
    舄辞䑫芑芋芝劳花芳芽苦𦬼若茝荣莭茣莽菧著荓菊菌菜𦰶𦵫𦳕䔫蓱蓳蔖𧏊蕤𦼬䕝䕡𦾱𧃒䕫虐虜虧虩蚩
    蚈蜎蛢蝹蜨蝫螆䗗蟡蠁䗹衠衣𧙧裗裞䘵裺㒻𧢮𧥦䚾䛇誠諭變豕𧲨貫賁贛起𧼯𠠄跋趼跰𠣞軔輸𨗒𨗭邔郱
    鄑𨜮鄛鈸鋗鋘鉼鏹鐕𨯺開䦕閷𨵷䧦雃嶲霣𩅅𩈚䩮䩶韠𩐊䪲𩒖頋頋頩𩖶飢䬳餩馧駂駾䯎𩬰鬒鱀鳽䳎䳭鵧
    𪃎䳸𪄅𪈎𪊑麻䵖黹黾鼅鼏鼖鼻𪘀")]

/-- The characters from a code point on, each with its image. -/
def numbered (first : Nat) (images : List (List Char)) : List (Nat × List Char) :=
  images.zipIdx.map fun (image, k) => (first + k, image)

/-- An image in hexadecimal. -/
def imageOfHex (word : List Char) : List Char :=
  (word.splitOn '+').map fun ds =>
    Char.ofNat (Text.digitsIn 16 (ds.filterMap Text.hexValue?))

/-- The images that are listed one by one, in increasing order of the characters. -/
def nameImages : Array (Nat × List Char) :=
  let plain := nameImageLists.flatMap fun (first, written) =>
    numbered first ((Text.runsBetween Text.isBlank written.toList).map imageOfHex)
  let ideographs := ideographImageLists.flatMap fun (first, written) =>
    numbered first ((written.toList.filter fun c => !Text.isBlank c).map fun c => [c])
  ((plain ++ ideographs).mergeSort fun a b => a.1 ≤ b.1).toArray

/-- Searches an ordered table for a number between two places. -/
def findBetween (table : Array (Nat × List Char)) (n : Nat) : Nat → Nat → Nat → Option (List Char)
  | 0, _, _ => none
  | fuel + 1, low, high =>
    if low < high then
      let middle := (low + high) / 2
      match table[middle]? with
      | none => none
      | some (m, image) =>
        if n = m then some image
        else if n < m then findBetween table n fuel low middle
        else findBetween table n fuel (middle + 1) high
    else none

/-- The image of a character that names write in another way. -/
def nameImage (c : Char) : List Char :=
  if c.toNat < 128 then [Text.asciiLower c]
  else match findBetween nameImages c.toNat (nameImages.size + 1) 0 nameImages.size with
    | some image => image
    | none =>
      let shifted := Text.CaseRuns.apply nameRuns c
      if shifted = c then [Text.CaseRuns.apply Text.foldRuns c] else [shifted]

end PingPost.Net
