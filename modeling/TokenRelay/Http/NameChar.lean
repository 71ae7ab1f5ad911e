import TokenRelay.Unicode.Category

/-!
# The characters of names of hosts

A character of a name may stand for itself, for one or more ASCII characters, or for
nothing at all, or it may not stand in a name.  Letters that stand for letters beyond
ASCII, as capital letters do for small ones, are kept here: they are settled as far as
the rules on names can tell them apart.  The tables are those of version 16.0 of the
Unicode standard.
-/

namespace TokenRelay.NameChar

/-- The characters that do not count in a name. -/
def ignored : CodePoints :=
  .ofText
    "AD 34F 115F-1160 17B4-17B5 180B-180F 200B 2060-2064 206A-206F 3164 FE00-FE0F FEFF
     FFA0 1BCA0-1BCA3 1D173-1D17A E0100-E01EF"

/-- The characters that may not stand in a name, or that stand for one that may not. -/
def excluded : CodePoints :=
  .ofText
    "80-A0 A8 AF B4 B8 2D8-2DD 37A 384-385 600-605 61C 6DD 70F 890-891 8E2 1680 1FBD
     1FBF-1FC1 1FCD-1FCF 1FDD-1FDF 1FED-1FEE 1FFD-1FFE 2000-200A 200E-200F 2017 2024-2026
     2028-202F 203E 2047-2049 205F 2066-2069 2100-2101 2105-2106 2488-249B 2A74 2FF0-3000
     309B-309C 31EF 33C2 33C7 33D8 E000-F8FF FC5E-FC63 FDFA-FDFB FE12-FE13 FE16 FE19 FE30
     FE47-FE4C FE52 FE55-FE56 FE5F FE64-FE65 FE68 FE6A-FE6B FE70 FE72 FE74 FE76 FE78 FE7A
     FE7C FE7E FF03 FF05 FF0F FF1A FF1C FF1E-FF20 FF3B-FF3E FF5C FFE3 FFF9-FFFD 110BD
     110CD 13430-1343F 1F100 E0001 E0020-E007F F0000-FFFFD 100000-10FFFD"

/-- The characters beyond ASCII that stand for others. -/
def replaced : CodePoints :=
  .ofText
    "A0 A8 AA AF B2-B5 B8-BA BC-BE C0-D6 D8-DE 100 102 104 106 108 10A 10C 10E 110 112 114
     116 118 11A 11C 11E 120 122 124 126 128 12A 12C 12E 130 132-134 136 139 13B 13D
     13F-141 143 145 147 149-14A 14C 14E 150 152 154 156 158 15A 15C 15E 160 162 164 166
     168 16A 16C 16E 170 172 174 176 178-179 17B 17D 17F 181-182 184 186-187 189-18B
     18E-191 193-194 196-198 19C-19D 19F-1A0 1A2 1A4 1A6-1A7 1A9 1AC 1AE-1AF 1B1-1B3 1B5
     1B7-1B8 1BC 1C4-1CD 1CF 1D1 1D3 1D5 1D7 1D9 1DB 1DE 1E0 1E2 1E4 1E6 1E8 1EA 1EC 1EE
     1F1-1F4 1F6-1F8 1FA 1FC 1FE 200 202 204 206 208 20A 20C 20E 210 212 214 216 218 21A
     21C 21E 220 222 224 226 228 22A 22C 22E 230 232 23A-23B 23D-23E 241 243-246 248 24A
     24C 24E 2B0-2B8 2D8-2DD 2E0-2E4 340-341 343-345 370 372 374 376 37A 37E-37F 384-38A
     38C 38E-38F 391-3A1 3A3-3AB 3CF-3D6 3D8 3DA 3DC 3DE 3E0 3E2 3E4 3E6 3E8 3EA 3EC 3EE
     3F0-3F2 3F4-3F5 3F7 3F9-3FA 3FD-42F 460 462 464 466 468 46A 46C 46E 470 472 474 476
     478 47A 47C 47E 480 48A 48C 48E 490 492 494 496 498 49A 49C 49E 4A0 4A2 4A4 4A6 4A8
     4AA 4AC 4AE 4B0 4B2 4B4 4B6 4B8 4BA 4BC 4BE 4C0-4C1 4C3 4C5 4C7 4C9 4CB 4CD 4D0 4D2
     4D4 4D6 4D8 4DA 4DC 4DE 4E0 4E2 4E4 4E6 4E8 4EA 4EC 4EE 4F0 4F2 4F4 4F6 4F8 4FA 4FC
     4FE 500 502 504 506 508 50A 50C 50E 510 512 514 516 518 51A 51C 51E 520 522 524 526
     528 52A 52C 52E 531-556 587 675-678 958-95F 9DC-9DD 9DF A33 A36 A59-A5B A5E B5C-B5D
     E33 EB3 EDC-EDD F0C F43 F4D F52 F57 F5C F69 F73 F75-F79 F81 F93 F9D FA2 FA7 FAC FB9
     10A0-10C5 10C7 10CD 10FC 13F8-13FD 1C80-1C89 1C90-1CBA 1CBD-1CBF 1D2C-1D2E 1D30-1D3A
     1D3C-1D4D 1D4F-1D6A 1D78 1D9B-1DBF 1E00 1E02 1E04 1E06 1E08 1E0A 1E0C 1E0E 1E10 1E12
     1E14 1E16 1E18 1E1A 1E1C 1E1E 1E20 1E22 1E24 1E26 1E28 1E2A 1E2C 1E2E 1E30 1E32 1E34
     1E36 1E38 1E3A 1E3C 1E3E 1E40 1E42 1E44 1E46 1E48 1E4A 1E4C 1E4E 1E50 1E52 1E54 1E56
     1E58 1E5A 1E5C 1E5E 1E60 1E62 1E64 1E66 1E68 1E6A 1E6C 1E6E 1E70 1E72 1E74 1E76 1E78
     1E7A 1E7C 1E7E 1E80 1E82 1E84 1E86 1E88 1E8A 1E8C 1E8E 1E90 1E92 1E94 1E9A-1E9B 1E9E
     1EA0 1EA2 1EA4 1EA6 1EA8 1EAA 1EAC 1EAE 1EB0 1EB2 1EB4 1EB6 1EB8 1EBA 1EBC 1EBE 1EC0
     1EC2 1EC4 1EC6 1EC8 1ECA 1ECC 1ECE 1ED0 1ED2 1ED4 1ED6 1ED8 1EDA 1EDC 1EDE 1EE0 1EE2
     1EE4 1EE6 1EE8 1EEA 1EEC 1EEE 1EF0 1EF2 1EF4 1EF6 1EF8 1EFA 1EFC 1EFE 1F08-1F0F
     1F18-1F1D 1F28-1F2F 1F38-1F3F 1F48-1F4D 1F59 1F5B 1F5D 1F5F 1F68-1F6F 1F71 1F73 1F75
     1F77 1F79 1F7B 1F7D 1F80-1FAF 1FB2-1FB4 1FB7-1FC4 1FC7-1FCF 1FD3 1FD8-1FDB 1FDD-1FDF
     1FE3 1FE8-1FEF 1FF2-1FF4 1FF7-1FFE 2000-200A 2011 2017 202F 2033-2034 2036-2037 203C
     203E 2047-2049 2057 205F 2070-2071 2074-208E 2090-209C 20A8 2100-2103 2105-2107
     2109-2113 2115-2116 2119-211D 2120-2122 2124 2126 2128 212A-212D 212F-2139 213B-2140
     2145-2149 2150-217F 2183 2189 222C-222D 222F-2230 2329-232A 2460-2487 249C-24EA 2A0C
     2A74-2A76 2ADC 2C00-2C2F 2C60 2C62-2C64 2C67 2C69 2C6B 2C6D-2C70 2C72 2C75 2C7C-2C80
     2C82 2C84 2C86 2C88 2C8A 2C8C 2C8E 2C90 2C92 2C94 2C96 2C98 2C9A 2C9C 2C9E 2CA0 2CA2
     2CA4 2CA6 2CA8 2CAA 2CAC 2CAE 2CB0 2CB2 2CB4 2CB6 2CB8 2CBA 2CBC 2CBE 2CC0 2CC2 2CC4
     2CC6 2CC8 2CCA 2CCC 2CCE 2CD0 2CD2 2CD4 2CD6 2CD8 2CDA 2CDC 2CDE 2CE0 2CE2 2CEB 2CED
     2CF2 2D6F 2E9F 2EF3 2F00-2FD5 3000 3002 3036 3038-303A 309B-309C 309F 30FF 3131-3163
     3165-318E 3192-319F 3200-321E 3220-3247 3250-327E 3280-33C1 33C3-33C6 33C8-33D7
     33D9-33FF A640 A642 A644 A646 A648 A64A A64C A64E A650 A652 A654 A656 A658 A65A A65C
     A65E A660 A662 A664 A666 A668 A66A A66C A680 A682 A684 A686 A688 A68A A68C A68E A690
     A692 A694 A696 A698 A69A A69C-A69D A722 A724 A726 A728 A72A A72C A72E A732 A734 A736
     A738 A73A A73C A73E A740 A742 A744 A746 A748 A74A A74C A74E A750 A752 A754 A756 A758
     A75A A75C A75E A760 A762 A764 A766 A768 A76A A76C A76E A770 A779 A77B A77D-A77E A780
     A782 A784 A786 A78B A78D A790 A792 A796 A798 A79A A79C A79E A7A0 A7A2 A7A4 A7A6 A7A8
     A7AA-A7AE A7B0-A7B4 A7B6 A7B8 A7BA A7BC A7BE A7C0 A7C2 A7C4-A7C7 A7C9 A7CB-A7CC A7D0
     A7D6 A7D8 A7DA A7DC A7F2-A7F5 A7F8-A7F9 AB5C-AB5F AB69 AB70-ABBF F900-FA0D FA10 FA12
     FA15-FA1E FA20 FA22 FA25-FA26 FA2A-FA6D FA70-FAD9 FB00-FB06 FB13-FB17 FB1D FB1F-FB36
     FB38-FB3C FB3E FB40-FB41 FB43-FB44 FB46-FBB1 FBD3-FD3D FD50-FD8F FD92-FDC7 FDF0-FDFC
     FE10-FE11 FE13-FE18 FE31-FE44 FE47-FE51 FE54-FE66 FE68-FE6B FE70-FE72 FE74 FE76-FEFC
     FF01-FF9F FFA1-FFBE FFC2-FFC7 FFCA-FFCF FFD2-FFD7 FFDA-FFDC FFE0-FFE6 FFE8-FFEE
     10400-10427 104B0-104D3 10570-1057A 1057C-1058A 1058C-10592 10594-10595 10781-10785
     10787-107B0 107B2-107BA 10C80-10CB2 10D50-10D65 118A0-118BF 16E40-16E5F 1CCD6-1CCF9
     1D15E-1D164 1D1BB-1D1C0 1D400-1D454 1D456-1D49C 1D49E-1D49F 1D4A2 1D4A5-1D4A6
     1D4A9-1D4AC 1D4AE-1D4B9 1D4BB 1D4BD-1D4C3 1D4C5-1D505 1D507-1D50A 1D50D-1D514
     1D516-1D51C 1D51E-1D539 1D53B-1D53E 1D540-1D544 1D546 1D54A-1D550 1D552-1D6A5
     1D6A8-1D7CB 1D7CE-1D7FF 1E030-1E06D 1E900-1E921 1EE00-1EE03 1EE05-1EE1F 1EE21-1EE22
     1EE24 1EE27 1EE29-1EE32 1EE34-1EE37 1EE39 1EE3B 1EE42 1EE47 1EE49 1EE4B 1EE4D-1EE4F
     1EE51-1EE52 1EE54 1EE57 1EE59 1EE5B 1EE5D 1EE5F 1EE61-1EE62 1EE64 1EE67-1EE6A
     1EE6C-1EE72 1EE74-1EE77 1EE79-1EE7C 1EE7E 1EE80-1EE89 1EE8B-1EE9B 1EEA1-1EEA3
     1EEA5-1EEA9 1EEAB-1EEBB 1F101-1F10A 1F110-1F12E 1F130-1F14F 1F16A-1F16C 1F190
     1F200-1F202 1F210-1F23B 1F240-1F248 1F250-1F251 1FBF0-1FBF9 2F800-2FA1D"

/-- The ASCII texts that characters stand for; in a range each is the successor of the last. -/
def forms : List (Nat × Nat × String) :=
  [(0xAA, 0xAA, "a"), (0xB2, 0xB3, "2"), (0xB9, 0xB9, "1"), (0xBA, 0xBA, "o"),
    (0x17F, 0x17F, "s"), (0x2B0, 0x2B0, "h"), (0x2B2, 0x2B2, "j"), (0x2B3, 0x2B3, "r"),
    (0x2B7, 0x2B7, "w"), (0x2B8, 0x2B8, "y"), (0x2E1, 0x2E1, "l"), (0x2E2, 0x2E2, "s"),
    (0x2E3, 0x2E3, "x"), (0x37E, 0x37E, ";"), (0x1D2C, 0x1D2C, "a"), (0x1D2E, 0x1D2E, "b"),
    (0x1D30, 0x1D31, "d"), (0x1D33, 0x1D3A, "g"), (0x1D3C, 0x1D3C, "o"),
    (0x1D3E, 0x1D3E, "p"), (0x1D3F, 0x1D3F, "r"), (0x1D40, 0x1D41, "t"),
    (0x1D42, 0x1D42, "w"), (0x1D43, 0x1D43, "a"), (0x1D47, 0x1D47, "b"),
    (0x1D48, 0x1D49, "d"), (0x1D4D, 0x1D4D, "g"), (0x1D4F, 0x1D4F, "k"),
    (0x1D50, 0x1D50, "m"), (0x1D52, 0x1D52, "o"), (0x1D56, 0x1D56, "p"),
    (0x1D57, 0x1D58, "t"), (0x1D5B, 0x1D5B, "v"), (0x1D62, 0x1D62, "i"),
    (0x1D63, 0x1D63, "r"), (0x1D64, 0x1D65, "u"), (0x1D9C, 0x1D9C, "c"),
    (0x1DA0, 0x1DA0, "f"), (0x1DBB, 0x1DBB, "z"), (0x1FEF, 0x1FEF, "\x60"),
    (0x2070, 0x2070, "0"), (0x2071, 0x2071, "i"), (0x2074, 0x2079, "4"),
    (0x207A, 0x207A, "+"), (0x207C, 0x207C, "="), (0x207D, 0x207E, "("),
    (0x207F, 0x207F, "n"), (0x2080, 0x2089, "0"), (0x208A, 0x208A, "+"),
    (0x208C, 0x208C, "="), (0x208D, 0x208E, "("), (0x2090, 0x2090, "a"),
    (0x2091, 0x2091, "e"), (0x2092, 0x2092, "o"), (0x2093, 0x2093, "x"),
    (0x2095, 0x2095, "h"), (0x2096, 0x2099, "k"), (0x209A, 0x209A, "p"),
    (0x209B, 0x209C, "s"), (0x2102, 0x2102, "c"), (0x210A, 0x210B, "g"),
    (0x210C, 0x210C, "h"), (0x210D, 0x210D, "h"), (0x210E, 0x210E, "h"),
    (0x2110, 0x2110, "i"), (0x2111, 0x2111, "i"), (0x2112, 0x2112, "l"),
    (0x2113, 0x2113, "l"), (0x2115, 0x2115, "n"), (0x2119, 0x211B, "p"),
    (0x211C, 0x211C, "r"), (0x211D, 0x211D, "r"), (0x2124, 0x2124, "z"),
    (0x2128, 0x2128, "z"), (0x212A, 0x212A, "k"), (0x212C, 0x212D, "b"),
    (0x212F, 0x212F, "e"), (0x2130, 0x2131, "e"), (0x2133, 0x2133, "m"),
    (0x2134, 0x2134, "o"), (0x2139, 0x2139, "i"), (0x213B, 0x213B, "fax"),
    (0x2145, 0x2145, "d"), (0x2146, 0x2147, "d"), (0x2148, 0x2149, "i"),
    (0x2160, 0x2160, "i"), (0x2164, 0x2164, "v"), (0x2169, 0x2169, "x"),
    (0x216C, 0x216C, "l"), (0x216D, 0x216E, "c"), (0x216F, 0x216F, "m"),
    (0x2170, 0x2170, "i"), (0x2174, 0x2174, "v"), (0x2179, 0x2179, "x"),
    (0x217C, 0x217C, "l"), (0x217D, 0x217E, "c"), (0x217F, 0x217F, "m"),
    (0x2460, 0x2468, "1"), (0x2469, 0x2469, "10"), (0x246A, 0x246A, "11"),
    (0x246B, 0x246B, "12"), (0x246C, 0x246C, "13"), (0x246D, 0x246D, "14"),
    (0x246E, 0x246E, "15"), (0x246F, 0x246F, "16"), (0x2470, 0x2470, "17"),
    (0x2471, 0x2471, "18"), (0x2472, 0x2472, "19"), (0x2473, 0x2473, "20"),
    (0x24B6, 0x24CF, "a"), (0x24D0, 0x24E9, "a"), (0x24EA, 0x24EA, "0"),
    (0x2C7C, 0x2C7C, "j"), (0x2C7D, 0x2C7D, "v"), (0x3002, 0x3002, "."),
    (0x3251, 0x3251, "21"), (0x3252, 0x3252, "22"), (0x3253, 0x3253, "23"),
    (0x3254, 0x3254, "24"), (0x3255, 0x3255, "25"), (0x3256, 0x3256, "26"),
    (0x3257, 0x3257, "27"), (0x3258, 0x3258, "28"), (0x3259, 0x3259, "29"),
    (0x325A, 0x325A, "30"), (0x325B, 0x325B, "31"), (0x325C, 0x325C, "32"),
    (0x325D, 0x325D, "33"), (0x325E, 0x325E, "34"), (0x325F, 0x325F, "35"),
    (0x32B1, 0x32B1, "36"), (0x32B2, 0x32B2, "37"), (0x32B3, 0x32B3, "38"),
    (0x32B4, 0x32B4, "39"), (0x32B5, 0x32B5, "40"), (0x32B6, 0x32B6, "41"),
    (0x32B7, 0x32B7, "42"), (0x32B8, 0x32B8, "43"), (0x32B9, 0x32B9, "44"),
    (0x32BA, 0x32BA, "45"), (0x32BB, 0x32BB, "46"), (0x32BC, 0x32BC, "47"),
    (0x32BD, 0x32BD, "48"), (0x32BE, 0x32BE, "49"), (0x32BF, 0x32BF, "50"),
    (0x3372, 0x3372, "da"), (0x33C4, 0x33C4, "cc"), (0x33C5, 0x33C5, "cd"),
    (0x33C8, 0x33C8, "db"), (0xA7F2, 0xA7F2, "c"), (0xA7F3, 0xA7F3, "f"),
    (0xA7F4, 0xA7F4, "q"), (0xFB00, 0xFB00, "ff"), (0xFB29, 0xFB29, "+"),
    (0xFE10, 0xFE10, ","), (0xFE14, 0xFE14, ";"), (0xFE15, 0xFE15, "!"),
    (0xFE33, 0xFE33, "_"), (0xFE34, 0xFE34, "_"), (0xFE35, 0xFE36, "("),
    (0xFE37, 0xFE37, "\x7b"), (0xFE38, 0xFE38, "\x7d"), (0xFE4D, 0xFE4D, "_"),
    (0xFE4E, 0xFE4E, "_"), (0xFE4F, 0xFE4F, "_"), (0xFE50, 0xFE50, ","),
    (0xFE54, 0xFE54, ";"), (0xFE57, 0xFE57, "!"), (0xFE59, 0xFE5A, "("),
    (0xFE5B, 0xFE5B, "\x7b"), (0xFE5C, 0xFE5C, "\x7d"), (0xFE60, 0xFE60, "&"),
    (0xFE61, 0xFE62, "*"), (0xFE63, 0xFE63, "-"), (0xFE66, 0xFE66, "="),
    (0xFE69, 0xFE69, "$"), (0xFF01, 0xFF02, "!"), (0xFF04, 0xFF04, "$"),
    (0xFF06, 0xFF0E, "&"), (0xFF10, 0xFF19, "0"), (0xFF1B, 0xFF1B, ";"),
    (0xFF1D, 0xFF1D, "="), (0xFF21, 0xFF3A, "a"), (0xFF3F, 0xFF5B, "_"),
    (0xFF5D, 0xFF5E, "\x7d"), (0xFF61, 0xFF61, "."), (0x107A5, 0x107A5, "q"),
    (0x1CCD6, 0x1CCEF, "a"), (0x1CCF0, 0x1CCF9, "0"), (0x1D400, 0x1D419, "a"),
    (0x1D41A, 0x1D433, "a"), (0x1D434, 0x1D44D, "a"), (0x1D44E, 0x1D454, "a"),
    (0x1D456, 0x1D467, "i"), (0x1D468, 0x1D481, "a"), (0x1D482, 0x1D49B, "a"),
    (0x1D49C, 0x1D49C, "a"), (0x1D49E, 0x1D49F, "c"), (0x1D4A2, 0x1D4A2, "g"),
    (0x1D4A5, 0x1D4A6, "j"), (0x1D4A9, 0x1D4AC, "n"), (0x1D4AE, 0x1D4B5, "s"),
    (0x1D4B6, 0x1D4B9, "a"), (0x1D4BB, 0x1D4BB, "f"), (0x1D4BD, 0x1D4C3, "h"),
    (0x1D4C5, 0x1D4CF, "p"), (0x1D4D0, 0x1D4E9, "a"), (0x1D4EA, 0x1D503, "a"),
    (0x1D504, 0x1D505, "a"), (0x1D507, 0x1D50A, "d"), (0x1D50D, 0x1D514, "j"),
    (0x1D516, 0x1D51C, "s"), (0x1D51E, 0x1D537, "a"), (0x1D538, 0x1D539, "a"),
    (0x1D53B, 0x1D53E, "d"), (0x1D540, 0x1D544, "i"), (0x1D546, 0x1D546, "o"),
    (0x1D54A, 0x1D550, "s"), (0x1D552, 0x1D56B, "a"), (0x1D56C, 0x1D585, "a"),
    (0x1D586, 0x1D59F, "a"), (0x1D5A0, 0x1D5B9, "a"), (0x1D5BA, 0x1D5D3, "a"),
    (0x1D5D4, 0x1D5ED, "a"), (0x1D5EE, 0x1D607, "a"), (0x1D608, 0x1D621, "a"),
    (0x1D622, 0x1D63B, "a"), (0x1D63C, 0x1D655, "a"), (0x1D656, 0x1D66F, "a"),
    (0x1D670, 0x1D689, "a"), (0x1D68A, 0x1D6A3, "a"), (0x1D7CE, 0x1D7D7, "0"),
    (0x1D7D8, 0x1D7E1, "0"), (0x1D7E2, 0x1D7EB, "0"), (0x1D7EC, 0x1D7F5, "0"),
    (0x1D7F6, 0x1D7FF, "0"), (0x1F12B, 0x1F12B, "c"), (0x1F12C, 0x1F12C, "r"),
    (0x1F12D, 0x1F12D, "cd"), (0x1F130, 0x1F149, "a"), (0x1FBF0, 0x1FBF9, "0")]

/-- The text that a form gives to a member of its range. -/
def textOf (code first : Nat) (text : String) : List Char :=
  match text.toList with
  | [char] => [Char.ofNat (char.toNat + (code - first))]
  | chars => chars

/-- What a character stands for in a name; none if it may not stand there. -/
def meaning? (char : Char) : Option (List Char) :=
  let code := char.toNat
  if code < 128 then some [char.toLower]
  else if ignored.contains code then some []
  else if excluded.contains code ∨ Unicode.Category.unassigned.contains code then none
  else
    match forms.find? fun form => form.1 ≤ code && code ≤ form.2.1 with
    | some (first, _, text) => some (textOf code first text)
    | none => some [char]

/-- Whether a character stands for itself in a name. -/
def isSettled (char : Char) : Bool :=
  char.toNat < 128 ||
    (meaning? char = some [char] && !replaced.contains char.toNat)

end TokenRelay.NameChar
