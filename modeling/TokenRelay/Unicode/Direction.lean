import TokenRelay.Unicode.Category

/-!
# Directions of writing

What a character says about the direction of a text, for the characters that may stand in
names of hosts.  Characters of a compatibility form have the direction of what they stand
for.  The tables are those of version 16.0 of the Unicode standard.
-/

namespace TokenRelay.Unicode

/-- What a character says about the direction of a text. -/
inductive Direction where
  | leftToRight
  | rightToLeft
  | europeanNumber
  | arabicNumber
  /-- A mark, which goes with the character before it. -/
  | nonspacing
  | neutral
  deriving DecidableEq, Repr

namespace Direction

/-- The characters that are written from right to left. -/
def leftwards : CodePoints :=
  .ofText
    "5BE 5C0 5C3 5C6 5D0-5F4 608 60B 60D 61B-64A 66D-66F 671-6D5 6E5-6E6 6EE-6EF 6FA-710
     712-72F 74D-7A5 7B1-7EA 7F4-7F5 7FA 7FE-815 81A 824 828 830-858 85E-88E 8A0-8C9
     2135-2138 FB1D FB1F-FD3D FD50-FDC7 FDF0-FDFC FE71-FEFC 10800-1091B 10920-10A00
     10A10-10A35 10A40-10AE4 10AEB-10B35 10B40-10D23 10D40-10D65 10D6E-10D8F 10E80-10EA9
     10EAD-10EC4 10F00-10F45 10F51-10F81 10F86-10FF6 1E800-1E8CF 1E900-1E943 1E94B-1EEBB"

/-- The digits that are written from left to right. -/
def europeanDigits : CodePoints :=
  .ofText
    "30-39 BC-BE 6F0-6F9 2150-215F 2189 32C0-32CB 3358-3370 33E0-33FE 102E1-102FB
     1F101-1F10A"

/-- The digits of Arabic numbers and what separates them. -/
def arabicDigits : CodePoints :=
  .ofText "660-669 66B-66C 10D30-10D39 10E60-10E7E"

/-- The marks that take their direction from the character before. -/
def marks : CodePoints :=
  ((Category.membersOf [.nonspacingMark, .enclosingMark]).union
    (.ofText "FF9E-FF9F 1171E")).without (.ofText "345 CBF CC6 11A07-11A08 11C3F")

/-- Signs, symbols and what separates numbers. -/
def neutrals : CodePoints :=
  .ofText
    "21-2E 3B-60 7B-B1 B6-BB BF D7 F7 2B9-2BA 2C2-2CF 2D2-2DF 2E5-2ED 2EF-2FF 374-375 387
     3F6 58A-58F 606-607 609-60A 60C 60E-60F 66A 6DE 6E9 7F6-7F9 9F2-9F3 9FB AF1 BF3-BFA
     C78-C7E E3F F3A-F3D 1390-1399 1400 169B-169C 17DB 17F0-180A 1940-1945 19DE-19FF
     200C-208B 20A0-20A7 20A9-20C0 2103-2104 2108-2109 2114 2117-211F 2123-2125 2127-2129
     212E 213A 2140-214D 218A-2335 237B-2394 2396-26AB 26AD-27FF 2900-2BFF 2CE5-2CEA
     2CF9-2CFF 2E00-2E9E 2EA0-2EF2 3001-3004 3008-3020 3030 3036-3037 303D-303F 30A0 30FB
     31C0-31E5 3200-3243 4DC0-4DFF A490-A4C6 A60D-A60F A673 A67E-A67F A700-A721 A788
     A828-A82B A838-A839 A874-A877 AB6A-AB6B FD3E-FD4F FDCF FDFD-FE18 FE31-FE5E FF5F-FF65
     FFE0-FFEE 10101 10140-1018C 10190-101A0 1091F 10B39-10B3F 11052-11065 11660-1166C
     11FD5-11FF1 16FE2 1CC00-1CEB3 1D1E9-1D241 1D245 1D300-1D356 1D6C1 1D6DB 1D6FB 1D715
     1D735 1D74F 1D76F 1D789 1D7A9 1D7C3 1E2FF 1EEF0-1F0F5 1F10B-1F12A 1F12F 1F16D-1F16F
     1F1AD 1F240-1F248 1F260-1FBEF"

/-- The direction of a character; most are written from left to right. -/
def ofChar (char : Char) : Direction :=
  let code := char.toNat
  if leftwards.contains code then .rightToLeft
  else if europeanDigits.contains code then .europeanNumber
  else if arabicDigits.contains code then .arabicNumber
  else if marks.contains code then .nonspacing
  else if neutrals.contains code then .neutral
  else .leftToRight

end Direction

end TokenRelay.Unicode
