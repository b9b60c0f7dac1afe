import ProxyAutoConfig.Unicode.Table

/-!
# Direction and joining

How a character runs: from left to right, from right to left, or with its neighbours. A label
that holds a character running from right to left keeps to rules of its own; they need only the
six groups told apart here. Also the characters that join with their neighbours in script, and
the marks.
-/

namespace ProxyAutoConfig.Unicode

/-- How a character runs. -/
inductive Direction where
  /-- From left to right. -/
  | left
  /-- From right to left. -/
  | right
  /-- A digit of a right-to-left script. -/
  | rightDigit
  /-- A digit of other scripts. -/
  | digit
  /-- Takes on the direction around it. -/
  | neutral
  /-- A mark without a width of its own. -/
  | mark
  /-- Separators, which no label holds. -/
  | other
  deriving DecidableEq, Repr

/-- How a character of ASCII runs. -/
def asciiDirection (c : Char) : Direction :=
  if c.isAlpha then .left
  else if c.isDigit then .digit
  else if ('\t' ≤ c ∧ c ≤ '\r') ∨ ('\x1c' ≤ c ∧ c ≤ ' ') then .other
  else .neutral

/-- Ranges of characters beyond ASCII that do not run from left to right, with the number of their
group. -/
def directionRanges : String :=
"80,84,4 85,85,6 86,A9,4 AB,B1,4
B2,B3,3 B4,B4,4 B6,B8,4 B9,B9,3 BB,BF,4 D7,D7,4 F7,F7,4 2B9,2BA,4 2C2,2CF,4 2D2,2DF,4 2E5,2ED,4
2EF,2FF,4 300,36F,5 374,375,4 37E,37E,4 384,385,4 387,387,4 3F6,3F6,4 483,489,5 58A,58A,4
58D,58F,4 591,5BD,5 5BE,5BE,1 5BF,5BF,5 5C0,5C0,1 5C1,5C2,5 5C3,5C3,1 5C4,5C5,5 5C6,5C6,1
5C7,5C7,5 5D0,5EA,1 5EF,5F4,1 600,605,2 606,607,4 608,608,1 609,60A,4 60B,60B,1 60C,60C,4
60D,60D,1 60E,60F,4 610,61A,5 61B,64A,1 64B,65F,5 660,669,2 66A,66A,4 66B,66C,2 66D,66F,1
670,670,5 671,6D5,1 6D6,6DC,5 6DD,6DD,2 6DE,6DE,4 6DF,6E4,5 6E5,6E6,1 6E7,6E8,5 6E9,6E9,4
6EA,6ED,5 6EE,6EF,1 6F0,6F9,3 6FA,70D,1 70F,710,1 711,711,5 712,72F,1 730,74A,5 74D,7A5,1
7A6,7B0,5 7B1,7B1,1 7C0,7EA,1 7EB,7F3,5 7F4,7F5,1 7F6,7F9,4 7FA,7FA,1 7FD,7FD,5 7FE,815,1
816,819,5 81A,81A,1 81B,823,5 824,824,1 825,827,5 828,828,1 829,82D,5 830,83E,1 840,858,1
859,85B,5 85E,85E,1 860,86A,1 870,88E,1 890,891,2 898,89F,5 8A0,8C9,1 8CA,8E1,5 8E2,8E2,2
8E3,902,5 93A,93A,5 93C,93C,5 941,948,5 94D,94D,5 951,957,5 962,963,5 981,981,5 9BC,9BC,5
9C1,9C4,5 9CD,9CD,5 9E2,9E3,5 9F2,9F3,4 9FB,9FB,4 9FE,9FE,5 A01,A02,5 A3C,A3C,5 A41,A42,5
A47,A48,5 A4B,A4D,5 A51,A51,5 A70,A71,5 A75,A75,5 A81,A82,5 ABC,ABC,5 AC1,AC5,5 AC7,AC8,5
ACD,ACD,5 AE2,AE3,5 AF1,AF1,4 AFA,AFF,5 B01,B01,5 B3C,B3C,5 B3F,B3F,5 B41,B44,5 B4D,B4D,5
B55,B56,5 B62,B63,5 B82,B82,5 BC0,BC0,5 BCD,BCD,5 BF3,BFA,4 C00,C00,5 C04,C04,5 C3C,C3C,5
C3E,C40,5 C46,C48,5 C4A,C4D,5 C55,C56,5 C62,C63,5 C78,C7E,4 C81,C81,5 CBC,CBC,5 CCC,CCD,5
CE2,CE3,5 D00,D01,5 D3B,D3C,5 D41,D44,5 D4D,D4D,5 D62,D63,5 D81,D81,5 DCA,DCA,5 DD2,DD4,5
DD6,DD6,5 E31,E31,5 E34,E3A,5 E3F,E3F,4 E47,E4E,5 EB1,EB1,5 EB4,EBC,5 EC8,ECD,5 F18,F19,5
F35,F35,5 F37,F37,5 F39,F39,5 F3A,F3D,4 F71,F7E,5 F80,F84,5 F86,F87,5 F8D,F97,5 F99,FBC,5
FC6,FC6,5 102D,1030,5 1032,1037,5 1039,103A,5 103D,103E,5 1058,1059,5 105E,1060,5 1071,1074,5
1082,1082,5 1085,1086,5 108D,108D,5 109D,109D,5 135D,135F,5 1390,1399,4 1400,1400,4 1680,1680,6
169B,169C,4 1712,1714,5 1732,1733,5 1752,1753,5 1772,1773,5 17B4,17B5,5 17B7,17BD,5 17C6,17C6,5
17C9,17D3,5 17DB,17DB,4 17DD,17DD,5 17F0,17F9,4 1800,180A,4 180B,180D,5 180E,180E,4 180F,180F,5
1885,1886,5 18A9,18A9,5 1920,1922,5 1927,1928,5 1932,1932,5 1939,193B,5 1940,1940,4 1944,1945,4
19DE,19FF,4 1A17,1A18,5 1A1B,1A1B,5 1A56,1A56,5 1A58,1A5E,5 1A60,1A60,5 1A62,1A62,5 1A65,1A6C,5
1A73,1A7C,5 1A7F,1A7F,5 1AB0,1ACE,5 1B00,1B03,5 1B34,1B34,5 1B36,1B3A,5 1B3C,1B3C,5 1B42,1B42,5
1B6B,1B73,5 1B80,1B81,5 1BA2,1BA5,5 1BA8,1BA9,5 1BAB,1BAD,5 1BE6,1BE6,5 1BE8,1BE9,5 1BED,1BED,5
1BEF,1BF1,5 1C2C,1C33,5 1C36,1C37,5 1CD0,1CD2,5 1CD4,1CE0,5 1CE2,1CE8,5 1CED,1CED,5 1CF4,1CF4,5
1CF8,1CF9,5 1DC0,1DFF,5 1FBD,1FBD,4 1FBF,1FC1,4 1FCD,1FCF,4 1FDD,1FDF,4 1FED,1FEF,4 1FFD,1FFE,4
2000,200A,6 200B,200D,4 200F,200F,1 2010,2027,4 2028,202E,6 202F,205E,4 205F,205F,6 2060,2064,4
2066,2069,6 206A,206F,4 2070,2070,3 2074,2079,3 207A,207E,4 2080,2089,3 208A,208E,4 20A0,20C0,4
20D0,20F0,5 2100,2101,4 2103,2106,4 2108,2109,4 2114,2114,4 2116,2118,4 211E,2123,4 2125,2125,4
2127,2127,4 2129,2129,4 212E,212E,4 213A,213B,4 2140,2144,4 214A,214D,4 2150,215F,4 2189,218B,4
2190,2335,4 237B,2394,4 2396,2426,4 2440,244A,4 2460,2487,4 2488,249B,3 24EA,26AB,4 26AD,27FF,4
2900,2B73,4 2B76,2B95,4 2B97,2BFF,4 2CE5,2CEA,4 2CEF,2CF1,5 2CF9,2CFF,4 2D7F,2D7F,5 2DE0,2DFF,5
2E00,2E5D,4 2E80,2E99,4 2E9B,2EF3,4 2F00,2FD5,4 2FF0,2FFB,4 3000,3000,6 3001,3004,4 3008,3020,4
302A,302D,5 3030,3030,4 3036,3037,4 303D,303F,4 3099,309A,5 309B,309C,4 30A0,30A0,4 30FB,30FB,4
31C0,31E3,4 321D,321E,4 3250,325F,4 327C,327E,4 32B1,32BF,4 32CC,32CF,4 3377,337A,4 33DE,33DF,4
33FF,33FF,4 4DC0,4DFF,4 A490,A4C6,4 A60D,A60F,4 A66F,A672,5 A673,A673,4 A674,A67D,5 A67E,A67F,4
A69E,A69F,5 A6F0,A6F1,5 A700,A721,4 A788,A788,4 A802,A802,5 A806,A806,5 A80B,A80B,5 A825,A826,5
A828,A82B,4 A82C,A82C,5 A838,A839,4 A874,A877,4 A8C4,A8C5,5 A8E0,A8F1,5 A8FF,A8FF,5 A926,A92D,5
A947,A951,5 A980,A982,5 A9B3,A9B3,5 A9B6,A9B9,5 A9BC,A9BD,5 A9E5,A9E5,5 AA29,AA2E,5 AA31,AA32,5
AA35,AA36,5 AA43,AA43,5 AA4C,AA4C,5 AA7C,AA7C,5 AAB0,AAB0,5 AAB2,AAB4,5 AAB7,AAB8,5 AABE,AABF,5
AAC1,AAC1,5 AAEC,AAED,5 AAF6,AAF6,5 AB6A,AB6B,4 ABE5,ABE5,5 ABE8,ABE8,5 ABED,ABED,5 FB1D,FB1D,1
FB1E,FB1E,5 FB1F,FB28,1 FB29,FB29,4 FB2A,FB36,1 FB38,FB3C,1 FB3E,FB3E,1 FB40,FB41,1 FB43,FB44,1
FB46,FBC2,1 FBD3,FD3D,1 FD3E,FD4F,4 FD50,FD8F,1 FD92,FDC7,1 FDCF,FDCF,4 FDF0,FDFC,1 FDFD,FDFF,4
FE00,FE0F,5 FE10,FE19,4 FE20,FE2F,5 FE30,FE52,4 FE54,FE66,4 FE68,FE6B,4 FE70,FE74,1 FE76,FEFC,1
FEFF,FEFF,4 FF01,FF0F,4 FF10,FF19,3 FF1A,FF20,4 FF3B,FF40,4 FF5B,FF65,4 FFE0,FFE6,4 FFE8,FFEE,4
FFF9,FFFD,4 10101,10101,4 10140,1018C,4 10190,1019C,4 101A0,101A0,4 101FD,101FD,5 102E0,102E0,5
102E1,102FB,3 10376,1037A,5 10800,10805,1 10808,10808,1 1080A,10835,1 10837,10838,1
1083C,1083C,1 1083F,10855,1 10857,1089E,1 108A7,108AF,1 108E0,108F2,1 108F4,108F5,1
108FB,1091B,1 1091F,1091F,4 10920,10939,1 1093F,1093F,1 10980,109B7,1 109BC,109CF,1
109D2,10A00,1 10A01,10A03,5 10A05,10A06,5 10A0C,10A0F,5 10A10,10A13,1 10A15,10A17,1
10A19,10A35,1 10A38,10A3A,5 10A3F,10A3F,5 10A40,10A48,1 10A50,10A58,1 10A60,10A9F,1
10AC0,10AE4,1 10AE5,10AE6,5 10AEB,10AF6,1 10B00,10B35,1 10B39,10B3F,4 10B40,10B55,1
10B58,10B72,1 10B78,10B91,1 10B99,10B9C,1 10BA9,10BAF,1 10C00,10C48,1 10C80,10CB2,1
10CC0,10CF2,1 10CFA,10D23,1 10D24,10D27,5 10D30,10D39,2 10E60,10E7E,2 10E80,10EA9,1
10EAB,10EAC,5 10EAD,10EAD,1 10EB0,10EB1,1 10F00,10F27,1 10F30,10F45,1 10F46,10F50,5
10F51,10F59,1 10F70,10F81,1 10F82,10F85,5 10F86,10F89,1 10FB0,10FCB,1 10FE0,10FF6,1
11001,11001,5 11038,11046,5 11052,11065,4 11070,11070,5 11073,11074,5 1107F,11081,5
110B3,110B6,5 110B9,110BA,5 110C2,110C2,5 11100,11102,5 11127,1112B,5 1112D,11134,5
11173,11173,5 11180,11181,5 111B6,111BE,5 111C9,111CC,5 111CF,111CF,5 1122F,11231,5
11234,11234,5 11236,11237,5 1123E,1123E,5 112DF,112DF,5 112E3,112EA,5 11300,11301,5
1133B,1133C,5 11340,11340,5 11366,1136C,5 11370,11374,5 11438,1143F,5 11442,11444,5
11446,11446,5 1145E,1145E,5 114B3,114B8,5 114BA,114BA,5 114BF,114C0,5 114C2,114C3,5
115B2,115B5,5 115BC,115BD,5 115BF,115C0,5 115DC,115DD,5 11633,1163A,5 1163D,1163D,5
1163F,11640,5 11660,1166C,4 116AB,116AB,5 116AD,116AD,5 116B0,116B5,5 116B7,116B7,5
1171D,1171F,5 11722,11725,5 11727,1172B,5 1182F,11837,5 11839,1183A,5 1193B,1193C,5
1193E,1193E,5 11943,11943,5 119D4,119D7,5 119DA,119DB,5 119E0,119E0,5 11A01,11A06,5
11A09,11A0A,5 11A33,11A38,5 11A3B,11A3E,5 11A47,11A47,5 11A51,11A56,5 11A59,11A5B,5
11A8A,11A96,5 11A98,11A99,5 11C30,11C36,5 11C38,11C3D,5 11C92,11CA7,5 11CAA,11CB0,5
11CB2,11CB3,5 11CB5,11CB6,5 11D31,11D36,5 11D3A,11D3A,5 11D3C,11D3D,5 11D3F,11D45,5
11D47,11D47,5 11D90,11D91,5 11D95,11D95,5 11D97,11D97,5 11EF3,11EF4,5 11FD5,11FF1,4
16AF0,16AF4,5 16B30,16B36,5 16F4F,16F4F,5 16F8F,16F92,5 16FE2,16FE2,4 16FE4,16FE4,5
1BC9D,1BC9E,5 1BCA0,1BCA3,4 1CF00,1CF2D,5 1CF30,1CF46,5 1D167,1D169,5 1D173,1D17A,4
1D17B,1D182,5 1D185,1D18B,5 1D1AA,1D1AD,5 1D1E9,1D1EA,4 1D200,1D241,4 1D242,1D244,5
1D245,1D245,4 1D300,1D356,4 1D6DB,1D6DB,4 1D715,1D715,4 1D74F,1D74F,4 1D789,1D789,4
1D7C3,1D7C3,4 1D7CE,1D7FF,3 1DA00,1DA36,5 1DA3B,1DA6C,5 1DA75,1DA75,5 1DA84,1DA84,5
1DA9B,1DA9F,5 1DAA1,1DAAF,5 1E000,1E006,5 1E008,1E018,5 1E01B,1E021,5 1E023,1E024,5
1E026,1E02A,5 1E130,1E136,5 1E2AE,1E2AE,5 1E2EC,1E2EF,5 1E2FF,1E2FF,4 1E800,1E8C4,1
1E8C7,1E8CF,1 1E8D0,1E8D6,5 1E900,1E943,1 1E944,1E94A,5 1E94B,1E94B,1 1E950,1E959,1
1E95E,1E95F,1 1EC71,1ECB4,1 1ED01,1ED3D,1 1EE00,1EE03,1 1EE05,1EE1F,1 1EE21,1EE22,1
1EE24,1EE24,1 1EE27,1EE27,1 1EE29,1EE32,1 1EE34,1EE37,1 1EE39,1EE39,1 1EE3B,1EE3B,1
1EE42,1EE42,1 1EE47,1EE47,1 1EE49,1EE49,1 1EE4B,1EE4B,1 1EE4D,1EE4F,1 1EE51,1EE52,1
1EE54,1EE54,1 1EE57,1EE57,1 1EE59,1EE59,1 1EE5B,1EE5B,1 1EE5D,1EE5D,1 1EE5F,1EE5F,1
1EE61,1EE62,1 1EE64,1EE64,1 1EE67,1EE6A,1 1EE6C,1EE72,1 1EE74,1EE77,1 1EE79,1EE7C,1
1EE7E,1EE7E,1 1EE80,1EE89,1 1EE8B,1EE9B,1 1EEA1,1EEA3,1 1EEA5,1EEA9,1 1EEAB,1EEBB,1
1EEF0,1EEF1,4 1F000,1F02B,4 1F030,1F093,4 1F0A0,1F0AE,4 1F0B1,1F0BF,4 1F0C1,1F0CF,4
1F0D1,1F0F5,4 1F100,1F10A,3 1F10B,1F10F,4 1F12F,1F12F,4 1F16A,1F16F,4 1F1AD,1F1AD,4
1F260,1F265,4 1F300,1F6D7,4 1F6DD,1F6EC,4 1F6F0,1F6FC,4 1F700,1F773,4 1F780,1F7D8,4
1F7E0,1F7EB,4 1F7F0,1F7F0,4 1F800,1F80B,4 1F810,1F847,4 1F850,1F859,4 1F860,1F887,4
1F890,1F8AD,4 1F8B0,1F8B1,4 1F900,1FA53,4 1FA60,1FA6D,4 1FA70,1FA74,4 1FA78,1FA7C,4
1FA80,1FA86,4 1FA90,1FAAC,4 1FAB0,1FABA,4 1FAC0,1FAC5,4 1FAD0,1FAD9,4 1FAE0,1FAE7,4
1FAF0,1FAF6,4 1FB00,1FB92,4 1FB94,1FBCA,4 1FBF0,1FBF9,3 E0001,E0001,4 E0020,E007F,4
E0100,E01EF,5"

/-- Ranges of the general category Mark. -/
def markRanges : String :=
"300,36F 483,489 591,5BD 5BF 5C1,5C2 5C4,5C5 5C7 610,61A 64B,65F 670 6D6,6DC 6DF,6E4 6E7,6E8
6EA,6ED 711 730,74A 7A6,7B0 7EB,7F3 7FD 816,819 81B,823 825,827 829,82D 859,85B 898,89F 8CA,8E1
8E3,903 93A,93C 93E,94F 951,957 962,963 981,983 9BC 9BE,9C4 9C7,9C8 9CB,9CD 9D7 9E2,9E3 9FE
A01,A03 A3C A3E,A42 A47,A48 A4B,A4D A51 A70,A71 A75 A81,A83 ABC ABE,AC5 AC7,AC9 ACB,ACD AE2,AE3
AFA,AFF B01,B03 B3C B3E,B44 B47,B48 B4B,B4D B55,B57 B62,B63 B82 BBE,BC2 BC6,BC8 BCA,BCD BD7
C00,C04 C3C C3E,C44 C46,C48 C4A,C4D C55,C56 C62,C63 C81,C83 CBC CBE,CC4 CC6,CC8 CCA,CCD CD5,CD6
CE2,CE3 D00,D03 D3B,D3C D3E,D44 D46,D48 D4A,D4D D57 D62,D63 D81,D83 DCA DCF,DD4 DD6 DD8,DDF
DF2,DF3 E31 E34,E3A E47,E4E EB1 EB4,EBC EC8,ECD F18,F19 F35 F37 F39 F3E,F3F F71,F84 F86,F87
F8D,F97 F99,FBC FC6 102B,103E 1056,1059 105E,1060 1062,1064 1067,106D 1071,1074 1082,108D 108F
109A,109D 135D,135F 1712,1715 1732,1734 1752,1753 1772,1773 17B4,17D3 17DD 180B,180D 180F
1885,1886 18A9 1920,192B 1930,193B 1A17,1A1B 1A55,1A5E 1A60,1A7C 1A7F 1AB0,1ACE 1B00,1B04
1B34,1B44 1B6B,1B73 1B80,1B82 1BA1,1BAD 1BE6,1BF3 1C24,1C37 1CD0,1CD2 1CD4,1CE8 1CED 1CF4
1CF7,1CF9 1DC0,1DFF 20D0,20F0 2CEF,2CF1 2D7F 2DE0,2DFF 302A,302F 3099,309A A66F,A672 A674,A67D
A69E,A69F A6F0,A6F1 A802 A806 A80B A823,A827 A82C A880,A881 A8B4,A8C5 A8E0,A8F1 A8FF A926,A92D
A947,A953 A980,A983 A9B3,A9C0 A9E5 AA29,AA36 AA43 AA4C,AA4D AA7B,AA7D AAB0 AAB2,AAB4 AAB7,AAB8
AABE,AABF AAC1 AAEB,AAEF AAF5,AAF6 ABE3,ABEA ABEC,ABED FB1E FE00,FE0F FE20,FE2F 101FD 102E0
10376,1037A 10A01,10A03 10A05,10A06 10A0C,10A0F 10A38,10A3A 10A3F 10AE5,10AE6 10D24,10D27
10EAB,10EAC 10F46,10F50 10F82,10F85 11000,11002 11038,11046 11070 11073,11074 1107F,11082
110B0,110BA 110C2 11100,11102 11127,11134 11145,11146 11173 11180,11182 111B3,111C0 111C9,111CC
111CE,111CF 1122C,11237 1123E 112DF,112EA 11300,11303 1133B,1133C 1133E,11344 11347,11348
1134B,1134D 11357 11362,11363 11366,1136C 11370,11374 11435,11446 1145E 114B0,114C3 115AF,115B5
115B8,115C0 115DC,115DD 11630,11640 116AB,116B7 1171D,1172B 1182C,1183A 11930,11935 11937,11938
1193B,1193E 11940 11942,11943 119D1,119D7 119DA,119E0 119E4 11A01,11A0A 11A33,11A39 11A3B,11A3E
11A47 11A51,11A5B 11A8A,11A99 11C2F,11C36 11C38,11C3F 11C92,11CA7 11CA9,11CB6 11D31,11D36 11D3A
11D3C,11D3D 11D3F,11D45 11D47 11D8A,11D8E 11D90,11D91 11D93,11D97 11EF3,11EF6 16AF0,16AF4
16B30,16B36 16F4F 16F51,16F87 16F8F,16F92 16FE4 16FF0,16FF1 1BC9D,1BC9E 1CF00,1CF2D 1CF30,1CF46
1D165,1D169 1D16D,1D172 1D17B,1D182 1D185,1D18B 1D1AA,1D1AD 1D242,1D244 1DA00,1DA36 1DA3B,1DA6C
1DA75 1DA84 1DA9B,1DA9F 1DAA1,1DAAF 1E000,1E006 1E008,1E018 1E01B,1E021 1E023,1E024 1E026,1E02A
1E130,1E136 1E2AE 1E2EC,1E2EF 1E8D0,1E8D6 1E944,1E94A E0100,E01EF"

/-- Signs that silence the vowel of the letter before. -/
def viramaRanges : String :=
"94D 9CD A4D ACD B4D BCD C4D CCD D3B,D3C D4D DCA E3A EBA F84 1039,103A 1714,1715 1734 17D2 1A60
1B44 1BAA,1BAB 1BF2,1BF3 2D7F A806 A82C A8C4 A953 A9C0 AAF6 ABED 10A3F 11046 11070 1107F 110B9
11133,11134 111C0 11235 112EA 1134D 11442 114C2 115BF 1163F 116B6 1172B 11839 1193D,1193E 119E0
11A34 11A47 11A99 11C3F 11D44,11D45 11D97"

/-- Letters that join with the letter after them. -/
def joinsAfterRanges : String :=
"620 626 628 62A,62E 633,63F 641,647 649,64A 66E,66F 678,687 69A,6BF 6C1,6C2 6CC 6CE 6D0,6D1
6FA,6FC 6FF 712,714 71A,71D 71F,727 729 72B 72D,72E 74E,758 75C,76A 76D,770 772 775,777 77A,77F
7CA,7EA 841,845 848 84A,853 855 860 862,865 868 886 889,88D 88F 8A0,8A9 8AF,8B0 8B3,8B8 8BA,8C8
1807 1820,1878 1887,18A8 18AA A840,A872 10AC0,10AC4 10ACD 10AD3,10ADC 10ADE,10AE0 10AEB,10AEE
10B80 10B82 10B86,10B88 10B8A,10B8B 10B8D 10B90 10BAD,10BAE 10D00,10D21 10D23 10EC3,10EC4
10EC6,10EC7 10F30,10F32 10F34,10F44 10F51,10F53 10F70,10F73 10F76,10F81 10FB0 10FB2,10FB3 10FB8
10FBB,10FBC 10FBE,10FBF 10FC1 10FC4 10FCA,10FCB 1E900,1E943"

/-- Letters that join with the letter before them. -/
def joinsBeforeRanges : String :=
"620 622,63F 641,64A 66E,66F 671,673 675,6D3 6D5 6EE,6EF 6FA,6FC 6FF 710 712,72F 74D,77F 7CA,7EA
840,858 860 862,865 867,86A 870,882 886 889,88F 8A0,8AC 8AE,8C8 1807 1820,1878 1887,18A8 18AA
A840,A871 10AC0,10AC5 10AC7 10AC9,10ACA 10ACE,10AD6 10AD8,10AE1 10AE4 10AEB,10AEF 10B80,10B91
10BA9,10BAE 10D01,10D23 10EC2,10EC4 10EC6,10EC7 10F30,10F44 10F51,10F54 10F70,10F81 10FB0
10FB2,10FB6 10FB8,10FBF 10FC1,10FC4 10FC9,10FCA 1E900,1E943"

/-- Characters that letters join across. -/
def joinsThroughRanges : String :=
"AD 300,36F 483,489 591,5BD 5BF 5C1,5C2 5C4,5C5 5C7 610,61A 61C 64B,65F 670 6D6,6DC 6DF,6E4
6E7,6E8 6EA,6ED 70F 711 730,74A 7A6,7B0 7EB,7F3 7FD 816,819 81B,823 825,827 829,82D 859,85B
897,89F 8CA,8E1 8E3,902 93A 93C 941,948 94D 951,957 962,963 981 9BC 9C1,9C4 9CD 9E2,9E3 9FE
A01,A02 A3C A41,A42 A47,A48 A4B,A4D A51 A70,A71 A75 A81,A82 ABC AC1,AC5 AC7,AC8 ACD AE2,AE3
AFA,AFF B01 B3C B3F B41,B44 B4D B55,B56 B62,B63 B82 BC0 BCD C00 C04 C3C C3E,C40 C46,C48 C4A,C4D
C55,C56 C62,C63 C81 CBC CBF CC6 CCC,CCD CE2,CE3 D00,D01 D3B,D3C D41,D44 D4D D62,D63 D81 DCA
DD2,DD4 DD6 E31 E34,E3A E47,E4E EB1 EB4,EBC EC8,ECE F18,F19 F35 F37 F39 F71,F7E F80,F84 F86,F87
F8D,F97 F99,FBC FC6 102D,1030 1032,1037 1039,103A 103D,103E 1058,1059 105E,1060 1071,1074 1082
1085,1086 108D 109D 135D,135F 1712,1714 1732,1733 1752,1753 1772,1773 17B4,17B5 17B7,17BD 17C6
17C9,17D3 17DD 180B,180D 180F 1885,1886 18A9 1920,1922 1927,1928 1932 1939,193B 1A17,1A18 1A1B
1A56 1A58,1A5E 1A60 1A62 1A65,1A6C 1A73,1A7C 1A7F 1AB0,1ADD 1AE0,1AEB 1B00,1B03 1B34 1B36,1B3A
1B3C 1B42 1B6B,1B73 1B80,1B81 1BA2,1BA5 1BA8,1BA9 1BAB,1BAD 1BE6 1BE8,1BE9 1BED 1BEF,1BF1
1C2C,1C33 1C36,1C37 1CD0,1CD2 1CD4,1CE0 1CE2,1CE8 1CED 1CF4 1CF8,1CF9 1DC0,1DFF 200B 200E,200F
202A,202E 2060,2064 206A,206F 20D0,20F0 2CEF,2CF1 2D7F 2DE0,2DFF 302A,302D 3099,309A A66F,A672
A674,A67D A69E,A69F A6F0,A6F1 A802 A806 A80B A825,A826 A82C A8C4,A8C5 A8E0,A8F1 A8FF A926,A92D
A947,A951 A980,A982 A9B3 A9B6,A9B9 A9BC,A9BD A9E5 AA29,AA2E AA31,AA32 AA35,AA36 AA43 AA4C AA7C
AAB0 AAB2,AAB4 AAB7,AAB8 AABE,AABF AAC1 AAEC,AAED AAF6 ABE5 ABE8 ABED FB1E FE00,FE0F FE20,FE2F
FEFF FFF9,FFFB 101FD 102E0 10376,1037A 10A01,10A03 10A05,10A06 10A0C,10A0F 10A38,10A3A 10A3F
10AE5,10AE6 10D24,10D27 10D69,10D6D 10EAB,10EAC 10EFA,10EFF 10F46,10F50 10F82,10F85 11001
11038,11046 11070 11073,11074 1107F,11081 110B3,110B6 110B9,110BA 110C2 11100,11102 11127,1112B
1112D,11134 11173 11180,11181 111B6,111BE 111C9,111CC 111CF 1122F,11231 11234 11236,11237 1123E
11241 112DF 112E3,112EA 11300,11301 1133B,1133C 11340 11366,1136C 11370,11374 113BB,113C0 113CE
113D0 113D2 113E1,113E2 11438,1143F 11442,11444 11446 1145E 114B3,114B8 114BA 114BF,114C0
114C2,114C3 115B2,115B5 115BC,115BD 115BF,115C0 115DC,115DD 11633,1163A 1163D 1163F,11640 116AB
116AD 116B0,116B5 116B7 1171D 1171F 11722,11725 11727,1172B 1182F,11837 11839,1183A 1193B,1193C
1193E 11943 119D4,119D7 119DA,119DB 119E0 11A01,11A0A 11A33,11A38 11A3B,11A3E 11A47 11A51,11A56
11A59,11A5B 11A8A,11A96 11A98,11A99 11B60 11B62,11B64 11B66 11C30,11C36 11C38,11C3D 11C3F
11C92,11CA7 11CAA,11CB0 11CB2,11CB3 11CB5,11CB6 11D31,11D36 11D3A 11D3C,11D3D 11D3F,11D45 11D47
11D90,11D91 11D95 11D97 11EF3,11EF4 11F00,11F01 11F36,11F3A 11F40 11F42 11F5A 13430,13440
13447,13455 1611E,16129 1612D,1612F 16AF0,16AF4 16B30,16B36 16F4F 16F8F,16F92 16FE4 1BC9D,1BC9E
1BCA0,1BCA3 1CF00,1CF2D 1CF30,1CF46 1D167,1D169 1D173,1D182 1D185,1D18B 1D1AA,1D1AD 1D242,1D244
1DA00,1DA36 1DA3B,1DA6C 1DA75 1DA84 1DA9B,1DA9F 1DAA1,1DAAF 1E000,1E006 1E008,1E018 1E01B,1E021
1E023,1E024 1E026,1E02A 1E08F 1E130,1E136 1E2AE 1E2EC,1E2EF 1E4EC,1E4EF 1E5EE,1E5EF 1E6E3 1E6E6
1E6EE,1E6EF 1E6F5 1E8D0,1E8D6 1E944,1E94B E0001 E0020,E007F E0100,E01EF"

/-- The groups by number. -/
def Direction.ofNumber : Nat → Direction
  | 0 => .left
  | 1 => .right
  | 2 => .rightDigit
  | 3 => .digit
  | 4 => .neutral
  | 5 => .mark
  | _ => .other

/-- `directionRanges`, read. -/
def directions : NumberMap :=
  NumberMap.ofText directionRanges

/-- The direction of a character. -/
def direction (c : Char) : Direction :=
  if c.toNat < 0x80 then asciiDirection c
  else Direction.ofNumber ((directions.find? c).getD 0)

/-- `markRanges`, read. -/
def marks : CharSet :=
  CharSet.ofText markRanges

/-- The character is a mark; none is in ASCII. -/
def isMark (c : Char) : Bool :=
  0x80 ≤ c.toNat && marks.contains c

/-- `viramaRanges`, read. -/
def viramas : CharSet :=
  CharSet.ofText viramaRanges

/-- `joinsAfterRanges`, read. -/
def joinsAfter : CharSet :=
  CharSet.ofText joinsAfterRanges

/-- `joinsBeforeRanges`, read. -/
def joinsBefore : CharSet :=
  CharSet.ofText joinsBeforeRanges

/-- `joinsThroughRanges`, read. -/
def joinsThrough : CharSet :=
  CharSet.ofText joinsThroughRanges

end ProxyAutoConfig.Unicode
