import EntityScaffold.Text.CodeTable

/-! # Letters, digits and letter case

The properties `Alphabetic` and `Numeric`, `Uppercase` and `Lowercase`, and the full case mappings of
Unicode 17. ASCII characters are decided without the tables.
-/

namespace EntityScaffold.Text

/-! ## Letters and digits -/

/-- Runs of the characters that are alphabetic or numeric. -/
def alphanumericRuns : List CodeRun := codeRuns
    "30-39 41-5A 61-7A AA B2-B3 B5 B9-BA BC-BE C0-D6 D8-F6 F8-2C1 2C6-2D1 2E0-2E4 2EC 2EE 345
    363-374 376-377 37A-37D 37F 386 388-38A 38C 38E-3A1 3A3-3F5 3F7-481 48A-52F 531-556 559
    560-588 5B0-5BD 5BF 5C1-5C2 5C4-5C5 5C7 5D0-5EA 5EF-5F2 610-61A 620-657 659-669 66E-6D3
    6D5-6DC 6E1-6E8 6ED-6FC 6FF 710-73F 74D-7B1 7C0-7EA 7F4-7F5 7FA 800-817 81A-82C 840-858
    860-86A 870-887 889-88F 897 8A0-8C9 8D4-8DF 8E3-8E9 8F0-93B 93D-94C 94E-950 955-963 966-96F
    971-983 985-98C 98F-990 993-9A8 9AA-9B0 9B2 9B6-9B9 9BD-9C4 9C7-9C8 9CB-9CC 9CE 9D7 9DC-9DD
    9DF-9E3 9E6-9F1 9F4-9F9 9FC A01-A03 A05-A0A A0F-A10 A13-A28 A2A-A30 A32-A33 A35-A36 A38-A39
    A3E-A42 A47-A48 A4B-A4C A51 A59-A5C A5E A66-A75 A81-A83 A85-A8D A8F-A91 A93-AA8 AAA-AB0
    AB2-AB3 AB5-AB9 ABD-AC5 AC7-AC9 ACB-ACC AD0 AE0-AE3 AE6-AEF AF9-AFC B01-B03 B05-B0C B0F-B10
    B13-B28 B2A-B30 B32-B33 B35-B39 B3D-B44 B47-B48 B4B-B4C B56-B57 B5C-B5D B5F-B63 B66-B6F
    B71-B77 B82-B83 B85-B8A B8E-B90 B92-B95 B99-B9A B9C B9E-B9F BA3-BA4 BA8-BAA BAE-BB9 BBE-BC2
    BC6-BC8 BCA-BCC BD0 BD7 BE6-BF2 C00-C0C C0E-C10 C12-C28 C2A-C39 C3D-C44 C46-C48 C4A-C4C
    C55-C56 C58-C5A C5C-C5D C60-C63 C66-C6F C78-C7E C80-C83 C85-C8C C8E-C90 C92-CA8 CAA-CB3
    CB5-CB9 CBD-CC4 CC6-CC8 CCA-CCC CD5-CD6 CDC-CDE CE0-CE3 CE6-CEF CF1-CF3 D00-D0C D0E-D10
    D12-D3A D3D-D44 D46-D48 D4A-D4C D4E D54-D63 D66-D78 D7A-D7F D81-D83 D85-D96 D9A-DB1 DB3-DBB
    DBD DC0-DC6 DCF-DD4 DD6 DD8-DDF DE6-DEF DF2-DF3 E01-E3A E40-E46 E4D E50-E59 E81-E82 E84
    E86-E8A E8C-EA3 EA5 EA7-EB9 EBB-EBD EC0-EC4 EC6 ECD ED0-ED9 EDC-EDF F00 F20-F33 F40-F47
    F49-F6C F71-F83 F88-F97 F99-FBC 1000-1036 1038 103B-1049 1050-109D 10A0-10C5 10C7 10CD
    10D0-10FA 10FC-1248 124A-124D 1250-1256 1258 125A-125D 1260-1288 128A-128D 1290-12B0
    12B2-12B5 12B8-12BE 12C0 12C2-12C5 12C8-12D6 12D8-1310 1312-1315 1318-135A 1369-137C
    1380-138F 13A0-13F5 13F8-13FD 1401-166C 166F-167F 1681-169A 16A0-16EA 16EE-16F8 1700-1713
    171F-1733 1740-1753 1760-176C 176E-1770 1772-1773 1780-17B3 17B6-17C8 17D7 17DC 17E0-17E9
    17F0-17F9 1810-1819 1820-1878 1880-18AA 18B0-18F5 1900-191E 1920-192B 1930-1938 1946-196D
    1970-1974 1980-19AB 19B0-19C9 19D0-19DA 1A00-1A1B 1A20-1A5E 1A61-1A74 1A80-1A89 1A90-1A99
    1AA7 1ABF-1AC0 1ACC-1ACE 1B00-1B33 1B35-1B43 1B45-1B4C 1B50-1B59 1B80-1BA9 1BAC-1BE5
    1BE7-1BF1 1C00-1C36 1C40-1C49 1C4D-1C7D 1C80-1C8A 1C90-1CBA 1CBD-1CBF 1CE9-1CEC 1CEE-1CF3
    1CF5-1CF6 1CFA 1D00-1DBF 1DD3-1DF4 1E00-1F15 1F18-1F1D 1F20-1F45 1F48-1F4D 1F50-1F57
    1F59-1F5F/2 1F60-1F7D 1F80-1FB4 1FB6-1FBC 1FBE 1FC2-1FC4 1FC6-1FCC 1FD0-1FD3 1FD6-1FDB
    1FE0-1FEC 1FF2-1FF4 1FF6-1FFC 2070-2071 2074-2079 207F-2089 2090-209C 2102 2107 210A-2113
    2115 2119-211D 2124-212A/2 212B-212D 212F-2139 213C-213F 2145-2149 214E 2150-2189 2460-249B
    24B6-24FF 2776-2793 2C00-2CE4 2CEB-2CEE 2CF2-2CF3 2CFD 2D00-2D25 2D27 2D2D 2D30-2D67 2D6F
    2D80-2D96 2DA0-2DA6 2DA8-2DAE 2DB0-2DB6 2DB8-2DBE 2DC0-2DC6 2DC8-2DCE 2DD0-2DD6 2DD8-2DDE
    2DE0-2DFF 2E2F 3005-3007 3021-3029 3031-3035 3038-303C 3041-3096 309D-309F 30A1-30FA
    30FC-30FF 3105-312F 3131-318E 3192-3195 31A0-31BF 31F0-31FF 3220-3229 3248-324F 3251-325F
    3280-3289 32B1-32BF 3400-4DBF 4E00-A48C A4D0-A4FD A500-A60C A610-A62B A640-A66E A674-A67B
    A67F-A6EF A717-A71F A722-A788 A78B-A7DC A7F1-A805 A807-A827 A830-A835 A840-A873 A880-A8C3
    A8C5 A8D0-A8D9 A8F2-A8F7 A8FB A8FD-A92A A930-A952 A960-A97C A980-A9B2 A9B4-A9BF A9CF-A9D9
    A9E0-A9FE AA00-AA36 AA40-AA4D AA50-AA59 AA60-AA76 AA7A-AABE AAC0 AAC2 AADB-AADD AAE0-AAEF
    AAF2-AAF5 AB01-AB06 AB09-AB0E AB11-AB16 AB20-AB26 AB28-AB2E AB30-AB5A AB5C-AB69 AB70-ABEA
    ABF0-ABF9 AC00-D7A3 D7B0-D7C6 D7CB-D7FB F900-FA6D FA70-FAD9 FB00-FB06 FB13-FB17 FB1D-FB28
    FB2A-FB36 FB38-FB3C FB3E FB40-FB41 FB43-FB44 FB46-FBB1 FBD3-FD3D FD50-FD8F FD92-FDC7
    FDF0-FDFB FE70-FE74 FE76-FEFC FF10-FF19 FF21-FF3A FF41-FF5A FF66-FFBE FFC2-FFC7 FFCA-FFCF
    FFD2-FFD7 FFDA-FFDC 10000-1000B 1000D-10026 10028-1003A 1003C-1003D 1003F-1004D 10050-1005D
    10080-100FA 10107-10133 10140-10178 1018A-1018B 10280-1029C 102A0-102D0 102E1-102FB
    10300-10323 1032D-1034A 10350-1037A 10380-1039D 103A0-103C3 103C8-103CF 103D1-103D5
    10400-1049D 104A0-104A9 104B0-104D3 104D8-104FB 10500-10527 10530-10563 10570-1057A
    1057C-1058A 1058C-10592 10594-10595 10597-105A1 105A3-105B1 105B3-105B9 105BB-105BC
    105C0-105F3 10600-10736 10740-10755 10760-10767 10780-10785 10787-107B0 107B2-107BA
    10800-10805 10808 1080A-10835 10837-10838 1083C 1083F-10855 10858-10876 10879-1089E
    108A7-108AF 108E0-108F2 108F4-108F5 108FB-1091B 10920-10939 10940-10959 10980-109B7
    109BC-109CF 109D2-10A03 10A05-10A06 10A0C-10A13 10A15-10A17 10A19-10A35 10A40-10A48
    10A60-10A7E 10A80-10A9F 10AC0-10AC7 10AC9-10AE4 10AEB-10AEF 10B00-10B35 10B40-10B55
    10B58-10B72 10B78-10B91 10BA9-10BAF 10C00-10C48 10C80-10CB2 10CC0-10CF2 10CFA-10D27
    10D30-10D39 10D40-10D65 10D69 10D6F-10D85 10E60-10E7E 10E80-10EA9 10EAB-10EAC 10EB0-10EB1
    10EC2-10EC7 10EFA-10EFC 10F00-10F27 10F30-10F45 10F51-10F54 10F70-10F81 10FB0-10FCB
    10FE0-10FF6 11000-11045 11052-1106F 11071-11075 11080-110B8 110C2 110D0-110E8 110F0-110F9
    11100-11132 11136-1113F 11144-11147 11150-11172 11176 11180-111BF 111C1-111C4 111CE-111DA
    111DC 111E1-111F4 11200-11211 11213-11234 11237 1123E-11241 11280-11286 11288 1128A-1128D
    1128F-1129D 1129F-112A8 112B0-112E8 112F0-112F9 11300-11303 11305-1130C 1130F-11310
    11313-11328 1132A-11330 11332-11333 11335-11339 1133D-11344 11347-11348 1134B-1134C 11350
    11357 1135D-11363 11380-11389 1138B 1138E 11390-113B5 113B7-113C0 113C2 113C5 113C7-113CA
    113CC-113CD 113D1 113D3 11400-11441 11443-11445 11447-1144A 11450-11459 1145F-11461
    11480-114C1 114C4-114C5 114C7 114D0-114D9 11580-115B5 115B8-115BE 115D8-115DD 11600-1163E
    11640 11644 11650-11659 11680-116B5 116B8 116C0-116C9 116D0-116E3 11700-1171A 1171D-1172A
    11730-1173B 11740-11746 11800-11838 118A0-118F2 118FF-11906 11909 1190C-11913 11915-11916
    11918-11935 11937-11938 1193B-1193C 1193F-11942 11950-11959 119A0-119A7 119AA-119D7
    119DA-119DF 119E1 119E3-119E4 11A00-11A32 11A35-11A3E 11A50-11A97 11A9D 11AB0-11AF8
    11B60-11B67 11BC0-11BE0 11BF0-11BF9 11C00-11C08 11C0A-11C36 11C38-11C3E 11C40 11C50-11C6C
    11C72-11C8F 11C92-11CA7 11CA9-11CB6 11D00-11D06 11D08-11D09 11D0B-11D36 11D3A 11D3C-11D3D
    11D3F-11D41 11D43 11D46-11D47 11D50-11D59 11D60-11D65 11D67-11D68 11D6A-11D8E 11D90-11D91
    11D93-11D96 11D98 11DA0-11DA9 11DB0-11DDB 11DE0-11DE9 11EE0-11EF6 11F00-11F10 11F12-11F3A
    11F3E-11F40 11F50-11F59 11FB0 11FC0-11FD4 12000-12399 12400-1246E 12480-12543 12F90-12FF0
    13000-1342F 13441-13446 13460-143FA 14400-14646 16100-1612E 16130-16139 16800-16A38
    16A40-16A5E 16A60-16A69 16A70-16ABE 16AC0-16AC9 16AD0-16AED 16B00-16B2F 16B40-16B43
    16B50-16B59 16B5B-16B61 16B63-16B77 16B7D-16B8F 16D40-16D6C 16D70-16D79 16E40-16E96
    16EA0-16EB8 16EBB-16ED3 16F00-16F4A 16F4F-16F87 16F8F-16F9F 16FE0-16FE1 16FE3 16FF0-16FF6
    17000-18CD5 18CFF-18D1E 18D80-18DF2 1AFF0-1AFF3 1AFF5-1AFFB 1AFFD-1AFFE 1B000-1B122 1B132
    1B150-1B152 1B155 1B164-1B167 1B170-1B2FB 1BC00-1BC6A 1BC70-1BC7C 1BC80-1BC88 1BC90-1BC99
    1BC9E 1CCF0-1CCF9 1D2C0-1D2D3 1D2E0-1D2F3 1D360-1D378 1D400-1D454 1D456-1D49C 1D49E-1D49F
    1D4A2 1D4A5-1D4A6 1D4A9-1D4AC 1D4AE-1D4B9 1D4BB 1D4BD-1D4C3 1D4C5-1D505 1D507-1D50A
    1D50D-1D514 1D516-1D51C 1D51E-1D539 1D53B-1D53E 1D540-1D544 1D546 1D54A-1D550 1D552-1D6A5
    1D6A8-1D6C0 1D6C2-1D6DA 1D6DC-1D6FA 1D6FC-1D714 1D716-1D734 1D736-1D74E 1D750-1D76E
    1D770-1D788 1D78A-1D7A8 1D7AA-1D7C2 1D7C4-1D7CB 1D7CE-1D7FF 1DF00-1DF1E 1DF25-1DF2A
    1E000-1E006 1E008-1E018 1E01B-1E021 1E023-1E024 1E026-1E02A 1E030-1E06D 1E08F 1E100-1E12C
    1E137-1E13D 1E140-1E149 1E14E 1E290-1E2AD 1E2C0-1E2EB 1E2F0-1E2F9 1E4D0-1E4EB 1E4F0-1E4F9
    1E5D0-1E5ED 1E5F0-1E5FA 1E6C0-1E6DE 1E6E0-1E6F5 1E6FE-1E6FF 1E7E0-1E7E6 1E7E8-1E7EB
    1E7ED-1E7EE 1E7F0-1E7FE 1E800-1E8C4 1E8C7-1E8CF 1E900-1E943 1E947 1E94B 1E950-1E959
    1EC71-1ECAB 1ECAD-1ECAF 1ECB1-1ECB4 1ED01-1ED2D 1ED2F-1ED3D 1EE00-1EE03 1EE05-1EE1F
    1EE21-1EE22 1EE24 1EE27 1EE29-1EE32 1EE34-1EE37 1EE39 1EE3B 1EE42 1EE47-1EE4D/2 1EE4E-1EE4F
    1EE51-1EE52 1EE54 1EE57-1EE61/2 1EE62 1EE64 1EE67-1EE6A 1EE6C-1EE72 1EE74-1EE77 1EE79-1EE7C
    1EE7E 1EE80-1EE89 1EE8B-1EE9B 1EEA1-1EEA3 1EEA5-1EEA9 1EEAB-1EEBB 1F100-1F10C 1F130-1F149
    1F150-1F169 1F170-1F189 1FBF0-1FBF9 20000-2A6DF 2A700-2B81D 2B820-2CEAD 2CEB0-2EBE0
    2EBF0-2EE5D 2F800-2FA1D 30000-3134A 31350-33479"

/-- Letters and digits of every script. -/
def isAlphanumeric (c : Char) : Bool :=
  if c.toNat < 128 then c.isAlphanum else onRuns alphanumericRuns c.toNat

/-! ## Capital and small letters -/

/-- Runs of the characters with the property `Uppercase`. -/
def uppercaseRuns : List CodeRun := codeRuns
    "41-5A C0-D6 D8-DE 100-136/2 139-147/2 14A-178/2 179-17D/2 181-182 184 186-187 189-18B
    18E-191 193-194 196-198 19C-19D 19F-1A0 1A2-1A6/2 1A7 1A9 1AC 1AE-1AF 1B1-1B3 1B5 1B7-1B8
    1BC 1C4 1C7 1CA 1CD-1DB/2 1DE-1EE/2 1F1 1F4 1F6-1F8 1FA-232/2 23A-23B 23D-23E 241 243-246
    248-24E/2 370 372 376 37F 386 388-38A 38C 38E-38F 391-3A1 3A3-3AB 3CF 3D2-3D4 3D8-3EE/2 3F4
    3F7 3F9-3FA 3FD-42F 460-480/2 48A-4C0/2 4C1-4CD/2 4D0-52E/2 531-556 10A0-10C5 10C7 10CD
    13A0-13F5 1C89 1C90-1CBA 1CBD-1CBF 1E00-1E94/2 1E9E-1EFE/2 1F08-1F0F 1F18-1F1D 1F28-1F2F
    1F38-1F3F 1F48-1F4D 1F59-1F5F/2 1F68-1F6F 1FB8-1FBB 1FC8-1FCB 1FD8-1FDB 1FE8-1FEC 1FF8-1FFB
    2102 2107 210B-210D 2110-2112 2115 2119-211D 2124-212A/2 212B-212D 2130-2133 213E-213F 2145
    2160-216F 2183 24B6-24CF 2C00-2C2F 2C60 2C62-2C64 2C67-2C6D/2 2C6E-2C70 2C72 2C75 2C7E-2C80
    2C82-2CE2/2 2CEB 2CED 2CF2 A640-A66C/2 A680-A69A/2 A722-A72E/2 A732-A76E/2 A779-A77D/2
    A77E-A786/2 A78B A78D A790 A792 A796-A7AA/2 A7AB-A7AE A7B0-A7B4 A7B6-A7C4/2 A7C5-A7C7 A7C9
    A7CB-A7CC A7CE-A7DC/2 A7F5 FF21-FF3A 10400-10427 104B0-104D3 10570-1057A 1057C-1058A
    1058C-10592 10594-10595 10C80-10CB2 10D50-10D65 118A0-118BF 16E40-16E5F 16EA0-16EB8
    1D400-1D419 1D434-1D44D 1D468-1D481 1D49C 1D49E-1D49F 1D4A2 1D4A5-1D4A6 1D4A9-1D4AC
    1D4AE-1D4B5 1D4D0-1D4E9 1D504-1D505 1D507-1D50A 1D50D-1D514 1D516-1D51C 1D538-1D539
    1D53B-1D53E 1D540-1D544 1D546 1D54A-1D550 1D56C-1D585 1D5A0-1D5B9 1D5D4-1D5ED 1D608-1D621
    1D63C-1D655 1D670-1D689 1D6A8-1D6C0 1D6E2-1D6FA 1D71C-1D734 1D756-1D76E 1D790-1D7A8 1D7CA
    1E900-1E921 1F130-1F149 1F150-1F169 1F170-1F189"

/-- Runs of the characters with the property `Lowercase`. -/
def lowercaseRuns : List CodeRun := codeRuns
    "61-7A AA B5 BA DF-F6 F8-FF 101-137/2 138-148/2 149-177/2 17A-17E/2 17F-180 183 185 188
    18C-18D 192 195 199-19B 19E 1A1-1A5/2 1A8 1AA-1AB 1AD 1B0 1B4 1B6 1B9-1BA 1BD-1BF 1C6 1C9
    1CC-1DC/2 1DD-1EF/2 1F0 1F3 1F5 1F9-233/2 234-239 23C 23F-240 242 247-24F/2 250-293 296-2B8
    2C0-2C1 2E0-2E4 345 371 373 377 37A-37D 390 3AC-3CE 3D0-3D1 3D5-3D7 3D9-3EF/2 3F0-3F3 3F5
    3F8 3FB-3FC 430-45F 461-481/2 48B-4BF/2 4C2-4CE/2 4CF-52F/2 560-588 10D0-10FA 10FC-10FF
    13F8-13FD 1C80-1C88 1C8A 1D00-1DBF 1E01-1E95/2 1E96-1E9D 1E9F-1EFF/2 1F00-1F07 1F10-1F15
    1F20-1F27 1F30-1F37 1F40-1F45 1F50-1F57 1F60-1F67 1F70-1F7D 1F80-1F87 1F90-1F97 1FA0-1FA7
    1FB0-1FB4 1FB6-1FB7 1FBE 1FC2-1FC4 1FC6-1FC7 1FD0-1FD3 1FD6-1FD7 1FE0-1FE7 1FF2-1FF4
    1FF6-1FF7 2071 207F 2090-209C 210A 210E-210F 2113 212F 2134 2139 213C-213D 2146-2149 214E
    2170-217F 2184 24D0-24E9 2C30-2C5F 2C61 2C65-2C66 2C68-2C6C/2 2C71 2C73-2C74 2C76-2C7D
    2C81-2CE3/2 2CE4 2CEC 2CEE 2CF3 2D00-2D25 2D27 2D2D A641-A66D/2 A681-A69B/2 A69C-A69D
    A723-A72F/2 A730-A731 A733-A76F/2 A770-A778 A77A A77C A77F-A787/2 A78C A78E A791 A793-A795
    A797-A7A9/2 A7AF A7B5-A7C3/2 A7C8 A7CA A7CD-A7DB/2 A7F1-A7F4 A7F6 A7F8-A7FA AB30-AB5A
    AB5C-AB69 AB70-ABBF FB00-FB06 FB13-FB17 FF41-FF5A 10428-1044F 104D8-104FB 10597-105A1
    105A3-105B1 105B3-105B9 105BB-105BC 10780 10783-10785 10787-107B0 107B2-107BA 10CC0-10CF2
    10D70-10D85 118C0-118DF 16E60-16E7F 16EBB-16ED3 1D41A-1D433 1D44E-1D454 1D456-1D467
    1D482-1D49B 1D4B6-1D4B9 1D4BB 1D4BD-1D4C3 1D4C5-1D4CF 1D4EA-1D503 1D51E-1D537 1D552-1D56B
    1D586-1D59F 1D5BA-1D5D3 1D5EE-1D607 1D622-1D63B 1D656-1D66F 1D68A-1D6A5 1D6C2-1D6DA
    1D6DC-1D6E1 1D6FC-1D714 1D716-1D71B 1D736-1D74E 1D750-1D755 1D770-1D788 1D78A-1D78F
    1D7AA-1D7C2 1D7C4-1D7C9 1D7CB 1DF00-1DF09 1DF0B-1DF1E 1DF25-1DF2A 1E030-1E06D 1E922-1E943"

/-- Capital letters of every script. -/
def isUppercase (c : Char) : Bool :=
  if c.toNat < 128 then c.isUpper else onRuns uppercaseRuns c.toNat

/-- Small letters of every script. -/
def isLowercase (c : Char) : Bool :=
  if c.toNat < 128 then c.isLower else onRuns lowercaseRuns c.toNat

/-! ## Case mappings -/

/-- Characters whose capital is one character, with the distance to it. -/
def capitalShifts : List CodeShift := codeShifts
    "61-7A~20 B5+2E7 E0-F6~20 F8-FE~20 FF+79 101-12F/2~1 131~E8 133-137/2~1 13A-148/2~1
    14B-177/2~1 17A-17E/2~1 17F~12C 180+C3 183-185/2~1 188~1 18C~1 192~1 195+61 199~1 19A+A3
    19B+A641 19E+82 1A1-1A5/2~1 1A8~1 1AD~1 1B0~1 1B4-1B6/2~1 1B9~1 1BD~1 1BF+38 1C5~1 1C6~2
    1C8~1 1C9~2 1CB~1 1CC~2 1CE-1DC/2~1 1DD~4F 1DF-1EF/2~1 1F2~1 1F3~2 1F5~1 1F9-21F/2~1
    223-233/2~1 23C~1 23F-240+2A3F 242~1 247-24F/2~1 250+2A1F 251+2A1C 252+2A1E 253~D2 254~CE
    256-257~CD 259~CA 25B~CB 25C+A54F 260~CD 261+A54B 263~CF 264+A567 265+A528 266+A544 268~D1
    269~D3 26A+A544 26B+29F7 26C+A541 26F~D3 271+29FD 272~D5 275~D6 27D+29E7 280~DA 282+A543
    283~DA 287+A52A 288~DA 289~45 28A-28B~D9 28C~47 292~DB 29D+A515 29E+A512 345+54 371-373/2~1
    377~1 37B-37D+82 3AC~26 3AD-3AF~25 3B1-3C1~20 3C2~1F 3C3-3CB~20 3CC~40 3CD-3CE~3F 3D0~3E
    3D1~39 3D5~2F 3D6~36 3D7~8 3D9-3EF/2~1 3F0~56 3F1~50 3F2+7 3F3~74 3F5~60 3F8~1 3FB~1
    430-44F~20 450-45F~50 461-481/2~1 48B-4BF/2~1 4C2-4CE/2~1 4CF~F 4D1-52F/2~1 561-586~30
    10D0-10FA+BC0 10FD-10FF+BC0 13F8-13FD~8 1C80~186E 1C81~186D 1C82~1864 1C83-1C84~1862
    1C85~1863 1C86~185C 1C87~1825 1C88+89C2 1C8A~1 1D79+8A04 1D7D+EE6 1D8E+8A38 1E01-1E95/2~1
    1E9B~3B 1EA1-1EFF/2~1 1F00-1F07+8 1F10-1F15+8 1F20-1F27+8 1F30-1F37+8 1F40-1F45+8
    1F51-1F57/2+8 1F60-1F67+8 1F70-1F71+4A 1F72-1F75+56 1F76-1F77+64 1F78-1F79+80 1F7A-1F7B+70
    1F7C-1F7D+7E 1FB0-1FB1+8 1FBE~1C25 1FD0-1FD1+8 1FE0-1FE1+8 1FE5+7 214E~1C 2170-217F~10
    2184~1 24D0-24E9~1A 2C30-2C5F~30 2C61~1 2C65~2A2B 2C66~2A28 2C68-2C6C/2~1 2C73~1 2C76~1
    2C81-2CE3/2~1 2CEC-2CEE/2~1 2CF3~1 2D00-2D25~1C60 2D27~1C60 2D2D~1C60 A641-A66D/2~1
    A681-A69B/2~1 A723-A72F/2~1 A733-A76F/2~1 A77A-A77C/2~1 A77F-A787/2~1 A78C~1 A791-A793/2~1
    A794+30 A797-A7A9/2~1 A7B5-A7C3/2~1 A7C8-A7CA/2~1 A7CD-A7DB/2~1 A7F6~1 AB53~3A0
    AB70-ABBF~97D0 FF41-FF5A~20 10428-1044F~28 104D8-104FB~28 10597-105A1~27 105A3-105B1~27
    105B3-105B9~27 105BB-105BC~27 10CC0-10CF2~40 10D70-10D85~20 118C0-118DF~20 16E60-16E7F~20
    16EBB-16ED3~1B 1E922-1E943~22"

/-- Characters whose capital is written with several characters. -/
def capitalExpansions : List (Nat × List Char) := codeExpansions
    "DF=53,53 149=2BC,4E 1F0=4A,30C 390=399,308,301 3B0=3A5,308,301 587=535,552 1E96=48,331
    1E97=54,308 1E98=57,30A 1E99=59,30A 1E9A=41,2BE 1F50=3A5,313 1F52=3A5,313,300
    1F54=3A5,313,301 1F56=3A5,313,342 1F80=1F08,399 1F81=1F09,399 1F82=1F0A,399 1F83=1F0B,399
    1F84=1F0C,399 1F85=1F0D,399 1F86=1F0E,399 1F87=1F0F,399 1F88=1F08,399 1F89=1F09,399
    1F8A=1F0A,399 1F8B=1F0B,399 1F8C=1F0C,399 1F8D=1F0D,399 1F8E=1F0E,399 1F8F=1F0F,399
    1F90=1F28,399 1F91=1F29,399 1F92=1F2A,399 1F93=1F2B,399 1F94=1F2C,399 1F95=1F2D,399
    1F96=1F2E,399 1F97=1F2F,399 1F98=1F28,399 1F99=1F29,399 1F9A=1F2A,399 1F9B=1F2B,399
    1F9C=1F2C,399 1F9D=1F2D,399 1F9E=1F2E,399 1F9F=1F2F,399 1FA0=1F68,399 1FA1=1F69,399
    1FA2=1F6A,399 1FA3=1F6B,399 1FA4=1F6C,399 1FA5=1F6D,399 1FA6=1F6E,399 1FA7=1F6F,399
    1FA8=1F68,399 1FA9=1F69,399 1FAA=1F6A,399 1FAB=1F6B,399 1FAC=1F6C,399 1FAD=1F6D,399
    1FAE=1F6E,399 1FAF=1F6F,399 1FB2=1FBA,399 1FB3=391,399 1FB4=386,399 1FB6=391,342
    1FB7=391,342,399 1FBC=391,399 1FC2=1FCA,399 1FC3=397,399 1FC4=389,399 1FC6=397,342
    1FC7=397,342,399 1FCC=397,399 1FD2=399,308,300 1FD3=399,308,301 1FD6=399,342
    1FD7=399,308,342 1FE2=3A5,308,300 1FE3=3A5,308,301 1FE4=3A1,313 1FE6=3A5,342
    1FE7=3A5,308,342 1FF2=1FFA,399 1FF3=3A9,399 1FF4=38F,399 1FF6=3A9,342 1FF7=3A9,342,399
    1FFC=3A9,399 FB00=46,46 FB01=46,49 FB02=46,4C FB03=46,46,49 FB04=46,46,4C FB05=53,54
    FB06=53,54 FB13=544,546 FB14=544,535 FB15=544,53B FB16=54E,546 FB17=544,53D"

/-- Characters whose small letter is one character, with the distance to it. -/
def smallShifts : List CodeShift := codeShifts
    "41-5A+20 C0-D6+20 D8-DE+20 100-12E/2+1 132-136/2+1 139-147/2+1 14A-176/2+1 178~79
    179-17D/2+1 181+D2 182-184/2+1 186+CE 187+1 189-18A+CD 18B+1 18E+4F 18F+CA 190+CB 191+1
    193+CD 194+CF 196+D3 197+D1 198+1 19C+D3 19D+D5 19F+D6 1A0-1A4/2+1 1A6+DA 1A7+1 1A9+DA 1AC+1
    1AE+DA 1AF+1 1B1-1B2+D9 1B3-1B5/2+1 1B7+DB 1B8+1 1BC+1 1C4+2 1C5+1 1C7+2 1C8+1 1CA+2
    1CB-1DB/2+1 1DE-1EE/2+1 1F1+2 1F2-1F4/2+1 1F6~61 1F7~38 1F8-21E/2+1 220~82 222-232/2+1
    23A+2A2B 23B+1 23D~A3 23E+2A28 241+1 243~C3 244+45 245+47 246-24E/2+1 370-372/2+1 376+1
    37F+74 386+26 388-38A+25 38C+40 38E-38F+3F 391-3A1+20 3A3-3AB+20 3CF+8 3D8-3EE/2+1 3F4~3C
    3F7+1 3F9~7 3FA+1 3FD-3FF~82 400-40F+50 410-42F+20 460-480/2+1 48A-4BE/2+1 4C0+F 4C1-4CD/2+1
    4D0-52E/2+1 531-556+30 10A0-10C5+1C60 10C7+1C60 10CD+1C60 13A0-13EF+97D0 13F0-13F5+8 1C89+1
    1C90-1CBA~BC0 1CBD-1CBF~BC0 1E00-1E94/2+1 1E9E~1DBF 1EA0-1EFE/2+1 1F08-1F0F~8 1F18-1F1D~8
    1F28-1F2F~8 1F38-1F3F~8 1F48-1F4D~8 1F59-1F5F/2~8 1F68-1F6F~8 1F88-1F8F~8 1F98-1F9F~8
    1FA8-1FAF~8 1FB8-1FB9~8 1FBA-1FBB~4A 1FBC~9 1FC8-1FCB~56 1FCC~9 1FD8-1FD9~8 1FDA-1FDB~64
    1FE8-1FE9~8 1FEA-1FEB~70 1FEC~7 1FF8-1FF9~80 1FFA-1FFB~7E 1FFC~9 2126~1D5D 212A~20BF
    212B~2046 2132+1C 2160-216F+10 2183+1 24B6-24CF+1A 2C00-2C2F+30 2C60+1 2C62~29F7 2C63~EE6
    2C64~29E7 2C67-2C6B/2+1 2C6D~2A1C 2C6E~29FD 2C6F~2A1F 2C70~2A1E 2C72+1 2C75+1 2C7E-2C7F~2A3F
    2C80-2CE2/2+1 2CEB-2CED/2+1 2CF2+1 A640-A66C/2+1 A680-A69A/2+1 A722-A72E/2+1 A732-A76E/2+1
    A779-A77B/2+1 A77D~8A04 A77E-A786/2+1 A78B+1 A78D~A528 A790-A792/2+1 A796-A7A8/2+1 A7AA~A544
    A7AB~A54F A7AC~A54B A7AD~A541 A7AE~A544 A7B0~A512 A7B1~A52A A7B2~A515 A7B3+3A0 A7B4-A7C2/2+1
    A7C4~30 A7C5~A543 A7C6~8A38 A7C7-A7C9/2+1 A7CB~A567 A7CC-A7DA/2+1 A7DC~A641 A7F5+1
    FF21-FF3A+20 10400-10427+28 104B0-104D3+28 10570-1057A+27 1057C-1058A+27 1058C-10592+27
    10594-10595+27 10C80-10CB2+40 10D50-10D65+20 118A0-118BF+20 16E40-16E5F+20 16EA0-16EB8+1B
    1E900-1E921+22"

/-- The capital form of a character; characters without one stand for themselves. -/
def toUppercase (c : Char) : List Char :=
  if c.toNat < 128 then [c.toUpper]
  else match capitalExpansions.lookup c.toNat with
    | some image => image
    | none => [Char.ofNat (shiftCode capitalShifts c.toNat)]

/-- The small form of a character. Only the dotted capital `İ` needs two characters: the small
letter and a combining dot. -/
def toLowercase (c : Char) : List Char :=
  if c.toNat < 128 then [c.toLower]
  else if c.toNat = 0x130 then ['i', Char.ofNat 0x307]
  else [Char.ofNat (shiftCode smallShifts c.toNat)]

end EntityScaffold.Text
