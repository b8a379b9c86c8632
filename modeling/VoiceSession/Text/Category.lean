import VoiceSession.Text.CodeSet
/-!
# General categories

Sets of characters by their Unicode 17.0 general category and properties, as grammars name them:
-/

namespace VoiceSession.Text.Category

/-- Letters and letter numbers: `Lu`, `Ll`, `Lt`, `Lm`, `Lo` and `Nl`, and the code points of
the first four planes unassigned in 17.0 but for the noncharacters and the later marks. -/
def letters : CodeSet := CodeSet.ofLines
  ["41-5A 61-7A AA B5 BA C0-D6 D8-F6 F8-2C1 2C6-2D1 2E0-2E4 2EC 2EE 370-374 376-37D 37F-383",
   "386 388-3F5 3F7-481 48A-559 560-588 58B-58C 590 5CA-5F2 5F5-5FF 620-64A 66E-66F 671-6D3",
   "6D5 6E5-6E6 6EE-6EF 6FA-6FC 6FF 70E 710 712-72F 74B-7A5 7B1-7BF 7CA-7EA 7F4-7F5 7FA-7FC",
   "800-815 81A 824 828 82E-82F 83F-858 85C-85D 85F-887 889-88F 892-896 8A0-8C9 904-939 93D",
   "950 958-961 971-980 984-9BB 9BD 9C5-9C6 9C9-9CA 9CE-9D6 9D8-9E1 9E4-9E5 9F0-9F1 9FC",
   "9FF-A00 A04-A3B A3D A43-A46 A49-A4A A4E-A50 A52-A65 A72-A74 A77-A80 A84-ABB ABD AC6 ACA",
   "ACE-AE1 AE4-AE5 AF2-AF9 B00 B04-B3B B3D B45-B46 B49-B4A B4E-B52 B54 B58-B61 B64-B65 B71",
   "B78-B81 B83-BBD BC3-BC5 BC9 BCE-BD6 BD8-BE5 BFB-BFF C05-C3B C3D C45 C49 C4E-C54 C57-C61",
   "C64-C65 C70-C76 C80 C85-CBB CBD CC5 CC9 CCE-CD4 CD7-CE1 CE4-CE5 CF0-CF2 CF4-CFF D04-D3A",
   "D3D D45 D49 D4E D50-D56 D5F-D61 D64-D65 D7A-D80 D84-DC9 DCB-DCE DD5 DD7 DE0-DE5 DF0-DF1",
   "DF5-E30 E32-E33 E3B-E3E E40-E46 E5C-EB0 EB2-EB3 EBD-EC7 ECF EDA-F00 F40-F70 F88-F8C F98",
   "FBD FCD FDB-102A 103F 1050-1055 105A-105D 1061 1065-1066 106E-1070 1075-1081 108E",
   "10A0-10FA 10FC-135C 137D-138F 139A-13FF 1401-166C 166F-167F 1681-169A 169D-16EA",
   "16EE-1711 1716-1731 1737-1751 1754-1771 1774-17B3 17D7 17DC 17DE-17DF 17EA-17EF",
   "17FA-17FF 181A-1884 1887-18A8 18AA-191F 192C-192F 193C-193F 1941-1943 1950-19CF",
   "19DB-19DD 1A00-1A16 1A1C-1A1D 1A20-1A54 1A5F 1A7D-1A7E 1A8A-1A8F 1A9A-1A9F 1AA7",
   "1AAE-1AAF 1AEC-1AFF 1B05-1B33 1B45-1B4D 1B83-1BA0 1BAE-1BAF 1BBA-1BE5 1BF4-1BFB",
   "1C00-1C23 1C38-1C3A 1C4A-1C4F 1C5A-1C7D 1C80-1CBF 1CC8-1CCF 1CE9-1CEC 1CEE-1CF3",
   "1CF5-1CF6 1CFA-1DBF 1E00-1FBC 1FBE 1FC2-1FCC 1FD0-1FDC 1FE0-1FEC 1FF0-1FFC 1FFF 2065",
   "2071-2073 207F 208F-209F 20C2-20CF 20F1-20FF 2102 2107 210A-2113 2115 2119-211D 2124",
   "2126 2128 212A-212D 212F-2139 213C-213F 2145-2149 214E 2160-2188 218C-218F 242A-243F",
   "244B-245F 2B74-2B75 2C00-2CE4 2CEB-2CEE 2CF2-2CF8 2D00-2D6F 2D71-2D7E 2D80-2DDF 2E2F",
   "2E5E-2E7F 2E9A 2EF4-2EFF 2FD6-2FEF 3005-3007 3021-3029 3031-3035 3038-303C 3040-3098",
   "309D-309F 30A1-30FA 30FC-318F 31A0-31BF 31E6-31EE 31F0-31FF 321F 3400-4DBF 4E00-A48F",
   "A4C7-A4FD A500-A60C A610-A61F A62A-A66E A67F-A69D A6A0-A6EF A6F8-A6FF A717-A71F",
   "A722-A788 A78B-A801 A803-A805 A807-A80A A80C-A822 A82D-A82F A83A-A873 A878-A87F",
   "A882-A8B3 A8C6-A8CD A8DA-A8DF A8F2-A8F7 A8FB A8FD-A8FE A90A-A925 A930-A946 A954-A95E",
   "A960-A97F A984-A9B2 A9CE-A9CF A9DA-A9DD A9E0-A9E4 A9E6-A9EF A9FA-AA28 AA37-AA42",
   "AA44-AA4B AA4E-AA4F AA5A-AA5B AA60-AA76 AA7A AA7E-AAAF AAB1 AAB5-AAB6 AAB9-AABD AAC0",
   "AAC2-AADD AAE0-AAEA AAF2-AAF4 AAF7-AB5A AB5C-AB69 AB6C-ABE2 ABEE-ABEF ABFA-D7FF",
   "F900-FB1D FB1F-FB28 FB2A-FBB1 FBD3-FD3D FD50-FD8F FD92-FDC7 FDF0-FDFB FE1A-FE1F FE53",
   "FE67 FE6C-FEFE FF00 FF21-FF3A FF41-FF5A FF66-FFDF FFE7 FFEF-FFF8 10000-100FF 10103-10106",
   "10134-10136 10140-10174 1018F 1019D-1019F 101A1-101CF 101FE-102DF 102FC-1031F",
   "10324-10375 1037B-1039E 103A0-103CF 103D1-1049F 104AA-1056E 10570-10856 10860-10876",
   "10880-108A6 108B0-108FA 10900-10915 1091C-1091E 10920-1093E 10940-109BB 109BE-109BF",
   "109D0-109D1 10A00 10A04 10A07-10A0B 10A10-10A37 10A3B-10A3E 10A49-10A4F 10A59-10A7C",
   "10A80-10A9C 10AA0-10AC7 10AC9-10AE4 10AE7-10AEA 10AF7-10B38 10B40-10B57 10B60-10B77",
   "10B80-10B98 10B9D-10BA8 10BB0-10CF9 10D00-10D23 10D28-10D2F 10D3A-10D3F 10D4A-10D68",
   "10D6F-10D8D 10D90-10E5F 10E7F-10EAA 10EAE-10ECA 10ED9-10EEF 10EF2-10EF9 10F00-10F1C",
   "10F27-10F45 10F5A-10F81 10F8A-10FC4 10FCC-10FFF 11003-11037 1104E-11051 11071-11072",
   "11075-1107E 11083-110AF 110C3-110CC 110CE-110EF 110FA-110FF 11103-11126 11135 11144",
   "11147-11172 11176-1117F 11183-111B2 111C1-111C4 111DA 111DC 111E0 111F5-1122B",
   "1123F-11240 11242-112A8 112AA-112DE 112EB-112EF 112FA-112FF 11304-1133A 1133D",
   "11345-11346 11349-1134A 1134E-11356 11358-11361 11364-11365 1136D-1136F 11375-113B7",
   "113C1 113C3-113C4 113C6 113CB 113D1 113D3 113D6 113D9-113E0 113E3-11434 11447-1144A",
   "1145C 1145F-114AF 114C4-114C5 114C7-114CF 114DA-115AE 115B6-115B7 115D8-115DB",
   "115DE-1162F 11644-1164F 1165A-1165F 1166D-116AA 116B8 116BA-116BF 116CA-116CF",
   "116E4-1171C 1172C-1172F 11740-1182B 1183C-118DF 118F3-1192F 11936 11939-1193A 1193F",
   "11941 11947-1194F 1195A-119D0 119D8-119D9 119E1 119E3 119E5-11A00 11A0B-11A32 11A3A",
   "11A48-11A50 11A5C-11A89 11A9D 11AA3-11AFF 11B0A-11B5F 11B68-11BE0 11BE2-11BEF",
   "11BFA-11C2E 11C37 11C40 11C46-11C4F 11C6D-11C6F 11C72-11C91 11CA8 11CB7-11D30",
   "11D37-11D39 11D3B 11D3E 11D46 11D48-11D4F 11D5A-11D89 11D8F 11D92 11D98-11D9F",
   "11DAA-11DDF 11DEA-11EF2 11EF9-11EFF 11F02 11F04-11F33 11F3B-11F3D 11F5B-11FBF",
   "11FF2-11FFE 12000-1246F 12475-12FF0 12FF3-1342F 13441-13446 13456-1611D 1613A-16A5F",
   "16A6A-16A6D 16A70-16ABF 16ACA-16AEF 16AF6-16B2F 16B40-16B43 16B46-16B4F 16B5A",
   "16B62-16D6C 16D7A-16E7F 16E9B-16F4E 16F50 16F88-16F8E 16F93-16FE1 16FE3 16FE5-16FEF",
   "16FF2-1BC9B 1BCA4-1CBFF 1CCFD-1CCFF 1CEB4-1CEB9 1CED1-1CEDF 1CEF1-1CEFF 1CF2E-1CF2F",
   "1CF47-1CF4F 1CFC4-1CFFF 1D0F6-1D0FF 1D127-1D128 1D1EB-1D1FF 1D246-1D2BF 1D2D4-1D2DF",
   "1D2F4-1D2FF 1D357-1D35F 1D379-1D6C0 1D6C2-1D6DA 1D6DC-1D6FA 1D6FC-1D714 1D716-1D734",
   "1D736-1D74E 1D750-1D76E 1D770-1D788 1D78A-1D7A8 1D7AA-1D7C2 1D7C4-1D7CD 1DA8C-1DA9A",
   "1DAA0 1DAB0-1DFFF 1E007 1E019-1E01A 1E022 1E025 1E02B-1E08E 1E090-1E12F 1E137-1E13F",
   "1E14A-1E14E 1E150-1E2AD 1E2AF-1E2EB 1E2FA-1E2FE 1E300-1E4EB 1E4FA-1E5ED 1E5F0",
   "1E5FB-1E5FE 1E600-1E6E2 1E6E4-1E6E5 1E6E7-1E6ED 1E6F0-1E6F4 1E6F6-1E8C6 1E8D7-1E943",
   "1E94B-1E94F 1E95A-1E95D 1E960-1EC70 1ECB5-1ED00 1ED3E-1EEEF 1EEF2-1EFFF 1F02C-1F02F",
   "1F094-1F09F 1F0AF-1F0B0 1F0C0 1F0D0 1F0F6-1F0FF 1F1AE-1F1E5 1F203-1F20F 1F23C-1F23F",
   "1F249-1F24F 1F252-1F25F 1F266-1F2FF 1F6D9-1F6DB 1F6ED-1F6EF 1F6FD-1F6FF 1F7DA-1F7DF",
   "1F7EC-1F7EF 1F7F1-1F7FF 1F80C-1F80F 1F848-1F84F 1F85A-1F85F 1F888-1F88F 1F8AE-1F8AF",
   "1F8BC-1F8BF 1F8C2-1F8CF 1F8D9-1F8FF 1FA58-1FA5F 1FA6E-1FA6F 1FA7D-1FA7F 1FA8B-1FA8D",
   "1FAC7 1FAC9-1FACC 1FADD-1FADE 1FAEB-1FAEE 1FAF9-1FAFF 1FB93 1FBFB-1FFFD 20000-2FFFD",
   "30000-3FFFD"]

/-- Nonspacing marks, diacritics, decimal digits and connector punctuation, and the later
marks. -/
def identifierMarks : CodeSet := CodeSet.ofLines
  ["30-39 5E-60 A8 AF B4 B7-B8 2B0-36F 374-375 37A 384-385 483-487 559 591-5BD 5BF 5C1-5C2",
   "5C4-5C5 5C7-5C9 610-61A 64B-669 670 6D6-6DC 6DF-6E8 6EA-6ED 6F0-6F9 711 730-74A 7A6-7B0",
   "7C0-7C9 7EB-7F5 7FD 816-819 81B-823 825-827 829-82D 859-85B 897-89F 8C9-8E1 8E3-902 93A",
   "93C 941-948 94D 951-957 962-963 966-96F 971 981 9BC 9C1-9C4 9CD 9E2-9E3 9E6-9EF 9FE",
   "A01-A02 A3C A41-A42 A47-A48 A4B-A4D A51 A66-A71 A75 A81-A82 ABC AC1-AC5 AC7-AC8 ACD",
   "AE2-AE3 AE6-AEF AFA-AFF B01 B3C B3F B41-B44 B4D B53 B55-B56 B62-B63 B66-B6F B82 BC0 BCD",
   "BE6-BEF C00 C04 C3C C3E-C40 C46-C48 C4A-C4D C55-C56 C62-C63 C66-C6F C81 CBC CBF CC6",
   "CCC-CCD CE2-CE3 CE6-CEF D00-D01 D3B-D3C D41-D44 D4D D62-D63 D66-D6F D81 DCA DD2-DD4 DD6",
   "DE6-DEF E31 E34-E3A E47-E4E E50-E59 EB1 EB4-EBC EC8-ECE ED0-ED9 F18-F19 F20-F29 F35 F37",
   "F39 F3E-F3F F71-F7E F80-F84 F86-F87 F8D-F97 F99-FBC FC6 102D-1030 1032-1037 1039-103A",
   "103D-103E 1040-1049 1058-1059 105E-1060 1063-1064 1069-106D 1071-1074 1082 1085-108D",
   "108F-109B 109D 135D-135F 1712-1715 1732-1734 1752-1753 1772-1773 17B4-17B5 17B7-17BD",
   "17C6 17C9-17D3 17DD 17E0-17E9 180B-180D 180F-1819 1885-1886 18A9 1920-1922 1927-1928",
   "1932 1939-193B 1946-194F 19D0-19D9 1A17-1A18 1A1B 1A56 1A58-1A5E 1A60 1A62 1A65-1A6C",
   "1A73-1A7C 1A7F-1A89 1A90-1A99 1AB0-1AEB 1B00-1B03 1B34 1B36-1B3A 1B3C 1B42 1B44",
   "1B50-1B59 1B6B-1B73 1B80-1B81 1BA2-1BA5 1BA8-1BAD 1BB0-1BB9 1BE6 1BE8-1BE9 1BED",
   "1BEF-1BF3 1C2C-1C33 1C36-1C37 1C40-1C49 1C50-1C59 1C78-1C7D 1CD0-1CE8 1CED 1CF4",
   "1CF7-1CF9 1D2C-1D6A 1D9B-1DBE 1DC0-1DFF 1FBD 1FBF-1FC1 1FCD-1FCF 1FDD-1FDF 1FED-1FEF",
   "1FFD-1FFE 203F-2040 2054 20D0-20DC 20E1 20E5-20F0 2CEF-2CF1 2D7F 2DE0-2DFF 2E2F",
   "302A-302F 3099-309C 30FC A620-A629 A66F A674-A67D A67F A69C-A69F A6F0-A6F1 A700-A721",
   "A788-A78A A7F1 A7F8-A7F9 A802 A806 A80B A825-A826 A82C A8C4-A8C5 A8D0-A8D9 A8E0-A8F1",
   "A8FF-A909 A926-A92E A947-A951 A953 A980-A982 A9B3 A9B6-A9B9 A9BC-A9BD A9C0 A9D0-A9D9",
   "A9E5 A9F0-A9F9 AA29-AA2E AA31-AA32 AA35-AA36 AA43 AA4C AA50-AA59 AA7B-AA7D AAB0",
   "AAB2-AAB4 AAB7-AAB8 AABE-AAC2 AAEC-AAED AAF6 AB5B-AB5F AB69-AB6B ABE5 ABE8 ABEC-ABED",
   "ABF0-ABF9 FB1E FE00-FE0F FE20-FE2F FE33-FE34 FE4D-FE4F FF10-FF19 FF3E-FF40 FF70",
   "FF9E-FF9F FFE3 101FD 102E0 10376-1037A 104A0-104A9 10780-10785 10787-107B0 107B2-107BA",
   "10A01-10A03 10A05-10A06 10A0C-10A0F 10A38-10A3A 10A3F 10AE5-10AE6 10D22-10D27",
   "10D30-10D39 10D40-10D49 10D4E 10D69-10D6D 10EAB-10EAC 10ECB-10ECF 10EF0-10EF1",
   "10EFA-10EFF 10F46-10F50 10F82-10F85 11001 11038-11046 11066-11070 11073-11074",
   "1107F-11081 110B3-110B6 110B9-110BA 110C2 110F0-110F9 11100-11102 11127-1112B",
   "1112D-11134 11136-1113F 11173 11180-11181 111B6-111BE 111C0 111C9-111CC 111CF-111D9",
   "1122F-11231 11234-11237 1123E 11241 112DF 112E3-112EA 112F0-112F9 11300-11301",
   "1133B-1133C 11340 1134D 11366-1136C 11370-11374 113BB-113C0 113CE-113D0 113D2-113D3",
   "113E1-113E2 11438-1143F 11442-11444 11446 11450-11459 1145E 114B3-114B8 114BA",
   "114BF-114C0 114C2-114C3 114D0-114D9 115B2-115B5 115BC-115BD 115BF-115C0 115DC-115DD",
   "11633-1163A 1163D 1163F-11640 11650-11659 116AB 116AD 116B0-116B7 116C0-116C9",
   "116D0-116E3 1171D 1171F 11722-11725 11727-1172B 11730-11739 1182F-11837 11839-1183A",
   "118E0-118E9 1193B-1193E 11943 11950-11959 119D4-119D7 119DA-119DB 119E0 11A01-11A0A",
   "11A33-11A38 11A3B-11A3E 11A47 11A51-11A56 11A59-11A5B 11A8A-11A96 11A98-11A99 11B60",
   "11B62-11B64 11B66 11BF0-11BF9 11C30-11C36 11C38-11C3D 11C3F 11C50-11C59 11C92-11CA7",
   "11CAA-11CB0 11CB2-11CB3 11CB5-11CB6 11D31-11D36 11D3A 11D3C-11D3D 11D3F-11D45 11D47",
   "11D50-11D59 11D90-11D91 11D95 11D97 11DA0-11DA9 11DD9 11DE0-11DE9 11EF3-11EF4",
   "11F00-11F01 11F36-11F3A 11F40-11F42 11F50-11F5A 13440 13447-13455 1611E-16129",
   "1612D-16139 16A60-16A69 16AC0-16AC9 16AF0-16AF4 16B30-16B36 16B50-16B59 16D6B-16D6C",
   "16D70-16D79 16F4F 16F8F-16F9F 16FE4 16FF0-16FF1 1AFF0-1AFF3 1AFF5-1AFFB 1AFFD-1AFFE",
   "1BC9D-1BC9E 1CCF0-1CCF9 1CF00-1CF2D 1CF30-1CF46 1D167-1D169 1D16D-1D172 1D17B-1D182",
   "1D185-1D18B 1D1AA-1D1AD 1D242-1D244 1D7CE-1D7FF 1DA00-1DA36 1DA3B-1DA6C 1DA75 1DA84",
   "1DA9B-1DA9F 1DAA1-1DAAF 1E000-1E006 1E008-1E018 1E01B-1E021 1E023-1E024 1E026-1E02A",
   "1E030-1E06D 1E08F 1E130-1E136 1E140-1E149 1E2AE 1E2EC-1E2F9 1E4EC-1E4F9 1E5EE-1E5EF",
   "1E5F1-1E5FA 1E6E3 1E6E6 1E6EE-1E6EF 1E6F5 1E8D0-1E8D6 1E944-1E94A 1E950-1E959",
   "1FBF0-1FBF9 E0100-E01EF"]

def spaceSeparators : CodeSet := CodeSet.ofText "20 A0 1680 2000-200A 202F 205F 3000"

/-- Marks: `Mn`, `Mc` and `Me`, and the later marks. -/
def marks : CodeSet := CodeSet.ofLines
  ["300-36F 483-489 591-5BD 5BF 5C1-5C2 5C4-5C5 5C7-5C9 610-61A 64B-65F 670 6D6-6DC 6DF-6E4",
   "6E7-6E8 6EA-6ED 711 730-74A 7A6-7B0 7EB-7F3 7FD 816-819 81B-823 825-827 829-82D 859-85B",
   "897-89F 8CA-8E1 8E3-903 93A-93C 93E-94F 951-957 962-963 981-983 9BC 9BE-9C4 9C7-9C8",
   "9CB-9CD 9D7 9E2-9E3 9FE A01-A03 A3C A3E-A42 A47-A48 A4B-A4D A51 A70-A71 A75 A81-A83 ABC",
   "ABE-AC5 AC7-AC9 ACB-ACD AE2-AE3 AFA-AFF B01-B03 B3C B3E-B44 B47-B48 B4B-B4D B53 B55-B57",
   "B62-B63 B82 BBE-BC2 BC6-BC8 BCA-BCD BD7 C00-C04 C3C C3E-C44 C46-C48 C4A-C4D C55-C56",
   "C62-C63 C81-C83 CBC CBE-CC4 CC6-CC8 CCA-CCD CD5-CD6 CE2-CE3 CF3 D00-D03 D3B-D3C D3E-D44",
   "D46-D48 D4A-D4D D57 D62-D63 D81-D83 DCA DCF-DD4 DD6 DD8-DDF DF2-DF3 E31 E34-E3A E47-E4E",
   "EB1 EB4-EBC EC8-ECE F18-F19 F35 F37 F39 F3E-F3F F71-F84 F86-F87 F8D-F97 F99-FBC FC6",
   "102B-103E 1056-1059 105E-1060 1062-1064 1067-106D 1071-1074 1082-108D 108F 109A-109D",
   "135D-135F 1712-1715 1732-1734 1752-1753 1772-1773 17B4-17D3 17DD 180B-180D 180F",
   "1885-1886 18A9 1920-192B 1930-193B 1A17-1A1B 1A55-1A5E 1A60-1A7C 1A7F 1AB0-1AEB",
   "1B00-1B04 1B34-1B44 1B6B-1B73 1B80-1B82 1BA1-1BAD 1BE6-1BF3 1C24-1C37 1CD0-1CD2",
   "1CD4-1CE8 1CED 1CF4 1CF7-1CF9 1DC0-1DFF 20D0-20F0 2CEF-2CF1 2D7F 2DE0-2DFF 302A-302F",
   "3099-309A A66F-A672 A674-A67D A69E-A69F A6F0-A6F1 A802 A806 A80B A823-A827 A82C",
   "A880-A881 A8B4-A8C5 A8E0-A8F1 A8FF A926-A92D A947-A953 A980-A983 A9B3-A9C0 A9E5",
   "AA29-AA36 AA43 AA4C-AA4D AA7B-AA7D AAB0 AAB2-AAB4 AAB7-AAB8 AABE-AABF AAC1 AAEB-AAEF",
   "AAF5-AAF6 ABE3-ABEA ABEC-ABED FB1E FE00-FE0F FE20-FE2F 101FD 102E0 10376-1037A",
   "10A01-10A03 10A05-10A06 10A0C-10A0F 10A38-10A3A 10A3F 10AE5-10AE6 10D24-10D27",
   "10D69-10D6D 10EAB-10EAC 10ECB-10ECF 10EF0-10EF1 10EFA-10EFF 10F46-10F50 10F82-10F85",
   "11000-11002 11038-11046 11070 11073-11074 1107F-11082 110B0-110BA 110C2 11100-11102",
   "11127-11134 11145-11146 11173 11180-11182 111B3-111C0 111C9-111CC 111CE-111CF",
   "1122C-11237 1123E 11241 112DF-112EA 11300-11303 1133B-1133C 1133E-11344 11347-11348",
   "1134B-1134D 11357 11362-11363 11366-1136C 11370-11374 113B8-113C0 113C2 113C5",
   "113C7-113CA 113CC-113D0 113D2 113E1-113E2 11435-11446 1145E 114B0-114C3 115AF-115B5",
   "115B8-115C0 115DC-115DD 11630-11640 116AB-116B7 1171D-1172B 1182C-1183A 11930-11935",
   "11937-11938 1193B-1193E 11940 11942-11943 119D1-119D7 119DA-119E0 119E4 11A01-11A0A",
   "11A33-11A39 11A3B-11A3E 11A47 11A51-11A5B 11A8A-11A99 11B60-11B67 11C2F-11C36",
   "11C38-11C3F 11C92-11CA7 11CA9-11CB6 11D31-11D36 11D3A 11D3C-11D3D 11D3F-11D45 11D47",
   "11D8A-11D8E 11D90-11D91 11D93-11D97 11EF3-11EF6 11F00-11F01 11F03 11F34-11F3A",
   "11F3E-11F42 11F5A 13440 13447-13455 1611E-1612F 16AF0-16AF4 16B30-16B36 16F4F",
   "16F51-16F87 16F8F-16F92 16FE4 16FF0-16FF1 1BC9D-1BC9E 1CF00-1CF2D 1CF30-1CF46",
   "1D165-1D169 1D16D-1D172 1D17B-1D182 1D185-1D18B 1D1AA-1D1AD 1D242-1D244 1DA00-1DA36",
   "1DA3B-1DA6C 1DA75 1DA84 1DA9B-1DA9F 1DAA1-1DAAF 1E000-1E006 1E008-1E018 1E01B-1E021",
   "1E023-1E024 1E026-1E02A 1E08F 1E130-1E136 1E2AE 1E2EC-1E2EF 1E4EC-1E4EF 1E5EE-1E5EF",
   "1E6E3 1E6E6 1E6EE-1E6EF 1E6F5 1E8D0-1E8D6 1E944-1E94A E0100-E01EF"]

end VoiceSession.Text.Category
