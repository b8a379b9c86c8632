import VoiceSession.Text.CodeSet
/-!
# The IDNA mapping table

Before a domain name is checked and encoded, each of its characters is looked up in the IDNA
mapping table of Unicode 17.0, extended to a newer version as described below. A character is
-/

namespace VoiceSession.Net.Idna

open Text

inductive Status where
  | valid
  | mapped (targets : List Nat)
  | ignored
  | disallowed
  deriving DecidableEq, Repr, Inhabited

/-- The kind of a row of the table. -/
inductive RowKind where
  | valid
  | disallowed
  | ignored
  | mapped (targets : List Nat)
  | shifted (distance : Int)
  | alternating (distance : Int)
  deriving Inhabited

structure Row where
  start : Nat
  kind : RowKind
  deriving Inhabited

def readDistance (s : String) : Int :=
  if s.startsWith "-" then -(readHex (s.drop 1).toString : Int) else readHex s

/-- Reads a row from its text form. -/
def Row.ofText (w : String) : Row :=
  let start := String.ofList (w.toList.takeWhile fun c => !('a' ≤ c && c ≤ 'z'))
  let rest := w.toList.drop start.length
  let arg := String.ofList (rest.drop 1)
  let kind : RowKind := match rest.head? with
    | some 'v' => .valid
    | some 'i' => .ignored
    | some 'm' => .mapped ((arg.splitOn ".").map readHex)
    | some 's' => .shifted (readDistance arg)
    | some 'a' => .alternating (readDistance arg)
    | _ => .disallowed
  { start := readHex start, kind := kind }

/-- The rows of the table, by increasing first code point. -/
def rows : Array Row := ((List.flatMap words
  ["0v 41s20 5Bv 80x A0m20 A1v A8m20.308 A9v AAm61 ABv ADi AEv AFm20.304 B0v B2s-80",
   "B4m20.301 B5m3BC B6v B8m20.327 B9m31 BAm6F BBv BCm31.2044.34 BDm31.2044.32 BEm33.2044.34",
   "BFv C0s20 D7v D8s20 DFv 100a1 12Fv 130m69.307 131v 132m69.6A 134a1 137v 139a1 13Ev",
   "13Fm6C.B7 141a1 148v 149m2BC.6E 14Aa1 177v 178mFF 179a1 17Ev 17Fm73 180v 181m253 182a1",
   "185v 186m254 187m188 188v 189sCD 18Bm18C 18Cv 18Em1DD 18Fm259 190m25B 191m192 192v",
   "193m260 194m263 195v 196m269 197m268 198m199 199v 19Cm26F 19Dm272 19Ev 19Fm275 1A0a1",
   "1A5v 1A6m280 1A7m1A8 1A8v 1A9m283 1AAv 1ACm1AD 1ADv 1AEm288 1AFm1B0 1B0v 1B1sD9 1B3a1",
   "1B6v 1B7m292 1B8m1B9 1B9v 1BCm1BD 1BDv 1C4m64.17E 1C7m6C.6A 1CAm6E.6A 1CDa1 1DCv 1DEa1",
   "1EFv 1F1m64.7A 1F4m1F5 1F5v 1F6m195 1F7m1BF 1F8a1 21Fv 220m19E 221v 222a1 233v 23Am2C65",
   "23Bm23C 23Cv 23Dm19A 23Em2C66 23Fv 241m242 242v 243m180 244m289 245m28C 246a1 24Fv",
   "2B0m68 2B1m266 2B2m6A 2B3m72 2B4m279 2B5m27B 2B6m281 2B7m77 2B8m79 2B9v 2D8m20.306",
   "2D9m20.307 2DAm20.30A 2DBm20.328 2DCm20.303 2DDm20.30B 2DEv 2E0m263 2E1m6C 2E2m73 2E3m78",
   "2E4m295 2E5v 340s-40 342v 343m313 344m308.301 345m3B9 346v 34Fi 350v 370a1 373v 374m2B9",
   "375v 376m377 377v 37Am20.3B9 37Bv 37Em3B 37Fm3F3 380v 384m20.301 385m20.308.301 386m3AC",
   "387mB7 388s25 38Bv 38Cm3CC 38Dv 38Es3F 390v 391s20 3A2v 3A3s20 3ACv 3CFm3D7 3D0m3B2",
   "3D1m3B8 3D2m3C5 3D3m3CD 3D4m3CB 3D5m3C6 3D6m3C0 3D7v 3D8a1 3EFv 3F0m3BA 3F1m3C1 3F2m3C3",
   "3F3v 3F4m3B8 3F5m3B5 3F6v 3F7m3F8 3F8v 3F9m3C3 3FAm3FB 3FBv 3FDs-82 400s50 410s20 430v",
   "460a1 481v 48Aa1 4BFv 4C0m4CF 4C1a1 4CEv 4D0a1 52Fv 531s30 557v 558m567 559v 587m565.582",
   "588v 58Cm575 58Dv 600x 606v 61Cx 61Dv 675m627.674 676m648.674 677m6C7.674 678m64A.674",
   "679v 6DDx 6DEv 70Fx 710v 890x 892v 8E2x 8E3v 958m915.93C 959m916.93C 95Am917.93C",
   "95Bm91C.93C 95Cm921.93C 95Dm922.93C 95Em92B.93C 95Fm92F.93C 960v 9DCm9A1.9BC 9DDm9A2.9BC",
   "9DEv 9DFm9AF.9BC 9E0v A33mA32.A3C A34v A36mA38.A3C A37v A59mA16.A3C A5AmA17.A3C",
   "A5BmA1C.A3C A5Cv A5EmA2B.A3C A5Fv B5CmB21.B3C B5DmB22.B3C B5Ev E33mE4D.E32 E34v",
   "EB3mECD.EB2 EB4v EDCmEAB.E99 EDDmEAB.EA1 EDEv F0CmF0B F0Dv F43mF42.FB7 F44v F4DmF4C.FB7",
   "F4Ev F52mF51.FB7 F53v F57mF56.FB7 F58v F5CmF5B.FB7 F5Dv F69mF40.FB5 F6Av F73mF71.F72",
   "F74v F75mF71.F74 F76mFB2.F80 F77mFB2.F71.F80 F78mFB3.F80 F79mFB3.F71.F80 F7Av",
   "F81mF71.F80 F82v F93mF92.FB7 F94v F9DmF9C.FB7 F9Ev FA2mFA1.FB7 FA3v FA7mFA6.FB7 FA8v",
   "FACmFAB.FB7 FADv FB9mF90.FB5 FBAv 10A0s1C60 10C6v 10C7m2D27 10C8v 10CDm2D2D 10CEv",
   "10FCm10DC 10FDv 115Fi 1161v 13F8s-8 13FEv 1680x 1681v 17B4i 17B6v 180Bi 1810v 1C80m432",
   "1C81m434 1C82m43E 1C83m441 1C84m442 1C86m44A 1C87m463 1C88mA64B 1C89m1C8A 1C8Av",
   "1C90s-BC0 1CBBv 1CBDs-BC0 1CC0v 1D2Cm61 1D2DmE6 1D2Ea-1CCC 1D31m65 1D32m1DD 1D33s-1CCC",
   "1D3Bv 1D3Cm6F 1D3Dm223 1D3Em70 1D3Fm72 1D40s-1CCC 1D42m77 1D43m61 1D44s-1AF4 1D46m1D02",
   "1D47m62 1D48s-1CE4 1D4Am259 1D4Bs-1AF0 1D4Dm67 1D4Ev 1D4Fm6B 1D50m6D 1D51m14B 1D52m6F",
   "1D53m254 1D54s-3E 1D56m70 1D57s-1CE3 1D59m1D1D 1D5Am26F 1D5Bm76 1D5Cm1D25 1D5Ds-19AB",
   "1D60s-199A 1D62m69 1D63m72 1D64s-1CEF 1D66s-19B4 1D68m3C1 1D69s-19A3 1D6Bv 1D78m43D",
   "1D79v 1D9Bm252 1D9Cm63 1D9Dm255 1D9EmF0 1D9Fm25C 1DA0m66 1DA1m25F 1DA2m261 1DA3m265",
   "1DA4s-1B3C 1DA7m1D7B 1DA8m29D 1DA9m26D 1DAAm1D85 1DABm29F 1DACm271 1DADm270 1DAEs-1B3C",
   "1DB2m278 1DB3s-1B31 1DB5m1AB 1DB6s-1B2D 1DB8m1D1C 1DB9s-1B2E 1DBBm7A 1DBCs-1B2C 1DBFm3B8",
   "1DC0v 1E00a1 1E95v 1E9Am61.2BE 1E9Bm1E61 1E9Cv 1E9EmDF 1E9Fv 1EA0a1 1EFFv 1F08s-8 1F10v",
   "1F18s-8 1F1Ev 1F28s-8 1F30v 1F38s-8 1F40v 1F48s-8 1F4Ev 1F59a-8 1F60v 1F68s-8 1F70v",
   "1F71m3AC 1F72v 1F73m3AD 1F74v 1F75m3AE 1F76v 1F77m3AF 1F78v 1F79m3CC 1F7Av 1F7Bm3CD",
   "1F7Cv 1F7Dm3CE 1F7Ev 1F80m1F00.3B9 1F81m1F01.3B9 1F82m1F02.3B9 1F83m1F03.3B9",
   "1F84m1F04.3B9 1F85m1F05.3B9 1F86m1F06.3B9 1F87m1F07.3B9 1F88m1F00.3B9 1F89m1F01.3B9",
   "1F8Am1F02.3B9 1F8Bm1F03.3B9 1F8Cm1F04.3B9 1F8Dm1F05.3B9 1F8Em1F06.3B9 1F8Fm1F07.3B9",
   "1F90m1F20.3B9 1F91m1F21.3B9 1F92m1F22.3B9 1F93m1F23.3B9 1F94m1F24.3B9 1F95m1F25.3B9",
   "1F96m1F26.3B9 1F97m1F27.3B9 1F98m1F20.3B9 1F99m1F21.3B9 1F9Am1F22.3B9 1F9Bm1F23.3B9",
   "1F9Cm1F24.3B9 1F9Dm1F25.3B9 1F9Em1F26.3B9 1F9Fm1F27.3B9 1FA0m1F60.3B9 1FA1m1F61.3B9",
   "1FA2m1F62.3B9 1FA3m1F63.3B9 1FA4m1F64.3B9 1FA5m1F65.3B9 1FA6m1F66.3B9 1FA7m1F67.3B9",
   "1FA8m1F60.3B9 1FA9m1F61.3B9 1FAAm1F62.3B9 1FABm1F63.3B9 1FACm1F64.3B9 1FADm1F65.3B9",
   "1FAEm1F66.3B9 1FAFm1F67.3B9 1FB0v 1FB2m1F70.3B9 1FB3m3B1.3B9 1FB4m3AC.3B9 1FB5v",
   "1FB7m1FB6.3B9 1FB8s-8 1FBAm1F70 1FBBm3AC 1FBCm3B1.3B9 1FBDm20.313 1FBEm3B9 1FBFm20.313",
   "1FC0m20.342 1FC1m20.308.342 1FC2m1F74.3B9 1FC3m3B7.3B9 1FC4m3AE.3B9 1FC5v 1FC7m1FC6.3B9",
   "1FC8m1F72 1FC9m3AD 1FCAm1F74 1FCBm3AE 1FCCm3B7.3B9 1FCDm20.313.300 1FCEm20.313.301",
   "1FCFm20.313.342 1FD0v 1FD3m390 1FD4v 1FD8s-8 1FDAm1F76 1FDBm3AF 1FDCv 1FDDm20.314.300",
   "1FDEm20.314.301 1FDFm20.314.342 1FE0v 1FE3m3B0 1FE4v 1FE8s-8 1FEAm1F7A 1FEBm3CD",
   "1FECm1FE5 1FEDm20.308.300 1FEEm20.308.301 1FEFm60 1FF0v 1FF2m1F7C.3B9 1FF3m3C9.3B9",
   "1FF4m3CE.3B9 1FF5v 1FF7m1FF6.3B9 1FF8m1F78 1FF9m3CC 1FFAm1F7C 1FFBm3CE 1FFCm3C9.3B9",
   "1FFDm20.301 1FFEm20.314 1FFFv 2000m20 200Bi 200Cv 200Ex 2010v 2011m2010 2012v",
   "2017m20.333 2018v 2024x 2027v 2028x 202Fm20 2030v 2033m2032.2032 2034m2032.2032.2032",
   "2035v 2036m2035.2035 2037m2035.2035.2035 2038v 203Cm21.21 203Dv 203Em20.305 203Fv",
   "2047m3F.3F 2048m3F.21 2049m21.3F 204Av 2057m2032.2032.2032.2032 2058v 205Fm20 2060i",
   "2065v 2066x 206Ai 2070m30 2071m69 2072v 2074s-2040 207Am2B 207Bm2212 207Cm3D 207Ds-2055",
   "207Fm6E 2080s-2050 208Am2B 208Bm2212 208Cm3D 208Ds-2065 208Fv 2090m61 2091m65 2092m6F",
   "2093m78 2094m259 2095m68 2096s-202B 209Am70 209Bs-2028 209Dm77 209Em79 209Fv 20A8m72.73",
   "20A9v 2100m61.2F.63 2101m61.2F.73 2102m63 2103mB0.63 2104v 2105m63.2F.6F 2106m63.2F.75",
   "2107m25B 2108v 2109mB0.66 210Am67 210Bm68 210Fm127 2110m69 2112m6C 2114v 2115m6E",
   "2116m6E.6F 2117v 2119s-20A9 211Bm72 211Ev 2120m73.6D 2121m74.65.6C 2122m74.6D 2123v",
   "2124m7A 2125v 2126m3C9 2127v 2128m7A 2129v 212Am6B 212BmE5 212Cs-20CA 212Ev 212Fm65",
   "2131m66 2132m214E 2133m6D 2134m6F 2135s-1B65 2139m69 213Av 213Bm66.61.78 213Cm3C0",
   "213Dm3B3 213Fm3C0 2140m2211 2141v 2145m64 2147m65 2148s-20DF 214Av 2150m31.2044.37",
   "2151m31.2044.39 2152m31.2044.31.30 2153m31.2044.33 2154m32.2044.33 2155m31.2044.35",
   "2156m32.2044.35 2157m33.2044.35 2158m34.2044.35 2159m31.2044.36 215Am35.2044.36",
   "215Bm31.2044.38 215Cm33.2044.38 215Dm35.2044.38 215Em37.2044.38 215Fm31.2044 2160m69",
   "2161m69.69 2162m69.69.69 2163m69.76 2164m76 2165m76.69 2166m76.69.69 2167m76.69.69.69",
   "2168m69.78 2169m78 216Am78.69 216Bm78.69.69 216Cm6C 216Ds-210A 216Fm6D 2170m69",
   "2171m69.69 2172m69.69.69 2173m69.76 2174m76 2175m76.69 2176m76.69.69 2177m76.69.69.69",
   "2178m69.78 2179m78 217Am78.69 217Bm78.69.69 217Cm6C 217Ds-211A 217Fm6D 2180v 2183m2184",
   "2184v 2189m30.2044.33 218Av 222Cm222B.222B 222Dm222B.222B.222B 222Ev 222Fm222E.222E",
   "2230m222E.222E.222E 2231v 2329sCDF 232Bv 2460s-242F 2469m31.30 246Am31.31 246Bm31.32",
   "246Cm31.33 246Dm31.34 246Em31.35 246Fm31.36 2470m31.37 2471m31.38 2472m31.39 2473m32.30",
   "2474m28.31.29 2475m28.32.29 2476m28.33.29 2477m28.34.29 2478m28.35.29 2479m28.36.29",
   "247Am28.37.29 247Bm28.38.29 247Cm28.39.29 247Dm28.31.30.29 247Em28.31.31.29",
   "247Fm28.31.32.29 2480m28.31.33.29 2481m28.31.34.29 2482m28.31.35.29 2483m28.31.36.29",
   "2484m28.31.37.29 2485m28.31.38.29 2486m28.31.39.29 2487m28.32.30.29 2488x 249Cm28.61.29",
   "249Dm28.62.29 249Em28.63.29 249Fm28.64.29 24A0m28.65.29 24A1m28.66.29 24A2m28.67.29",
   "24A3m28.68.29 24A4m28.69.29 24A5m28.6A.29 24A6m28.6B.29 24A7m28.6C.29 24A8m28.6D.29",
   "24A9m28.6E.29 24AAm28.6F.29 24ABm28.70.29 24ACm28.71.29 24ADm28.72.29 24AEm28.73.29",
   "24AFm28.74.29 24B0m28.75.29 24B1m28.76.29 24B2m28.77.29 24B3m28.78.29 24B4m28.79.29",
   "24B5m28.7A.29 24B6s-2455 24D0s-246F 24EAm30 24EBv 2A0Cm222B.222B.222B.222B 2A0Dv",
   "2A74m3A.3A.3D 2A75m3D.3D 2A76m3D.3D.3D 2A77v 2ADCm2ADD.338 2ADDv 2C00s30 2C30v 2C60m2C61",
   "2C61v 2C62m26B 2C63m1D7D 2C64m27D 2C65v 2C67a1 2C6Cv 2C6Dm251 2C6Em271 2C6Fm250 2C70m252",
   "2C71v 2C72m2C73 2C73v 2C75m2C76 2C76v 2C7Cm6A 2C7Dm76 2C7Es-2A3F 2C80a1 2CE3v 2CEBa1",
   "2CEEv 2CF2m2CF3 2CF3v 2D6Fm2D61 2D70v 2E9Fm6BCD 2EA0v 2EF3m9F9F 2EF4v 2F00m4E00",
   "2F01m4E28 2F02m4E36 2F03m4E3F 2F04m4E59 2F05m4E85 2F06m4E8C 2F07m4EA0 2F08m4EBA",
   "2F09m513F 2F0Am5165 2F0Bm516B 2F0Cm5182 2F0Dm5196 2F0Em51AB 2F0Fm51E0 2F10m51F5",
   "2F11m5200 2F12m529B 2F13m52F9 2F14m5315 2F15m531A 2F16m5338 2F17m5341 2F18m535C",
   "2F19m5369 2F1Am5382 2F1Bm53B6 2F1Cm53C8 2F1Dm53E3 2F1Em56D7 2F1Fm571F 2F20m58EB",
   "2F21m5902 2F22m590A 2F23m5915 2F24m5927 2F25m5973 2F26m5B50 2F27m5B80 2F28m5BF8",
   "2F29m5C0F 2F2Am5C22 2F2Bm5C38 2F2Cm5C6E 2F2Dm5C71 2F2Em5DDB 2F2Fm5DE5 2F30m5DF1",
   "2F31m5DFE 2F32m5E72 2F33m5E7A 2F34m5E7F 2F35m5EF4 2F36m5EFE 2F37m5F0B 2F38m5F13",
   "2F39m5F50 2F3Am5F61 2F3Bm5F73 2F3Cm5FC3 2F3Dm6208 2F3Em6236 2F3Fm624B 2F40m652F",
   "2F41m6534 2F42m6587 2F43m6597 2F44m65A4 2F45m65B9 2F46m65E0 2F47m65E5 2F48m66F0",
   "2F49m6708 2F4Am6728 2F4Bm6B20 2F4Cm6B62 2F4Dm6B79 2F4Em6BB3 2F4Fm6BCB 2F50m6BD4",
   "2F51m6BDB 2F52m6C0F 2F53m6C14 2F54m6C34 2F55m706B 2F56m722A 2F57m7236 2F58m723B",
   "2F59m723F 2F5Am7247 2F5Bm7259 2F5Cm725B 2F5Dm72AC 2F5Em7384 2F5Fm7389 2F60m74DC",
   "2F61m74E6 2F62m7518 2F63m751F 2F64m7528 2F65m7530 2F66m758B 2F67m7592 2F68m7676",
   "2F69m767D 2F6Am76AE 2F6Bm76BF 2F6Cm76EE 2F6Dm77DB 2F6Em77E2 2F6Fm77F3 2F70m793A",
   "2F71m79B8 2F72m79BE 2F73m7A74 2F74m7ACB 2F75m7AF9 2F76m7C73 2F77m7CF8 2F78m7F36",
   "2F79m7F51 2F7Am7F8A 2F7Bm7FBD 2F7Cm8001 2F7Dm800C 2F7Em8012 2F7Fm8033 2F80m807F",
   "2F81m8089 2F82m81E3 2F83m81EA 2F84m81F3 2F85m81FC 2F86m820C 2F87m821B 2F88m821F",
   "2F89m826E 2F8Am8272 2F8Bm8278 2F8Cm864D 2F8Dm866B 2F8Em8840 2F8Fm884C 2F90m8863",
   "2F91m897E 2F92m898B 2F93m89D2 2F94m8A00 2F95m8C37 2F96m8C46 2F97m8C55 2F98m8C78",
   "2F99m8C9D 2F9Am8D64 2F9Bm8D70 2F9Cm8DB3 2F9Dm8EAB 2F9Em8ECA 2F9Fm8F9B 2FA0m8FB0",
   "2FA1m8FB5 2FA2m9091 2FA3m9149 2FA4m91C6 2FA5m91CC 2FA6m91D1 2FA7m9577 2FA8m9580",
   "2FA9m961C 2FAAm96B6 2FABm96B9 2FACm96E8 2FADm9751 2FAEm975E 2FAFm9762 2FB0m9769",
   "2FB1m97CB 2FB2m97ED 2FB3m97F3 2FB4m9801 2FB5m98A8 2FB6m98DB 2FB7m98DF 2FB8m9996",
   "2FB9m9999 2FBAm99AC 2FBBm9AA8 2FBCm9AD8 2FBDm9ADF 2FBEm9B25 2FBFm9B2F 2FC0m9B32",
   "2FC1m9B3C 2FC2m9B5A 2FC3m9CE5 2FC4m9E75 2FC5m9E7F 2FC6m9EA5 2FC7m9EBB 2FC8m9EC3",
   "2FC9m9ECD 2FCAm9ED1 2FCBm9EF9 2FCCm9EFD 2FCDm9F0E 2FCEm9F13 2FCFm9F20 2FD0m9F3B",
   "2FD1m9F4A 2FD2m9F52 2FD3m9F8D 2FD4m9F9C 2FD5m9FA0 2FD6v 2FF0x 3000m20 3001v 3002m2E",
   "3003v 3036m3012 3037v 3038m5341 3039s230B 303Bv 309Bm20.3099 309Cm20.309A 309Dv",
   "309Fm3088.308A 30A0v 30FFm30B3.30C8 3100v 3131s-2031 3133m11AA 3134m1102 3135s-1F89",
   "3137s-2034 313As-1F8A 3140m111A 3141s-203B 3144m1121 3145s-203C 314Fs-1FEE 3164i",
   "3165s-2051 3167s-1FA0 3169m11CC 316Am11CE 316Bm11D3 316Cm11D7 316Dm11D9 316Em111C",
   "316Fm11DD 3170m11DF 3171s-2054 3173m1120 3174s-2052 3176m1127 3177m1129 3178s-204D",
   "317Dm1132 317Em1136 317Fm1140 3180m1147 3181m114C 3182s-1F91 3184s-202D 3187s-2003",
   "3189m1188 318As-1FF9 318Cm1194 318Dm119E 318Em11A1 318Fv 3192m4E00 3193m4E8C 3194m4E09",
   "3195m56DB 3196m4E0A 3197m4E2D 3198m4E0B 3199m7532 319Am4E59 319Bm4E19 319Cm4E01",
   "319Dm5929 319Em5730 319Fm4EBA 31A0v 31EFx 31F0v 3200m28.1100.29 3201m28.1102.29",
   "3202m28.1103.29 3203m28.1105.29 3204m28.1106.29 3205m28.1107.29 3206m28.1109.29",
   "3207m28.110B.29 3208m28.110C.29 3209m28.110E.29 320Am28.110F.29 320Bm28.1110.29",
   "320Cm28.1111.29 320Dm28.1112.29 320Em28.AC00.29 320Fm28.B098.29 3210m28.B2E4.29",
   "3211m28.B77C.29 3212m28.B9C8.29 3213m28.BC14.29 3214m28.C0AC.29 3215m28.C544.29",
   "3216m28.C790.29 3217m28.CC28.29 3218m28.CE74.29 3219m28.D0C0.29 321Am28.D30C.29",
   "321Bm28.D558.29 321Cm28.C8FC.29 321Dm28.C624.C804.29 321Em28.C624.D6C4.29 321Fv",
   "3220m28.4E00.29 3221m28.4E8C.29 3222m28.4E09.29 3223m28.56DB.29 3224m28.4E94.29",
   "3225m28.516D.29 3226m28.4E03.29 3227m28.516B.29 3228m28.4E5D.29 3229m28.5341.29",
   "322Am28.6708.29 322Bm28.706B.29 322Cm28.6C34.29 322Dm28.6728.29 322Em28.91D1.29",
   "322Fm28.571F.29 3230m28.65E5.29 3231m28.682A.29 3232m28.6709.29 3233m28.793E.29",
   "3234m28.540D.29 3235m28.7279.29 3236m28.8CA1.29 3237m28.795D.29 3238m28.52B4.29",
   "3239m28.4EE3.29 323Am28.547C.29 323Bm28.5B66.29 323Cm28.76E3.29 323Dm28.4F01.29",
   "323Em28.8CC7.29 323Fm28.5354.29 3240m28.796D.29 3241m28.4F11.29 3242m28.81EA.29",
   "3243m28.81F3.29 3244m554F 3245m5E7C 3246m6587 3247m7B8F 3248v 3250m70.74.65 3251m32.31",
   "3252m32.32 3253m32.33 3254m32.34 3255m32.35 3256m32.36 3257m32.37 3258m32.38 3259m32.39",
   "325Am33.30 325Bm33.31 325Cm33.32 325Dm33.33 325Em33.34 325Fm33.35 3260m1100 3261s-215F",
   "3263s-215E 3266m1109 3267s-215C 3269s-215B 326EmAC00 326FmB098 3270mB2E4 3271mB77C",
   "3272mB9C8 3273mBC14 3274mC0AC 3275mC544 3276mC790 3277mCC28 3278mCE74 3279mD0C0",
   "327AmD30C 327BmD558 327CmCC38.ACE0 327DmC8FC.C758 327EmC6B0 327Fv 3280m4E00 3281m4E8C",
   "3282m4E09 3283m56DB 3284m4E94 3285m516D 3286m4E03 3287m516B 3288m4E5D 3289m5341",
   "328Am6708 328Bm706B 328Cm6C34 328Dm6728 328Em91D1 328Fm571F 3290m65E5 3291m682A",
   "3292m6709 3293m793E 3294m540D 3295m7279 3296m8CA1 3297m795D 3298m52B4 3299m79D8",
   "329Am7537 329Bm5973 329Cm9069 329Dm512A 329Em5370 329Fm6CE8 32A0m9805 32A1m4F11",
   "32A2m5199 32A3m6B63 32A4m4E0A 32A5m4E2D 32A6m4E0B 32A7m5DE6 32A8m53F3 32A9m533B",
   "32AAm5B97 32ABm5B66 32ACm76E3 32ADm4F01 32AEm8CC7 32AFm5354 32B0m591C 32B1m33.36",
   "32B2m33.37 32B3m33.38 32B4m33.39 32B5m34.30 32B6m34.31 32B7m34.32 32B8m34.33 32B9m34.34",
   "32BAm34.35 32BBm34.36 32BCm34.37 32BDm34.38 32BEm34.39 32BFm35.30 32C0m31.6708",
   "32C1m32.6708 32C2m33.6708 32C3m34.6708 32C4m35.6708 32C5m36.6708 32C6m37.6708",
   "32C7m38.6708 32C8m39.6708 32C9m31.30.6708 32CAm31.31.6708 32CBm31.32.6708 32CCm68.67",
   "32CDm65.72.67 32CEm65.76 32CFm6C.74.64 32D0m30A2 32D1m30A4 32D2m30A6 32D3m30A8 32D4s-22A",
   "32D6m30AD 32D7m30AF 32D8m30B1 32D9m30B3 32DAm30B5 32DBm30B7 32DCm30B9 32DDm30BB",
   "32DEm30BD 32DFm30BF 32E0m30C1 32E1m30C4 32E2m30C6 32E3m30C8 32E4s-21A 32EAm30D2",
   "32EBm30D5 32ECm30D8 32EDm30DB 32EEs-210 32F3m30E4 32F4m30E6 32F5s-20D 32FBs-20C",
   "32FFm4EE4.548C 3300m30A2.30D1.30FC.30C8 3301m30A2.30EB.30D5.30A1",
   "3302m30A2.30F3.30DA.30A2 3303m30A2.30FC.30EB 3304m30A4.30CB.30F3.30B0",
   "3305m30A4.30F3.30C1 3306m30A6.30A9.30F3 3307m30A8.30B9.30AF.30FC.30C9",
   "3308m30A8.30FC.30AB.30FC 3309m30AA.30F3.30B9 330Am30AA.30FC.30E0 330Bm30AB.30A4.30EA",
   "330Cm30AB.30E9.30C3.30C8 330Dm30AB.30ED.30EA.30FC 330Em30AC.30ED.30F3",
   "330Fm30AC.30F3.30DE 3310m30AE.30AC 3311m30AE.30CB.30FC 3312m30AD.30E5.30EA.30FC",
   "3313m30AE.30EB.30C0.30FC 3314m30AD.30ED 3315m30AD.30ED.30B0.30E9.30E0",
   "3316m30AD.30ED.30E1.30FC.30C8.30EB 3317m30AD.30ED.30EF.30C3.30C8 3318m30B0.30E9.30E0",
   "3319m30B0.30E9.30E0.30C8.30F3 331Am30AF.30EB.30BC.30A4.30ED 331Bm30AF.30ED.30FC.30CD",
   "331Cm30B1.30FC.30B9 331Dm30B3.30EB.30CA 331Em30B3.30FC.30DD 331Fm30B5.30A4.30AF.30EB",
   "3320m30B5.30F3.30C1.30FC.30E0 3321m30B7.30EA.30F3.30B0 3322m30BB.30F3.30C1",
   "3323m30BB.30F3.30C8 3324m30C0.30FC.30B9 3325m30C7.30B7 3326m30C9.30EB 3327m30C8.30F3",
   "3328m30CA.30CE 3329m30CE.30C3.30C8 332Am30CF.30A4.30C4 332Bm30D1.30FC.30BB.30F3.30C8",
   "332Cm30D1.30FC.30C4 332Dm30D0.30FC.30EC.30EB 332Em30D4.30A2.30B9.30C8.30EB",
   "332Fm30D4.30AF.30EB 3330m30D4.30B3 3331m30D3.30EB 3332m30D5.30A1.30E9.30C3.30C9",
   "3333m30D5.30A3.30FC.30C8 3334m30D6.30C3.30B7.30A7.30EB 3335m30D5.30E9.30F3",
   "3336m30D8.30AF.30BF.30FC.30EB 3337m30DA.30BD 3338m30DA.30CB.30D2 3339m30D8.30EB.30C4",
   "333Am30DA.30F3.30B9 333Bm30DA.30FC.30B8 333Cm30D9.30FC.30BF 333Dm30DD.30A4.30F3.30C8",
   "333Em30DC.30EB.30C8 333Fm30DB.30F3 3340m30DD.30F3.30C9 3341m30DB.30FC.30EB",
   "3342m30DB.30FC.30F3 3343m30DE.30A4.30AF.30ED 3344m30DE.30A4.30EB 3345m30DE.30C3.30CF",
   "3346m30DE.30EB.30AF 3347m30DE.30F3.30B7.30E7.30F3 3348m30DF.30AF.30ED.30F3",
   "3349m30DF.30EA 334Am30DF.30EA.30D0.30FC.30EB 334Bm30E1.30AC 334Cm30E1.30AC.30C8.30F3",
   "334Dm30E1.30FC.30C8.30EB 334Em30E4.30FC.30C9 334Fm30E4.30FC.30EB 3350m30E6.30A2.30F3",
   "3351m30EA.30C3.30C8.30EB 3352m30EA.30E9 3353m30EB.30D4.30FC 3354m30EB.30FC.30D6.30EB",
   "3355m30EC.30E0 3356m30EC.30F3.30C8.30B2.30F3 3357m30EF.30C3.30C8 3358m30.70B9",
   "3359m31.70B9 335Am32.70B9 335Bm33.70B9 335Cm34.70B9 335Dm35.70B9 335Em36.70B9",
   "335Fm37.70B9 3360m38.70B9 3361m39.70B9 3362m31.30.70B9 3363m31.31.70B9 3364m31.32.70B9",
   "3365m31.33.70B9 3366m31.34.70B9 3367m31.35.70B9 3368m31.36.70B9 3369m31.37.70B9",
   "336Am31.38.70B9 336Bm31.39.70B9 336Cm32.30.70B9 336Dm32.31.70B9 336Em32.32.70B9",
   "336Fm32.33.70B9 3370m32.34.70B9 3371m68.70.61 3372m64.61 3373m61.75 3374m62.61.72",
   "3375m6F.76 3376m70.63 3377m64.6D 3378m64.6D.32 3379m64.6D.33 337Am69.75 337Bm5E73.6210",
   "337Cm662D.548C 337Dm5927.6B63 337Em660E.6CBB 337Fm682A.5F0F.4F1A.793E 3380m70.61",
   "3381m6E.61 3382m3BC.61 3383m6D.61 3384m6B.61 3385m6B.62 3386m6D.62 3387m67.62",
   "3388m63.61.6C 3389m6B.63.61.6C 338Am70.66 338Bm6E.66 338Cm3BC.66 338Dm3BC.67 338Em6D.67",
   "338Fm6B.67 3390m68.7A 3391m6B.68.7A 3392m6D.68.7A 3393m67.68.7A 3394m74.68.7A",
   "3395m3BC.6C 3396m6D.6C 3397m64.6C 3398m6B.6C 3399m66.6D 339Am6E.6D 339Bm3BC.6D",
   "339Cm6D.6D 339Dm63.6D 339Em6B.6D 339Fm6D.6D.32 33A0m63.6D.32 33A1m6D.32 33A2m6B.6D.32",
   "33A3m6D.6D.33 33A4m63.6D.33 33A5m6D.33 33A6m6B.6D.33 33A7m6D.2215.73 33A8m6D.2215.73.32",
   "33A9m70.61 33AAm6B.70.61 33ABm6D.70.61 33ACm67.70.61 33ADm72.61.64 33AEm72.61.64.2215.73",
   "33AFm72.61.64.2215.73.32 33B0m70.73 33B1m6E.73 33B2m3BC.73 33B3m6D.73 33B4m70.76",
   "33B5m6E.76 33B6m3BC.76 33B7m6D.76 33B8m6B.76 33B9m6D.76 33BAm70.77 33BBm6E.77",
   "33BCm3BC.77 33BDm6D.77 33BEm6B.77 33BFm6D.77 33C0m6B.3C9 33C1m6D.3C9 33C2x 33C3m62.71",
   "33C4m63.63 33C5m63.64 33C6m63.2215.6B.67 33C7x 33C8m64.62 33C9m67.79 33CAm68.61",
   "33CBm68.70 33CCm69.6E 33CDm6B.6B 33CEm6B.6D 33CFm6B.74 33D0m6C.6D 33D1m6C.6E",
   "33D2m6C.6F.67 33D3m6C.78 33D4m6D.62 33D5m6D.69.6C 33D6m6D.6F.6C 33D7m70.68 33D8x",
   "33D9m70.70.6D 33DAm70.72 33DBm73.72 33DCm73.76 33DDm77.62 33DEm76.2215.6D",
   "33DFm61.2215.6D 33E0m31.65E5 33E1m32.65E5 33E2m33.65E5 33E3m34.65E5 33E4m35.65E5",
   "33E5m36.65E5 33E6m37.65E5 33E7m38.65E5 33E8m39.65E5 33E9m31.30.65E5 33EAm31.31.65E5",
   "33EBm31.32.65E5 33ECm31.33.65E5 33EDm31.34.65E5 33EEm31.35.65E5 33EFm31.36.65E5",
   "33F0m31.37.65E5 33F1m31.38.65E5 33F2m31.39.65E5 33F3m32.30.65E5 33F4m32.31.65E5",
   "33F5m32.32.65E5 33F6m32.33.65E5 33F7m32.34.65E5 33F8m32.35.65E5 33F9m32.36.65E5",
   "33FAm32.37.65E5 33FBm32.38.65E5 33FCm32.39.65E5 33FDm33.30.65E5 33FEm33.31.65E5",
   "33FFm67.61.6C 3400v A640a1 A66Dv A680a1 A69Bv A69Cm44A A69Dm44C A69Ev A722a1 A72Fv",
   "A732a1 A76Fv A770mA76F A771v A779a1 A77Cv A77Dm1D79 A77Ea1 A787v A78BmA78C A78Cv",
   "A78Dm265 A78Ev A790a1 A793v A796a1 A7A9v A7AAm266 A7ABm25C A7ACm261 A7ADm26C A7AEm26A",
   "A7AFv A7B0m29E A7B1m287 A7B2m29D A7B3mAB53 A7B4a1 A7C3v A7C4mA794 A7C5m282 A7C6m1D8E",
   "A7C7a1 A7CAv A7CBm264 A7CCa1 A7DBv A7DCm19B A7DDm277 A7DEv A7F1m73 A7F2m63 A7F3m66",
   "A7F4m71 A7F5mA7F6 A7F6v A7F8m127 A7F9m153 A7FAv AB5CmA727 AB5DmAB37 AB5Em26B AB5FmAB52",
   "AB60v AB69m28D AB6Av AB6DmAB4C AB6Ev AB70s-97D0 ABC0v D800x F900m8C48 F901m66F4",
   "F902m8ECA F903m8CC8 F904m6ED1 F905m4E32 F906m53E5 F907m9F9C F909m5951 F90Am91D1",
   "F90Bm5587 F90Cm5948 F90Dm61F6 F90Em7669 F90Fm7F85 F910m863F F911m87BA F912m88F8",
   "F913m908F F914m6A02 F915m6D1B F916m70D9 F917m73DE F918m843D F919m916A F91Am99F1",
   "F91Bm4E82 F91Cm5375 F91Dm6B04 F91Em721B F91Fm862D F920m9E1E F921m5D50 F922m6FEB",
   "F923m85CD F924m8964 F925m62C9 F926m81D8 F927m881F F928m5ECA F929m6717 F92Am6D6A",
   "F92Bm72FC F92Cm90CE F92Dm4F86 F92Em51B7 F92Fm52DE F930m64C4 F931m6AD3 F932m7210",
   "F933m76E7 F934m8001 F935m8606 F936m865C F937m8DEF F938m9732 F939m9B6F F93Am9DFA",
   "F93Bm788C F93Cm797F F93Dm7DA0 F93Em83C9 F93Fm9304 F940m9E7F F941m8AD6 F942m58DF",
   "F943m5F04 F944m7C60 F945m807E F946m7262 F947m78CA F948m8CC2 F949m96F7 F94Am58D8",
   "F94Bm5C62 F94Cm6A13 F94Dm6DDA F94Em6F0F F94Fm7D2F F950m7E37 F951m964B F952m52D2",
   "F953m808B F954m51DC F955m51CC F956m7A1C F957m7DBE F958m83F1 F959m9675 F95Am8B80",
   "F95Bm62CF F95Cm6A02 F95Dm8AFE F95Em4E39 F95Fm5BE7 F960m6012 F961m7387 F962m7570",
   "F963m5317 F964m78FB F965m4FBF F966m5FA9 F967m4E0D F968m6CCC F969m6578 F96Am7D22",
   "F96Bm53C3 F96Cm585E F96Dm7701 F96Em8449 F96Fm8AAA F970m6BBA F971m8FB0 F972m6C88",
   "F973m62FE F974m82E5 F975m63A0 F976m7565 F977m4EAE F978m5169 F979m51C9 F97Am6881",
   "F97Bm7CE7 F97Cm826F F97Dm8AD2 F97Em91CF F97Fm52F5 F980m5442 F981m5973 F982m5EEC",
   "F983m65C5 F984m6FFE F985m792A F986m95AD F987m9A6A F988m9E97 F989m9ECE F98Am529B",
   "F98Bm66C6 F98Cm6B77 F98Dm8F62 F98Em5E74 F98Fm6190 F990m6200 F991m649A F992m6F23",
   "F993m7149 F994m7489 F995m79CA F996m7DF4 F997m806F F998m8F26 F999m84EE F99Am9023",
   "F99Bm934A F99Cm5217 F99Dm52A3 F99Em54BD F99Fm70C8 F9A0m88C2 F9A1m8AAA F9A2m5EC9",
   "F9A3m5FF5 F9A4m637B F9A5m6BAE F9A6m7C3E F9A7m7375 F9A8m4EE4 F9A9m56F9 F9AAm5BE7",
   "F9ABm5DBA F9ACm601C F9ADm73B2 F9AEm7469 F9AFm7F9A F9B0m8046 F9B1m9234 F9B2m96F6",
   "F9B3m9748 F9B4m9818 F9B5m4F8B F9B6m79AE F9B7m91B4 F9B8m96B8 F9B9m60E1 F9BAm4E86",
   "F9BBm50DA F9BCm5BEE F9BDm5C3F F9BEm6599 F9BFm6A02 F9C0m71CE F9C1m7642 F9C2m84FC",
   "F9C3m907C F9C4m9F8D F9C5m6688 F9C6m962E F9C7m5289 F9C8m677B F9C9m67F3 F9CAm6D41",
   "F9CBm6E9C F9CCm7409 F9CDm7559 F9CEm786B F9CFm7D10 F9D0m985E F9D1m516D F9D2m622E",
   "F9D3m9678 F9D4m502B F9D5m5D19 F9D6m6DEA F9D7m8F2A F9D8m5F8B F9D9m6144 F9DAm6817",
   "F9DBm7387 F9DCm9686 F9DDm5229 F9DEm540F F9DFm5C65 F9E0m6613 F9E1m674E F9E2m68A8",
   "F9E3m6CE5 F9E4m7406 F9E5m75E2 F9E6m7F79 F9E7m88CF F9E8m88E1 F9E9m91CC F9EAm96E2",
   "F9EBm533F F9ECm6EBA F9EDm541D F9EEm71D0 F9EFm7498 F9F0m85FA F9F1m96A3 F9F2m9C57",
   "F9F3m9E9F F9F4m6797 F9F5m6DCB F9F6m81E8 F9F7m7ACB F9F8m7B20 F9F9m7C92 F9FAm72C0",
   "F9FBm7099 F9FCm8B58 F9FDm4EC0 F9FEm8336 F9FFm523A FA00m5207 FA01m5EA6 FA02m62D3",
   "FA03m7CD6 FA04m5B85 FA05m6D1E FA06m66B4 FA07m8F3B FA08m884C FA09m964D FA0Am898B",
   "FA0Bm5ED3 FA0Cm5140 FA0Dm55C0 FA0Ev FA10m585A FA11v FA12m6674 FA13v FA15m51DE FA16m732A",
   "FA17m76CA FA18m793C FA19m795E FA1Am7965 FA1Bm798F FA1Cm9756 FA1Dm7CBE FA1Em7FBD FA1Fv",
   "FA20m8612 FA21v FA22m8AF8 FA23v FA25m9038 FA26m90FD FA27v FA2Am98EF FA2Bm98FC FA2Cm9928",
   "FA2Dm9DB4 FA2Em90DE FA2Fm96B7 FA30m4FAE FA31m50E7 FA32m514D FA33m52C9 FA34m52E4",
   "FA35m5351 FA36m559D FA37m5606 FA38m5668 FA39m5840 FA3Am58A8 FA3Bm5C64 FA3Cm5C6E",
   "FA3Dm6094 FA3Em6168 FA3Fm618E FA40m61F2 FA41m654F FA42m65E2 FA43m6691 FA44m6885",
   "FA45m6D77 FA46m6E1A FA47m6F22 FA48m716E FA49m722B FA4Am7422 FA4Bm7891 FA4Cm793E",
   "FA4Dm7949 FA4Em7948 FA4Fm7950 FA50m7956 FA51m795D FA52s-80C5 FA54m7A40 FA55m7A81",
   "FA56m7BC0 FA57m7DF4 FA58m7E09 FA59m7E41 FA5Am7F72 FA5Bm8005 FA5Cm81ED FA5Dm8279",
   "FA5Fm8457 FA60m8910 FA61m8996 FA62m8B01 FA63m8B39 FA64m8CD3 FA65m8D08 FA66m8FB6",
   "FA67m9038 FA68m96E3 FA69m97FF FA6Am983B FA6Bm6075 FA6Cm242EE FA6Dm8218 FA6Ev FA70m4E26",
   "FA71m51B5 FA72m5168 FA73m4F80 FA74m5145 FA75m5180 FA76m52C7 FA77m52FA FA78m559D",
   "FA79m5555 FA7Am5599 FA7Bm55E2 FA7Cm585A FA7Dm58B3 FA7Em5944 FA7Fm5954 FA80m5A62",
   "FA81m5B28 FA82m5ED2 FA83m5ED9 FA84m5F69 FA85m5FAD FA86m60D8 FA87m614E FA88m6108",
   "FA89m618E FA8Am6160 FA8Bm61F2 FA8Cm6234 FA8Dm63C4 FA8Em641C FA8Fm6452 FA90m6556",
   "FA91m6674 FA92m6717 FA93m671B FA94m6756 FA95m6B79 FA96m6BBA FA97m6D41 FA98m6EDB",
   "FA99m6ECB FA9Am6F22 FA9Bm701E FA9Cm716E FA9Dm77A7 FA9Em7235 FA9Fm72AF FAA0m732A",
   "FAA1m7471 FAA2m7506 FAA3m753B FAA4m761D FAA5m761F FAA6m76CA FAA7m76DB FAA8m76F4",
   "FAA9m774A FAAAm7740 FAABm78CC FAACm7AB1 FAADm7BC0 FAAEm7C7B FAAFm7D5B FAB0m7DF4",
   "FAB1m7F3E FAB2m8005 FAB3m8352 FAB4m83EF FAB5m8779 FAB6m8941 FAB7m8986 FAB8m8996",
   "FAB9m8ABF FABAm8AF8 FABBm8ACB FABCm8B01 FABDm8AFE FABEm8AED FABFm8B39 FAC0m8B8A",
   "FAC1m8D08 FAC2m8F38 FAC3m9072 FAC4m9199 FAC5m9276 FAC6m967C FAC7m96E3 FAC8m9756",
   "FAC9m97DB FACAm97FF FACBm980B FACCm983B FACDm9B12 FACEm9F9C FACFm2284A FAD0m22844",
   "FAD1m233D5 FAD2m3B9D FAD3m4018 FAD4m4039 FAD5m25249 FAD6m25CD0 FAD7m27ED3 FAD8m9F43",
   "FAD9m9F8E FADAv FB00m66.66 FB01m66.69 FB02m66.6C FB03m66.66.69 FB04m66.66.6C FB05m73.74",
   "FB07v FB13m574.576 FB14m574.565 FB15m574.56B FB16m57E.576 FB17m574.56D FB18v",
   "FB1Dm5D9.5B4 FB1Ev FB1Fm5F2.5B7 FB20m5E2 FB21m5D0 FB22s-F54F FB24s-F549 FB27m5E8",
   "FB28m5EA FB29m2B FB2Am5E9.5C1 FB2Bm5E9.5C2 FB2Cm5E9.5BC.5C1 FB2Dm5E9.5BC.5C2",
   "FB2Em5D0.5B7 FB2Fm5D0.5B8 FB30m5D0.5BC FB31m5D1.5BC FB32m5D2.5BC FB33m5D3.5BC",
   "FB34m5D4.5BC FB35m5D5.5BC FB36m5D6.5BC FB37v FB38m5D8.5BC FB39m5D9.5BC FB3Am5DA.5BC",
   "FB3Bm5DB.5BC FB3Cm5DC.5BC FB3Dv FB3Em5DE.5BC FB3Fv FB40m5E0.5BC FB41m5E1.5BC FB42v",
   "FB43m5E3.5BC FB44m5E4.5BC FB45v FB46m5E6.5BC FB47m5E7.5BC FB48m5E8.5BC FB49m5E9.5BC",
   "FB4Am5EA.5BC FB4Bm5D5.5B9 FB4Cm5D1.5BF FB4Dm5DB.5BF FB4Em5E4.5BF FB4Fm5D0.5DC FB50m671",
   "FB52m67B FB56m67E FB5Am680 FB5Em67A FB62m67F FB66m679 FB6Am6A4 FB6Em6A6 FB72m684",
   "FB76m683 FB7Am686 FB7Em687 FB82m68D FB84m68C FB86m68E FB88m688 FB8Am698 FB8Cm691",
   "FB8Em6A9 FB92m6AF FB96m6B3 FB9Am6B1 FB9Em6BA FBA0m6BB FBA4m6C0 FBA6m6C1 FBAAm6BE",
   "FBAEm6D2 FBB0m6D3 FBB2v FBD3m6AD FBD7m6C7 FBD9m6C6 FBDBm6C8 FBDDm6C7.674 FBDEm6CB",
   "FBE0m6C5 FBE2m6C9 FBE4m6D0 FBE8m649 FBEAm626.627 FBECm626.6D5 FBEEm626.648 FBF0m626.6C7",
   "FBF2m626.6C6 FBF4m626.6C8 FBF6m626.6D0 FBF9m626.649 FBFCm6CC FC00m626.62C FC01m626.62D",
   "FC02m626.645 FC03m626.649 FC04m626.64A FC05m628.62C FC06m628.62D FC07m628.62E",
   "FC08m628.645 FC09m628.649 FC0Am628.64A FC0Bm62A.62C FC0Cm62A.62D FC0Dm62A.62E",
   "FC0Em62A.645 FC0Fm62A.649 FC10m62A.64A FC11m62B.62C FC12m62B.645 FC13m62B.649",
   "FC14m62B.64A FC15m62C.62D FC16m62C.645 FC17m62D.62C FC18m62D.645 FC19m62E.62C",
   "FC1Am62E.62D FC1Bm62E.645 FC1Cm633.62C FC1Dm633.62D FC1Em633.62E FC1Fm633.645",
   "FC20m635.62D FC21m635.645 FC22m636.62C FC23m636.62D FC24m636.62E FC25m636.645",
   "FC26m637.62D FC27m637.645 FC28m638.645 FC29m639.62C FC2Am639.645 FC2Bm63A.62C",
   "FC2Cm63A.645 FC2Dm641.62C FC2Em641.62D FC2Fm641.62E FC30m641.645 FC31m641.649",
   "FC32m641.64A FC33m642.62D FC34m642.645 FC35m642.649 FC36m642.64A FC37m643.627",
   "FC38m643.62C FC39m643.62D FC3Am643.62E FC3Bm643.644 FC3Cm643.645 FC3Dm643.649",
   "FC3Em643.64A FC3Fm644.62C FC40m644.62D FC41m644.62E FC42m644.645 FC43m644.649",
   "FC44m644.64A FC45m645.62C FC46m645.62D FC47m645.62E FC48m645.645 FC49m645.649",
   "FC4Am645.64A FC4Bm646.62C FC4Cm646.62D FC4Dm646.62E FC4Em646.645 FC4Fm646.649",
   "FC50m646.64A FC51m647.62C FC52m647.645 FC53m647.649 FC54m647.64A FC55m64A.62C",
   "FC56m64A.62D FC57m64A.62E FC58m64A.645 FC59m64A.649 FC5Am64A.64A FC5Bm630.670",
   "FC5Cm631.670 FC5Dm649.670 FC5Em20.64C.651 FC5Fm20.64D.651 FC60m20.64E.651",
   "FC61m20.64F.651 FC62m20.650.651 FC63m20.651.670 FC64m626.631 FC65m626.632 FC66m626.645",
   "FC67m626.646 FC68m626.649 FC69m626.64A FC6Am628.631 FC6Bm628.632 FC6Cm628.645",
   "FC6Dm628.646 FC6Em628.649 FC6Fm628.64A FC70m62A.631 FC71m62A.632 FC72m62A.645",
   "FC73m62A.646 FC74m62A.649 FC75m62A.64A FC76m62B.631 FC77m62B.632 FC78m62B.645",
   "FC79m62B.646 FC7Am62B.649 FC7Bm62B.64A FC7Cm641.649 FC7Dm641.64A FC7Em642.649",
   "FC7Fm642.64A FC80m643.627 FC81m643.644 FC82m643.645 FC83m643.649 FC84m643.64A",
   "FC85m644.645 FC86m644.649 FC87m644.64A FC88m645.627 FC89m645.645 FC8Am646.631",
   "FC8Bm646.632 FC8Cm646.645 FC8Dm646.646 FC8Em646.649 FC8Fm646.64A FC90m649.670",
   "FC91m64A.631 FC92m64A.632 FC93m64A.645 FC94m64A.646 FC95m64A.649 FC96m64A.64A",
   "FC97m626.62C FC98m626.62D FC99m626.62E FC9Am626.645 FC9Bm626.647 FC9Cm628.62C",
   "FC9Dm628.62D FC9Em628.62E FC9Fm628.645 FCA0m628.647 FCA1m62A.62C FCA2m62A.62D",
   "FCA3m62A.62E FCA4m62A.645 FCA5m62A.647 FCA6m62B.645 FCA7m62C.62D FCA8m62C.645",
   "FCA9m62D.62C FCAAm62D.645 FCABm62E.62C FCACm62E.645 FCADm633.62C FCAEm633.62D",
   "FCAFm633.62E FCB0m633.645 FCB1m635.62D FCB2m635.62E FCB3m635.645 FCB4m636.62C",
   "FCB5m636.62D FCB6m636.62E FCB7m636.645 FCB8m637.62D FCB9m638.645 FCBAm639.62C",
   "FCBBm639.645 FCBCm63A.62C FCBDm63A.645 FCBEm641.62C FCBFm641.62D FCC0m641.62E",
   "FCC1m641.645 FCC2m642.62D FCC3m642.645 FCC4m643.62C FCC5m643.62D FCC6m643.62E",
   "FCC7m643.644 FCC8m643.645 FCC9m644.62C FCCAm644.62D FCCBm644.62E FCCCm644.645",
   "FCCDm644.647 FCCEm645.62C FCCFm645.62D FCD0m645.62E FCD1m645.645 FCD2m646.62C",
   "FCD3m646.62D FCD4m646.62E FCD5m646.645 FCD6m646.647 FCD7m647.62C FCD8m647.645",
   "FCD9m647.670 FCDAm64A.62C FCDBm64A.62D FCDCm64A.62E FCDDm64A.645 FCDEm64A.647",
   "FCDFm626.645 FCE0m626.647 FCE1m628.645 FCE2m628.647 FCE3m62A.645 FCE4m62A.647",
   "FCE5m62B.645 FCE6m62B.647 FCE7m633.645 FCE8m633.647 FCE9m634.645 FCEAm634.647",
   "FCEBm643.644 FCECm643.645 FCEDm644.645 FCEEm646.645 FCEFm646.647 FCF0m64A.645",
   "FCF1m64A.647 FCF2m640.64E.651 FCF3m640.64F.651 FCF4m640.650.651 FCF5m637.649",
   "FCF6m637.64A FCF7m639.649 FCF8m639.64A FCF9m63A.649 FCFAm63A.64A FCFBm633.649",
   "FCFCm633.64A FCFDm634.649 FCFEm634.64A FCFFm62D.649 FD00m62D.64A FD01m62C.649",
   "FD02m62C.64A FD03m62E.649 FD04m62E.64A FD05m635.649 FD06m635.64A FD07m636.649",
   "FD08m636.64A FD09m634.62C FD0Am634.62D FD0Bm634.62E FD0Cm634.645 FD0Dm634.631",
   "FD0Em633.631 FD0Fm635.631 FD10m636.631 FD11m637.649 FD12m637.64A FD13m639.649",
   "FD14m639.64A FD15m63A.649 FD16m63A.64A FD17m633.649 FD18m633.64A FD19m634.649",
   "FD1Am634.64A FD1Bm62D.649 FD1Cm62D.64A FD1Dm62C.649 FD1Em62C.64A FD1Fm62E.649",
   "FD20m62E.64A FD21m635.649 FD22m635.64A FD23m636.649 FD24m636.64A FD25m634.62C",
   "FD26m634.62D FD27m634.62E FD28m634.645 FD29m634.631 FD2Am633.631 FD2Bm635.631",
   "FD2Cm636.631 FD2Dm634.62C FD2Em634.62D FD2Fm634.62E FD30m634.645 FD31m633.647",
   "FD32m634.647 FD33m637.645 FD34m633.62C FD35m633.62D FD36m633.62E FD37m634.62C",
   "FD38m634.62D FD39m634.62E FD3Am637.645 FD3Bm638.645 FD3Cm627.64B FD3Ev FD50m62A.62C.645",
   "FD51m62A.62D.62C FD53m62A.62D.645 FD54m62A.62E.645 FD55m62A.645.62C FD56m62A.645.62D",
   "FD57m62A.645.62E FD58m62C.645.62D FD5Am62D.645.64A FD5Bm62D.645.649 FD5Cm633.62D.62C",
   "FD5Dm633.62C.62D FD5Em633.62C.649 FD5Fm633.645.62D FD61m633.645.62C FD62m633.645.645",
   "FD64m635.62D.62D FD66m635.645.645 FD67m634.62D.645 FD69m634.62C.64A FD6Am634.645.62E",
   "FD6Cm634.645.645 FD6Em636.62D.649 FD6Fm636.62E.645 FD71m637.645.62D FD73m637.645.645",
   "FD74m637.645.64A FD75m639.62C.645 FD76m639.645.645 FD78m639.645.649 FD79m63A.645.645",
   "FD7Am63A.645.64A FD7Bm63A.645.649 FD7Cm641.62E.645 FD7Em642.645.62D FD7Fm642.645.645",
   "FD80m644.62D.645 FD81m644.62D.64A FD82m644.62D.649 FD83m644.62C.62C FD85m644.62E.645",
   "FD87m644.645.62D FD89m645.62D.62C FD8Am645.62D.645 FD8Bm645.62D.64A FD8Cm645.62C.62D",
   "FD8Dm645.62C.645 FD8Em645.62E.62C FD8Fm645.62E.645 FD90v FD92m645.62C.62E",
   "FD93m647.645.62C FD94m647.645.645 FD95m646.62D.645 FD96m646.62D.649 FD97m646.62C.645",
   "FD99m646.62C.649 FD9Am646.645.64A FD9Bm646.645.649 FD9Cm64A.645.645 FD9Em628.62E.64A",
   "FD9Fm62A.62C.64A FDA0m62A.62C.649 FDA1m62A.62E.64A FDA2m62A.62E.649 FDA3m62A.645.64A",
   "FDA4m62A.645.649 FDA5m62C.645.64A FDA6m62C.62D.649 FDA7m62C.645.649 FDA8m633.62E.649",
   "FDA9m635.62D.64A FDAAm634.62D.64A FDABm636.62D.64A FDACm644.62C.64A FDADm644.645.64A",
   "FDAEm64A.62D.64A FDAFm64A.62C.64A FDB0m64A.645.64A FDB1m645.645.64A FDB2m642.645.64A",
   "FDB3m646.62D.64A FDB4m642.645.62D FDB5m644.62D.645 FDB6m639.645.64A FDB7m643.645.64A",
   "FDB8m646.62C.62D FDB9m645.62E.64A FDBAm644.62C.645 FDBBm643.645.645 FDBCm644.62C.645",
   "FDBDm646.62C.62D FDBEm62C.62D.64A FDBFm62D.62C.64A FDC0m645.62C.64A FDC1m641.645.64A",
   "FDC2m628.62D.64A FDC3m643.645.645 FDC4m639.62C.645 FDC5m635.645.645 FDC6m633.62E.64A",
   "FDC7m646.62C.64A FDC8v FDD0x FDF0m635.644.6D2 FDF1m642.644.6D2 FDF2m627.644.644.647",
   "FDF3m627.643.628.631 FDF4m645.62D.645.62F FDF5m635.644.639.645 FDF6m631.633.648.644",
   "FDF7m639.644.64A.647 FDF8m648.633.644.645 FDF9m635.644.649",
   "FDFAm635.644.649.20.627.644.644.647.20.639.644.64A.647.20.648.633.644.645",
   "FDFBm62C.644.20.62C.644.627.644.647 FDFCm631.6CC.627.644 FDFDv FE00i FE10m2C FE11m3001",
   "FE12x FE13s-FDD9 FE15m21 FE16m3F FE17s-CE01 FE19x FE1Av FE30x FE31m2014 FE32m2013",
   "FE33m5F FE35s-FE0D FE37m7B FE38m7D FE39s-CE25 FE3Bs-CE2B FE3Ds-CE33 FE3Fs-CE37",
   "FE41s-CE35 FE45v FE47m5B FE48m5D FE49m20.305 FE4Dm5F FE50m2C FE51m3001 FE52x FE53v",
   "FE54m3B FE55m3A FE56m3F FE57m21 FE58m2014 FE59s-FE31 FE5Bm7B FE5Cm7D FE5Ds-CE49 FE5Fm23",
   "FE60m26 FE61s-FE37 FE63m2D FE64m3C FE65m3E FE66m3D FE67v FE68m5C FE69s-FE45 FE6Bm40",
   "FE6Cv FE70m20.64B FE71m640.64B FE72m20.64C FE73v FE74m20.64D FE75v FE76m20.64E",
   "FE77m640.64E FE78m20.64F FE79m640.64F FE7Am20.650 FE7Bm640.650 FE7Cm20.651 FE7Dm640.651",
   "FE7Em20.652 FE7Fm640.652 FE80m621 FE81m622 FE83m623 FE85m624 FE87m625 FE89m626 FE8Dm627",
   "FE8Fm628 FE93m629 FE95m62A FE99m62B FE9Dm62C FEA1m62D FEA5m62E FEA9m62F FEABm630",
   "FEADm631 FEAFm632 FEB1m633 FEB5m634 FEB9m635 FEBDm636 FEC1m637 FEC5m638 FEC9m639",
   "FECDm63A FED1m641 FED5m642 FED9m643 FEDDm644 FEE1m645 FEE5m646 FEE9m647 FEEDm648",
   "FEEFm649 FEF1m64A FEF5m644.622 FEF7m644.623 FEF9m644.625 FEFBm644.627 FEFDv FEFFi FF00v",
   "FF01s-FEE0 FF21s-FEC0 FF3Bs-FEE0 FF5Fs-D5DA FF61m2E FF62s-CF56 FF64m3001 FF65m30FB",
   "FF66m30F2 FF67m30A1 FF68m30A3 FF69m30A5 FF6Am30A7 FF6Bm30A9 FF6Cm30E3 FF6Dm30E5",
   "FF6Em30E7 FF6Fm30C3 FF70m30FC FF71m30A2 FF72m30A4 FF73m30A6 FF74m30A8 FF75s-CECB",
   "FF77m30AD FF78m30AF FF79m30B1 FF7Am30B3 FF7Bm30B5 FF7Cm30B7 FF7Dm30B9 FF7Em30BB",
   "FF7Fm30BD FF80m30BF FF81m30C1 FF82m30C4 FF83m30C6 FF84m30C8 FF85s-CEBB FF8Bm30D2",
   "FF8Cm30D5 FF8Dm30D8 FF8Em30DB FF8Fs-CEB1 FF94m30E4 FF95m30E6 FF96s-CEAE FF9Cm30EF",
   "FF9Dm30F3 FF9Es-CF05 FFA0i FFA1s-EEA1 FFA3m11AA FFA4m1102 FFA5s-EDF9 FFA7s-EEA4",
   "FFAAs-EDFA FFB0m111A FFB1s-EEAB FFB4m1121 FFB5s-EEAC FFBFv FFC2s-EE61 FFC8v FFCAs-EE63",
   "FFD0v FFD2s-EE65 FFD8v FFDAs-EE67 FFDDv FFE0s-FF3E FFE2mAC FFE3m20.304 FFE4mA6 FFE5mA5",
   "FFE6m20A9 FFE7v FFE8m2502 FFE9s-DE59 FFEDm25A0 FFEEm25CB FFEFv FFF9x 10000v 10400s28",
   "10428v 104B0s28 104D4v 10570s27 1057Bv 1057Cs27 1058Bv 1058Cs27 10593v 10594s27 10596v",
   "10781s-104B1 10783mE6 10784m299 10785m253 10786v 10787m2A3 10788mAB66 10789m2A5",
   "1078Am2A4 1078Bs-10535 1078Dm1D91 1078Em258 1078Fm25E 10790m2A9 10791m264 10792m262",
   "10793m260 10794m29B 10795m127 10796m29C 10797m267 10798m284 10799s-104EF 1079Bm26C",
   "1079Cm1DF04 1079DmA78E 1079Em26E 1079Fm1DF05 107A0m28E 107A1m1DF06 107A2mF8 107A3s-1052D",
   "107A5m71 107A6m27A 107A7m1DF08 107A8s-1052B 107AAm280 107ABm2A8 107ACm2A6 107ADmAB67",
   "107AEm2A7 107AFm288 107B0m2C71 107B1v 107B2m28F 107B3s-10512 107B5m298 107B6s-105F6",
   "107B9m1DF0A 107BAm1DF1E 107BBm287 107BCv 107BFm1DF0B 107C0v 10C80s40 10CB3v 10D50s20",
   "10D66v 110BDx 110BEv 110CDx 110CEv 118A0s20 118C0v 13430x 13440v 16E40s20 16E60v",
   "16EA0s1B 16EB9v 1B123m3053.3068 1B124v 1BCA0i 1BCA4v 1CCD6s-1CC75 1CCF0s-1CCC0 1CCFAv",
   "1D15Em1D157.1D165 1D15Fm1D158.1D165 1D160m1D158.1D165.1D16E 1D161m1D158.1D165.1D16F",
   "1D162m1D158.1D165.1D170 1D163m1D158.1D165.1D171 1D164m1D158.1D165.1D172 1D165v 1D173i",
   "1D17Bv 1D1BBm1D1B9.1D165 1D1BCm1D1BA.1D165 1D1BDm1D1B9.1D165.1D16E",
   "1D1BEm1D1BA.1D165.1D16E 1D1BFm1D1B9.1D165.1D16F 1D1C0m1D1BA.1D165.1D16F 1D1C1v",
   "1D400s-1D39F 1D41As-1D3B9 1D434s-1D3D3 1D44Es-1D3ED 1D455v 1D456s-1D3ED 1D468s-1D407",
   "1D482s-1D421 1D49Ca-1D43B 1D49Fm64 1D4A0v 1D4A2m67 1D4A3v 1D4A5s-1D43B 1D4A7v",
   "1D4A9s-1D43B 1D4ADv 1D4AEs-1D43B 1D4B6s-1D455 1D4BAv 1D4BBa-1D455 1D4BEs-1D455 1D4C4v",
   "1D4C5s-1D455 1D4D0s-1D46F 1D4EAs-1D489 1D504s-1D4A3 1D506v 1D507s-1D4A3 1D50Bv",
   "1D50Ds-1D4A3 1D515v 1D516s-1D4A3 1D51Dv 1D51Es-1D4BD 1D538s-1D4D7 1D53Av 1D53Bs-1D4D7",
   "1D53Fv 1D540s-1D4D7 1D545v 1D546m6F 1D547v 1D54As-1D4D7 1D551v 1D552s-1D4F1 1D56Cs-1D50B",
   "1D586s-1D525 1D5A0s-1D53F 1D5BAs-1D559 1D5D4s-1D573 1D5EEs-1D58D 1D608s-1D5A7",
   "1D622s-1D5C1 1D63Cs-1D5DB 1D656s-1D5F5 1D670s-1D60F 1D68As-1D629 1D6A4m131 1D6A5m237",
   "1D6A6m73.73 1D6A7v 1D6A8s-1D2F7 1D6B9m3B8 1D6BAs-1D2F7 1D6C1m2207 1D6C2s-1D311 1D6D3m3C3",
   "1D6D5s-1D311 1D6DBm2202 1D6DCm3B5 1D6DDm3B8 1D6DEm3BA 1D6DFm3C6 1D6E0m3C1 1D6E1m3C0",
   "1D6E2s-1D331 1D6F3m3B8 1D6F4s-1D331 1D6FBm2207 1D6FCs-1D34B 1D70Dm3C3 1D70Fs-1D34B",
   "1D715m2202 1D716m3B5 1D717m3B8 1D718m3BA 1D719m3C6 1D71Am3C1 1D71Bm3C0 1D71Cs-1D36B",
   "1D72Dm3B8 1D72Es-1D36B 1D735m2207 1D736s-1D385 1D747m3C3 1D749s-1D385 1D74Fm2202",
   "1D750m3B5 1D751m3B8 1D752m3BA 1D753m3C6 1D754m3C1 1D755m3C0 1D756s-1D3A5 1D767m3B8",
   "1D768s-1D3A5 1D76Fm2207 1D770s-1D3BF 1D781m3C3 1D783s-1D3BF 1D789m2202 1D78Am3B5",
   "1D78Bm3B8 1D78Cm3BA 1D78Dm3C6 1D78Em3C1 1D78Fm3C0 1D790s-1D3DF 1D7A1m3B8 1D7A2s-1D3DF",
   "1D7A9m2207 1D7AAs-1D3F9 1D7BBm3C3 1D7BDs-1D3F9 1D7C3m2202 1D7C4m3B5 1D7C5m3B8 1D7C6m3BA",
   "1D7C7m3C6 1D7C8m3C1 1D7C9m3C0 1D7CAm3DD 1D7CCv 1D7CEs-1D79E 1D7D8s-1D7A8 1D7E2s-1D7B2",
   "1D7ECs-1D7BC 1D7F6s-1D7C6 1D800v 1DFCDm1DF57 1DFCEv 1DFFFm1DF09 1E000v 1E030s-1DC00",
   "1E039s-1DBFF 1E03Cs-1DBFE 1E047m44B 1E048s-1DBFB 1E04AmA689 1E04Bm4D9 1E04Cm456",
   "1E04Dm458 1E04Em4E9 1E04Fm4AF 1E050m4CF 1E051s-1DC21 1E05As-1DC20 1E05Cs-1DC1E 1E05Em441",
   "1E05Fs-1DC1C 1E065s-1DC1B 1E067m491 1E068m456 1E069m455 1E06Am45F 1E06Bm4AB 1E06CmA651",
   "1E06Dm4B1 1E06Ev 1E900s22 1E922v 1EE00s-1E7D9 1EE02m62C 1EE03m62F 1EE04v 1EE05m648",
   "1EE06m632 1EE07m62D 1EE08m637 1EE09m64A 1EE0As-1E7C7 1EE0Em633 1EE0Fm639 1EE10m641",
   "1EE11m635 1EE12m642 1EE13m631 1EE14m634 1EE15s-1E7EB 1EE17m62E 1EE18m630 1EE19m636",
   "1EE1Am638 1EE1Bm63A 1EE1Cm66E 1EE1Dm6BA 1EE1Em6A1 1EE1Fm66F 1EE20v 1EE21m628 1EE22m62C",
   "1EE23v 1EE24m647 1EE25v 1EE27m62D 1EE28v 1EE29m64A 1EE2As-1E7E7 1EE2Em633 1EE2Fm639",
   "1EE30m641 1EE31m635 1EE32m642 1EE33v 1EE34m634 1EE35s-1E80B 1EE37m62E 1EE38v 1EE39m636",
   "1EE3Av 1EE3Bm63A 1EE3Cv 1EE42m62C 1EE43v 1EE47m62D 1EE48v 1EE49m64A 1EE4Av 1EE4Ba-1E807",
   "1EE4Em633 1EE4Fm639 1EE50v 1EE51m635 1EE52m642 1EE53v 1EE54m634 1EE55v 1EE57m62E 1EE58v",
   "1EE59m636 1EE5Av 1EE5Bm63A 1EE5Cv 1EE5Dm6BA 1EE5Ev 1EE5Fm66F 1EE60v 1EE61m628 1EE62m62C",
   "1EE63v 1EE64m647 1EE65v 1EE67m62D 1EE68m637 1EE69m64A 1EE6Aa-1E827 1EE6Dm646 1EE6Em633",
   "1EE6Fm639 1EE70m641 1EE71m635 1EE72m642 1EE73v 1EE74m634 1EE75s-1E84B 1EE77m62E 1EE78v",
   "1EE79m636 1EE7Am638 1EE7Bm63A 1EE7Cm66E 1EE7Dv 1EE7Em6A1 1EE7Fv 1EE80s-1E859 1EE82m62C",
   "1EE83m62F 1EE84s-1E83D 1EE86m632 1EE87m62D 1EE88m637 1EE89m64A 1EE8Av 1EE8Bs-1E847",
   "1EE8Em633 1EE8Fm639 1EE90m641 1EE91m635 1EE92m642 1EE93m631 1EE94m634 1EE95s-1E86B",
   "1EE97m62E 1EE98m630 1EE99m636 1EE9Am638 1EE9Bm63A 1EE9Cv 1EEA1m628 1EEA2m62C 1EEA3m62F",
   "1EEA4v 1EEA5m648 1EEA6m632 1EEA7m62D 1EEA8m637 1EEA9m64A 1EEAAv 1EEABs-1E867 1EEAEm633",
   "1EEAFm639 1EEB0m641 1EEB1m635 1EEB2m642 1EEB3m631 1EEB4m634 1EEB5s-1E88B 1EEB7m62E",
   "1EEB8m630 1EEB9m636 1EEBAm638 1EEBBm63A 1EEBCv 1F100x 1F101m30.2C 1F102m31.2C",
   "1F103m32.2C 1F104m33.2C 1F105m34.2C 1F106m35.2C 1F107m36.2C 1F108m37.2C 1F109m38.2C",
   "1F10Am39.2C 1F10Bv 1F110m28.61.29 1F111m28.62.29 1F112m28.63.29 1F113m28.64.29",
   "1F114m28.65.29 1F115m28.66.29 1F116m28.67.29 1F117m28.68.29 1F118m28.69.29",
   "1F119m28.6A.29 1F11Am28.6B.29 1F11Bm28.6C.29 1F11Cm28.6D.29 1F11Dm28.6E.29",
   "1F11Em28.6F.29 1F11Fm28.70.29 1F120m28.71.29 1F121m28.72.29 1F122m28.73.29",
   "1F123m28.74.29 1F124m28.75.29 1F125m28.76.29 1F126m28.77.29 1F127m28.78.29",
   "1F128m28.79.29 1F129m28.7A.29 1F12Am3014.73.3015 1F12Bm63 1F12Cm72 1F12Dm63.64",
   "1F12Em77.7A 1F12Fv 1F130s-1F0CF 1F14Am68.76 1F14Bm6D.76 1F14Cm73.64 1F14Dm73.73",
   "1F14Em70.70.76 1F14Fm77.63 1F150v 1F16Am6D.63 1F16Bm6D.64 1F16Cm6D.72 1F16Dv 1F190m64.6A",
   "1F191v 1F200m307B.304B 1F201m30B3.30B3 1F202m30B5 1F203v 1F210m624B 1F211m5B57",
   "1F212m53CC 1F213m30C7 1F214m4E8C 1F215m591A 1F216m89E3 1F217m5929 1F218m4EA4 1F219m6620",
   "1F21Am7121 1F21Bm6599 1F21Cm524D 1F21Dm5F8C 1F21Em518D 1F21Fm65B0 1F220m521D 1F221m7D42",
   "1F222m751F 1F223m8CA9 1F224m58F0 1F225m5439 1F226m6F14 1F227m6295 1F228m6355 1F229m4E00",
   "1F22Am4E09 1F22Bm904A 1F22Cm5DE6 1F22Dm4E2D 1F22Em53F3 1F22Fm6307 1F230m8D70 1F231m6253",
   "1F232m7981 1F233m7A7A 1F234m5408 1F235m6E80 1F236m6709 1F237m6708 1F238m7533 1F239m5272",
   "1F23Am55B6 1F23Bm914D 1F23Cv 1F240m3014.672C.3015 1F241m3014.4E09.3015",
   "1F242m3014.4E8C.3015 1F243m3014.5B89.3015 1F244m3014.70B9.3015 1F245m3014.6253.3015",
   "1F246m3014.76D7.3015 1F247m3014.52DD.3015 1F248m3014.6557.3015 1F249v 1F250m5F97",
   "1F251m53EF 1F252v 1FBF0s-1FBC0 1FBFAv 1FFFEx 20000v 2F800m4E3D 2F801m4E38 2F802m4E41",
   "2F803m20122 2F804m4F60 2F805m4FAE 2F806m4FBB 2F807m5002 2F808m507A 2F809m5099 2F80Am50E7",
   "2F80Bm50CF 2F80Cm349E 2F80Dm2063A 2F80Em514D 2F80Fm5154 2F810m5164 2F811m5177",
   "2F812m2051C 2F813m34B9 2F814m5167 2F815m518D 2F816m2054B 2F817m5197 2F818m51A4",
   "2F819m4ECC 2F81Am51AC 2F81Bm51B5 2F81Cm291DF 2F81Dm51F5 2F81Em5203 2F81Fm34DF 2F820m523B",
   "2F821m5246 2F822m5272 2F823m5277 2F824m3515 2F825m52C7 2F826m52C9 2F827m52E4 2F828m52FA",
   "2F829s-2A524 2F82Bm5317 2F82Cm5349 2F82Dm5351 2F82Em535A 2F82Fm5373 2F830m537D",
   "2F831m537F 2F834m20A2C 2F835m7070 2F836m53CA 2F837m53DF 2F838m20B63 2F839m53EB",
   "2F83Am53F1 2F83Bm5406 2F83Cm549E 2F83Dm5438 2F83Em5448 2F83Fm5468 2F840m54A2 2F841m54F6",
   "2F842m5510 2F843m5553 2F844m5563 2F845m5584 2F847m5599 2F848m55AB 2F849m55B3 2F84Am55C2",
   "2F84Bm5716 2F84Cm5606 2F84Dm5717 2F84Em5651 2F84Fm5674 2F850m5207 2F851m58EE 2F852m57CE",
   "2F853m57F4 2F854m580D 2F855m578B 2F856m5832 2F857m5831 2F858m58AC 2F859m214E4 2F85Am58F2",
   "2F85Bm58F7 2F85Cm5906 2F85Dm591A 2F85Em5922 2F85Fm5962 2F860m216A8 2F861m216EA",
   "2F862m59EC 2F863m5A1B 2F864m5A27 2F865m59D8 2F866m5A66 2F867m36EE 2F868m36FC 2F869m5B08",
   "2F86Am5B3E 2F86Cm219C8 2F86Dm5BC3 2F86Em5BD8 2F86Fm5BE7 2F870m5BF3 2F871m21B18",
   "2F872m5BFF 2F873m5C06 2F874m5F53 2F875m5C22 2F876m3781 2F877m5C60 2F878m5C6E 2F879m5CC0",
   "2F87Am5C8D 2F87Bm21DE4 2F87Cm5D43 2F87Dm21DE6 2F87Em5D6E 2F87Fm5D6B 2F880m5D7C",
   "2F881s-29AA0 2F883m382F 2F884m5DFD 2F885m5E28 2F886m5E3D 2F887m5E69 2F888m3862",
   "2F889m22183 2F88Am387C 2F88Bm5EB0 2F88Cm5EB3 2F88Dm5EB6 2F88Em5ECA 2F88Fm2A392",
   "2F890m5EFE 2F891m22331 2F893m8201 2F894m5F22 2F896m38C7 2F897m232B8 2F898m261DA",
   "2F899m5F62 2F89Am5F6B 2F89Bm38E3 2F89Cm5F9A 2F89Dm5FCD 2F89Em5FD7 2F89Fm5FF9 2F8A0m6081",
   "2F8A1m393A 2F8A2m391C 2F8A3m6094 2F8A4m226D4 2F8A5m60C7 2F8A6m6148 2F8A7m614C 2F8A8m614E",
   "2F8A9m614C 2F8AAm617A 2F8ABm618E 2F8ACm61B2 2F8ADm61A4 2F8AEm61AF 2F8AFm61DE 2F8B0m61F2",
   "2F8B1m61F6 2F8B2m6210 2F8B3m621B 2F8B4m625D 2F8B5m62B1 2F8B6m62D4 2F8B7m6350 2F8B8m22B0C",
   "2F8B9m633D 2F8BAm62FC 2F8BBm6368 2F8BCm6383 2F8BDm63E4 2F8BEm22BF1 2F8BFm6422 2F8C0m63C5",
   "2F8C1m63A9 2F8C2m3A2E 2F8C3m6469 2F8C4m647E 2F8C5m649D 2F8C6m6477 2F8C7m3A6C 2F8C8m654F",
   "2F8C9m656C 2F8CAm2300A 2F8CBm65E3 2F8CCm66F8 2F8CDm6649 2F8CEm3B19 2F8CFm6691 2F8D0m3B08",
   "2F8D1m3AE4 2F8D2m5192 2F8D3m5195 2F8D4m6700 2F8D5m669C 2F8D6m80AD 2F8D7m43D9 2F8D8m6717",
   "2F8D9m671B 2F8DAm6721 2F8DBm675E 2F8DCm6753 2F8DDm233C3 2F8DEm3B49 2F8DFm67FA 2F8E0m6785",
   "2F8E1m6852 2F8E2m6885 2F8E3m2346D 2F8E4m688E 2F8E5m681F 2F8E6m6914 2F8E7m3B9D 2F8E8m6942",
   "2F8E9m69A3 2F8EAm69EA 2F8EBm6AA8 2F8ECm236A3 2F8EDm6ADB 2F8EEm3C18 2F8EFm6B21",
   "2F8F0m238A7 2F8F1m6B54 2F8F2m3C4E 2F8F3m6B72 2F8F4m6B9F 2F8F5s-28D3B 2F8F7m23A8D",
   "2F8F8m21D0B 2F8F9m23AFA 2F8FAm6C4E 2F8FBm23CBC 2F8FCm6CBF 2F8FDm6CCD 2F8FEm6C67",
   "2F8FFm6D16 2F900m6D3E 2F901m6D77 2F902m6D41 2F903m6D69 2F904m6D78 2F905m6D85 2F906m23D1E",
   "2F907m6D34 2F908m6E2F 2F909m6E6E 2F90Am3D33 2F90Bm6ECB 2F90Cm6EC7 2F90Dm23ED1 2F90Em6DF9",
   "2F90Fm6F6E 2F910m23F5E 2F911m23F8E 2F912m6FC6 2F913m7039 2F914m701E 2F915m701B",
   "2F916m3D96 2F917m704A 2F918m707D 2F919m7077 2F91Am70AD 2F91Bm20525 2F91Cm7145",
   "2F91Dm24263 2F91Em719C 2F91Fm243AB 2F920m7228 2F921m7235 2F922m7250 2F923m24608",
   "2F924m7280 2F925m7295 2F926m24735 2F927m24814 2F928m737A 2F929m738B 2F92Am3EAC",
   "2F92Bm73A5 2F92Cm3EB8 2F92Em7447 2F92Fm745C 2F930m7471 2F931m7485 2F932m74CA 2F933m3F1B",
   "2F934m7524 2F935m24C36 2F936m753E 2F937m24C92 2F938m7570 2F939m2219F 2F93Am7610",
   "2F93Bm24FA1 2F93Cm24FB8 2F93Dm25044 2F93Em3FFC 2F93Fm4008 2F940m76F4 2F941m250F3",
   "2F942m250F2 2F943m25119 2F944m25133 2F945m771E 2F946m771F 2F948m774A 2F949m4039",
   "2F94Am778B 2F94Bm4046 2F94Cm4096 2F94Dm2541D 2F94Em784E 2F94Fm788C 2F950m78CC 2F951m40E3",
   "2F952m25626 2F953m7956 2F954m2569A 2F955m256C5 2F956m798F 2F957m79EB 2F958m412F",
   "2F959m7A40 2F95Am7A4A 2F95Bm7A4F 2F95Cm2597C 2F95Dm25AA7 2F95Fm7AEE 2F960m4202",
   "2F961m25BAB 2F962m7BC6 2F963m7BC9 2F964m4227 2F965m25C80 2F966m7CD2 2F967m42A0",
   "2F968m7CE8 2F969m7CE3 2F96Am7D00 2F96Bm25F86 2F96Cm7D63 2F96Dm4301 2F96Em7DC7 2F96Fm7E02",
   "2F970m7E45 2F971m4334 2F972m26228 2F973m26247 2F974m4359 2F975m262D9 2F976m7F7A",
   "2F977m2633E 2F978m7F95 2F979m7FFA 2F97Am8005 2F97Bm264DA 2F97Cm26523 2F97Dm8060",
   "2F97Em265A8 2F97Fm8070 2F980m2335F 2F981m43D5 2F982m80B2 2F983m8103 2F984m440B",
   "2F985m813E 2F986m5AB5 2F987m267A7 2F988m267B5 2F989m23393 2F98Am2339C 2F98Bm8201",
   "2F98Cm8204 2F98Dm8F9E 2F98Em446B 2F98Fm8291 2F990m828B 2F991m829D 2F992m52B3 2F993m82B1",
   "2F994m82B3 2F995m82BD 2F996m82E6 2F997m26B3C 2F998m82E5 2F999m831D 2F99Am8363 2F99Bm83AD",
   "2F99Cm8323 2F99Dm83BD 2F99Em83E7 2F99Fm8457 2F9A0m8353 2F9A1m83CA 2F9A2m83CC 2F9A3m83DC",
   "2F9A4m26C36 2F9A5m26D6B 2F9A6m26CD5 2F9A7m452B 2F9A8m84F1 2F9A9m84F3 2F9AAm8516",
   "2F9ABm273CA 2F9ACm8564 2F9ADm26F2C 2F9AEm455D 2F9AFm4561 2F9B0m26FB1 2F9B1m270D2",
   "2F9B2m456B 2F9B3m8650 2F9B4m865C 2F9B5m8667 2F9B6m8669 2F9B7m86A9 2F9B8m8688 2F9B9m870E",
   "2F9BAm86E2 2F9BBm8779 2F9BCm8728 2F9BDm876B 2F9BEm8786 2F9BFm45D7 2F9C0m87E1 2F9C1m8801",
   "2F9C2m45F9 2F9C3m8860 2F9C4m8863 2F9C5m27667 2F9C6m88D7 2F9C7m88DE 2F9C8m4635 2F9C9m88FA",
   "2F9CAm34BB 2F9CBm278AE 2F9CCm27966 2F9CDm46BE 2F9CEm46C7 2F9CFm8AA0 2F9D0m8AED",
   "2F9D1m8B8A 2F9D2m8C55 2F9D3m27CA8 2F9D4m8CAB 2F9D5m8CC1 2F9D6m8D1B 2F9D7m8D77",
   "2F9D8m27F2F 2F9D9m20804 2F9DAm8DCB 2F9DBm8DBC 2F9DCm8DF0 2F9DDm208DE 2F9DEm8ED4",
   "2F9DFm8F38 2F9E0m285D2 2F9E1m285ED 2F9E2m9094 2F9E3m90F1 2F9E4m9111 2F9E5m2872E",
   "2F9E6m911B 2F9E7m9238 2F9E8s-26711 2F9EAm927C 2F9EBm93F9 2F9ECm9415 2F9EDm28BFA",
   "2F9EEm958B 2F9EFm4995 2F9F0m95B7 2F9F1m28D77 2F9F2m49E6 2F9F3m96C3 2F9F4m5DB2 2F9F5m9723",
   "2F9F6m29145 2F9F7m2921A 2F9F8m4A6E 2F9F9m4A76 2F9FAm97E0 2F9FBm2940A 2F9FCm4AB2",
   "2F9FDm29496 2F9FEm980B 2FA00m9829 2FA01m295B6 2FA02m98E2 2FA03m4B33 2FA04m9929",
   "2FA05m99A7 2FA06m99C2 2FA07m99FE 2FA08m4BCE 2FA09m29B30 2FA0Am9B12 2FA0Bm9C40 2FA0Cm9CFD",
   "2FA0Dm4CCE 2FA0Em4CED 2FA0Fm9D67 2FA10m2A0CE 2FA11m4CF8 2FA12m2A105 2FA13m2A20E",
   "2FA14m2A291 2FA15m9EBB 2FA16m4D56 2FA17m9EF9 2FA18m9EFE 2FA19m9F05 2FA1Am9F0F 2FA1Bm9F16",
   "2FA1Cm9F3B 2FA1Dm2A600 2FA1Ev 2FFFEx 30000v 3FFFEx E0100i E01F0x"]).map Row.ofText).toArray

def shift (n : Nat) (d : Int) : Nat := (n + d).toNat

/-- What the table says of a code point. -/
def status (n : Nat) : Status :=
  match lastAtOrBelow Row.start rows n with
  | some r =>
    match r.kind with
    | .valid => .valid
    | .disallowed => .disallowed
    | .ignored => .ignored
    | .mapped targets => .mapped targets
    | .shifted d => .mapped [shift n d]
    | .alternating d => if (n - r.start) % 2 == 0 then .mapped [shift n d] else .valid
  | none => .disallowed

end VoiceSession.Net.Idna
