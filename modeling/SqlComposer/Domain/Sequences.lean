/-
  SqlComposer.Domain.Sequences — characters that domains write as several, and ranges of
  characters that are all written alike (Unicode 17).
-/

namespace SqlComposer.Domain

/-- Latin digraphs and fractions, and letters written with their marks. -/
def latinSequences : List (Nat × Nat × List Nat) := [
 (0xA8, 0xA8, [0x20, 0x308]), (0xAF, 0xAF, [0x20, 0x304]), (0xB4, 0xB4, [0x20, 0x301]),
 (0xB8, 0xB8, [0x20, 0x327]), (0xBC, 0xBC, [0x31, 0x2044, 0x34]), (0xBD, 0xBD, [0x31, 0x2044, 0x32]),
 (0xBE, 0xBE, [0x33, 0x2044, 0x34]), (0x130, 0x130, [0x69, 0x307]), (0x132, 0x133, [0x69, 0x6A]),
 (0x13F, 0x140, [0x6C, 0xB7]), (0x149, 0x149, [0x2BC, 0x6E]), (0x1C4, 0x1C6, [0x64, 0x17E]),
 (0x1C7, 0x1C9, [0x6C, 0x6A]), (0x1CA, 0x1CC, [0x6E, 0x6A]), (0x1F1, 0x1F3, [0x64, 0x7A]),
 (0x2D8, 0x2D8, [0x20, 0x306]), (0x2D9, 0x2D9, [0x20, 0x307]), (0x2DA, 0x2DA, [0x20, 0x30A]),
 (0x2DB, 0x2DB, [0x20, 0x328]), (0x2DC, 0x2DC, [0x20, 0x303]), (0x2DD, 0x2DD, [0x20, 0x30B]),
 (0x344, 0x344, [0x308, 0x301]), (0x37A, 0x37A, [0x20, 0x3B9]), (0x384, 0x384, [0x20, 0x301]),
 (0x385, 0x385, [0x20, 0x308, 0x301]), (0x587, 0x587, [0x565, 0x582]), (0x675, 0x675, [0x627, 0x674]),
 (0x676, 0x676, [0x648, 0x674]), (0x677, 0x677, [0x6C7, 0x674]), (0x678, 0x678, [0x64A, 0x674]),
 (0x958, 0x958, [0x915, 0x93C]), (0x959, 0x959, [0x916, 0x93C]), (0x95A, 0x95A, [0x917, 0x93C]),
 (0x95B, 0x95B, [0x91C, 0x93C]), (0x95C, 0x95C, [0x921, 0x93C]), (0x95D, 0x95D, [0x922, 0x93C]),
 (0x95E, 0x95E, [0x92B, 0x93C]), (0x95F, 0x95F, [0x92F, 0x93C]), (0x9DC, 0x9DC, [0x9A1, 0x9BC]),
 (0x9DD, 0x9DD, [0x9A2, 0x9BC]), (0x9DF, 0x9DF, [0x9AF, 0x9BC]), (0xA33, 0xA33, [0xA32, 0xA3C]),
 (0xA36, 0xA36, [0xA38, 0xA3C]), (0xA59, 0xA59, [0xA16, 0xA3C]), (0xA5A, 0xA5A, [0xA17, 0xA3C]),
 (0xA5B, 0xA5B, [0xA1C, 0xA3C]), (0xA5E, 0xA5E, [0xA2B, 0xA3C]), (0xB5C, 0xB5C, [0xB21, 0xB3C]),
 (0xB5D, 0xB5D, [0xB22, 0xB3C]), (0xE33, 0xE33, [0xE4D, 0xE32]), (0xEB3, 0xEB3, [0xECD, 0xEB2]),
 (0xEDC, 0xEDC, [0xEAB, 0xE99]), (0xEDD, 0xEDD, [0xEAB, 0xEA1]), (0xF43, 0xF43, [0xF42, 0xFB7]),
 (0xF4D, 0xF4D, [0xF4C, 0xFB7]), (0xF52, 0xF52, [0xF51, 0xFB7]), (0xF57, 0xF57, [0xF56, 0xFB7]),
 (0xF5C, 0xF5C, [0xF5B, 0xFB7]), (0xF69, 0xF69, [0xF40, 0xFB5]), (0xF73, 0xF73, [0xF71, 0xF72]),
 (0xF75, 0xF75, [0xF71, 0xF74]), (0xF76, 0xF76, [0xFB2, 0xF80]), (0xF77, 0xF77, [0xFB2, 0xF71, 0xF80]),
 (0xF78, 0xF78, [0xFB3, 0xF80]), (0xF79, 0xF79, [0xFB3, 0xF71, 0xF80]), (0xF81, 0xF81, [0xF71, 0xF80]),
 (0xF93, 0xF93, [0xF92, 0xFB7]), (0xF9D, 0xF9D, [0xF9C, 0xFB7]), (0xFA2, 0xFA2, [0xFA1, 0xFB7]),
 (0xFA7, 0xFA7, [0xFA6, 0xFB7]), (0xFAC, 0xFAC, [0xFAB, 0xFB7]), (0xFB9, 0xFB9, [0xF90, 0xFB5]),
 (0x1E9A, 0x1E9A, [0x61, 0x2BE]), (0x1F80, 0x1F80, [0x1F00, 0x3B9]), (0x1F81, 0x1F81, [0x1F01, 0x3B9]),
 (0x1F82, 0x1F82, [0x1F02, 0x3B9]), (0x1F83, 0x1F83, [0x1F03, 0x3B9]), (0x1F84, 0x1F84, [0x1F04, 0x3B9]),
 (0x1F85, 0x1F85, [0x1F05, 0x3B9]), (0x1F86, 0x1F86, [0x1F06, 0x3B9]), (0x1F87, 0x1F87, [0x1F07, 0x3B9]),
 (0x1F88, 0x1F88, [0x1F00, 0x3B9]), (0x1F89, 0x1F89, [0x1F01, 0x3B9]), (0x1F8A, 0x1F8A, [0x1F02, 0x3B9]),
 (0x1F8B, 0x1F8B, [0x1F03, 0x3B9]), (0x1F8C, 0x1F8C, [0x1F04, 0x3B9]), (0x1F8D, 0x1F8D, [0x1F05, 0x3B9]),
 (0x1F8E, 0x1F8E, [0x1F06, 0x3B9]), (0x1F8F, 0x1F8F, [0x1F07, 0x3B9]), (0x1F90, 0x1F90, [0x1F20, 0x3B9]),
 (0x1F91, 0x1F91, [0x1F21, 0x3B9]), (0x1F92, 0x1F92, [0x1F22, 0x3B9]), (0x1F93, 0x1F93, [0x1F23, 0x3B9]),
 (0x1F94, 0x1F94, [0x1F24, 0x3B9]), (0x1F95, 0x1F95, [0x1F25, 0x3B9]), (0x1F96, 0x1F96, [0x1F26, 0x3B9]),
 (0x1F97, 0x1F97, [0x1F27, 0x3B9]), (0x1F98, 0x1F98, [0x1F20, 0x3B9]), (0x1F99, 0x1F99, [0x1F21, 0x3B9]),
 (0x1F9A, 0x1F9A, [0x1F22, 0x3B9]), (0x1F9B, 0x1F9B, [0x1F23, 0x3B9]), (0x1F9C, 0x1F9C, [0x1F24, 0x3B9]),
 (0x1F9D, 0x1F9D, [0x1F25, 0x3B9]), (0x1F9E, 0x1F9E, [0x1F26, 0x3B9]), (0x1F9F, 0x1F9F, [0x1F27, 0x3B9]),
 (0x1FA0, 0x1FA0, [0x1F60, 0x3B9]), (0x1FA1, 0x1FA1, [0x1F61, 0x3B9]), (0x1FA2, 0x1FA2, [0x1F62, 0x3B9]),
 (0x1FA3, 0x1FA3, [0x1F63, 0x3B9]), (0x1FA4, 0x1FA4, [0x1F64, 0x3B9]), (0x1FA5, 0x1FA5, [0x1F65, 0x3B9]),
 (0x1FA6, 0x1FA6, [0x1F66, 0x3B9]), (0x1FA7, 0x1FA7, [0x1F67, 0x3B9]), (0x1FA8, 0x1FA8, [0x1F60, 0x3B9]),
 (0x1FA9, 0x1FA9, [0x1F61, 0x3B9]), (0x1FAA, 0x1FAA, [0x1F62, 0x3B9]), (0x1FAB, 0x1FAB, [0x1F63, 0x3B9]),
 (0x1FAC, 0x1FAC, [0x1F64, 0x3B9]), (0x1FAD, 0x1FAD, [0x1F65, 0x3B9]), (0x1FAE, 0x1FAE, [0x1F66, 0x3B9]),
 (0x1FAF, 0x1FAF, [0x1F67, 0x3B9]), (0x1FB2, 0x1FB2, [0x1F70, 0x3B9]), (0x1FB3, 0x1FB3, [0x3B1, 0x3B9]),
 (0x1FB4, 0x1FB4, [0x3AC, 0x3B9]), (0x1FB7, 0x1FB7, [0x1FB6, 0x3B9]), (0x1FBC, 0x1FBC, [0x3B1, 0x3B9]),
 (0x1FBD, 0x1FBD, [0x20, 0x313]), (0x1FBF, 0x1FBF, [0x20, 0x313]), (0x1FC0, 0x1FC0, [0x20, 0x342]),
 (0x1FC1, 0x1FC1, [0x20, 0x308, 0x342]), (0x1FC2, 0x1FC2, [0x1F74, 0x3B9]), (0x1FC3, 0x1FC3, [0x3B7, 0x3B9]),
 (0x1FC4, 0x1FC4, [0x3AE, 0x3B9]), (0x1FC7, 0x1FC7, [0x1FC6, 0x3B9]), (0x1FCC, 0x1FCC, [0x3B7, 0x3B9]),
 (0x1FCD, 0x1FCD, [0x20, 0x313, 0x300]), (0x1FCE, 0x1FCE, [0x20, 0x313, 0x301]),
 (0x1FCF, 0x1FCF, [0x20, 0x313, 0x342]), (0x1FDD, 0x1FDD, [0x20, 0x314, 0x300]),
 (0x1FDE, 0x1FDE, [0x20, 0x314, 0x301]), (0x1FDF, 0x1FDF, [0x20, 0x314, 0x342]),
 (0x1FED, 0x1FED, [0x20, 0x308, 0x300]), (0x1FEE, 0x1FEE, [0x20, 0x308, 0x301]),
 (0x1FF2, 0x1FF2, [0x1F7C, 0x3B9]), (0x1FF3, 0x1FF3, [0x3C9, 0x3B9]), (0x1FF4, 0x1FF4, [0x3CE, 0x3B9]),
 (0x1FF7, 0x1FF7, [0x1FF6, 0x3B9]), (0x1FFC, 0x1FFC, [0x3C9, 0x3B9]), (0x1FFD, 0x1FFD, [0x20, 0x301]),
 (0x1FFE, 0x1FFE, [0x20, 0x314])]

/-- Signs made of several letters. -/
def symbolSequences : List (Nat × Nat × List Nat) := [
 (0x2000, 0x200A, [0x20]), (0x2017, 0x2017, [0x20, 0x333]), (0x2033, 0x2033, [0x2032, 0x2032]),
 (0x2034, 0x2034, [0x2032, 0x2032, 0x2032]), (0x2036, 0x2036, [0x2035, 0x2035]),
 (0x2037, 0x2037, [0x2035, 0x2035, 0x2035]), (0x203C, 0x203C, [0x21, 0x21]), (0x203E, 0x203E, [0x20, 0x305]),
 (0x2047, 0x2047, [0x3F, 0x3F]), (0x2048, 0x2048, [0x3F, 0x21]), (0x2049, 0x2049, [0x21, 0x3F]),
 (0x2057, 0x2057, [0x2032, 0x2032, 0x2032, 0x2032]), (0x20A8, 0x20A8, [0x72, 0x73]),
 (0x2100, 0x2100, [0x61, 0x2F, 0x63]), (0x2101, 0x2101, [0x61, 0x2F, 0x73]), (0x2103, 0x2103, [0xB0, 0x63]),
 (0x2105, 0x2105, [0x63, 0x2F, 0x6F]), (0x2106, 0x2106, [0x63, 0x2F, 0x75]), (0x2109, 0x2109, [0xB0, 0x66]),
 (0x210C, 0x210E, [0x68]), (0x2110, 0x2111, [0x69]), (0x2112, 0x2113, [0x6C]), (0x2116, 0x2116, [0x6E, 0x6F]),
 (0x211C, 0x211D, [0x72]), (0x2120, 0x2120, [0x73, 0x6D]), (0x2121, 0x2121, [0x74, 0x65, 0x6C]),
 (0x2122, 0x2122, [0x74, 0x6D]), (0x213B, 0x213B, [0x66, 0x61, 0x78]), (0x213D, 0x213E, [0x3B3]),
 (0x2150, 0x2150, [0x31, 0x2044, 0x37]), (0x2151, 0x2151, [0x31, 0x2044, 0x39]),
 (0x2152, 0x2152, [0x31, 0x2044, 0x31, 0x30]), (0x2153, 0x2153, [0x31, 0x2044, 0x33]),
 (0x2154, 0x2154, [0x32, 0x2044, 0x33]), (0x2155, 0x2155, [0x31, 0x2044, 0x35]),
 (0x2156, 0x2156, [0x32, 0x2044, 0x35]), (0x2157, 0x2157, [0x33, 0x2044, 0x35]),
 (0x2158, 0x2158, [0x34, 0x2044, 0x35]), (0x2159, 0x2159, [0x31, 0x2044, 0x36]),
 (0x215A, 0x215A, [0x35, 0x2044, 0x36]), (0x215B, 0x215B, [0x31, 0x2044, 0x38]),
 (0x215C, 0x215C, [0x33, 0x2044, 0x38]), (0x215D, 0x215D, [0x35, 0x2044, 0x38]),
 (0x215E, 0x215E, [0x37, 0x2044, 0x38]), (0x215F, 0x215F, [0x31, 0x2044]), (0x2161, 0x2161, [0x69, 0x69]),
 (0x2162, 0x2162, [0x69, 0x69, 0x69]), (0x2163, 0x2163, [0x69, 0x76]), (0x2165, 0x2165, [0x76, 0x69]),
 (0x2166, 0x2166, [0x76, 0x69, 0x69]), (0x2167, 0x2167, [0x76, 0x69, 0x69, 0x69]),
 (0x2168, 0x2168, [0x69, 0x78]), (0x216A, 0x216A, [0x78, 0x69]), (0x216B, 0x216B, [0x78, 0x69, 0x69]),
 (0x2171, 0x2171, [0x69, 0x69]), (0x2172, 0x2172, [0x69, 0x69, 0x69]), (0x2173, 0x2173, [0x69, 0x76]),
 (0x2175, 0x2175, [0x76, 0x69]), (0x2176, 0x2176, [0x76, 0x69, 0x69]),
 (0x2177, 0x2177, [0x76, 0x69, 0x69, 0x69]), (0x2178, 0x2178, [0x69, 0x78]), (0x217A, 0x217A, [0x78, 0x69]),
 (0x217B, 0x217B, [0x78, 0x69, 0x69]), (0x2189, 0x2189, [0x30, 0x2044, 0x33]),
 (0x222C, 0x222C, [0x222B, 0x222B]), (0x222D, 0x222D, [0x222B, 0x222B, 0x222B]),
 (0x222F, 0x222F, [0x222E, 0x222E]), (0x2230, 0x2230, [0x222E, 0x222E, 0x222E]),
 (0x2469, 0x2469, [0x31, 0x30]), (0x246A, 0x246A, [0x31, 0x31]), (0x246B, 0x246B, [0x31, 0x32]),
 (0x246C, 0x246C, [0x31, 0x33]), (0x246D, 0x246D, [0x31, 0x34]), (0x246E, 0x246E, [0x31, 0x35]),
 (0x246F, 0x246F, [0x31, 0x36]), (0x2470, 0x2470, [0x31, 0x37]), (0x2471, 0x2471, [0x31, 0x38]),
 (0x2472, 0x2472, [0x31, 0x39]), (0x2473, 0x2473, [0x32, 0x30]), (0x2474, 0x2474, [0x28, 0x31, 0x29]),
 (0x2475, 0x2475, [0x28, 0x32, 0x29]), (0x2476, 0x2476, [0x28, 0x33, 0x29]),
 (0x2477, 0x2477, [0x28, 0x34, 0x29]), (0x2478, 0x2478, [0x28, 0x35, 0x29]),
 (0x2479, 0x2479, [0x28, 0x36, 0x29]), (0x247A, 0x247A, [0x28, 0x37, 0x29]),
 (0x247B, 0x247B, [0x28, 0x38, 0x29]), (0x247C, 0x247C, [0x28, 0x39, 0x29]),
 (0x247D, 0x247D, [0x28, 0x31, 0x30, 0x29]), (0x247E, 0x247E, [0x28, 0x31, 0x31, 0x29]),
 (0x247F, 0x247F, [0x28, 0x31, 0x32, 0x29]), (0x2480, 0x2480, [0x28, 0x31, 0x33, 0x29]),
 (0x2481, 0x2481, [0x28, 0x31, 0x34, 0x29]), (0x2482, 0x2482, [0x28, 0x31, 0x35, 0x29]),
 (0x2483, 0x2483, [0x28, 0x31, 0x36, 0x29]), (0x2484, 0x2484, [0x28, 0x31, 0x37, 0x29]),
 (0x2485, 0x2485, [0x28, 0x31, 0x38, 0x29]), (0x2486, 0x2486, [0x28, 0x31, 0x39, 0x29]),
 (0x2487, 0x2487, [0x28, 0x32, 0x30, 0x29]), (0x249C, 0x249C, [0x28, 0x61, 0x29]),
 (0x249D, 0x249D, [0x28, 0x62, 0x29]), (0x249E, 0x249E, [0x28, 0x63, 0x29]),
 (0x249F, 0x249F, [0x28, 0x64, 0x29]), (0x24A0, 0x24A0, [0x28, 0x65, 0x29]),
 (0x24A1, 0x24A1, [0x28, 0x66, 0x29]), (0x24A2, 0x24A2, [0x28, 0x67, 0x29]),
 (0x24A3, 0x24A3, [0x28, 0x68, 0x29]), (0x24A4, 0x24A4, [0x28, 0x69, 0x29]),
 (0x24A5, 0x24A5, [0x28, 0x6A, 0x29]), (0x24A6, 0x24A6, [0x28, 0x6B, 0x29]),
 (0x24A7, 0x24A7, [0x28, 0x6C, 0x29]), (0x24A8, 0x24A8, [0x28, 0x6D, 0x29]),
 (0x24A9, 0x24A9, [0x28, 0x6E, 0x29]), (0x24AA, 0x24AA, [0x28, 0x6F, 0x29]),
 (0x24AB, 0x24AB, [0x28, 0x70, 0x29]), (0x24AC, 0x24AC, [0x28, 0x71, 0x29]),
 (0x24AD, 0x24AD, [0x28, 0x72, 0x29]), (0x24AE, 0x24AE, [0x28, 0x73, 0x29]),
 (0x24AF, 0x24AF, [0x28, 0x74, 0x29]), (0x24B0, 0x24B0, [0x28, 0x75, 0x29]),
 (0x24B1, 0x24B1, [0x28, 0x76, 0x29]), (0x24B2, 0x24B2, [0x28, 0x77, 0x29]),
 (0x24B3, 0x24B3, [0x28, 0x78, 0x29]), (0x24B4, 0x24B4, [0x28, 0x79, 0x29]),
 (0x24B5, 0x24B5, [0x28, 0x7A, 0x29]), (0x2A0C, 0x2A0C, [0x222B, 0x222B, 0x222B, 0x222B]),
 (0x2A74, 0x2A74, [0x3A, 0x3A, 0x3D]), (0x2A75, 0x2A75, [0x3D, 0x3D]), (0x2A76, 0x2A76, [0x3D, 0x3D, 0x3D]),
 (0x2ADC, 0x2ADC, [0x2ADD, 0x338])]

/-- Squared and enclosed words. -/
def eastAsianSequences : List (Nat × Nat × List Nat) := [
 (0x309B, 0x309B, [0x20, 0x3099]), (0x309C, 0x309C, [0x20, 0x309A]), (0x309F, 0x309F, [0x3088, 0x308A]),
 (0x30FF, 0x30FF, [0x30B3, 0x30C8]), (0x3200, 0x3200, [0x28, 0x1100, 0x29]),
 (0x3201, 0x3201, [0x28, 0x1102, 0x29]), (0x3202, 0x3202, [0x28, 0x1103, 0x29]),
 (0x3203, 0x3203, [0x28, 0x1105, 0x29]), (0x3204, 0x3204, [0x28, 0x1106, 0x29]),
 (0x3205, 0x3205, [0x28, 0x1107, 0x29]), (0x3206, 0x3206, [0x28, 0x1109, 0x29]),
 (0x3207, 0x3207, [0x28, 0x110B, 0x29]), (0x3208, 0x3208, [0x28, 0x110C, 0x29]),
 (0x3209, 0x3209, [0x28, 0x110E, 0x29]), (0x320A, 0x320A, [0x28, 0x110F, 0x29]),
 (0x320B, 0x320B, [0x28, 0x1110, 0x29]), (0x320C, 0x320C, [0x28, 0x1111, 0x29]),
 (0x320D, 0x320D, [0x28, 0x1112, 0x29]), (0x320E, 0x320E, [0x28, 0xAC00, 0x29]),
 (0x320F, 0x320F, [0x28, 0xB098, 0x29]), (0x3210, 0x3210, [0x28, 0xB2E4, 0x29]),
 (0x3211, 0x3211, [0x28, 0xB77C, 0x29]), (0x3212, 0x3212, [0x28, 0xB9C8, 0x29]),
 (0x3213, 0x3213, [0x28, 0xBC14, 0x29]), (0x3214, 0x3214, [0x28, 0xC0AC, 0x29]),
 (0x3215, 0x3215, [0x28, 0xC544, 0x29]), (0x3216, 0x3216, [0x28, 0xC790, 0x29]),
 (0x3217, 0x3217, [0x28, 0xCC28, 0x29]), (0x3218, 0x3218, [0x28, 0xCE74, 0x29]),
 (0x3219, 0x3219, [0x28, 0xD0C0, 0x29]), (0x321A, 0x321A, [0x28, 0xD30C, 0x29]),
 (0x321B, 0x321B, [0x28, 0xD558, 0x29]), (0x321C, 0x321C, [0x28, 0xC8FC, 0x29]),
 (0x321D, 0x321D, [0x28, 0xC624, 0xC804, 0x29]), (0x321E, 0x321E, [0x28, 0xC624, 0xD6C4, 0x29]),
 (0x3220, 0x3220, [0x28, 0x4E00, 0x29]), (0x3221, 0x3221, [0x28, 0x4E8C, 0x29]),
 (0x3222, 0x3222, [0x28, 0x4E09, 0x29]), (0x3223, 0x3223, [0x28, 0x56DB, 0x29]),
 (0x3224, 0x3224, [0x28, 0x4E94, 0x29]), (0x3225, 0x3225, [0x28, 0x516D, 0x29]),
 (0x3226, 0x3226, [0x28, 0x4E03, 0x29]), (0x3227, 0x3227, [0x28, 0x516B, 0x29]),
 (0x3228, 0x3228, [0x28, 0x4E5D, 0x29]), (0x3229, 0x3229, [0x28, 0x5341, 0x29]),
 (0x322A, 0x322A, [0x28, 0x6708, 0x29]), (0x322B, 0x322B, [0x28, 0x706B, 0x29]),
 (0x322C, 0x322C, [0x28, 0x6C34, 0x29]), (0x322D, 0x322D, [0x28, 0x6728, 0x29]),
 (0x322E, 0x322E, [0x28, 0x91D1, 0x29]), (0x322F, 0x322F, [0x28, 0x571F, 0x29]),
 (0x3230, 0x3230, [0x28, 0x65E5, 0x29]), (0x3231, 0x3231, [0x28, 0x682A, 0x29]),
 (0x3232, 0x3232, [0x28, 0x6709, 0x29]), (0x3233, 0x3233, [0x28, 0x793E, 0x29]),
 (0x3234, 0x3234, [0x28, 0x540D, 0x29]), (0x3235, 0x3235, [0x28, 0x7279, 0x29]),
 (0x3236, 0x3236, [0x28, 0x8CA1, 0x29]), (0x3237, 0x3237, [0x28, 0x795D, 0x29]),
 (0x3238, 0x3238, [0x28, 0x52B4, 0x29]), (0x3239, 0x3239, [0x28, 0x4EE3, 0x29]),
 (0x323A, 0x323A, [0x28, 0x547C, 0x29]), (0x323B, 0x323B, [0x28, 0x5B66, 0x29]),
 (0x323C, 0x323C, [0x28, 0x76E3, 0x29]), (0x323D, 0x323D, [0x28, 0x4F01, 0x29]),
 (0x323E, 0x323E, [0x28, 0x8CC7, 0x29]), (0x323F, 0x323F, [0x28, 0x5354, 0x29]),
 (0x3240, 0x3240, [0x28, 0x796D, 0x29]), (0x3241, 0x3241, [0x28, 0x4F11, 0x29]),
 (0x3242, 0x3242, [0x28, 0x81EA, 0x29]), (0x3243, 0x3243, [0x28, 0x81F3, 0x29]),
 (0x3250, 0x3250, [0x70, 0x74, 0x65]), (0x3251, 0x3251, [0x32, 0x31]), (0x3252, 0x3252, [0x32, 0x32]),
 (0x3253, 0x3253, [0x32, 0x33]), (0x3254, 0x3254, [0x32, 0x34]), (0x3255, 0x3255, [0x32, 0x35]),
 (0x3256, 0x3256, [0x32, 0x36]), (0x3257, 0x3257, [0x32, 0x37]), (0x3258, 0x3258, [0x32, 0x38]),
 (0x3259, 0x3259, [0x32, 0x39]), (0x325A, 0x325A, [0x33, 0x30]), (0x325B, 0x325B, [0x33, 0x31]),
 (0x325C, 0x325C, [0x33, 0x32]), (0x325D, 0x325D, [0x33, 0x33]), (0x325E, 0x325E, [0x33, 0x34]),
 (0x325F, 0x325F, [0x33, 0x35]), (0x327C, 0x327C, [0xCC38, 0xACE0]), (0x327D, 0x327D, [0xC8FC, 0xC758]),
 (0x32B1, 0x32B1, [0x33, 0x36]), (0x32B2, 0x32B2, [0x33, 0x37]), (0x32B3, 0x32B3, [0x33, 0x38]),
 (0x32B4, 0x32B4, [0x33, 0x39]), (0x32B5, 0x32B5, [0x34, 0x30]), (0x32B6, 0x32B6, [0x34, 0x31]),
 (0x32B7, 0x32B7, [0x34, 0x32]), (0x32B8, 0x32B8, [0x34, 0x33]), (0x32B9, 0x32B9, [0x34, 0x34]),
 (0x32BA, 0x32BA, [0x34, 0x35]), (0x32BB, 0x32BB, [0x34, 0x36]), (0x32BC, 0x32BC, [0x34, 0x37]),
 (0x32BD, 0x32BD, [0x34, 0x38]), (0x32BE, 0x32BE, [0x34, 0x39]), (0x32BF, 0x32BF, [0x35, 0x30]),
 (0x32C0, 0x32C0, [0x31, 0x6708]), (0x32C1, 0x32C1, [0x32, 0x6708]), (0x32C2, 0x32C2, [0x33, 0x6708]),
 (0x32C3, 0x32C3, [0x34, 0x6708]), (0x32C4, 0x32C4, [0x35, 0x6708]), (0x32C5, 0x32C5, [0x36, 0x6708]),
 (0x32C6, 0x32C6, [0x37, 0x6708]), (0x32C7, 0x32C7, [0x38, 0x6708]), (0x32C8, 0x32C8, [0x39, 0x6708]),
 (0x32C9, 0x32C9, [0x31, 0x30, 0x6708]), (0x32CA, 0x32CA, [0x31, 0x31, 0x6708]),
 (0x32CB, 0x32CB, [0x31, 0x32, 0x6708]), (0x32CC, 0x32CC, [0x68, 0x67]), (0x32CD, 0x32CD, [0x65, 0x72, 0x67]),
 (0x32CE, 0x32CE, [0x65, 0x76]), (0x32CF, 0x32CF, [0x6C, 0x74, 0x64]), (0x32FF, 0x32FF, [0x4EE4, 0x548C]),
 (0x3300, 0x3300, [0x30A2, 0x30D1, 0x30FC, 0x30C8]), (0x3301, 0x3301, [0x30A2, 0x30EB, 0x30D5, 0x30A1]),
 (0x3302, 0x3302, [0x30A2, 0x30F3, 0x30DA, 0x30A2]), (0x3303, 0x3303, [0x30A2, 0x30FC, 0x30EB]),
 (0x3304, 0x3304, [0x30A4, 0x30CB, 0x30F3, 0x30B0]), (0x3305, 0x3305, [0x30A4, 0x30F3, 0x30C1]),
 (0x3306, 0x3306, [0x30A6, 0x30A9, 0x30F3]), (0x3307, 0x3307, [0x30A8, 0x30B9, 0x30AF, 0x30FC, 0x30C9]),
 (0x3308, 0x3308, [0x30A8, 0x30FC, 0x30AB, 0x30FC]), (0x3309, 0x3309, [0x30AA, 0x30F3, 0x30B9]),
 (0x330A, 0x330A, [0x30AA, 0x30FC, 0x30E0]), (0x330B, 0x330B, [0x30AB, 0x30A4, 0x30EA]),
 (0x330C, 0x330C, [0x30AB, 0x30E9, 0x30C3, 0x30C8]), (0x330D, 0x330D, [0x30AB, 0x30ED, 0x30EA, 0x30FC]),
 (0x330E, 0x330E, [0x30AC, 0x30ED, 0x30F3]), (0x330F, 0x330F, [0x30AC, 0x30F3, 0x30DE]),
 (0x3310, 0x3310, [0x30AE, 0x30AC]), (0x3311, 0x3311, [0x30AE, 0x30CB, 0x30FC]),
 (0x3312, 0x3312, [0x30AD, 0x30E5, 0x30EA, 0x30FC]), (0x3313, 0x3313, [0x30AE, 0x30EB, 0x30C0, 0x30FC]),
 (0x3314, 0x3314, [0x30AD, 0x30ED]), (0x3315, 0x3315, [0x30AD, 0x30ED, 0x30B0, 0x30E9, 0x30E0]),
 (0x3316, 0x3316, [0x30AD, 0x30ED, 0x30E1, 0x30FC, 0x30C8, 0x30EB]),
 (0x3317, 0x3317, [0x30AD, 0x30ED, 0x30EF, 0x30C3, 0x30C8]), (0x3318, 0x3318, [0x30B0, 0x30E9, 0x30E0]),
 (0x3319, 0x3319, [0x30B0, 0x30E9, 0x30E0, 0x30C8, 0x30F3]),
 (0x331A, 0x331A, [0x30AF, 0x30EB, 0x30BC, 0x30A4, 0x30ED]),
 (0x331B, 0x331B, [0x30AF, 0x30ED, 0x30FC, 0x30CD]), (0x331C, 0x331C, [0x30B1, 0x30FC, 0x30B9]),
 (0x331D, 0x331D, [0x30B3, 0x30EB, 0x30CA]), (0x331E, 0x331E, [0x30B3, 0x30FC, 0x30DD]),
 (0x331F, 0x331F, [0x30B5, 0x30A4, 0x30AF, 0x30EB]),
 (0x3320, 0x3320, [0x30B5, 0x30F3, 0x30C1, 0x30FC, 0x30E0]),
 (0x3321, 0x3321, [0x30B7, 0x30EA, 0x30F3, 0x30B0]), (0x3322, 0x3322, [0x30BB, 0x30F3, 0x30C1]),
 (0x3323, 0x3323, [0x30BB, 0x30F3, 0x30C8]), (0x3324, 0x3324, [0x30C0, 0x30FC, 0x30B9]),
 (0x3325, 0x3325, [0x30C7, 0x30B7]), (0x3326, 0x3326, [0x30C9, 0x30EB]), (0x3327, 0x3327, [0x30C8, 0x30F3]),
 (0x3328, 0x3328, [0x30CA, 0x30CE]), (0x3329, 0x3329, [0x30CE, 0x30C3, 0x30C8]),
 (0x332A, 0x332A, [0x30CF, 0x30A4, 0x30C4]), (0x332B, 0x332B, [0x30D1, 0x30FC, 0x30BB, 0x30F3, 0x30C8]),
 (0x332C, 0x332C, [0x30D1, 0x30FC, 0x30C4]), (0x332D, 0x332D, [0x30D0, 0x30FC, 0x30EC, 0x30EB]),
 (0x332E, 0x332E, [0x30D4, 0x30A2, 0x30B9, 0x30C8, 0x30EB]), (0x332F, 0x332F, [0x30D4, 0x30AF, 0x30EB]),
 (0x3330, 0x3330, [0x30D4, 0x30B3]), (0x3331, 0x3331, [0x30D3, 0x30EB]),
 (0x3332, 0x3332, [0x30D5, 0x30A1, 0x30E9, 0x30C3, 0x30C9]),
 (0x3333, 0x3333, [0x30D5, 0x30A3, 0x30FC, 0x30C8]),
 (0x3334, 0x3334, [0x30D6, 0x30C3, 0x30B7, 0x30A7, 0x30EB]), (0x3335, 0x3335, [0x30D5, 0x30E9, 0x30F3]),
 (0x3336, 0x3336, [0x30D8, 0x30AF, 0x30BF, 0x30FC, 0x30EB]), (0x3337, 0x3337, [0x30DA, 0x30BD]),
 (0x3338, 0x3338, [0x30DA, 0x30CB, 0x30D2]), (0x3339, 0x3339, [0x30D8, 0x30EB, 0x30C4]),
 (0x333A, 0x333A, [0x30DA, 0x30F3, 0x30B9]), (0x333B, 0x333B, [0x30DA, 0x30FC, 0x30B8]),
 (0x333C, 0x333C, [0x30D9, 0x30FC, 0x30BF]), (0x333D, 0x333D, [0x30DD, 0x30A4, 0x30F3, 0x30C8]),
 (0x333E, 0x333E, [0x30DC, 0x30EB, 0x30C8]), (0x333F, 0x333F, [0x30DB, 0x30F3]),
 (0x3340, 0x3340, [0x30DD, 0x30F3, 0x30C9]), (0x3341, 0x3341, [0x30DB, 0x30FC, 0x30EB]),
 (0x3342, 0x3342, [0x30DB, 0x30FC, 0x30F3]), (0x3343, 0x3343, [0x30DE, 0x30A4, 0x30AF, 0x30ED]),
 (0x3344, 0x3344, [0x30DE, 0x30A4, 0x30EB]), (0x3345, 0x3345, [0x30DE, 0x30C3, 0x30CF]),
 (0x3346, 0x3346, [0x30DE, 0x30EB, 0x30AF]), (0x3347, 0x3347, [0x30DE, 0x30F3, 0x30B7, 0x30E7, 0x30F3]),
 (0x3348, 0x3348, [0x30DF, 0x30AF, 0x30ED, 0x30F3]), (0x3349, 0x3349, [0x30DF, 0x30EA]),
 (0x334A, 0x334A, [0x30DF, 0x30EA, 0x30D0, 0x30FC, 0x30EB]), (0x334B, 0x334B, [0x30E1, 0x30AC]),
 (0x334C, 0x334C, [0x30E1, 0x30AC, 0x30C8, 0x30F3]), (0x334D, 0x334D, [0x30E1, 0x30FC, 0x30C8, 0x30EB]),
 (0x334E, 0x334E, [0x30E4, 0x30FC, 0x30C9]), (0x334F, 0x334F, [0x30E4, 0x30FC, 0x30EB]),
 (0x3350, 0x3350, [0x30E6, 0x30A2, 0x30F3]), (0x3351, 0x3351, [0x30EA, 0x30C3, 0x30C8, 0x30EB]),
 (0x3352, 0x3352, [0x30EA, 0x30E9]), (0x3353, 0x3353, [0x30EB, 0x30D4, 0x30FC]),
 (0x3354, 0x3354, [0x30EB, 0x30FC, 0x30D6, 0x30EB]), (0x3355, 0x3355, [0x30EC, 0x30E0]),
 (0x3356, 0x3356, [0x30EC, 0x30F3, 0x30C8, 0x30B2, 0x30F3]), (0x3357, 0x3357, [0x30EF, 0x30C3, 0x30C8]),
 (0x3358, 0x3358, [0x30, 0x70B9]), (0x3359, 0x3359, [0x31, 0x70B9]), (0x335A, 0x335A, [0x32, 0x70B9]),
 (0x335B, 0x335B, [0x33, 0x70B9]), (0x335C, 0x335C, [0x34, 0x70B9]), (0x335D, 0x335D, [0x35, 0x70B9]),
 (0x335E, 0x335E, [0x36, 0x70B9]), (0x335F, 0x335F, [0x37, 0x70B9]), (0x3360, 0x3360, [0x38, 0x70B9]),
 (0x3361, 0x3361, [0x39, 0x70B9]), (0x3362, 0x3362, [0x31, 0x30, 0x70B9]),
 (0x3363, 0x3363, [0x31, 0x31, 0x70B9]), (0x3364, 0x3364, [0x31, 0x32, 0x70B9]),
 (0x3365, 0x3365, [0x31, 0x33, 0x70B9]), (0x3366, 0x3366, [0x31, 0x34, 0x70B9]),
 (0x3367, 0x3367, [0x31, 0x35, 0x70B9]), (0x3368, 0x3368, [0x31, 0x36, 0x70B9]),
 (0x3369, 0x3369, [0x31, 0x37, 0x70B9]), (0x336A, 0x336A, [0x31, 0x38, 0x70B9]),
 (0x336B, 0x336B, [0x31, 0x39, 0x70B9]), (0x336C, 0x336C, [0x32, 0x30, 0x70B9]),
 (0x336D, 0x336D, [0x32, 0x31, 0x70B9]), (0x336E, 0x336E, [0x32, 0x32, 0x70B9]),
 (0x336F, 0x336F, [0x32, 0x33, 0x70B9]), (0x3370, 0x3370, [0x32, 0x34, 0x70B9]),
 (0x3371, 0x3371, [0x68, 0x70, 0x61]), (0x3372, 0x3372, [0x64, 0x61]), (0x3373, 0x3373, [0x61, 0x75]),
 (0x3374, 0x3374, [0x62, 0x61, 0x72]), (0x3375, 0x3375, [0x6F, 0x76]), (0x3376, 0x3376, [0x70, 0x63]),
 (0x3377, 0x3377, [0x64, 0x6D]), (0x3378, 0x3378, [0x64, 0x6D, 0x32]), (0x3379, 0x3379, [0x64, 0x6D, 0x33]),
 (0x337A, 0x337A, [0x69, 0x75]), (0x337B, 0x337B, [0x5E73, 0x6210]), (0x337C, 0x337C, [0x662D, 0x548C]),
 (0x337D, 0x337D, [0x5927, 0x6B63]), (0x337E, 0x337E, [0x660E, 0x6CBB]),
 (0x337F, 0x337F, [0x682A, 0x5F0F, 0x4F1A, 0x793E]), (0x3380, 0x3380, [0x70, 0x61]),
 (0x3381, 0x3381, [0x6E, 0x61]), (0x3382, 0x3382, [0x3BC, 0x61]), (0x3383, 0x3383, [0x6D, 0x61]),
 (0x3384, 0x3384, [0x6B, 0x61]), (0x3385, 0x3385, [0x6B, 0x62]), (0x3386, 0x3386, [0x6D, 0x62]),
 (0x3387, 0x3387, [0x67, 0x62]), (0x3388, 0x3388, [0x63, 0x61, 0x6C]),
 (0x3389, 0x3389, [0x6B, 0x63, 0x61, 0x6C]), (0x338A, 0x338A, [0x70, 0x66]), (0x338B, 0x338B, [0x6E, 0x66]),
 (0x338C, 0x338C, [0x3BC, 0x66]), (0x338D, 0x338D, [0x3BC, 0x67]), (0x338E, 0x338E, [0x6D, 0x67]),
 (0x338F, 0x338F, [0x6B, 0x67]), (0x3390, 0x3390, [0x68, 0x7A]), (0x3391, 0x3391, [0x6B, 0x68, 0x7A]),
 (0x3392, 0x3392, [0x6D, 0x68, 0x7A]), (0x3393, 0x3393, [0x67, 0x68, 0x7A]),
 (0x3394, 0x3394, [0x74, 0x68, 0x7A]), (0x3395, 0x3395, [0x3BC, 0x6C]), (0x3396, 0x3396, [0x6D, 0x6C]),
 (0x3397, 0x3397, [0x64, 0x6C]), (0x3398, 0x3398, [0x6B, 0x6C]), (0x3399, 0x3399, [0x66, 0x6D]),
 (0x339A, 0x339A, [0x6E, 0x6D]), (0x339B, 0x339B, [0x3BC, 0x6D]), (0x339C, 0x339C, [0x6D, 0x6D]),
 (0x339D, 0x339D, [0x63, 0x6D]), (0x339E, 0x339E, [0x6B, 0x6D]), (0x339F, 0x339F, [0x6D, 0x6D, 0x32]),
 (0x33A0, 0x33A0, [0x63, 0x6D, 0x32]), (0x33A1, 0x33A1, [0x6D, 0x32]), (0x33A2, 0x33A2, [0x6B, 0x6D, 0x32]),
 (0x33A3, 0x33A3, [0x6D, 0x6D, 0x33]), (0x33A4, 0x33A4, [0x63, 0x6D, 0x33]), (0x33A5, 0x33A5, [0x6D, 0x33]),
 (0x33A6, 0x33A6, [0x6B, 0x6D, 0x33]), (0x33A7, 0x33A7, [0x6D, 0x2215, 0x73]),
 (0x33A8, 0x33A8, [0x6D, 0x2215, 0x73, 0x32]), (0x33A9, 0x33A9, [0x70, 0x61]),
 (0x33AA, 0x33AA, [0x6B, 0x70, 0x61]), (0x33AB, 0x33AB, [0x6D, 0x70, 0x61]),
 (0x33AC, 0x33AC, [0x67, 0x70, 0x61]), (0x33AD, 0x33AD, [0x72, 0x61, 0x64]),
 (0x33AE, 0x33AE, [0x72, 0x61, 0x64, 0x2215, 0x73]), (0x33AF, 0x33AF, [0x72, 0x61, 0x64, 0x2215, 0x73, 0x32]),
 (0x33B0, 0x33B0, [0x70, 0x73]), (0x33B1, 0x33B1, [0x6E, 0x73]), (0x33B2, 0x33B2, [0x3BC, 0x73]),
 (0x33B3, 0x33B3, [0x6D, 0x73]), (0x33B4, 0x33B4, [0x70, 0x76]), (0x33B5, 0x33B5, [0x6E, 0x76]),
 (0x33B6, 0x33B6, [0x3BC, 0x76]), (0x33B7, 0x33B7, [0x6D, 0x76]), (0x33B8, 0x33B8, [0x6B, 0x76]),
 (0x33B9, 0x33B9, [0x6D, 0x76]), (0x33BA, 0x33BA, [0x70, 0x77]), (0x33BB, 0x33BB, [0x6E, 0x77]),
 (0x33BC, 0x33BC, [0x3BC, 0x77]), (0x33BD, 0x33BD, [0x6D, 0x77]), (0x33BE, 0x33BE, [0x6B, 0x77]),
 (0x33BF, 0x33BF, [0x6D, 0x77]), (0x33C0, 0x33C0, [0x6B, 0x3C9]), (0x33C1, 0x33C1, [0x6D, 0x3C9]),
 (0x33C3, 0x33C3, [0x62, 0x71]), (0x33C4, 0x33C4, [0x63, 0x63]), (0x33C5, 0x33C5, [0x63, 0x64]),
 (0x33C6, 0x33C6, [0x63, 0x2215, 0x6B, 0x67]), (0x33C8, 0x33C8, [0x64, 0x62]), (0x33C9, 0x33C9, [0x67, 0x79]),
 (0x33CA, 0x33CA, [0x68, 0x61]), (0x33CB, 0x33CB, [0x68, 0x70]), (0x33CC, 0x33CC, [0x69, 0x6E]),
 (0x33CD, 0x33CD, [0x6B, 0x6B]), (0x33CE, 0x33CE, [0x6B, 0x6D]), (0x33CF, 0x33CF, [0x6B, 0x74]),
 (0x33D0, 0x33D0, [0x6C, 0x6D]), (0x33D1, 0x33D1, [0x6C, 0x6E]), (0x33D2, 0x33D2, [0x6C, 0x6F, 0x67]),
 (0x33D3, 0x33D3, [0x6C, 0x78]), (0x33D4, 0x33D4, [0x6D, 0x62]), (0x33D5, 0x33D5, [0x6D, 0x69, 0x6C]),
 (0x33D6, 0x33D6, [0x6D, 0x6F, 0x6C]), (0x33D7, 0x33D7, [0x70, 0x68]), (0x33D9, 0x33D9, [0x70, 0x70, 0x6D]),
 (0x33DA, 0x33DA, [0x70, 0x72]), (0x33DB, 0x33DB, [0x73, 0x72]), (0x33DC, 0x33DC, [0x73, 0x76]),
 (0x33DD, 0x33DD, [0x77, 0x62]), (0x33DE, 0x33DE, [0x76, 0x2215, 0x6D]),
 (0x33DF, 0x33DF, [0x61, 0x2215, 0x6D]), (0x33E0, 0x33E0, [0x31, 0x65E5]), (0x33E1, 0x33E1, [0x32, 0x65E5]),
 (0x33E2, 0x33E2, [0x33, 0x65E5]), (0x33E3, 0x33E3, [0x34, 0x65E5]), (0x33E4, 0x33E4, [0x35, 0x65E5]),
 (0x33E5, 0x33E5, [0x36, 0x65E5]), (0x33E6, 0x33E6, [0x37, 0x65E5]), (0x33E7, 0x33E7, [0x38, 0x65E5]),
 (0x33E8, 0x33E8, [0x39, 0x65E5]), (0x33E9, 0x33E9, [0x31, 0x30, 0x65E5]),
 (0x33EA, 0x33EA, [0x31, 0x31, 0x65E5]), (0x33EB, 0x33EB, [0x31, 0x32, 0x65E5]),
 (0x33EC, 0x33EC, [0x31, 0x33, 0x65E5]), (0x33ED, 0x33ED, [0x31, 0x34, 0x65E5]),
 (0x33EE, 0x33EE, [0x31, 0x35, 0x65E5]), (0x33EF, 0x33EF, [0x31, 0x36, 0x65E5]),
 (0x33F0, 0x33F0, [0x31, 0x37, 0x65E5]), (0x33F1, 0x33F1, [0x31, 0x38, 0x65E5]),
 (0x33F2, 0x33F2, [0x31, 0x39, 0x65E5]), (0x33F3, 0x33F3, [0x32, 0x30, 0x65E5]),
 (0x33F4, 0x33F4, [0x32, 0x31, 0x65E5]), (0x33F5, 0x33F5, [0x32, 0x32, 0x65E5]),
 (0x33F6, 0x33F6, [0x32, 0x33, 0x65E5]), (0x33F7, 0x33F7, [0x32, 0x34, 0x65E5]),
 (0x33F8, 0x33F8, [0x32, 0x35, 0x65E5]), (0x33F9, 0x33F9, [0x32, 0x36, 0x65E5]),
 (0x33FA, 0x33FA, [0x32, 0x37, 0x65E5]), (0x33FB, 0x33FB, [0x32, 0x38, 0x65E5]),
 (0x33FC, 0x33FC, [0x32, 0x39, 0x65E5]), (0x33FD, 0x33FD, [0x33, 0x30, 0x65E5]),
 (0x33FE, 0x33FE, [0x33, 0x31, 0x65E5]), (0x33FF, 0x33FF, [0x67, 0x61, 0x6C]), (0xF907, 0xF908, [0x9F9C]),
 (0xFA5D, 0xFA5E, [0x8279])]

/-- Ligatures and presentation forms. -/
def presentedSequences : List (Nat × Nat × List Nat) := [
 (0xFB00, 0xFB00, [0x66, 0x66]), (0xFB01, 0xFB01, [0x66, 0x69]), (0xFB02, 0xFB02, [0x66, 0x6C]),
 (0xFB03, 0xFB03, [0x66, 0x66, 0x69]), (0xFB04, 0xFB04, [0x66, 0x66, 0x6C]), (0xFB05, 0xFB06, [0x73, 0x74]),
 (0xFB13, 0xFB13, [0x574, 0x576]), (0xFB14, 0xFB14, [0x574, 0x565]), (0xFB15, 0xFB15, [0x574, 0x56B]),
 (0xFB16, 0xFB16, [0x57E, 0x576]), (0xFB17, 0xFB17, [0x574, 0x56D]), (0xFB1D, 0xFB1D, [0x5D9, 0x5B4]),
 (0xFB1F, 0xFB1F, [0x5F2, 0x5B7]), (0xFB2A, 0xFB2A, [0x5E9, 0x5C1]), (0xFB2B, 0xFB2B, [0x5E9, 0x5C2]),
 (0xFB2C, 0xFB2C, [0x5E9, 0x5BC, 0x5C1]), (0xFB2D, 0xFB2D, [0x5E9, 0x5BC, 0x5C2]),
 (0xFB2E, 0xFB2E, [0x5D0, 0x5B7]), (0xFB2F, 0xFB2F, [0x5D0, 0x5B8]), (0xFB30, 0xFB30, [0x5D0, 0x5BC]),
 (0xFB31, 0xFB31, [0x5D1, 0x5BC]), (0xFB32, 0xFB32, [0x5D2, 0x5BC]), (0xFB33, 0xFB33, [0x5D3, 0x5BC]),
 (0xFB34, 0xFB34, [0x5D4, 0x5BC]), (0xFB35, 0xFB35, [0x5D5, 0x5BC]), (0xFB36, 0xFB36, [0x5D6, 0x5BC]),
 (0xFB38, 0xFB38, [0x5D8, 0x5BC]), (0xFB39, 0xFB39, [0x5D9, 0x5BC]), (0xFB3A, 0xFB3A, [0x5DA, 0x5BC]),
 (0xFB3B, 0xFB3B, [0x5DB, 0x5BC]), (0xFB3C, 0xFB3C, [0x5DC, 0x5BC]), (0xFB3E, 0xFB3E, [0x5DE, 0x5BC]),
 (0xFB40, 0xFB40, [0x5E0, 0x5BC]), (0xFB41, 0xFB41, [0x5E1, 0x5BC]), (0xFB43, 0xFB43, [0x5E3, 0x5BC]),
 (0xFB44, 0xFB44, [0x5E4, 0x5BC]), (0xFB46, 0xFB46, [0x5E6, 0x5BC]), (0xFB47, 0xFB47, [0x5E7, 0x5BC]),
 (0xFB48, 0xFB48, [0x5E8, 0x5BC]), (0xFB49, 0xFB49, [0x5E9, 0x5BC]), (0xFB4A, 0xFB4A, [0x5EA, 0x5BC]),
 (0xFB4B, 0xFB4B, [0x5D5, 0x5B9]), (0xFB4C, 0xFB4C, [0x5D1, 0x5BF]), (0xFB4D, 0xFB4D, [0x5DB, 0x5BF]),
 (0xFB4E, 0xFB4E, [0x5E4, 0x5BF]), (0xFB4F, 0xFB4F, [0x5D0, 0x5DC]), (0xFB50, 0xFB51, [0x671]),
 (0xFB52, 0xFB55, [0x67B]), (0xFB56, 0xFB59, [0x67E]), (0xFB5A, 0xFB5D, [0x680]), (0xFB5E, 0xFB61, [0x67A]),
 (0xFB62, 0xFB65, [0x67F]), (0xFB66, 0xFB69, [0x679]), (0xFB6A, 0xFB6D, [0x6A4]), (0xFB6E, 0xFB71, [0x6A6]),
 (0xFB72, 0xFB75, [0x684]), (0xFB76, 0xFB79, [0x683]), (0xFB7A, 0xFB7C, [0x686]), (0xFB7F, 0xFB81, [0x687]),
 (0xFB82, 0xFB83, [0x68D]), (0xFB84, 0xFB85, [0x68C]), (0xFB86, 0xFB87, [0x68E]), (0xFB88, 0xFB89, [0x688]),
 (0xFB8A, 0xFB8B, [0x698]), (0xFB8C, 0xFB8D, [0x691]), (0xFB8E, 0xFB91, [0x6A9]), (0xFB92, 0xFB95, [0x6AF]),
 (0xFB96, 0xFB99, [0x6B3]), (0xFB9A, 0xFB9D, [0x6B1]), (0xFBA1, 0xFBA3, [0x6BB]), (0xFBA7, 0xFBA9, [0x6C1]),
 (0xFBAA, 0xFBAD, [0x6BE]), (0xFBD3, 0xFBD6, [0x6AD]), (0xFBD7, 0xFBD8, [0x6C7]), (0xFBD9, 0xFBDA, [0x6C6]),
 (0xFBDB, 0xFBDC, [0x6C8]), (0xFBDD, 0xFBDD, [0x6C7, 0x674]), (0xFBDE, 0xFBDF, [0x6CB]),
 (0xFBE0, 0xFBE1, [0x6C5]), (0xFBE2, 0xFBE3, [0x6C9]), (0xFBE4, 0xFBE7, [0x6D0]), (0xFBE8, 0xFBE9, [0x649]),
 (0xFBEA, 0xFBEB, [0x626, 0x627]), (0xFBEC, 0xFBED, [0x626, 0x6D5]), (0xFBEE, 0xFBEF, [0x626, 0x648]),
 (0xFBF0, 0xFBF1, [0x626, 0x6C7]), (0xFBF2, 0xFBF3, [0x626, 0x6C6]), (0xFBF4, 0xFBF5, [0x626, 0x6C8]),
 (0xFBF6, 0xFBF8, [0x626, 0x6D0]), (0xFBF9, 0xFBFB, [0x626, 0x649]), (0xFBFC, 0xFBFF, [0x6CC]),
 (0xFC00, 0xFC00, [0x626, 0x62C]), (0xFC01, 0xFC01, [0x626, 0x62D]), (0xFC02, 0xFC02, [0x626, 0x645]),
 (0xFC03, 0xFC03, [0x626, 0x649]), (0xFC04, 0xFC04, [0x626, 0x64A]), (0xFC05, 0xFC05, [0x628, 0x62C]),
 (0xFC06, 0xFC06, [0x628, 0x62D]), (0xFC07, 0xFC07, [0x628, 0x62E]), (0xFC08, 0xFC08, [0x628, 0x645]),
 (0xFC09, 0xFC09, [0x628, 0x649]), (0xFC0A, 0xFC0A, [0x628, 0x64A]), (0xFC0B, 0xFC0B, [0x62A, 0x62C]),
 (0xFC0C, 0xFC0C, [0x62A, 0x62D]), (0xFC0D, 0xFC0D, [0x62A, 0x62E]), (0xFC0E, 0xFC0E, [0x62A, 0x645]),
 (0xFC0F, 0xFC0F, [0x62A, 0x649]), (0xFC10, 0xFC10, [0x62A, 0x64A]), (0xFC11, 0xFC11, [0x62B, 0x62C]),
 (0xFC12, 0xFC12, [0x62B, 0x645]), (0xFC13, 0xFC13, [0x62B, 0x649]), (0xFC14, 0xFC14, [0x62B, 0x64A]),
 (0xFC15, 0xFC15, [0x62C, 0x62D]), (0xFC16, 0xFC16, [0x62C, 0x645]), (0xFC17, 0xFC17, [0x62D, 0x62C]),
 (0xFC18, 0xFC18, [0x62D, 0x645]), (0xFC19, 0xFC19, [0x62E, 0x62C]), (0xFC1A, 0xFC1A, [0x62E, 0x62D]),
 (0xFC1B, 0xFC1B, [0x62E, 0x645]), (0xFC1C, 0xFC1C, [0x633, 0x62C]), (0xFC1D, 0xFC1D, [0x633, 0x62D]),
 (0xFC1E, 0xFC1E, [0x633, 0x62E]), (0xFC1F, 0xFC1F, [0x633, 0x645]), (0xFC20, 0xFC20, [0x635, 0x62D]),
 (0xFC21, 0xFC21, [0x635, 0x645]), (0xFC22, 0xFC22, [0x636, 0x62C]), (0xFC23, 0xFC23, [0x636, 0x62D]),
 (0xFC24, 0xFC24, [0x636, 0x62E]), (0xFC25, 0xFC25, [0x636, 0x645]), (0xFC26, 0xFC26, [0x637, 0x62D]),
 (0xFC27, 0xFC27, [0x637, 0x645]), (0xFC28, 0xFC28, [0x638, 0x645]), (0xFC29, 0xFC29, [0x639, 0x62C]),
 (0xFC2A, 0xFC2A, [0x639, 0x645]), (0xFC2B, 0xFC2B, [0x63A, 0x62C]), (0xFC2C, 0xFC2C, [0x63A, 0x645]),
 (0xFC2D, 0xFC2D, [0x641, 0x62C]), (0xFC2E, 0xFC2E, [0x641, 0x62D]), (0xFC2F, 0xFC2F, [0x641, 0x62E]),
 (0xFC30, 0xFC30, [0x641, 0x645]), (0xFC31, 0xFC31, [0x641, 0x649]), (0xFC32, 0xFC32, [0x641, 0x64A]),
 (0xFC33, 0xFC33, [0x642, 0x62D]), (0xFC34, 0xFC34, [0x642, 0x645]), (0xFC35, 0xFC35, [0x642, 0x649]),
 (0xFC36, 0xFC36, [0x642, 0x64A]), (0xFC37, 0xFC37, [0x643, 0x627]), (0xFC38, 0xFC38, [0x643, 0x62C]),
 (0xFC39, 0xFC39, [0x643, 0x62D]), (0xFC3A, 0xFC3A, [0x643, 0x62E]), (0xFC3B, 0xFC3B, [0x643, 0x644]),
 (0xFC3C, 0xFC3C, [0x643, 0x645]), (0xFC3D, 0xFC3D, [0x643, 0x649]), (0xFC3E, 0xFC3E, [0x643, 0x64A]),
 (0xFC3F, 0xFC3F, [0x644, 0x62C]), (0xFC40, 0xFC40, [0x644, 0x62D]), (0xFC41, 0xFC41, [0x644, 0x62E]),
 (0xFC42, 0xFC42, [0x644, 0x645]), (0xFC43, 0xFC43, [0x644, 0x649]), (0xFC44, 0xFC44, [0x644, 0x64A]),
 (0xFC45, 0xFC45, [0x645, 0x62C]), (0xFC46, 0xFC46, [0x645, 0x62D]), (0xFC47, 0xFC47, [0x645, 0x62E]),
 (0xFC48, 0xFC48, [0x645, 0x645]), (0xFC49, 0xFC49, [0x645, 0x649]), (0xFC4A, 0xFC4A, [0x645, 0x64A]),
 (0xFC4B, 0xFC4B, [0x646, 0x62C]), (0xFC4C, 0xFC4C, [0x646, 0x62D]), (0xFC4D, 0xFC4D, [0x646, 0x62E]),
 (0xFC4E, 0xFC4E, [0x646, 0x645]), (0xFC4F, 0xFC4F, [0x646, 0x649]), (0xFC50, 0xFC50, [0x646, 0x64A]),
 (0xFC51, 0xFC51, [0x647, 0x62C]), (0xFC52, 0xFC52, [0x647, 0x645]), (0xFC53, 0xFC53, [0x647, 0x649]),
 (0xFC54, 0xFC54, [0x647, 0x64A]), (0xFC55, 0xFC55, [0x64A, 0x62C]), (0xFC56, 0xFC56, [0x64A, 0x62D]),
 (0xFC57, 0xFC57, [0x64A, 0x62E]), (0xFC58, 0xFC58, [0x64A, 0x645]), (0xFC59, 0xFC59, [0x64A, 0x649]),
 (0xFC5A, 0xFC5A, [0x64A, 0x64A]), (0xFC5B, 0xFC5B, [0x630, 0x670]), (0xFC5C, 0xFC5C, [0x631, 0x670]),
 (0xFC5D, 0xFC5D, [0x649, 0x670]), (0xFC5E, 0xFC5E, [0x20, 0x64C, 0x651]),
 (0xFC5F, 0xFC5F, [0x20, 0x64D, 0x651]), (0xFC60, 0xFC60, [0x20, 0x64E, 0x651]),
 (0xFC61, 0xFC61, [0x20, 0x64F, 0x651]), (0xFC62, 0xFC62, [0x20, 0x650, 0x651]),
 (0xFC63, 0xFC63, [0x20, 0x651, 0x670]), (0xFC64, 0xFC64, [0x626, 0x631]), (0xFC65, 0xFC65, [0x626, 0x632]),
 (0xFC66, 0xFC66, [0x626, 0x645]), (0xFC67, 0xFC67, [0x626, 0x646]), (0xFC68, 0xFC68, [0x626, 0x649]),
 (0xFC69, 0xFC69, [0x626, 0x64A]), (0xFC6A, 0xFC6A, [0x628, 0x631]), (0xFC6B, 0xFC6B, [0x628, 0x632]),
 (0xFC6C, 0xFC6C, [0x628, 0x645]), (0xFC6D, 0xFC6D, [0x628, 0x646]), (0xFC6E, 0xFC6E, [0x628, 0x649]),
 (0xFC6F, 0xFC6F, [0x628, 0x64A]), (0xFC70, 0xFC70, [0x62A, 0x631]), (0xFC71, 0xFC71, [0x62A, 0x632]),
 (0xFC72, 0xFC72, [0x62A, 0x645]), (0xFC73, 0xFC73, [0x62A, 0x646]), (0xFC74, 0xFC74, [0x62A, 0x649]),
 (0xFC75, 0xFC75, [0x62A, 0x64A]), (0xFC76, 0xFC76, [0x62B, 0x631]), (0xFC77, 0xFC77, [0x62B, 0x632]),
 (0xFC78, 0xFC78, [0x62B, 0x645]), (0xFC79, 0xFC79, [0x62B, 0x646]), (0xFC7A, 0xFC7A, [0x62B, 0x649]),
 (0xFC7B, 0xFC7B, [0x62B, 0x64A]), (0xFC7C, 0xFC7C, [0x641, 0x649]), (0xFC7D, 0xFC7D, [0x641, 0x64A]),
 (0xFC7E, 0xFC7E, [0x642, 0x649]), (0xFC7F, 0xFC7F, [0x642, 0x64A]), (0xFC80, 0xFC80, [0x643, 0x627]),
 (0xFC81, 0xFC81, [0x643, 0x644]), (0xFC82, 0xFC82, [0x643, 0x645]), (0xFC83, 0xFC83, [0x643, 0x649]),
 (0xFC84, 0xFC84, [0x643, 0x64A]), (0xFC85, 0xFC85, [0x644, 0x645]), (0xFC86, 0xFC86, [0x644, 0x649]),
 (0xFC87, 0xFC87, [0x644, 0x64A]), (0xFC88, 0xFC88, [0x645, 0x627]), (0xFC89, 0xFC89, [0x645, 0x645]),
 (0xFC8A, 0xFC8A, [0x646, 0x631]), (0xFC8B, 0xFC8B, [0x646, 0x632]), (0xFC8C, 0xFC8C, [0x646, 0x645]),
 (0xFC8D, 0xFC8D, [0x646, 0x646]), (0xFC8E, 0xFC8E, [0x646, 0x649]), (0xFC8F, 0xFC8F, [0x646, 0x64A]),
 (0xFC90, 0xFC90, [0x649, 0x670]), (0xFC91, 0xFC91, [0x64A, 0x631]), (0xFC92, 0xFC92, [0x64A, 0x632]),
 (0xFC93, 0xFC93, [0x64A, 0x645]), (0xFC94, 0xFC94, [0x64A, 0x646]), (0xFC95, 0xFC95, [0x64A, 0x649]),
 (0xFC96, 0xFC96, [0x64A, 0x64A]), (0xFC97, 0xFC97, [0x626, 0x62C]), (0xFC98, 0xFC98, [0x626, 0x62D]),
 (0xFC99, 0xFC99, [0x626, 0x62E]), (0xFC9A, 0xFC9A, [0x626, 0x645]), (0xFC9B, 0xFC9B, [0x626, 0x647]),
 (0xFC9C, 0xFC9C, [0x628, 0x62C]), (0xFC9D, 0xFC9D, [0x628, 0x62D]), (0xFC9E, 0xFC9E, [0x628, 0x62E]),
 (0xFC9F, 0xFC9F, [0x628, 0x645]), (0xFCA0, 0xFCA0, [0x628, 0x647]), (0xFCA1, 0xFCA1, [0x62A, 0x62C]),
 (0xFCA2, 0xFCA2, [0x62A, 0x62D]), (0xFCA3, 0xFCA3, [0x62A, 0x62E]), (0xFCA4, 0xFCA4, [0x62A, 0x645]),
 (0xFCA5, 0xFCA5, [0x62A, 0x647]), (0xFCA6, 0xFCA6, [0x62B, 0x645]), (0xFCA7, 0xFCA7, [0x62C, 0x62D]),
 (0xFCA8, 0xFCA8, [0x62C, 0x645]), (0xFCA9, 0xFCA9, [0x62D, 0x62C]), (0xFCAA, 0xFCAA, [0x62D, 0x645]),
 (0xFCAB, 0xFCAB, [0x62E, 0x62C]), (0xFCAC, 0xFCAC, [0x62E, 0x645]), (0xFCAD, 0xFCAD, [0x633, 0x62C]),
 (0xFCAE, 0xFCAE, [0x633, 0x62D]), (0xFCAF, 0xFCAF, [0x633, 0x62E]), (0xFCB0, 0xFCB0, [0x633, 0x645]),
 (0xFCB1, 0xFCB1, [0x635, 0x62D]), (0xFCB2, 0xFCB2, [0x635, 0x62E]), (0xFCB3, 0xFCB3, [0x635, 0x645]),
 (0xFCB4, 0xFCB4, [0x636, 0x62C]), (0xFCB5, 0xFCB5, [0x636, 0x62D]), (0xFCB6, 0xFCB6, [0x636, 0x62E]),
 (0xFCB7, 0xFCB7, [0x636, 0x645]), (0xFCB8, 0xFCB8, [0x637, 0x62D]), (0xFCB9, 0xFCB9, [0x638, 0x645]),
 (0xFCBA, 0xFCBA, [0x639, 0x62C]), (0xFCBB, 0xFCBB, [0x639, 0x645]), (0xFCBC, 0xFCBC, [0x63A, 0x62C]),
 (0xFCBD, 0xFCBD, [0x63A, 0x645]), (0xFCBE, 0xFCBE, [0x641, 0x62C]), (0xFCBF, 0xFCBF, [0x641, 0x62D]),
 (0xFCC0, 0xFCC0, [0x641, 0x62E]), (0xFCC1, 0xFCC1, [0x641, 0x645]), (0xFCC2, 0xFCC2, [0x642, 0x62D]),
 (0xFCC3, 0xFCC3, [0x642, 0x645]), (0xFCC4, 0xFCC4, [0x643, 0x62C]), (0xFCC5, 0xFCC5, [0x643, 0x62D]),
 (0xFCC6, 0xFCC6, [0x643, 0x62E]), (0xFCC7, 0xFCC7, [0x643, 0x644]), (0xFCC8, 0xFCC8, [0x643, 0x645]),
 (0xFCC9, 0xFCC9, [0x644, 0x62C]), (0xFCCA, 0xFCCA, [0x644, 0x62D]), (0xFCCB, 0xFCCB, [0x644, 0x62E]),
 (0xFCCC, 0xFCCC, [0x644, 0x645]), (0xFCCD, 0xFCCD, [0x644, 0x647]), (0xFCCE, 0xFCCE, [0x645, 0x62C]),
 (0xFCCF, 0xFCCF, [0x645, 0x62D]), (0xFCD0, 0xFCD0, [0x645, 0x62E]), (0xFCD1, 0xFCD1, [0x645, 0x645]),
 (0xFCD2, 0xFCD2, [0x646, 0x62C]), (0xFCD3, 0xFCD3, [0x646, 0x62D]), (0xFCD4, 0xFCD4, [0x646, 0x62E]),
 (0xFCD5, 0xFCD5, [0x646, 0x645]), (0xFCD6, 0xFCD6, [0x646, 0x647]), (0xFCD7, 0xFCD7, [0x647, 0x62C]),
 (0xFCD8, 0xFCD8, [0x647, 0x645]), (0xFCD9, 0xFCD9, [0x647, 0x670]), (0xFCDA, 0xFCDA, [0x64A, 0x62C]),
 (0xFCDB, 0xFCDB, [0x64A, 0x62D]), (0xFCDC, 0xFCDC, [0x64A, 0x62E]), (0xFCDD, 0xFCDD, [0x64A, 0x645]),
 (0xFCDE, 0xFCDE, [0x64A, 0x647]), (0xFCDF, 0xFCDF, [0x626, 0x645]), (0xFCE0, 0xFCE0, [0x626, 0x647]),
 (0xFCE1, 0xFCE1, [0x628, 0x645]), (0xFCE2, 0xFCE2, [0x628, 0x647]), (0xFCE3, 0xFCE3, [0x62A, 0x645]),
 (0xFCE4, 0xFCE4, [0x62A, 0x647]), (0xFCE5, 0xFCE5, [0x62B, 0x645]), (0xFCE6, 0xFCE6, [0x62B, 0x647]),
 (0xFCE7, 0xFCE7, [0x633, 0x645]), (0xFCE8, 0xFCE8, [0x633, 0x647]), (0xFCE9, 0xFCE9, [0x634, 0x645]),
 (0xFCEA, 0xFCEA, [0x634, 0x647]), (0xFCEB, 0xFCEB, [0x643, 0x644]), (0xFCEC, 0xFCEC, [0x643, 0x645]),
 (0xFCED, 0xFCED, [0x644, 0x645]), (0xFCEE, 0xFCEE, [0x646, 0x645]), (0xFCEF, 0xFCEF, [0x646, 0x647]),
 (0xFCF0, 0xFCF0, [0x64A, 0x645]), (0xFCF1, 0xFCF1, [0x64A, 0x647]), (0xFCF2, 0xFCF2, [0x640, 0x64E, 0x651]),
 (0xFCF3, 0xFCF3, [0x640, 0x64F, 0x651]), (0xFCF4, 0xFCF4, [0x640, 0x650, 0x651]),
 (0xFCF5, 0xFCF5, [0x637, 0x649]), (0xFCF6, 0xFCF6, [0x637, 0x64A]), (0xFCF7, 0xFCF7, [0x639, 0x649]),
 (0xFCF8, 0xFCF8, [0x639, 0x64A]), (0xFCF9, 0xFCF9, [0x63A, 0x649]), (0xFCFA, 0xFCFA, [0x63A, 0x64A]),
 (0xFCFB, 0xFCFB, [0x633, 0x649]), (0xFCFC, 0xFCFC, [0x633, 0x64A]), (0xFCFD, 0xFCFD, [0x634, 0x649]),
 (0xFCFE, 0xFCFE, [0x634, 0x64A]), (0xFCFF, 0xFCFF, [0x62D, 0x649])]

/-- Longer ligatures, and half-width and full-width forms. -/
def longerSequences : List (Nat × Nat × List Nat) := [
 (0xFD00, 0xFD00, [0x62D, 0x64A]), (0xFD01, 0xFD01, [0x62C, 0x649]), (0xFD02, 0xFD02, [0x62C, 0x64A]),
 (0xFD03, 0xFD03, [0x62E, 0x649]), (0xFD04, 0xFD04, [0x62E, 0x64A]), (0xFD05, 0xFD05, [0x635, 0x649]),
 (0xFD06, 0xFD06, [0x635, 0x64A]), (0xFD07, 0xFD07, [0x636, 0x649]), (0xFD08, 0xFD08, [0x636, 0x64A]),
 (0xFD09, 0xFD09, [0x634, 0x62C]), (0xFD0A, 0xFD0A, [0x634, 0x62D]), (0xFD0B, 0xFD0B, [0x634, 0x62E]),
 (0xFD0C, 0xFD0C, [0x634, 0x645]), (0xFD0D, 0xFD0D, [0x634, 0x631]), (0xFD0E, 0xFD0E, [0x633, 0x631]),
 (0xFD0F, 0xFD0F, [0x635, 0x631]), (0xFD10, 0xFD10, [0x636, 0x631]), (0xFD11, 0xFD11, [0x637, 0x649]),
 (0xFD12, 0xFD12, [0x637, 0x64A]), (0xFD13, 0xFD13, [0x639, 0x649]), (0xFD14, 0xFD14, [0x639, 0x64A]),
 (0xFD15, 0xFD15, [0x63A, 0x649]), (0xFD16, 0xFD16, [0x63A, 0x64A]), (0xFD17, 0xFD17, [0x633, 0x649]),
 (0xFD18, 0xFD18, [0x633, 0x64A]), (0xFD19, 0xFD19, [0x634, 0x649]), (0xFD1A, 0xFD1A, [0x634, 0x64A]),
 (0xFD1B, 0xFD1B, [0x62D, 0x649]), (0xFD1C, 0xFD1C, [0x62D, 0x64A]), (0xFD1D, 0xFD1D, [0x62C, 0x649]),
 (0xFD1E, 0xFD1E, [0x62C, 0x64A]), (0xFD1F, 0xFD1F, [0x62E, 0x649]), (0xFD20, 0xFD20, [0x62E, 0x64A]),
 (0xFD21, 0xFD21, [0x635, 0x649]), (0xFD22, 0xFD22, [0x635, 0x64A]), (0xFD23, 0xFD23, [0x636, 0x649]),
 (0xFD24, 0xFD24, [0x636, 0x64A]), (0xFD25, 0xFD25, [0x634, 0x62C]), (0xFD26, 0xFD26, [0x634, 0x62D]),
 (0xFD27, 0xFD27, [0x634, 0x62E]), (0xFD28, 0xFD28, [0x634, 0x645]), (0xFD29, 0xFD29, [0x634, 0x631]),
 (0xFD2A, 0xFD2A, [0x633, 0x631]), (0xFD2B, 0xFD2B, [0x635, 0x631]), (0xFD2C, 0xFD2C, [0x636, 0x631]),
 (0xFD2D, 0xFD2D, [0x634, 0x62C]), (0xFD2E, 0xFD2E, [0x634, 0x62D]), (0xFD2F, 0xFD2F, [0x634, 0x62E]),
 (0xFD30, 0xFD30, [0x634, 0x645]), (0xFD31, 0xFD31, [0x633, 0x647]), (0xFD32, 0xFD32, [0x634, 0x647]),
 (0xFD33, 0xFD33, [0x637, 0x645]), (0xFD34, 0xFD34, [0x633, 0x62C]), (0xFD35, 0xFD35, [0x633, 0x62D]),
 (0xFD36, 0xFD36, [0x633, 0x62E]), (0xFD37, 0xFD37, [0x634, 0x62C]), (0xFD38, 0xFD38, [0x634, 0x62D]),
 (0xFD39, 0xFD39, [0x634, 0x62E]), (0xFD3A, 0xFD3A, [0x637, 0x645]), (0xFD3B, 0xFD3B, [0x638, 0x645]),
 (0xFD3C, 0xFD3D, [0x627, 0x64B]), (0xFD50, 0xFD50, [0x62A, 0x62C, 0x645]),
 (0xFD51, 0xFD52, [0x62A, 0x62D, 0x62C]), (0xFD53, 0xFD53, [0x62A, 0x62D, 0x645]),
 (0xFD54, 0xFD54, [0x62A, 0x62E, 0x645]), (0xFD55, 0xFD55, [0x62A, 0x645, 0x62C]),
 (0xFD56, 0xFD56, [0x62A, 0x645, 0x62D]), (0xFD57, 0xFD57, [0x62A, 0x645, 0x62E]),
 (0xFD58, 0xFD59, [0x62C, 0x645, 0x62D]), (0xFD5A, 0xFD5A, [0x62D, 0x645, 0x64A]),
 (0xFD5B, 0xFD5B, [0x62D, 0x645, 0x649]), (0xFD5C, 0xFD5C, [0x633, 0x62D, 0x62C]),
 (0xFD5D, 0xFD5D, [0x633, 0x62C, 0x62D]), (0xFD5E, 0xFD5E, [0x633, 0x62C, 0x649]),
 (0xFD5F, 0xFD60, [0x633, 0x645, 0x62D]), (0xFD61, 0xFD61, [0x633, 0x645, 0x62C]),
 (0xFD62, 0xFD63, [0x633, 0x645, 0x645]), (0xFD64, 0xFD65, [0x635, 0x62D, 0x62D]),
 (0xFD66, 0xFD66, [0x635, 0x645, 0x645]), (0xFD67, 0xFD68, [0x634, 0x62D, 0x645]),
 (0xFD69, 0xFD69, [0x634, 0x62C, 0x64A]), (0xFD6A, 0xFD6B, [0x634, 0x645, 0x62E]),
 (0xFD6C, 0xFD6D, [0x634, 0x645, 0x645]), (0xFD6E, 0xFD6E, [0x636, 0x62D, 0x649]),
 (0xFD6F, 0xFD70, [0x636, 0x62E, 0x645]), (0xFD71, 0xFD72, [0x637, 0x645, 0x62D]),
 (0xFD73, 0xFD73, [0x637, 0x645, 0x645]), (0xFD74, 0xFD74, [0x637, 0x645, 0x64A]),
 (0xFD75, 0xFD75, [0x639, 0x62C, 0x645]), (0xFD76, 0xFD77, [0x639, 0x645, 0x645]),
 (0xFD78, 0xFD78, [0x639, 0x645, 0x649]), (0xFD79, 0xFD79, [0x63A, 0x645, 0x645]),
 (0xFD7A, 0xFD7A, [0x63A, 0x645, 0x64A]), (0xFD7B, 0xFD7B, [0x63A, 0x645, 0x649]),
 (0xFD7C, 0xFD7D, [0x641, 0x62E, 0x645]), (0xFD7E, 0xFD7E, [0x642, 0x645, 0x62D]),
 (0xFD7F, 0xFD7F, [0x642, 0x645, 0x645]), (0xFD80, 0xFD80, [0x644, 0x62D, 0x645]),
 (0xFD81, 0xFD81, [0x644, 0x62D, 0x64A]), (0xFD82, 0xFD82, [0x644, 0x62D, 0x649]),
 (0xFD83, 0xFD84, [0x644, 0x62C, 0x62C]), (0xFD85, 0xFD86, [0x644, 0x62E, 0x645]),
 (0xFD87, 0xFD88, [0x644, 0x645, 0x62D]), (0xFD89, 0xFD89, [0x645, 0x62D, 0x62C]),
 (0xFD8A, 0xFD8A, [0x645, 0x62D, 0x645]), (0xFD8B, 0xFD8B, [0x645, 0x62D, 0x64A]),
 (0xFD8C, 0xFD8C, [0x645, 0x62C, 0x62D]), (0xFD8D, 0xFD8D, [0x645, 0x62C, 0x645]),
 (0xFD8E, 0xFD8E, [0x645, 0x62E, 0x62C]), (0xFD8F, 0xFD8F, [0x645, 0x62E, 0x645]),
 (0xFD92, 0xFD92, [0x645, 0x62C, 0x62E]), (0xFD93, 0xFD93, [0x647, 0x645, 0x62C]),
 (0xFD94, 0xFD94, [0x647, 0x645, 0x645]), (0xFD95, 0xFD95, [0x646, 0x62D, 0x645]),
 (0xFD96, 0xFD96, [0x646, 0x62D, 0x649]), (0xFD97, 0xFD98, [0x646, 0x62C, 0x645]),
 (0xFD99, 0xFD99, [0x646, 0x62C, 0x649]), (0xFD9A, 0xFD9A, [0x646, 0x645, 0x64A]),
 (0xFD9B, 0xFD9B, [0x646, 0x645, 0x649]), (0xFD9C, 0xFD9D, [0x64A, 0x645, 0x645]),
 (0xFD9E, 0xFD9E, [0x628, 0x62E, 0x64A]), (0xFD9F, 0xFD9F, [0x62A, 0x62C, 0x64A]),
 (0xFDA0, 0xFDA0, [0x62A, 0x62C, 0x649]), (0xFDA1, 0xFDA1, [0x62A, 0x62E, 0x64A]),
 (0xFDA2, 0xFDA2, [0x62A, 0x62E, 0x649]), (0xFDA3, 0xFDA3, [0x62A, 0x645, 0x64A]),
 (0xFDA4, 0xFDA4, [0x62A, 0x645, 0x649]), (0xFDA5, 0xFDA5, [0x62C, 0x645, 0x64A]),
 (0xFDA6, 0xFDA6, [0x62C, 0x62D, 0x649]), (0xFDA7, 0xFDA7, [0x62C, 0x645, 0x649]),
 (0xFDA8, 0xFDA8, [0x633, 0x62E, 0x649]), (0xFDA9, 0xFDA9, [0x635, 0x62D, 0x64A]),
 (0xFDAA, 0xFDAA, [0x634, 0x62D, 0x64A]), (0xFDAB, 0xFDAB, [0x636, 0x62D, 0x64A]),
 (0xFDAC, 0xFDAC, [0x644, 0x62C, 0x64A]), (0xFDAD, 0xFDAD, [0x644, 0x645, 0x64A]),
 (0xFDAE, 0xFDAE, [0x64A, 0x62D, 0x64A]), (0xFDAF, 0xFDAF, [0x64A, 0x62C, 0x64A]),
 (0xFDB0, 0xFDB0, [0x64A, 0x645, 0x64A]), (0xFDB1, 0xFDB1, [0x645, 0x645, 0x64A]),
 (0xFDB2, 0xFDB2, [0x642, 0x645, 0x64A]), (0xFDB3, 0xFDB3, [0x646, 0x62D, 0x64A]),
 (0xFDB4, 0xFDB4, [0x642, 0x645, 0x62D]), (0xFDB5, 0xFDB5, [0x644, 0x62D, 0x645]),
 (0xFDB6, 0xFDB6, [0x639, 0x645, 0x64A]), (0xFDB7, 0xFDB7, [0x643, 0x645, 0x64A]),
 (0xFDB8, 0xFDB8, [0x646, 0x62C, 0x62D]), (0xFDB9, 0xFDB9, [0x645, 0x62E, 0x64A]),
 (0xFDBA, 0xFDBA, [0x644, 0x62C, 0x645]), (0xFDBB, 0xFDBB, [0x643, 0x645, 0x645]),
 (0xFDBC, 0xFDBC, [0x644, 0x62C, 0x645]), (0xFDBD, 0xFDBD, [0x646, 0x62C, 0x62D]),
 (0xFDBE, 0xFDBE, [0x62C, 0x62D, 0x64A]), (0xFDBF, 0xFDBF, [0x62D, 0x62C, 0x64A]),
 (0xFDC0, 0xFDC0, [0x645, 0x62C, 0x64A]), (0xFDC1, 0xFDC1, [0x641, 0x645, 0x64A]),
 (0xFDC2, 0xFDC2, [0x628, 0x62D, 0x64A]), (0xFDC3, 0xFDC3, [0x643, 0x645, 0x645]),
 (0xFDC4, 0xFDC4, [0x639, 0x62C, 0x645]), (0xFDC5, 0xFDC5, [0x635, 0x645, 0x645]),
 (0xFDC6, 0xFDC6, [0x633, 0x62E, 0x64A]), (0xFDC7, 0xFDC7, [0x646, 0x62C, 0x64A]),
 (0xFDF0, 0xFDF0, [0x635, 0x644, 0x6D2]), (0xFDF1, 0xFDF1, [0x642, 0x644, 0x6D2]),
 (0xFDF2, 0xFDF2, [0x627, 0x644, 0x644, 0x647]), (0xFDF3, 0xFDF3, [0x627, 0x643, 0x628, 0x631]),
 (0xFDF4, 0xFDF4, [0x645, 0x62D, 0x645, 0x62F]), (0xFDF5, 0xFDF5, [0x635, 0x644, 0x639, 0x645]),
 (0xFDF6, 0xFDF6, [0x631, 0x633, 0x648, 0x644]), (0xFDF7, 0xFDF7, [0x639, 0x644, 0x64A, 0x647]),
 (0xFDF8, 0xFDF8, [0x648, 0x633, 0x644, 0x645]), (0xFDF9, 0xFDF9, [0x635, 0x644, 0x649]),
 (0xFDFA, 0xFDFA, [0x635, 0x644, 0x649, 0x20, 0x627, 0x644, 0x644, 0x647, 0x20, 0x639, 0x644, 0x64A, 0x647, 0x20, 0x648, 0x633, 0x644, 0x645]),
 (0xFDFB, 0xFDFB, [0x62C, 0x644, 0x20, 0x62C, 0x644, 0x627, 0x644, 0x647]),
 (0xFDFC, 0xFDFC, [0x631, 0x6CC, 0x627, 0x644]), (0xFE33, 0xFE34, [0x5F]), (0xFE49, 0xFE4C, [0x20, 0x305]),
 (0xFE4D, 0xFE4F, [0x5F]), (0xFE70, 0xFE70, [0x20, 0x64B]), (0xFE71, 0xFE71, [0x640, 0x64B]),
 (0xFE72, 0xFE72, [0x20, 0x64C]), (0xFE74, 0xFE74, [0x20, 0x64D]), (0xFE76, 0xFE76, [0x20, 0x64E]),
 (0xFE77, 0xFE77, [0x640, 0x64E]), (0xFE78, 0xFE78, [0x20, 0x64F]), (0xFE79, 0xFE79, [0x640, 0x64F]),
 (0xFE7A, 0xFE7A, [0x20, 0x650]), (0xFE7B, 0xFE7B, [0x640, 0x650]), (0xFE7C, 0xFE7C, [0x20, 0x651]),
 (0xFE7D, 0xFE7D, [0x640, 0x651]), (0xFE7E, 0xFE7E, [0x20, 0x652]), (0xFE7F, 0xFE7F, [0x640, 0x652]),
 (0xFE8A, 0xFE8B, [0x626]), (0xFE90, 0xFE91, [0x628]), (0xFE96, 0xFE97, [0x62A]), (0xFE9A, 0xFE9B, [0x62B]),
 (0xFE9E, 0xFE9F, [0x62C]), (0xFEA2, 0xFEA3, [0x62D]), (0xFEA6, 0xFEA7, [0x62E]), (0xFEB2, 0xFEB3, [0x633]),
 (0xFEB6, 0xFEB7, [0x634]), (0xFEBA, 0xFEBB, [0x635]), (0xFEBE, 0xFEBF, [0x636]), (0xFEC2, 0xFEC3, [0x637]),
 (0xFEC6, 0xFEC7, [0x638]), (0xFECA, 0xFECB, [0x639]), (0xFECE, 0xFED0, [0x63A]), (0xFED1, 0xFED3, [0x641]),
 (0xFED6, 0xFED7, [0x642]), (0xFEDA, 0xFEDB, [0x643]), (0xFEDE, 0xFEDF, [0x644]), (0xFEE2, 0xFEE3, [0x645]),
 (0xFEE6, 0xFEE7, [0x646]), (0xFEEA, 0xFEEB, [0x647]), (0xFEF2, 0xFEF4, [0x64A]),
 (0xFEF5, 0xFEF6, [0x644, 0x622]), (0xFEF7, 0xFEF8, [0x644, 0x623]), (0xFEF9, 0xFEFA, [0x644, 0x625]),
 (0xFEFB, 0xFEFC, [0x644, 0x627]), (0xFFE3, 0xFFE3, [0x20, 0x304])]

/-- Further scripts, enclosed letters and squared words. -/
def furtherSequences : List (Nat × Nat × List Nat) := [
 (0x1D15E, 0x1D15E, [0x1D157, 0x1D165]), (0x1D15F, 0x1D15F, [0x1D158, 0x1D165]),
 (0x1D160, 0x1D160, [0x1D158, 0x1D165, 0x1D16E]), (0x1D161, 0x1D161, [0x1D158, 0x1D165, 0x1D16F]),
 (0x1D162, 0x1D162, [0x1D158, 0x1D165, 0x1D170]), (0x1D163, 0x1D163, [0x1D158, 0x1D165, 0x1D171]),
 (0x1D164, 0x1D164, [0x1D158, 0x1D165, 0x1D172]), (0x1D1BB, 0x1D1BB, [0x1D1B9, 0x1D165]),
 (0x1D1BC, 0x1D1BC, [0x1D1BA, 0x1D165]), (0x1D1BD, 0x1D1BD, [0x1D1B9, 0x1D165, 0x1D16E]),
 (0x1D1BE, 0x1D1BE, [0x1D1BA, 0x1D165, 0x1D16E]), (0x1D1BF, 0x1D1BF, [0x1D1B9, 0x1D165, 0x1D16F]),
 (0x1D1C0, 0x1D1C0, [0x1D1BA, 0x1D165, 0x1D16F]), (0x1D7CA, 0x1D7CB, [0x3DD]),
 (0x1F101, 0x1F101, [0x30, 0x2C]), (0x1F102, 0x1F102, [0x31, 0x2C]), (0x1F103, 0x1F103, [0x32, 0x2C]),
 (0x1F104, 0x1F104, [0x33, 0x2C]), (0x1F105, 0x1F105, [0x34, 0x2C]), (0x1F106, 0x1F106, [0x35, 0x2C]),
 (0x1F107, 0x1F107, [0x36, 0x2C]), (0x1F108, 0x1F108, [0x37, 0x2C]), (0x1F109, 0x1F109, [0x38, 0x2C]),
 (0x1F10A, 0x1F10A, [0x39, 0x2C]), (0x1F110, 0x1F110, [0x28, 0x61, 0x29]),
 (0x1F111, 0x1F111, [0x28, 0x62, 0x29]), (0x1F112, 0x1F112, [0x28, 0x63, 0x29]),
 (0x1F113, 0x1F113, [0x28, 0x64, 0x29]), (0x1F114, 0x1F114, [0x28, 0x65, 0x29]),
 (0x1F115, 0x1F115, [0x28, 0x66, 0x29]), (0x1F116, 0x1F116, [0x28, 0x67, 0x29]),
 (0x1F117, 0x1F117, [0x28, 0x68, 0x29]), (0x1F118, 0x1F118, [0x28, 0x69, 0x29]),
 (0x1F119, 0x1F119, [0x28, 0x6A, 0x29]), (0x1F11A, 0x1F11A, [0x28, 0x6B, 0x29]),
 (0x1F11B, 0x1F11B, [0x28, 0x6C, 0x29]), (0x1F11C, 0x1F11C, [0x28, 0x6D, 0x29]),
 (0x1F11D, 0x1F11D, [0x28, 0x6E, 0x29]), (0x1F11E, 0x1F11E, [0x28, 0x6F, 0x29]),
 (0x1F11F, 0x1F11F, [0x28, 0x70, 0x29]), (0x1F120, 0x1F120, [0x28, 0x71, 0x29]),
 (0x1F121, 0x1F121, [0x28, 0x72, 0x29]), (0x1F122, 0x1F122, [0x28, 0x73, 0x29]),
 (0x1F123, 0x1F123, [0x28, 0x74, 0x29]), (0x1F124, 0x1F124, [0x28, 0x75, 0x29]),
 (0x1F125, 0x1F125, [0x28, 0x76, 0x29]), (0x1F126, 0x1F126, [0x28, 0x77, 0x29]),
 (0x1F127, 0x1F127, [0x28, 0x78, 0x29]), (0x1F128, 0x1F128, [0x28, 0x79, 0x29]),
 (0x1F129, 0x1F129, [0x28, 0x7A, 0x29]), (0x1F12A, 0x1F12A, [0x3014, 0x73, 0x3015]),
 (0x1F12D, 0x1F12D, [0x63, 0x64]), (0x1F12E, 0x1F12E, [0x77, 0x7A]), (0x1F14A, 0x1F14A, [0x68, 0x76]),
 (0x1F14B, 0x1F14B, [0x6D, 0x76]), (0x1F14C, 0x1F14C, [0x73, 0x64]), (0x1F14D, 0x1F14D, [0x73, 0x73]),
 (0x1F14E, 0x1F14E, [0x70, 0x70, 0x76]), (0x1F14F, 0x1F14F, [0x77, 0x63]), (0x1F16A, 0x1F16A, [0x6D, 0x63]),
 (0x1F16B, 0x1F16B, [0x6D, 0x64]), (0x1F16C, 0x1F16C, [0x6D, 0x72]), (0x1F190, 0x1F190, [0x64, 0x6A]),
 (0x1F200, 0x1F200, [0x307B, 0x304B]), (0x1F201, 0x1F201, [0x30B3, 0x30B3]),
 (0x1F240, 0x1F240, [0x3014, 0x672C, 0x3015]), (0x1F241, 0x1F241, [0x3014, 0x4E09, 0x3015]),
 (0x1F242, 0x1F242, [0x3014, 0x4E8C, 0x3015]), (0x1F243, 0x1F243, [0x3014, 0x5B89, 0x3015]),
 (0x1F244, 0x1F244, [0x3014, 0x70B9, 0x3015]), (0x1F245, 0x1F245, [0x3014, 0x6253, 0x3015]),
 (0x1F246, 0x1F246, [0x3014, 0x76D7, 0x3015]), (0x1F247, 0x1F247, [0x3014, 0x52DD, 0x3015]),
 (0x1F248, 0x1F248, [0x3014, 0x6557, 0x3015]), (0x2F831, 0x2F833, [0x537F]), (0x2F845, 0x2F846, [0x5584]),
 (0x2F86A, 0x2F86B, [0x5B3E]), (0x2F891, 0x2F892, [0x22331]), (0x2F894, 0x2F895, [0x5F22]),
 (0x2F92C, 0x2F92D, [0x3EB8]), (0x2F95D, 0x2F95E, [0x25AA7]), (0x2F9FE, 0x2F9FF, [0x980B])]

/-- All of them, in ascending order. -/
def sequences : List (Nat × Nat × List Nat) :=
  latinSequences ++ symbolSequences ++ eastAsianSequences ++ presentedSequences ++ longerSequences ++ furtherSequences

end SqlComposer.Domain
