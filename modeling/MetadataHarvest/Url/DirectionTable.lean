import MetadataHarvest.Text.Table

/-!
# Writing direction and joining of characters

The properties that decide whether a label that holds right-to-left characters or joiners
can be read without ambiguity. Characters in no table of directions run left to right.

## Implementation notes

The ranges that every label is checked for are lists of numbers, not compact text, so that a fact
about all of them can be checked by going through them.
-/

namespace MetadataHarvest.Url

open MetadataHarvest.Text

/-- Letters that run right to left. -/
def rightToLeftRanges : RangeSet := ⟨#[
  (0x590, 0x590), (0x5be, 0x5be), (0x5c0, 0x5c0), (0x5c3, 0x5c3), (0x5c6, 0x5c6), (0x5c8, 0x5ff),
  (0x608, 0x608), (0x60b, 0x60b), (0x60d, 0x60d), (0x61b, 0x64a), (0x66d, 0x66f), (0x671, 0x6d5),
  (0x6e5, 0x6e6), (0x6ee, 0x6ef), (0x6fa, 0x710), (0x712, 0x72f), (0x74b, 0x7a5), (0x7b1, 0x7ea),
  (0x7f4, 0x7f5), (0x7fa, 0x7fc), (0x7fe, 0x815), (0x81a, 0x81a), (0x824, 0x824), (0x828, 0x828),
  (0x82e, 0x858), (0x85c, 0x88f), (0x892, 0x897), (0x8a0, 0x8c9), (0x200f, 0x200f),
  (0xfb1d, 0xfb1d), (0xfb1f, 0xfb28), (0xfb2a, 0xfd3d), (0xfd50, 0xfdce), (0xfdf0, 0xfdfc),
  (0xfe70, 0xfefe), (0x10800, 0x1091e), (0x10920, 0x10a00), (0x10a04, 0x10a04), (0x10a07, 0x10a0b),
  (0x10a10, 0x10a37), (0x10a3b, 0x10a3e), (0x10a40, 0x10ae4), (0x10ae7, 0x10b38),
  (0x10b40, 0x10d23), (0x10d28, 0x10d2f), (0x10d3a, 0x10e5f), (0x10e7f, 0x10eaa),
  (0x10ead, 0x10efc), (0x10f00, 0x10f45), (0x10f51, 0x10f81), (0x10f86, 0x10fff),
  (0x1e800, 0x1e8cf), (0x1e8d7, 0x1e943), (0x1e94b, 0x1eeef), (0x1eef2, 0x1efff)]⟩

/-- Digits of Arabic numbers. -/
def arabicNumberRanges : RangeSet := ⟨#[
  (0x600, 0x605), (0x660, 0x669), (0x66b, 0x66c), (0x6dd, 0x6dd), (0x890, 0x891), (0x8e2, 0x8e2),
  (0x10d30, 0x10d39), (0x10e60, 0x10e7e)]⟩

/-- Digits of European numbers. -/
def europeanNumberRanges : RangeSet := .ofText "
30 39,b2 b3,b9,6f0 6f9,2070,2074 2079,2080 2089,2488 249b,ff10 ff19,102e1 102fb,1d7ce 1d7ff,
1f100 1f10a,1fbf0 1fbf9"

/-- Marks that take the direction of what they stand on. -/
def nonspacingRanges : RangeSet := .ofText "
300 36f,483 489,591 5bd,5bf,5c1 5c2,5c4 5c5,5c7,610 61a,64b 65f,670,6d6 6dc,6df 6e4,6e7 6e8,
6ea 6ed,711,730 74a,7a6 7b0,7eb 7f3,7fd,816 819,81b 823,825 827,829 82d,859 85b,898 89f,8ca 8e1,
8e3 902,93a,93c,941 948,94d,951 957,962 963,981,9bc,9c1 9c4,9cd,9e2 9e3,9fe,a01 a02,a3c,a41 a42,
a47 a48,a4b a4d,a51,a70 a71,a75,a81 a82,abc,ac1 ac5,ac7 ac8,acd,ae2 ae3,afa aff,b01,b3c,b3f,
b41 b44,b4d,b55 b56,b62 b63,b82,bc0,bcd,c00,c04,c3c,c3e c40,c46 c48,c4a c4d,c55 c56,c62 c63,c81,
cbc,ccc ccd,ce2 ce3,d00 d01,d3b d3c,d41 d44,d4d,d62 d63,d81,dca,dd2 dd4,dd6,e31,e34 e3a,e47 e4e,
eb1,eb4 ebc,ec8 ece,f18 f19,f35,f37,f39,f71 f7e,f80 f84,f86 f87,f8d f97,f99 fbc,fc6,102d 1030,
1032 1037,1039 103a,103d 103e,1058 1059,105e 1060,1071 1074,1082,1085 1086,108d,109d,135d 135f,
1712 1714,1732 1733,1752 1753,1772 1773,17b4 17b5,17b7 17bd,17c6,17c9 17d3,17dd,180b 180d,180f,
1885 1886,18a9,1920 1922,1927 1928,1932,1939 193b,1a17 1a18,1a1b,1a56,1a58 1a5e,1a60,1a62,
1a65 1a6c,1a73 1a7c,1a7f,1ab0 1ace,1b00 1b03,1b34,1b36 1b3a,1b3c,1b42,1b6b 1b73,1b80 1b81,
1ba2 1ba5,1ba8 1ba9,1bab 1bad,1be6,1be8 1be9,1bed,1bef 1bf1,1c2c 1c33,1c36 1c37,1cd0 1cd2,
1cd4 1ce0,1ce2 1ce8,1ced,1cf4,1cf8 1cf9,1dc0 1dff,20d0 20f0,2cef 2cf1,2d7f,2de0 2dff,302a 302d,
3099 309a,a66f a672,a674 a67d,a69e a69f,a6f0 a6f1,a802,a806,a80b,a825 a826,a82c,a8c4 a8c5,
a8e0 a8f1,a8ff,a926 a92d,a947 a951,a980 a982,a9b3,a9b6 a9b9,a9bc a9bd,a9e5,aa29 aa2e,aa31 aa32,
aa35 aa36,aa43,aa4c,aa7c,aab0,aab2 aab4,aab7 aab8,aabe aabf,aac1,aaec aaed,aaf6,abe5,abe8,abed,
fb1e,fe00 fe0f,fe20 fe2f,101fd,102e0,10376 1037a,10a01 10a03,10a05 10a06,10a0c 10a0f,
10a38 10a3a,10a3f,10ae5 10ae6,10d24 10d27,10eab 10eac,10efd 10eff,10f46 10f50,10f82 10f85,11001,
11038 11046,11070,11073 11074,1107f 11081,110b3 110b6,110b9 110ba,110c2,11100 11102,11127 1112b,
1112d 11134,11173,11180 11181,111b6 111be,111c9 111cc,111cf,1122f 11231,11234,11236 11237,1123e,
11241,112df,112e3 112ea,11300 11301,1133b 1133c,11340,11366 1136c,11370 11374,11438 1143f,
11442 11444,11446,1145e,114b3 114b8,114ba,114bf 114c0,114c2 114c3,115b2 115b5,115bc 115bd,
115bf 115c0,115dc 115dd,11633 1163a,1163d,1163f 11640,116ab,116ad,116b0 116b5,116b7,1171d 1171f,
11722 11725,11727 1172b,1182f 11837,11839 1183a,1193b 1193c,1193e,11943,119d4 119d7,119da 119db,
119e0,11a01 11a06,11a09 11a0a,11a33 11a38,11a3b 11a3e,11a47,11a51 11a56,11a59 11a5b,11a8a 11a96,
11a98 11a99,11c30 11c36,11c38 11c3d,11c92 11ca7,11caa 11cb0,11cb2 11cb3,11cb5 11cb6,11d31 11d36,
11d3a,11d3c 11d3d,11d3f 11d45,11d47,11d90 11d91,11d95,11d97,11ef3 11ef4,11f00 11f01,11f36 11f3a,
11f40,11f42,13440,13447 13455,16af0 16af4,16b30 16b36,16f4f,16f8f 16f92,16fe4,1bc9d 1bc9e,
1cf00 1cf2d,1cf30 1cf46,1d167 1d169,1d17b 1d182,1d185 1d18b,1d1aa 1d1ad,1d242 1d244,1da00 1da36,
1da3b 1da6c,1da75,1da84,1da9b 1da9f,1daa1 1daaf,1e000 1e006,1e008 1e018,1e01b 1e021,1e023 1e024,
1e026 1e02a,1e08f,1e130 1e136,1e2ae,1e2ec 1e2ef,1e4ec 1e4ef,1e8d0 1e8d6,1e944 1e94a,e0100 e01ef"

/-- Characters without a direction of their own. -/
def neutralRanges : RangeSet := .ofText "
0 2f,3a 40,5b 60,7b a9,ab b1,b4,b6 b8,bb bf,d7,f7,2b9 2ba,2c2 2cf,2d2 2df,2e5 2ed,2ef 2ff,
374 375,37e,384 385,387,3f6,58a,58d 58f,606 607,609 60a,60c,60e 60f,66a,6de,6e9,7f6 7f9,9f2 9f3,
9fb,af1,bf3 bfa,c78 c7e,e3f,f3a f3d,1390 1399,1400,1680,169b 169c,17db,17f0 17f9,1800 180a,180e,
1940,1944 1945,19de 19ff,1fbd,1fbf 1fc1,1fcd 1fcf,1fdd 1fdf,1fed 1fef,1ffd 1ffe,2000 200d,
2010 206f,207a 207e,208a 208e,20a0 20cf,2100 2101,2103 2106,2108 2109,2114,2116 2118,211e 2123,
2125,2127,2129,212e,213a 213b,2140 2144,214a 214d,2150 215f,2189 218b,2190 2335,237b 2394,
2396 2426,2440 244a,2460 2487,24ea 26ab,26ad 27ff,2900 2b73,2b76 2b95,2b97 2bff,2ce5 2cea,
2cf9 2cff,2e00 2e5d,2e80 2e99,2e9b 2ef3,2f00 2fd5,2ff0 2ffb,3000 3004,3008 3020,3030,3036 3037,
303d 303f,309b 309c,30a0,30fb,31c0 31e3,321d 321e,3250 325f,327c 327e,32b1 32bf,32cc 32cf,
3377 337a,33de 33df,33ff,4dc0 4dff,a490 a4c6,a60d a60f,a673,a67e a67f,a700 a721,a788,a828 a82b,
a838 a839,a874 a877,ab6a ab6b,fb29,fd3e fd4f,fdcf fdef,fdfd fdff,fe10 fe19,fe30 fe52,fe54 fe66,
fe68 fe6b,feff,ff01 ff0f,ff1a ff20,ff3b ff40,ff5b ff65,ffe0 ffe6,ffe8 ffee,fff0 ffff,10101,
10140 1018c,10190 1019c,101a0,1091f,10b39 10b3f,11052 11065,11660 1166c,11fd5 11ff1,16fe2,
1bca0 1bca3,1d173 1d17a,1d1e9 1d1ea,1d200 1d241,1d245,1d300 1d356,1d6db,1d715,1d74f,1d789,1d7c3,
1e2ff,1eef0 1eef1,1f000 1f02b,1f030 1f093,1f0a0 1f0ae,1f0b1 1f0bf,1f0c1 1f0cf,1f0d1 1f0f5,
1f10b 1f10f,1f12f,1f16a 1f16f,1f1ad,1f260 1f265,1f300 1f6d7,1f6dc 1f6ec,1f6f0 1f6fc,1f700 1f776,
1f77b 1f7d9,1f7e0 1f7eb,1f7f0,1f800 1f80b,1f810 1f847,1f850 1f859,1f860 1f887,1f890 1f8ad,
1f8b0 1f8b1,1f900 1fa53,1fa60 1fa6d,1fa70 1fa7c,1fa80 1fa88,1fa90 1fabd,1fabf 1fac5,1face 1fadb,
1fae0 1fae8,1faf0 1faf8,1fb00 1fb92,1fb94 1fbca,1fffe 1ffff,2fffe 2ffff,3fffe 3ffff,4fffe 4ffff,
5fffe 5ffff,6fffe 6ffff,7fffe 7ffff,8fffe 8ffff,9fffe 9ffff,afffe affff,bfffe bffff,cfffe cffff,
dfffe e00ff,e01f0 e0fff,efffe effff,ffffe fffff,10fffe 10ffff"

/-- Combining marks. -/
def markRanges : RangeSet := ⟨#[
  (0x300, 0x36f), (0x483, 0x489), (0x591, 0x5bd), (0x5bf, 0x5bf), (0x5c1, 0x5c2), (0x5c4, 0x5c5),
  (0x5c7, 0x5c7), (0x610, 0x61a), (0x64b, 0x65f), (0x670, 0x670), (0x6d6, 0x6dc), (0x6df, 0x6e4),
  (0x6e7, 0x6e8), (0x6ea, 0x6ed), (0x711, 0x711), (0x730, 0x74a), (0x7a6, 0x7b0), (0x7eb, 0x7f3),
  (0x7fd, 0x7fd), (0x816, 0x819), (0x81b, 0x823), (0x825, 0x827), (0x829, 0x82d), (0x859, 0x85b),
  (0x897, 0x89f), (0x8ca, 0x8e1), (0x8e3, 0x903), (0x93a, 0x93c), (0x93e, 0x94f), (0x951, 0x957),
  (0x962, 0x963), (0x981, 0x983), (0x9bc, 0x9bc), (0x9be, 0x9c4), (0x9c7, 0x9c8), (0x9cb, 0x9cd),
  (0x9d7, 0x9d7), (0x9e2, 0x9e3), (0x9fe, 0x9fe), (0xa01, 0xa03), (0xa3c, 0xa3c), (0xa3e, 0xa42),
  (0xa47, 0xa48), (0xa4b, 0xa4d), (0xa51, 0xa51), (0xa70, 0xa71), (0xa75, 0xa75), (0xa81, 0xa83),
  (0xabc, 0xabc), (0xabe, 0xac5), (0xac7, 0xac9), (0xacb, 0xacd), (0xae2, 0xae3), (0xafa, 0xaff),
  (0xb01, 0xb03), (0xb3c, 0xb3c), (0xb3e, 0xb44), (0xb47, 0xb48), (0xb4b, 0xb4d), (0xb55, 0xb57),
  (0xb62, 0xb63), (0xb82, 0xb82), (0xbbe, 0xbc2), (0xbc6, 0xbc8), (0xbca, 0xbcd), (0xbd7, 0xbd7),
  (0xc00, 0xc04), (0xc3c, 0xc3c), (0xc3e, 0xc44), (0xc46, 0xc48), (0xc4a, 0xc4d), (0xc55, 0xc56),
  (0xc62, 0xc63), (0xc81, 0xc83), (0xcbc, 0xcbc), (0xcbe, 0xcc4), (0xcc6, 0xcc8), (0xcca, 0xccd),
  (0xcd5, 0xcd6), (0xce2, 0xce3), (0xcf3, 0xcf3), (0xd00, 0xd03), (0xd3b, 0xd3c), (0xd3e, 0xd44),
  (0xd46, 0xd48), (0xd4a, 0xd4d), (0xd57, 0xd57), (0xd62, 0xd63), (0xd81, 0xd83), (0xdca, 0xdca),
  (0xdcf, 0xdd4), (0xdd6, 0xdd6), (0xdd8, 0xddf), (0xdf2, 0xdf3), (0xe31, 0xe31), (0xe34, 0xe3a),
  (0xe47, 0xe4e), (0xeb1, 0xeb1), (0xeb4, 0xebc), (0xec8, 0xece), (0xf18, 0xf19), (0xf35, 0xf35),
  (0xf37, 0xf37), (0xf39, 0xf39), (0xf3e, 0xf3f), (0xf71, 0xf84), (0xf86, 0xf87), (0xf8d, 0xf97),
  (0xf99, 0xfbc), (0xfc6, 0xfc6), (0x102b, 0x103e), (0x1056, 0x1059), (0x105e, 0x1060),
  (0x1062, 0x1064), (0x1067, 0x106d), (0x1071, 0x1074), (0x1082, 0x108d), (0x108f, 0x108f),
  (0x109a, 0x109d), (0x135d, 0x135f), (0x1712, 0x1715), (0x1732, 0x1734), (0x1752, 0x1753),
  (0x1772, 0x1773), (0x17b4, 0x17d3), (0x17dd, 0x17dd), (0x180b, 0x180d), (0x180f, 0x180f),
  (0x1885, 0x1886), (0x18a9, 0x18a9), (0x1920, 0x192b), (0x1930, 0x193b), (0x1a17, 0x1a1b),
  (0x1a55, 0x1a5e), (0x1a60, 0x1a7c), (0x1a7f, 0x1a7f), (0x1ab0, 0x1add), (0x1ae0, 0x1aeb),
  (0x1b00, 0x1b04), (0x1b34, 0x1b44), (0x1b6b, 0x1b73), (0x1b80, 0x1b82), (0x1ba1, 0x1bad),
  (0x1be6, 0x1bf3), (0x1c24, 0x1c37), (0x1cd0, 0x1cd2), (0x1cd4, 0x1ce8), (0x1ced, 0x1ced),
  (0x1cf4, 0x1cf4), (0x1cf7, 0x1cf9), (0x1dc0, 0x1dff), (0x20d0, 0x20f0), (0x2cef, 0x2cf1),
  (0x2d7f, 0x2d7f), (0x2de0, 0x2dff), (0x302a, 0x302f), (0x3099, 0x309a), (0xa66f, 0xa672),
  (0xa674, 0xa67d), (0xa69e, 0xa69f), (0xa6f0, 0xa6f1), (0xa802, 0xa802), (0xa806, 0xa806),
  (0xa80b, 0xa80b), (0xa823, 0xa827), (0xa82c, 0xa82c), (0xa880, 0xa881), (0xa8b4, 0xa8c5),
  (0xa8e0, 0xa8f1), (0xa8ff, 0xa8ff), (0xa926, 0xa92d), (0xa947, 0xa953), (0xa980, 0xa983),
  (0xa9b3, 0xa9c0), (0xa9e5, 0xa9e5), (0xaa29, 0xaa36), (0xaa43, 0xaa43), (0xaa4c, 0xaa4d),
  (0xaa7b, 0xaa7d), (0xaab0, 0xaab0), (0xaab2, 0xaab4), (0xaab7, 0xaab8), (0xaabe, 0xaabf),
  (0xaac1, 0xaac1), (0xaaeb, 0xaaef), (0xaaf5, 0xaaf6), (0xabe3, 0xabea), (0xabec, 0xabed),
  (0xfb1e, 0xfb1e), (0xfe00, 0xfe0f), (0xfe20, 0xfe2f), (0x101fd, 0x101fd), (0x102e0, 0x102e0),
  (0x10376, 0x1037a), (0x10a01, 0x10a03), (0x10a05, 0x10a06), (0x10a0c, 0x10a0f),
  (0x10a38, 0x10a3a), (0x10a3f, 0x10a3f), (0x10ae5, 0x10ae6), (0x10d24, 0x10d27),
  (0x10d69, 0x10d6d), (0x10eab, 0x10eac), (0x10efa, 0x10eff), (0x10f46, 0x10f50),
  (0x10f82, 0x10f85), (0x11000, 0x11002), (0x11038, 0x11046), (0x11070, 0x11070),
  (0x11073, 0x11074), (0x1107f, 0x11082), (0x110b0, 0x110ba), (0x110c2, 0x110c2),
  (0x11100, 0x11102), (0x11127, 0x11134), (0x11145, 0x11146), (0x11173, 0x11173),
  (0x11180, 0x11182), (0x111b3, 0x111c0), (0x111c9, 0x111cc), (0x111ce, 0x111cf),
  (0x1122c, 0x11237), (0x1123e, 0x1123e), (0x11241, 0x11241), (0x112df, 0x112ea),
  (0x11300, 0x11303), (0x1133b, 0x1133c), (0x1133e, 0x11344), (0x11347, 0x11348),
  (0x1134b, 0x1134d), (0x11357, 0x11357), (0x11362, 0x11363), (0x11366, 0x1136c),
  (0x11370, 0x11374), (0x113b8, 0x113c0), (0x113c2, 0x113c2), (0x113c5, 0x113c5),
  (0x113c7, 0x113ca), (0x113cc, 0x113d0), (0x113d2, 0x113d2), (0x113e1, 0x113e2),
  (0x11435, 0x11446), (0x1145e, 0x1145e), (0x114b0, 0x114c3), (0x115af, 0x115b5),
  (0x115b8, 0x115c0), (0x115dc, 0x115dd), (0x11630, 0x11640), (0x116ab, 0x116b7),
  (0x1171d, 0x1172b), (0x1182c, 0x1183a), (0x11930, 0x11935), (0x11937, 0x11938),
  (0x1193b, 0x1193e), (0x11940, 0x11940), (0x11942, 0x11943), (0x119d1, 0x119d7),
  (0x119da, 0x119e0), (0x119e4, 0x119e4), (0x11a01, 0x11a0a), (0x11a33, 0x11a39),
  (0x11a3b, 0x11a3e), (0x11a47, 0x11a47), (0x11a51, 0x11a5b), (0x11a8a, 0x11a99),
  (0x11b60, 0x11b67), (0x11c2f, 0x11c36), (0x11c38, 0x11c3f), (0x11c92, 0x11ca7),
  (0x11ca9, 0x11cb6), (0x11d31, 0x11d36), (0x11d3a, 0x11d3a), (0x11d3c, 0x11d3d),
  (0x11d3f, 0x11d45), (0x11d47, 0x11d47), (0x11d8a, 0x11d8e), (0x11d90, 0x11d91),
  (0x11d93, 0x11d97), (0x11ef3, 0x11ef6), (0x11f00, 0x11f01), (0x11f03, 0x11f03),
  (0x11f34, 0x11f3a), (0x11f3e, 0x11f42), (0x11f5a, 0x11f5a), (0x13440, 0x13440),
  (0x13447, 0x13455), (0x1611e, 0x1612f), (0x16af0, 0x16af4), (0x16b30, 0x16b36),
  (0x16f4f, 0x16f4f), (0x16f51, 0x16f87), (0x16f8f, 0x16f92), (0x16fe4, 0x16fe4),
  (0x16ff0, 0x16ff1), (0x1bc9d, 0x1bc9e), (0x1cf00, 0x1cf2d), (0x1cf30, 0x1cf46),
  (0x1d165, 0x1d169), (0x1d16d, 0x1d172), (0x1d17b, 0x1d182), (0x1d185, 0x1d18b),
  (0x1d1aa, 0x1d1ad), (0x1d242, 0x1d244), (0x1da00, 0x1da36), (0x1da3b, 0x1da6c),
  (0x1da75, 0x1da75), (0x1da84, 0x1da84), (0x1da9b, 0x1da9f), (0x1daa1, 0x1daaf),
  (0x1e000, 0x1e006), (0x1e008, 0x1e018), (0x1e01b, 0x1e021), (0x1e023, 0x1e024),
  (0x1e026, 0x1e02a), (0x1e08f, 0x1e08f), (0x1e130, 0x1e136), (0x1e2ae, 0x1e2ae),
  (0x1e2ec, 0x1e2ef), (0x1e4ec, 0x1e4ef), (0x1e5ee, 0x1e5ef), (0x1e6e3, 0x1e6e3),
  (0x1e6e6, 0x1e6e6), (0x1e6ee, 0x1e6ef), (0x1e6f5, 0x1e6f5), (0x1e8d0, 0x1e8d6),
  (0x1e944, 0x1e94a), (0xe0100, 0xe01ef)]⟩

/-- Characters that join on both sides. -/
def joinsBothRanges : RangeSet := .ofText "
620,626,628,62a 62e,633 63f,641 647,649 64a,66e 66f,678 687,69a 6bf,6c1 6c2,6cc,6ce,6d0 6d1,
6fa 6fc,6ff,712 714,71a 71d,71f 727,729,72b,72d 72e,74e 758,75c 76a,76d 770,772,775 777,77a 77f,
7ca 7ea,841 845,848,84a 853,855,860,862 865,868,886,889 88d,88f,8a0 8a9,8af 8b0,8b3 8b8,8ba 8c8,
1807,1820 1878,1887 18a8,18aa,a840 a871,10ac0 10ac4,10ad3 10ad6,10ad8 10adc,10ade 10ae0,
10aeb 10aee,10b80,10b82,10b86 10b88,10b8a 10b8b,10b8d,10b90,10bad 10bae,10d01 10d21,10d23,
10ec3 10ec4,10ec6 10ec7,10f30 10f32,10f34 10f44,10f51 10f53,10f70 10f73,10f76 10f81,10fb0,
10fb2 10fb3,10fb8,10fbb 10fbc,10fbe 10fbf,10fc1,10fc4,10fca,1e900 1e943"

/-- Characters that join to what follows them. -/
def joinsLeftRanges : RangeSet := .ofText "
a872,10acd,10ad7,10d00,10fcb"

/-- Characters that join to what precedes them. -/
def joinsRightRanges : RangeSet := .ofText "
622 625,627,629,62f 632,648,671 673,675 677,688 699,6c0,6c3 6cb,6cd,6cf,6d2 6d3,6d5,6ee 6ef,710,
715 719,71e,728,72a,72c,72f,74d,759 75b,76b 76c,771,773 774,778 779,840,846 847,849,854,856 858,
867,869 86a,870 882,88e,8aa 8ac,8ae,8b1 8b2,8b9,10ac5,10ac7,10ac9 10aca,10ace 10ad2,10add,10ae1,
10ae4,10aef,10b81,10b83 10b85,10b89,10b8c,10b8e 10b8f,10b91,10ba9 10bac,10d22,10ec2,10f33,10f54,
10f74 10f75,10fb4 10fb6,10fb9 10fba,10fbd,10fc2 10fc3,10fc9"

/-- Characters across which others join. -/
def transparentRanges : RangeSet := .ofText "
ad,300 36f,483 489,591 5bd,5bf,5c1 5c2,5c4 5c5,5c7,610 61a,61c,64b 65f,670,6d6 6dc,6df 6e4,
6e7 6e8,6ea 6ed,70f,711,730 74a,7a6 7b0,7eb 7f3,7fd,816 819,81b 823,825 827,829 82d,859 85b,
897 89f,8ca 8e1,8e3 902,93a,93c,941 948,94d,951 957,962 963,981,9bc,9c1 9c4,9cd,9e2 9e3,9fe,
a01 a02,a3c,a41 a42,a47 a48,a4b a4d,a51,a70 a71,a75,a81 a82,abc,ac1 ac5,ac7 ac8,acd,ae2 ae3,
afa aff,b01,b3c,b3f,b41 b44,b4d,b55 b56,b62 b63,b82,bc0,bcd,c00,c04,c3c,c3e c40,c46 c48,c4a c4d,
c55 c56,c62 c63,c81,cbc,cbf,cc6,ccc ccd,ce2 ce3,d00 d01,d3b d3c,d41 d44,d4d,d62 d63,d81,dca,
dd2 dd4,dd6,e31,e34 e3a,e47 e4e,eb1,eb4 ebc,ec8 ece,f18 f19,f35,f37,f39,f71 f7e,f80 f84,f86 f87,
f8d f97,f99 fbc,fc6,102d 1030,1032 1037,1039 103a,103d 103e,1058 1059,105e 1060,1071 1074,1082,
1085 1086,108d,109d,135d 135f,1712 1714,1732 1733,1752 1753,1772 1773,17b4 17b5,17b7 17bd,17c6,
17c9 17d3,17dd,180b 180d,180f,1885 1886,18a9,1920 1922,1927 1928,1932,1939 193b,1a17 1a18,1a1b,
1a56,1a58 1a5e,1a60,1a62,1a65 1a6c,1a73 1a7c,1a7f,1ab0 1add,1ae0 1aeb,1b00 1b03,1b34,1b36 1b3a,
1b3c,1b42,1b6b 1b73,1b80 1b81,1ba2 1ba5,1ba8 1ba9,1bab 1bad,1be6,1be8 1be9,1bed,1bef 1bf1,
1c2c 1c33,1c36 1c37,1cd0 1cd2,1cd4 1ce0,1ce2 1ce8,1ced,1cf4,1cf8 1cf9,1dc0 1dff,200b,200e 200f,
202a 202e,2060 2064,206a 206f,20d0 20f0,2cef 2cf1,2d7f,2de0 2dff,302a 302d,3099 309a,a66f a672,
a674 a67d,a69e a69f,a6f0 a6f1,a802,a806,a80b,a825 a826,a82c,a8c4 a8c5,a8e0 a8f1,a8ff,a926 a92d,
a947 a951,a980 a982,a9b3,a9b6 a9b9,a9bc a9bd,a9e5,aa29 aa2e,aa31 aa32,aa35 aa36,aa43,aa4c,aa7c,
aab0,aab2 aab4,aab7 aab8,aabe aabf,aac1,aaec aaed,aaf6,abe5,abe8,abed,fb1e,fe00 fe0f,fe20 fe2f,
feff,fff9 fffb,101fd,102e0,10376 1037a,10a01 10a03,10a05 10a06,10a0c 10a0f,10a38 10a3a,10a3f,
10ae5 10ae6,10d24 10d27,10d69 10d6d,10eab 10eac,10efa 10eff,10f46 10f50,10f82 10f85,11001,
11038 11046,11070,11073 11074,1107f 11081,110b3 110b6,110b9 110ba,110c2,11100 11102,11127 1112b,
1112d 11134,11173,11180 11181,111b6 111be,111c9 111cc,111cf,1122f 11231,11234,11236 11237,1123e,
11241,112df,112e3 112ea,11300 11301,1133b 1133c,11340,11366 1136c,11370 11374,113bb 113c0,113ce,
113d0,113d2,113e1 113e2,11438 1143f,11442 11444,11446,1145e,114b3 114b8,114ba,114bf 114c0,
114c2 114c3,115b2 115b5,115bc 115bd,115bf 115c0,115dc 115dd,11633 1163a,1163d,1163f 11640,116ab,
116ad,116b0 116b5,116b7,1171d,1171f,11722 11725,11727 1172b,1182f 11837,11839 1183a,1193b 1193c,
1193e,11943,119d4 119d7,119da 119db,119e0,11a01 11a0a,11a33 11a38,11a3b 11a3e,11a47,11a51 11a56,
11a59 11a5b,11a8a 11a96,11a98 11a99,11b60,11b62 11b64,11b66,11c30 11c36,11c38 11c3d,11c3f,
11c92 11ca7,11caa 11cb0,11cb2 11cb3,11cb5 11cb6,11d31 11d36,11d3a,11d3c 11d3d,11d3f 11d45,11d47,
11d90 11d91,11d95,11d97,11ef3 11ef4,11f00 11f01,11f36 11f3a,11f40,11f42,11f5a,13430 13440,
13447 13455,1611e 16129,1612d 1612f,16af0 16af4,16b30 16b36,16f4f,16f8f 16f92,16fe4,1bc9d 1bc9e,
1bca0 1bca3,1cf00 1cf2d,1cf30 1cf46,1d167 1d169,1d173 1d182,1d185 1d18b,1d1aa 1d1ad,1d242 1d244,
1da00 1da36,1da3b 1da6c,1da75,1da84,1da9b 1da9f,1daa1 1daaf,1e000 1e006,1e008 1e018,1e01b 1e021,
1e023 1e024,1e026 1e02a,1e08f,1e130 1e136,1e2ae,1e2ec 1e2ef,1e4ec 1e4ef,1e5ee 1e5ef,1e6e3,1e6e6,
1e6ee 1e6ef,1e6f5,1e8d0 1e8d6,1e944 1e94b,e0001,e0020 e007f,e0100 e01ef"

end MetadataHarvest.Url
