import MetadataHarvest.Text.SearchTree
import MetadataHarvest.Text.Table

/-!
# Upper case

The full upper-case mapping of a character, which may be a sequence: the sharp s becomes
two letters.
-/

namespace MetadataHarvest.Text

/-- Characters with one upper-case character. -/
def uppercaseRuns : RunMap := .ofText "
61 7a 1 41,b5 b5 1 39c,e0 f6 1 c0,f8 fe 1 d8,ff ff 1 178,101 12f 2 100,131 131 1 49,
133 137 2 132,13a 148 2 139,14b 177 2 14a,17a 17e 2 179,17f 17f 1 53,180 180 1 243,
183 185 2 182,188 18c 4 187,192 192 1 191,195 195 1 1f6,199 199 1 198,19a 19a 1 23d,
19b 19b 1 a7dc,19e 19e 1 220,1a1 1a5 2 1a0,1a8 1a8 1 1a7,1ad 1ad 1 1ac,1b0 1b4 4 1af,
1b6 1b6 1 1b5,1b9 1bd 4 1b8,1bf 1bf 1 1f7,1c5 1c5 1 1c4,1c6 1c6 1 1c4,1c8 1c8 1 1c7,
1c9 1c9 1 1c7,1cb 1cb 1 1ca,1cc 1cc 1 1ca,1ce 1dc 2 1cd,1dd 1dd 1 18e,1df 1ef 2 1de,
1f2 1f2 1 1f1,1f3 1f3 1 1f1,1f5 1f9 4 1f4,1fb 21f 2 1fa,223 233 2 222,23c 23c 1 23b,
23f 240 1 2c7e,242 242 1 241,247 24f 2 246,250 250 1 2c6f,251 251 1 2c6d,252 252 1 2c70,
253 253 1 181,254 254 1 186,256 257 1 189,259 259 1 18f,25b 25b 1 190,25c 25c 1 a7ab,
260 260 1 193,261 261 1 a7ac,263 263 1 194,264 264 1 a7cb,265 265 1 a78d,266 266 1 a7aa,
268 268 1 197,269 269 1 196,26a 26a 1 a7ae,26b 26b 1 2c62,26c 26c 1 a7ad,26f 26f 1 19c,
271 271 1 2c6e,272 272 1 19d,275 275 1 19f,27d 27d 1 2c64,280 280 1 1a6,282 282 1 a7c5,
283 283 1 1a9,287 287 1 a7b1,288 288 1 1ae,289 289 1 244,28a 28b 1 1b1,28c 28c 1 245,
292 292 1 1b7,29d 29d 1 a7b2,29e 29e 1 a7b0,345 345 1 399,371 373 2 370,377 377 1 376,
37b 37d 1 3fd,3ac 3ac 1 386,3ad 3af 1 388,3b1 3c1 1 391,3c2 3c2 1 3a3,3c3 3cb 1 3a3,
3cc 3cc 1 38c,3cd 3ce 1 38e,3d0 3d0 1 392,3d1 3d1 1 398,3d5 3d5 1 3a6,3d6 3d6 1 3a0,
3d7 3d7 1 3cf,3d9 3ef 2 3d8,3f0 3f0 1 39a,3f1 3f1 1 3a1,3f2 3f2 1 3f9,3f3 3f3 1 37f,
3f5 3f5 1 395,3f8 3f8 1 3f7,3fb 3fb 1 3fa,430 44f 1 410,450 45f 1 400,461 481 2 460,
48b 4bf 2 48a,4c2 4ce 2 4c1,4cf 4cf 1 4c0,4d1 52f 2 4d0,561 586 1 531,10d0 10fa 1 1c90,
10fd 10ff 1 1cbd,13f8 13fd 1 13f0,1c80 1c80 1 412,1c81 1c81 1 414,1c82 1c82 1 41e,
1c83 1c84 1 421,1c85 1c85 1 422,1c86 1c86 1 42a,1c87 1c87 1 462,1c88 1c88 1 a64a,
1c8a 1c8a 1 1c89,1d79 1d79 1 a77d,1d7d 1d7d 1 2c63,1d8e 1d8e 1 a7c6,1e01 1e95 2 1e00,
1e9b 1e9b 1 1e60,1ea1 1eff 2 1ea0,1f00 1f07 1 1f08,1f10 1f15 1 1f18,1f20 1f27 1 1f28,
1f30 1f37 1 1f38,1f40 1f45 1 1f48,1f51 1f57 2 1f59,1f60 1f67 1 1f68,1f70 1f71 1 1fba,
1f72 1f75 1 1fc8,1f76 1f77 1 1fda,1f78 1f79 1 1ff8,1f7a 1f7b 1 1fea,1f7c 1f7d 1 1ffa,
1fb0 1fb1 1 1fb8,1fbe 1fbe 1 399,1fd0 1fd1 1 1fd8,1fe0 1fe1 1 1fe8,1fe5 1fe5 1 1fec,
214e 214e 1 2132,2170 217f 1 2160,2184 2184 1 2183,24d0 24e9 1 24b6,2c30 2c5f 1 2c00,
2c61 2c61 1 2c60,2c65 2c65 1 23a,2c66 2c66 1 23e,2c68 2c6c 2 2c67,2c73 2c73 1 2c72,
2c76 2c76 1 2c75,2c81 2ce3 2 2c80,2cec 2cee 2 2ceb,2cf3 2cf3 1 2cf2,2d00 2d25 1 10a0,
2d27 2d27 1 10c7,2d2d 2d2d 1 10cd,a641 a66d 2 a640,a681 a69b 2 a680,a723 a72f 2 a722,
a733 a76f 2 a732,a77a a77c 2 a779,a77f a787 2 a77e,a78c a78c 1 a78b,a791 a793 2 a790,
a794 a794 1 a7c4,a797 a7a9 2 a796,a7b5 a7c3 2 a7b4,a7c8 a7ca 2 a7c7,a7cd a7db 2 a7cc,
a7f6 a7f6 1 a7f5,ab53 ab53 1 a7b3,ab70 abbf 1 13a0,ff41 ff5a 1 ff21,10428 1044f 1 10400,
104d8 104fb 1 104b0,10597 105a1 1 10570,105a3 105b1 1 1057c,105b3 105b9 1 1058c,
105bb 105bc 1 10594,10cc0 10cf2 1 10c80,10d70 10d85 1 10d50,118c0 118df 1 118a0,
16e60 16e7f 1 16e40,16ebb 16ed3 1 16ea0,1e922 1e943 1 1e900"

/-- Rows of characters whose upper case is a sequence. -/
def uppercaseRows : List (Nat × List Nat) := [
  (0xdf, [0x53, 0x53]), (0x149, [0x2bc, 0x4e]), (0x1f0, [0x4a, 0x30c]),
  (0x390, [0x399, 0x308, 0x301]), (0x3b0, [0x3a5, 0x308, 0x301]), (0x587, [0x535, 0x552]),
  (0x1e96, [0x48, 0x331]), (0x1e97, [0x54, 0x308]), (0x1e98, [0x57, 0x30a]),
  (0x1e99, [0x59, 0x30a]), (0x1e9a, [0x41, 0x2be]), (0x1f50, [0x3a5, 0x313]),
  (0x1f52, [0x3a5, 0x313, 0x300]), (0x1f54, [0x3a5, 0x313, 0x301]), (0x1f56, [0x3a5, 0x313, 0x342]),
  (0x1f80, [0x1f08, 0x399]), (0x1f81, [0x1f09, 0x399]), (0x1f82, [0x1f0a, 0x399]),
  (0x1f83, [0x1f0b, 0x399]), (0x1f84, [0x1f0c, 0x399]), (0x1f85, [0x1f0d, 0x399]),
  (0x1f86, [0x1f0e, 0x399]), (0x1f87, [0x1f0f, 0x399]), (0x1f88, [0x1f08, 0x399]),
  (0x1f89, [0x1f09, 0x399]), (0x1f8a, [0x1f0a, 0x399]), (0x1f8b, [0x1f0b, 0x399]),
  (0x1f8c, [0x1f0c, 0x399]), (0x1f8d, [0x1f0d, 0x399]), (0x1f8e, [0x1f0e, 0x399]),
  (0x1f8f, [0x1f0f, 0x399]), (0x1f90, [0x1f28, 0x399]), (0x1f91, [0x1f29, 0x399]),
  (0x1f92, [0x1f2a, 0x399]), (0x1f93, [0x1f2b, 0x399]), (0x1f94, [0x1f2c, 0x399]),
  (0x1f95, [0x1f2d, 0x399]), (0x1f96, [0x1f2e, 0x399]), (0x1f97, [0x1f2f, 0x399]),
  (0x1f98, [0x1f28, 0x399]), (0x1f99, [0x1f29, 0x399]), (0x1f9a, [0x1f2a, 0x399]),
  (0x1f9b, [0x1f2b, 0x399]), (0x1f9c, [0x1f2c, 0x399]), (0x1f9d, [0x1f2d, 0x399]),
  (0x1f9e, [0x1f2e, 0x399]), (0x1f9f, [0x1f2f, 0x399]), (0x1fa0, [0x1f68, 0x399]),
  (0x1fa1, [0x1f69, 0x399]), (0x1fa2, [0x1f6a, 0x399]), (0x1fa3, [0x1f6b, 0x399]),
  (0x1fa4, [0x1f6c, 0x399]), (0x1fa5, [0x1f6d, 0x399]), (0x1fa6, [0x1f6e, 0x399]),
  (0x1fa7, [0x1f6f, 0x399]), (0x1fa8, [0x1f68, 0x399]), (0x1fa9, [0x1f69, 0x399]),
  (0x1faa, [0x1f6a, 0x399]), (0x1fab, [0x1f6b, 0x399]), (0x1fac, [0x1f6c, 0x399]),
  (0x1fad, [0x1f6d, 0x399]), (0x1fae, [0x1f6e, 0x399]), (0x1faf, [0x1f6f, 0x399]),
  (0x1fb2, [0x1fba, 0x399]), (0x1fb3, [0x391, 0x399]), (0x1fb4, [0x386, 0x399]),
  (0x1fb6, [0x391, 0x342]), (0x1fb7, [0x391, 0x342, 0x399]), (0x1fbc, [0x391, 0x399]),
  (0x1fc2, [0x1fca, 0x399]), (0x1fc3, [0x397, 0x399]), (0x1fc4, [0x389, 0x399]),
  (0x1fc6, [0x397, 0x342]), (0x1fc7, [0x397, 0x342, 0x399]), (0x1fcc, [0x397, 0x399]),
  (0x1fd2, [0x399, 0x308, 0x300]), (0x1fd3, [0x399, 0x308, 0x301]), (0x1fd6, [0x399, 0x342]),
  (0x1fd7, [0x399, 0x308, 0x342]), (0x1fe2, [0x3a5, 0x308, 0x300]), (0x1fe3, [0x3a5, 0x308, 0x301]),
  (0x1fe4, [0x3a1, 0x313]), (0x1fe6, [0x3a5, 0x342]), (0x1fe7, [0x3a5, 0x308, 0x342]),
  (0x1ff2, [0x1ffa, 0x399]), (0x1ff3, [0x3a9, 0x399]), (0x1ff4, [0x38f, 0x399]),
  (0x1ff6, [0x3a9, 0x342]), (0x1ff7, [0x3a9, 0x342, 0x399]), (0x1ffc, [0x3a9, 0x399]),
  (0xfb00, [0x46, 0x46]), (0xfb01, [0x46, 0x49]), (0xfb02, [0x46, 0x4c]),
  (0xfb03, [0x46, 0x46, 0x49]), (0xfb04, [0x46, 0x46, 0x4c]), (0xfb05, [0x53, 0x54]),
  (0xfb06, [0x53, 0x54]), (0xfb13, [0x544, 0x546]), (0xfb14, [0x544, 0x535]),
  (0xfb15, [0x544, 0x53b]), (0xfb16, [0x54e, 0x546]), (0xfb17, [0x544, 0x53d])]

def uppercaseSequences : SearchTree (List Nat) := .ofSorted uppercaseRows

theorem toList_uppercaseSequences : uppercaseSequences.toList = uppercaseRows :=
  SearchTree.toList_ofSorted uppercaseRows

-- A proof is to go through the rows and never to grow a tree.
attribute [irreducible] uppercaseSequences

/-- The upper case of `c`. -/
def uppercase (c : Char) : List Char :=
  if c.toNat < 0x80 then [c.toUpper]
  else match uppercaseSequences.find? c.toNat with
    | some sequence => sequence.map Char.ofNat
    | none => [((uppercaseRuns.find? c.toNat).map Char.ofNat).getD c]

end MetadataHarvest.Text
