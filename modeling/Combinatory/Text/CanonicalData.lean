import Combinatory.Text.RangeTable

/-!
# Canonical equivalence: data

The combining classes, canonical decompositions and primary composites of the code points, and
the non-starters each compatibility decomposition begins and ends with.
-/

namespace Combinatory.Unicode

open RangeTable (entry)

/-- Canonical combining class of each code point. -/
def combiningClass : RangeTable := ⟨#[
  entry 0x300 0x314 230, entry 0x315 0x315 232, entry 0x316 0x319 220, entry 0x31a 0x31a 232,
  entry 0x31b 0x31b 216, entry 0x31c 0x320 220, entry 0x321 0x322 202, entry 0x323 0x326 220,
  entry 0x327 0x328 202, entry 0x329 0x333 220, entry 0x334 0x338 1, entry 0x339 0x33c 220,
  entry 0x33d 0x344 230, entry 0x345 0x345 240, entry 0x346 0x346 230, entry 0x347 0x349 220,
  entry 0x34a 0x34c 230, entry 0x34d 0x34e 220, entry 0x350 0x352 230, entry 0x353 0x356 220,
  entry 0x357 0x357 230, entry 0x358 0x358 232, entry 0x359 0x35a 220, entry 0x35b 0x35b 230,
  entry 0x35c 0x35c 233, entry 0x35d 0x35e 234, entry 0x35f 0x35f 233, entry 0x360 0x361 234,
  entry 0x362 0x362 233, entry 0x363 0x36f 230, entry 0x483 0x487 230, entry 0x591 0x591 220,
  entry 0x592 0x595 230, entry 0x596 0x596 220, entry 0x597 0x599 230, entry 0x59a 0x59a 222,
  entry 0x59b 0x59b 220, entry 0x59c 0x5a1 230, entry 0x5a2 0x5a7 220, entry 0x5a8 0x5a9 230,
  entry 0x5aa 0x5aa 220, entry 0x5ab 0x5ac 230, entry 0x5ad 0x5ad 222, entry 0x5ae 0x5ae 228,
  entry 0x5af 0x5af 230, entry 0x5b0 0x5b0 10, entry 0x5b1 0x5b1 11, entry 0x5b2 0x5b2 12,
  entry 0x5b3 0x5b3 13, entry 0x5b4 0x5b4 14, entry 0x5b5 0x5b5 15, entry 0x5b6 0x5b6 16,
  entry 0x5b7 0x5b7 17, entry 0x5b8 0x5b8 18, entry 0x5b9 0x5ba 19, entry 0x5bb 0x5bb 20,
  entry 0x5bc 0x5bc 21, entry 0x5bd 0x5bd 22, entry 0x5bf 0x5bf 23, entry 0x5c1 0x5c1 24,
  entry 0x5c2 0x5c2 25, entry 0x5c4 0x5c4 230, entry 0x5c5 0x5c5 220, entry 0x5c7 0x5c7 18,
  entry 0x610 0x617 230, entry 0x618 0x618 30, entry 0x619 0x619 31, entry 0x61a 0x61a 32,
  entry 0x64b 0x64b 27, entry 0x64c 0x64c 28, entry 0x64d 0x64d 29, entry 0x64e 0x64e 30,
  entry 0x64f 0x64f 31, entry 0x650 0x650 32, entry 0x651 0x651 33, entry 0x652 0x652 34,
  entry 0x653 0x654 230, entry 0x655 0x656 220, entry 0x657 0x65b 230, entry 0x65c 0x65c 220,
  entry 0x65d 0x65e 230, entry 0x65f 0x65f 220, entry 0x670 0x670 35, entry 0x6d6 0x6dc 230,
  entry 0x6df 0x6e2 230, entry 0x6e3 0x6e3 220, entry 0x6e4 0x6e4 230, entry 0x6e7 0x6e8 230,
  entry 0x6ea 0x6ea 220, entry 0x6eb 0x6ec 230, entry 0x6ed 0x6ed 220, entry 0x711 0x711 36,
  entry 0x730 0x730 230, entry 0x731 0x731 220, entry 0x732 0x733 230, entry 0x734 0x734 220,
  entry 0x735 0x736 230, entry 0x737 0x739 220, entry 0x73a 0x73a 230, entry 0x73b 0x73c 220,
  entry 0x73d 0x73d 230, entry 0x73e 0x73e 220, entry 0x73f 0x741 230, entry 0x742 0x742 220,
  entry 0x743 0x743 230, entry 0x744 0x744 220, entry 0x745 0x745 230, entry 0x746 0x746 220,
  entry 0x747 0x747 230, entry 0x748 0x748 220, entry 0x749 0x74a 230, entry 0x7eb 0x7f1 230,
  entry 0x7f2 0x7f2 220, entry 0x7f3 0x7f3 230, entry 0x7fd 0x7fd 220, entry 0x816 0x819 230,
  entry 0x81b 0x823 230, entry 0x825 0x827 230, entry 0x829 0x82d 230, entry 0x859 0x85b 220,
  entry 0x898 0x898 230, entry 0x899 0x89b 220, entry 0x89c 0x89f 230, entry 0x8ca 0x8ce 230,
  entry 0x8cf 0x8d3 220, entry 0x8d4 0x8e1 230, entry 0x8e3 0x8e3 220, entry 0x8e4 0x8e5 230,
  entry 0x8e6 0x8e6 220, entry 0x8e7 0x8e8 230, entry 0x8e9 0x8e9 220, entry 0x8ea 0x8ec 230,
  entry 0x8ed 0x8ef 220, entry 0x8f0 0x8f0 27, entry 0x8f1 0x8f1 28, entry 0x8f2 0x8f2 29,
  entry 0x8f3 0x8f5 230, entry 0x8f6 0x8f6 220, entry 0x8f7 0x8f8 230, entry 0x8f9 0x8fa 220,
  entry 0x8fb 0x8ff 230, entry 0x93c 0x93c 7, entry 0x94d 0x94d 9, entry 0x951 0x951 230,
  entry 0x952 0x952 220, entry 0x953 0x954 230, entry 0x9bc 0x9bc 7, entry 0x9cd 0x9cd 9,
  entry 0x9fe 0x9fe 230, entry 0xa3c 0xa3c 7, entry 0xa4d 0xa4d 9, entry 0xabc 0xabc 7,
  entry 0xacd 0xacd 9, entry 0xb3c 0xb3c 7, entry 0xb4d 0xb4d 9, entry 0xbcd 0xbcd 9,
  entry 0xc3c 0xc3c 7, entry 0xc4d 0xc4d 9, entry 0xc55 0xc55 84, entry 0xc56 0xc56 91,
  entry 0xcbc 0xcbc 7, entry 0xccd 0xccd 9, entry 0xd3b 0xd3c 9, entry 0xd4d 0xd4d 9,
  entry 0xdca 0xdca 9, entry 0xe38 0xe39 103, entry 0xe3a 0xe3a 9, entry 0xe48 0xe4b 107,
  entry 0xeb8 0xeb9 118, entry 0xeba 0xeba 9, entry 0xec8 0xecb 122, entry 0xf18 0xf19 220,
  entry 0xf35 0xf35 220, entry 0xf37 0xf37 220, entry 0xf39 0xf39 216, entry 0xf71 0xf71 129,
  entry 0xf72 0xf72 130, entry 0xf74 0xf74 132, entry 0xf7a 0xf7d 130, entry 0xf80 0xf80 130,
  entry 0xf82 0xf83 230, entry 0xf84 0xf84 9, entry 0xf86 0xf87 230, entry 0xfc6 0xfc6 220,
  entry 0x1037 0x1037 7, entry 0x1039 0x103a 9, entry 0x108d 0x108d 220, entry 0x135d 0x135f 230,
  entry 0x1714 0x1715 9, entry 0x1734 0x1734 9, entry 0x17d2 0x17d2 9, entry 0x17dd 0x17dd 230,
  entry 0x18a9 0x18a9 228, entry 0x1939 0x1939 222, entry 0x193a 0x193a 230,
  entry 0x193b 0x193b 220, entry 0x1a17 0x1a17 230, entry 0x1a18 0x1a18 220, entry 0x1a60 0x1a60 9,
  entry 0x1a75 0x1a7c 230, entry 0x1a7f 0x1a7f 220, entry 0x1ab0 0x1ab4 230,
  entry 0x1ab5 0x1aba 220, entry 0x1abb 0x1abc 230, entry 0x1abd 0x1abd 220,
  entry 0x1abf 0x1ac0 220, entry 0x1ac1 0x1ac2 230, entry 0x1ac3 0x1ac4 220,
  entry 0x1ac5 0x1ac9 230, entry 0x1aca 0x1aca 220, entry 0x1acb 0x1ace 230, entry 0x1b34 0x1b34 7,
  entry 0x1b44 0x1b44 9, entry 0x1b6b 0x1b6b 230, entry 0x1b6c 0x1b6c 220, entry 0x1b6d 0x1b73 230,
  entry 0x1baa 0x1bab 9, entry 0x1be6 0x1be6 7, entry 0x1bf2 0x1bf3 9, entry 0x1c37 0x1c37 7,
  entry 0x1cd0 0x1cd2 230, entry 0x1cd4 0x1cd4 1, entry 0x1cd5 0x1cd9 220, entry 0x1cda 0x1cdb 230,
  entry 0x1cdc 0x1cdf 220, entry 0x1ce0 0x1ce0 230, entry 0x1ce2 0x1ce8 1, entry 0x1ced 0x1ced 220,
  entry 0x1cf4 0x1cf4 230, entry 0x1cf8 0x1cf9 230, entry 0x1dc0 0x1dc1 230,
  entry 0x1dc2 0x1dc2 220, entry 0x1dc3 0x1dc9 230, entry 0x1dca 0x1dca 220,
  entry 0x1dcb 0x1dcc 230, entry 0x1dcd 0x1dcd 234, entry 0x1dce 0x1dce 214,
  entry 0x1dcf 0x1dcf 220, entry 0x1dd0 0x1dd0 202, entry 0x1dd1 0x1df5 230,
  entry 0x1df6 0x1df6 232, entry 0x1df7 0x1df8 228, entry 0x1df9 0x1df9 220,
  entry 0x1dfa 0x1dfa 218, entry 0x1dfb 0x1dfb 230, entry 0x1dfc 0x1dfc 233,
  entry 0x1dfd 0x1dfd 220, entry 0x1dfe 0x1dfe 230, entry 0x1dff 0x1dff 220,
  entry 0x20d0 0x20d1 230, entry 0x20d2 0x20d3 1, entry 0x20d4 0x20d7 230, entry 0x20d8 0x20da 1,
  entry 0x20db 0x20dc 230, entry 0x20e1 0x20e1 230, entry 0x20e5 0x20e6 1, entry 0x20e7 0x20e7 230,
  entry 0x20e8 0x20e8 220, entry 0x20e9 0x20e9 230, entry 0x20ea 0x20eb 1, entry 0x20ec 0x20ef 220,
  entry 0x20f0 0x20f0 230, entry 0x2cef 0x2cf1 230, entry 0x2d7f 0x2d7f 9, entry 0x2de0 0x2dff 230,
  entry 0x302a 0x302a 218, entry 0x302b 0x302b 228, entry 0x302c 0x302c 232,
  entry 0x302d 0x302d 222, entry 0x302e 0x302f 224, entry 0x3099 0x309a 8, entry 0xa66f 0xa66f 230,
  entry 0xa674 0xa67d 230, entry 0xa69e 0xa69f 230, entry 0xa6f0 0xa6f1 230, entry 0xa806 0xa806 9,
  entry 0xa82c 0xa82c 9, entry 0xa8c4 0xa8c4 9, entry 0xa8e0 0xa8f1 230, entry 0xa92b 0xa92d 220,
  entry 0xa953 0xa953 9, entry 0xa9b3 0xa9b3 7, entry 0xa9c0 0xa9c0 9, entry 0xaab0 0xaab0 230,
  entry 0xaab2 0xaab3 230, entry 0xaab4 0xaab4 220, entry 0xaab7 0xaab8 230,
  entry 0xaabe 0xaabf 230, entry 0xaac1 0xaac1 230, entry 0xaaf6 0xaaf6 9, entry 0xabed 0xabed 9,
  entry 0xfb1e 0xfb1e 26, entry 0xfe20 0xfe26 230, entry 0xfe27 0xfe2d 220,
  entry 0xfe2e 0xfe2f 230, entry 0x101fd 0x101fd 220, entry 0x102e0 0x102e0 220,
  entry 0x10376 0x1037a 230, entry 0x10a0d 0x10a0d 220, entry 0x10a0f 0x10a0f 230,
  entry 0x10a38 0x10a38 230, entry 0x10a39 0x10a39 1, entry 0x10a3a 0x10a3a 220,
  entry 0x10a3f 0x10a3f 9, entry 0x10ae5 0x10ae5 230, entry 0x10ae6 0x10ae6 220,
  entry 0x10d24 0x10d27 230, entry 0x10eab 0x10eac 230, entry 0x10efd 0x10eff 220,
  entry 0x10f46 0x10f47 220, entry 0x10f48 0x10f4a 230, entry 0x10f4b 0x10f4b 220,
  entry 0x10f4c 0x10f4c 230, entry 0x10f4d 0x10f50 220, entry 0x10f82 0x10f82 230,
  entry 0x10f83 0x10f83 220, entry 0x10f84 0x10f84 230, entry 0x10f85 0x10f85 220,
  entry 0x11046 0x11046 9, entry 0x11070 0x11070 9, entry 0x1107f 0x1107f 9,
  entry 0x110b9 0x110b9 9, entry 0x110ba 0x110ba 7, entry 0x11100 0x11102 230,
  entry 0x11133 0x11134 9, entry 0x11173 0x11173 7, entry 0x111c0 0x111c0 9,
  entry 0x111ca 0x111ca 7, entry 0x11235 0x11235 9, entry 0x11236 0x11236 7,
  entry 0x112e9 0x112e9 7, entry 0x112ea 0x112ea 9, entry 0x1133b 0x1133c 7,
  entry 0x1134d 0x1134d 9, entry 0x11366 0x1136c 230, entry 0x11370 0x11374 230,
  entry 0x11442 0x11442 9, entry 0x11446 0x11446 7, entry 0x1145e 0x1145e 230,
  entry 0x114c2 0x114c2 9, entry 0x114c3 0x114c3 7, entry 0x115bf 0x115bf 9,
  entry 0x115c0 0x115c0 7, entry 0x1163f 0x1163f 9, entry 0x116b6 0x116b6 9,
  entry 0x116b7 0x116b7 7, entry 0x1172b 0x1172b 9, entry 0x11839 0x11839 9,
  entry 0x1183a 0x1183a 7, entry 0x1193d 0x1193e 9, entry 0x11943 0x11943 7,
  entry 0x119e0 0x119e0 9, entry 0x11a34 0x11a34 9, entry 0x11a47 0x11a47 9,
  entry 0x11a99 0x11a99 9, entry 0x11c3f 0x11c3f 9, entry 0x11d42 0x11d42 7,
  entry 0x11d44 0x11d45 9, entry 0x11d97 0x11d97 9, entry 0x11f41 0x11f42 9,
  entry 0x16af0 0x16af4 1, entry 0x16b30 0x16b36 230, entry 0x16ff0 0x16ff1 6,
  entry 0x1bc9e 0x1bc9e 1, entry 0x1d165 0x1d166 216, entry 0x1d167 0x1d169 1,
  entry 0x1d16d 0x1d16d 226, entry 0x1d16e 0x1d172 216, entry 0x1d17b 0x1d182 220,
  entry 0x1d185 0x1d189 230, entry 0x1d18a 0x1d18b 220, entry 0x1d1aa 0x1d1ad 230,
  entry 0x1d242 0x1d244 230, entry 0x1e000 0x1e006 230, entry 0x1e008 0x1e018 230,
  entry 0x1e01b 0x1e021 230, entry 0x1e023 0x1e024 230, entry 0x1e026 0x1e02a 230,
  entry 0x1e08f 0x1e08f 230, entry 0x1e130 0x1e136 230, entry 0x1e2ae 0x1e2ae 230,
  entry 0x1e2ec 0x1e2ef 230, entry 0x1e4ec 0x1e4ed 232, entry 0x1e4ee 0x1e4ee 220,
  entry 0x1e4ef 0x1e4ef 230, entry 0x1e8d0 0x1e8d6 220, entry 0x1e944 0x1e949 230,
  entry 0x1e94a 0x1e94a 7]⟩

set_option maxRecDepth 20000 in
/-- Canonical decomposition mapping of each code point. -/
def decompositions : RangeTable := ⟨#[
  entry 0xc0 0xc0 0x8200300, entry 0xc1 0xc1 0x8200301, entry 0xc2 0xc2 0x8200302,
  entry 0xc3 0xc3 0x8200303, entry 0xc4 0xc4 0x8200308, entry 0xc5 0xc5 0x820030a,
  entry 0xc7 0xc7 0x8600327, entry 0xc8 0xc8 0x8a00300, entry 0xc9 0xc9 0x8a00301,
  entry 0xca 0xca 0x8a00302, entry 0xcb 0xcb 0x8a00308, entry 0xcc 0xcc 0x9200300,
  entry 0xcd 0xcd 0x9200301, entry 0xce 0xce 0x9200302, entry 0xcf 0xcf 0x9200308,
  entry 0xd1 0xd1 0x9c00303, entry 0xd2 0xd2 0x9e00300, entry 0xd3 0xd3 0x9e00301,
  entry 0xd4 0xd4 0x9e00302, entry 0xd5 0xd5 0x9e00303, entry 0xd6 0xd6 0x9e00308,
  entry 0xd9 0xd9 0xaa00300, entry 0xda 0xda 0xaa00301, entry 0xdb 0xdb 0xaa00302,
  entry 0xdc 0xdc 0xaa00308, entry 0xdd 0xdd 0xb200301, entry 0xe0 0xe0 0xc200300,
  entry 0xe1 0xe1 0xc200301, entry 0xe2 0xe2 0xc200302, entry 0xe3 0xe3 0xc200303,
  entry 0xe4 0xe4 0xc200308, entry 0xe5 0xe5 0xc20030a, entry 0xe7 0xe7 0xc600327,
  entry 0xe8 0xe8 0xca00300, entry 0xe9 0xe9 0xca00301, entry 0xea 0xea 0xca00302,
  entry 0xeb 0xeb 0xca00308, entry 0xec 0xec 0xd200300, entry 0xed 0xed 0xd200301,
  entry 0xee 0xee 0xd200302, entry 0xef 0xef 0xd200308, entry 0xf1 0xf1 0xdc00303,
  entry 0xf2 0xf2 0xde00300, entry 0xf3 0xf3 0xde00301, entry 0xf4 0xf4 0xde00302,
  entry 0xf5 0xf5 0xde00303, entry 0xf6 0xf6 0xde00308, entry 0xf9 0xf9 0xea00300,
  entry 0xfa 0xfa 0xea00301, entry 0xfb 0xfb 0xea00302, entry 0xfc 0xfc 0xea00308,
  entry 0xfd 0xfd 0xf200301, entry 0xff 0xff 0xf200308, entry 0x100 0x100 0x8200304,
  entry 0x101 0x101 0xc200304, entry 0x102 0x102 0x8200306, entry 0x103 0x103 0xc200306,
  entry 0x104 0x104 0x8200328, entry 0x105 0x105 0xc200328, entry 0x106 0x106 0x8600301,
  entry 0x107 0x107 0xc600301, entry 0x108 0x108 0x8600302, entry 0x109 0x109 0xc600302,
  entry 0x10a 0x10a 0x8600307, entry 0x10b 0x10b 0xc600307, entry 0x10c 0x10c 0x860030c,
  entry 0x10d 0x10d 0xc60030c, entry 0x10e 0x10e 0x880030c, entry 0x10f 0x10f 0xc80030c,
  entry 0x112 0x112 0x8a00304, entry 0x113 0x113 0xca00304, entry 0x114 0x114 0x8a00306,
  entry 0x115 0x115 0xca00306, entry 0x116 0x116 0x8a00307, entry 0x117 0x117 0xca00307,
  entry 0x118 0x118 0x8a00328, entry 0x119 0x119 0xca00328, entry 0x11a 0x11a 0x8a0030c,
  entry 0x11b 0x11b 0xca0030c, entry 0x11c 0x11c 0x8e00302, entry 0x11d 0x11d 0xce00302,
  entry 0x11e 0x11e 0x8e00306, entry 0x11f 0x11f 0xce00306, entry 0x120 0x120 0x8e00307,
  entry 0x121 0x121 0xce00307, entry 0x122 0x122 0x8e00327, entry 0x123 0x123 0xce00327,
  entry 0x124 0x124 0x9000302, entry 0x125 0x125 0xd000302, entry 0x128 0x128 0x9200303,
  entry 0x129 0x129 0xd200303, entry 0x12a 0x12a 0x9200304, entry 0x12b 0x12b 0xd200304,
  entry 0x12c 0x12c 0x9200306, entry 0x12d 0x12d 0xd200306, entry 0x12e 0x12e 0x9200328,
  entry 0x12f 0x12f 0xd200328, entry 0x130 0x130 0x9200307, entry 0x134 0x134 0x9400302,
  entry 0x135 0x135 0xd400302, entry 0x136 0x136 0x9600327, entry 0x137 0x137 0xd600327,
  entry 0x139 0x139 0x9800301, entry 0x13a 0x13a 0xd800301, entry 0x13b 0x13b 0x9800327,
  entry 0x13c 0x13c 0xd800327, entry 0x13d 0x13d 0x980030c, entry 0x13e 0x13e 0xd80030c,
  entry 0x143 0x143 0x9c00301, entry 0x144 0x144 0xdc00301, entry 0x145 0x145 0x9c00327,
  entry 0x146 0x146 0xdc00327, entry 0x147 0x147 0x9c0030c, entry 0x148 0x148 0xdc0030c,
  entry 0x14c 0x14c 0x9e00304, entry 0x14d 0x14d 0xde00304, entry 0x14e 0x14e 0x9e00306,
  entry 0x14f 0x14f 0xde00306, entry 0x150 0x150 0x9e0030b, entry 0x151 0x151 0xde0030b,
  entry 0x154 0x154 0xa400301, entry 0x155 0x155 0xe400301, entry 0x156 0x156 0xa400327,
  entry 0x157 0x157 0xe400327, entry 0x158 0x158 0xa40030c, entry 0x159 0x159 0xe40030c,
  entry 0x15a 0x15a 0xa600301, entry 0x15b 0x15b 0xe600301, entry 0x15c 0x15c 0xa600302,
  entry 0x15d 0x15d 0xe600302, entry 0x15e 0x15e 0xa600327, entry 0x15f 0x15f 0xe600327,
  entry 0x160 0x160 0xa60030c, entry 0x161 0x161 0xe60030c, entry 0x162 0x162 0xa800327,
  entry 0x163 0x163 0xe800327, entry 0x164 0x164 0xa80030c, entry 0x165 0x165 0xe80030c,
  entry 0x168 0x168 0xaa00303, entry 0x169 0x169 0xea00303, entry 0x16a 0x16a 0xaa00304,
  entry 0x16b 0x16b 0xea00304, entry 0x16c 0x16c 0xaa00306, entry 0x16d 0x16d 0xea00306,
  entry 0x16e 0x16e 0xaa0030a, entry 0x16f 0x16f 0xea0030a, entry 0x170 0x170 0xaa0030b,
  entry 0x171 0x171 0xea0030b, entry 0x172 0x172 0xaa00328, entry 0x173 0x173 0xea00328,
  entry 0x174 0x174 0xae00302, entry 0x175 0x175 0xee00302, entry 0x176 0x176 0xb200302,
  entry 0x177 0x177 0xf200302, entry 0x178 0x178 0xb200308, entry 0x179 0x179 0xb400301,
  entry 0x17a 0x17a 0xf400301, entry 0x17b 0x17b 0xb400307, entry 0x17c 0x17c 0xf400307,
  entry 0x17d 0x17d 0xb40030c, entry 0x17e 0x17e 0xf40030c, entry 0x1a0 0x1a0 0x9e0031b,
  entry 0x1a1 0x1a1 0xde0031b, entry 0x1af 0x1af 0xaa0031b, entry 0x1b0 0x1b0 0xea0031b,
  entry 0x1cd 0x1cd 0x820030c, entry 0x1ce 0x1ce 0xc20030c, entry 0x1cf 0x1cf 0x920030c,
  entry 0x1d0 0x1d0 0xd20030c, entry 0x1d1 0x1d1 0x9e0030c, entry 0x1d2 0x1d2 0xde0030c,
  entry 0x1d3 0x1d3 0xaa0030c, entry 0x1d4 0x1d4 0xea0030c, entry 0x1d5 0x1d5 0x1b800304,
  entry 0x1d6 0x1d6 0x1f800304, entry 0x1d7 0x1d7 0x1b800301, entry 0x1d8 0x1d8 0x1f800301,
  entry 0x1d9 0x1d9 0x1b80030c, entry 0x1da 0x1da 0x1f80030c, entry 0x1db 0x1db 0x1b800300,
  entry 0x1dc 0x1dc 0x1f800300, entry 0x1de 0x1de 0x18800304, entry 0x1df 0x1df 0x1c800304,
  entry 0x1e0 0x1e0 0x44c00304, entry 0x1e1 0x1e1 0x44e00304, entry 0x1e2 0x1e2 0x18c00304,
  entry 0x1e3 0x1e3 0x1cc00304, entry 0x1e6 0x1e6 0x8e0030c, entry 0x1e7 0x1e7 0xce0030c,
  entry 0x1e8 0x1e8 0x960030c, entry 0x1e9 0x1e9 0xd60030c, entry 0x1ea 0x1ea 0x9e00328,
  entry 0x1eb 0x1eb 0xde00328, entry 0x1ec 0x1ec 0x3d400304, entry 0x1ed 0x1ed 0x3d600304,
  entry 0x1ee 0x1ee 0x36e0030c, entry 0x1ef 0x1ef 0x5240030c, entry 0x1f0 0x1f0 0xd40030c,
  entry 0x1f4 0x1f4 0x8e00301, entry 0x1f5 0x1f5 0xce00301, entry 0x1f8 0x1f8 0x9c00300,
  entry 0x1f9 0x1f9 0xdc00300, entry 0x1fa 0x1fa 0x18a00301, entry 0x1fb 0x1fb 0x1ca00301,
  entry 0x1fc 0x1fc 0x18c00301, entry 0x1fd 0x1fd 0x1cc00301, entry 0x1fe 0x1fe 0x1b000301,
  entry 0x1ff 0x1ff 0x1f000301, entry 0x200 0x200 0x820030f, entry 0x201 0x201 0xc20030f,
  entry 0x202 0x202 0x8200311, entry 0x203 0x203 0xc200311, entry 0x204 0x204 0x8a0030f,
  entry 0x205 0x205 0xca0030f, entry 0x206 0x206 0x8a00311, entry 0x207 0x207 0xca00311,
  entry 0x208 0x208 0x920030f, entry 0x209 0x209 0xd20030f, entry 0x20a 0x20a 0x9200311,
  entry 0x20b 0x20b 0xd200311, entry 0x20c 0x20c 0x9e0030f, entry 0x20d 0x20d 0xde0030f,
  entry 0x20e 0x20e 0x9e00311, entry 0x20f 0x20f 0xde00311, entry 0x210 0x210 0xa40030f,
  entry 0x211 0x211 0xe40030f, entry 0x212 0x212 0xa400311, entry 0x213 0x213 0xe400311,
  entry 0x214 0x214 0xaa0030f, entry 0x215 0x215 0xea0030f, entry 0x216 0x216 0xaa00311,
  entry 0x217 0x217 0xea00311, entry 0x218 0x218 0xa600326, entry 0x219 0x219 0xe600326,
  entry 0x21a 0x21a 0xa800326, entry 0x21b 0x21b 0xe800326, entry 0x21e 0x21e 0x900030c,
  entry 0x21f 0x21f 0xd00030c, entry 0x226 0x226 0x8200307, entry 0x227 0x227 0xc200307,
  entry 0x228 0x228 0x8a00327, entry 0x229 0x229 0xca00327, entry 0x22a 0x22a 0x1ac00304,
  entry 0x22b 0x22b 0x1ec00304, entry 0x22c 0x22c 0x1aa00304, entry 0x22d 0x22d 0x1ea00304,
  entry 0x22e 0x22e 0x9e00307, entry 0x22f 0x22f 0xde00307, entry 0x230 0x230 0x45c00304,
  entry 0x231 0x231 0x45e00304, entry 0x232 0x232 0xb200304, entry 0x233 0x233 0xf200304,
  entry 0x340 0x340 0x60000000, entry 0x341 0x341 0x60200000, entry 0x343 0x343 0x62600000,
  entry 0x344 0x344 0x61000301, entry 0x374 0x374 0x57200000, entry 0x37e 0x37e 0x7600000,
  entry 0x385 0x385 0x15000301, entry 0x386 0x386 0x72200301, entry 0x387 0x387 0x16e00000,
  entry 0x388 0x388 0x72a00301, entry 0x389 0x389 0x72e00301, entry 0x38a 0x38a 0x73200301,
  entry 0x38c 0x38c 0x73e00301, entry 0x38e 0x38e 0x74a00301, entry 0x38f 0x38f 0x75200301,
  entry 0x390 0x390 0x79400301, entry 0x3aa 0x3aa 0x73200308, entry 0x3ab 0x3ab 0x74a00308,
  entry 0x3ac 0x3ac 0x76200301, entry 0x3ad 0x3ad 0x76a00301, entry 0x3ae 0x3ae 0x76e00301,
  entry 0x3af 0x3af 0x77200301, entry 0x3b0 0x3b0 0x79600301, entry 0x3ca 0x3ca 0x77200308,
  entry 0x3cb 0x3cb 0x78a00308, entry 0x3cc 0x3cc 0x77e00301, entry 0x3cd 0x3cd 0x78a00301,
  entry 0x3ce 0x3ce 0x79200301, entry 0x3d3 0x3d3 0x7a400301, entry 0x3d4 0x3d4 0x7a400308,
  entry 0x400 0x400 0x82a00300, entry 0x401 0x401 0x82a00308, entry 0x403 0x403 0x82600301,
  entry 0x407 0x407 0x80c00308, entry 0x40c 0x40c 0x83400301, entry 0x40d 0x40d 0x83000300,
  entry 0x40e 0x40e 0x84600306, entry 0x419 0x419 0x83000306, entry 0x439 0x439 0x87000306,
  entry 0x450 0x450 0x86a00300, entry 0x451 0x451 0x86a00308, entry 0x453 0x453 0x86600301,
  entry 0x457 0x457 0x8ac00308, entry 0x45c 0x45c 0x87400301, entry 0x45d 0x45d 0x87000300,
  entry 0x45e 0x45e 0x88600306, entry 0x476 0x476 0x8e80030f, entry 0x477 0x477 0x8ea0030f,
  entry 0x4c1 0x4c1 0x82c00306, entry 0x4c2 0x4c2 0x86c00306, entry 0x4d0 0x4d0 0x82000306,
  entry 0x4d1 0x4d1 0x86000306, entry 0x4d2 0x4d2 0x82000308, entry 0x4d3 0x4d3 0x86000308,
  entry 0x4d6 0x4d6 0x82a00306, entry 0x4d7 0x4d7 0x86a00306, entry 0x4da 0x4da 0x9b000308,
  entry 0x4db 0x4db 0x9b200308, entry 0x4dc 0x4dc 0x82c00308, entry 0x4dd 0x4dd 0x86c00308,
  entry 0x4de 0x4de 0x82e00308, entry 0x4df 0x4df 0x86e00308, entry 0x4e2 0x4e2 0x83000304,
  entry 0x4e3 0x4e3 0x87000304, entry 0x4e4 0x4e4 0x83000308, entry 0x4e5 0x4e5 0x87000308,
  entry 0x4e6 0x4e6 0x83c00308, entry 0x4e7 0x4e7 0x87c00308, entry 0x4ea 0x4ea 0x9d000308,
  entry 0x4eb 0x4eb 0x9d200308, entry 0x4ec 0x4ec 0x85a00308, entry 0x4ed 0x4ed 0x89a00308,
  entry 0x4ee 0x4ee 0x84600304, entry 0x4ef 0x4ef 0x88600304, entry 0x4f0 0x4f0 0x84600308,
  entry 0x4f1 0x4f1 0x88600308, entry 0x4f2 0x4f2 0x8460030b, entry 0x4f3 0x4f3 0x8860030b,
  entry 0x4f4 0x4f4 0x84e00308, entry 0x4f5 0x4f5 0x88e00308, entry 0x4f8 0x4f8 0x85600308,
  entry 0x4f9 0x4f9 0x89600308, entry 0x622 0x622 0xc4e00653, entry 0x623 0x623 0xc4e00654,
  entry 0x624 0x624 0xc9000654, entry 0x625 0x625 0xc4e00655, entry 0x626 0x626 0xc9400654,
  entry 0x6c0 0x6c0 0xdaa00654, entry 0x6c2 0x6c2 0xd8200654, entry 0x6d3 0x6d3 0xda400654,
  entry 0x929 0x929 0x12500093c, entry 0x931 0x931 0x12600093c, entry 0x934 0x934 0x12660093c,
  entry 0x958 0x958 0x122a0093c, entry 0x959 0x959 0x122c0093c, entry 0x95a 0x95a 0x122e0093c,
  entry 0x95b 0x95b 0x12380093c, entry 0x95c 0x95c 0x12420093c, entry 0x95d 0x95d 0x12440093c,
  entry 0x95e 0x95e 0x12560093c, entry 0x95f 0x95f 0x125e0093c, entry 0x9cb 0x9cb 0x138e009be,
  entry 0x9cc 0x9cc 0x138e009d7, entry 0x9dc 0x9dc 0x1342009bc, entry 0x9dd 0x9dd 0x1344009bc,
  entry 0x9df 0x9df 0x135e009bc, entry 0xa33 0xa33 0x146400a3c, entry 0xa36 0xa36 0x147000a3c,
  entry 0xa59 0xa59 0x142c00a3c, entry 0xa5a 0xa5a 0x142e00a3c, entry 0xa5b 0xa5b 0x143800a3c,
  entry 0xa5e 0xa5e 0x145600a3c, entry 0xb48 0xb48 0x168e00b56, entry 0xb4b 0xb4b 0x168e00b3e,
  entry 0xb4c 0xb4c 0x168e00b57, entry 0xb5c 0xb5c 0x164200b3c, entry 0xb5d 0xb5d 0x164400b3c,
  entry 0xb94 0xb94 0x172400bd7, entry 0xbca 0xbca 0x178c00bbe, entry 0xbcb 0xbcb 0x178e00bbe,
  entry 0xbcc 0xbcc 0x178c00bd7, entry 0xc48 0xc48 0x188c00c56, entry 0xcc0 0xcc0 0x197e00cd5,
  entry 0xcc7 0xcc7 0x198c00cd5, entry 0xcc8 0xcc8 0x198c00cd6, entry 0xcca 0xcca 0x198c00cc2,
  entry 0xccb 0xccb 0x199400cd5, entry 0xd4a 0xd4a 0x1a8c00d3e, entry 0xd4b 0xd4b 0x1a8e00d3e,
  entry 0xd4c 0xd4c 0x1a8c00d57, entry 0xdda 0xdda 0x1bb200dca, entry 0xddc 0xddc 0x1bb200dcf,
  entry 0xddd 0xddd 0x1bb800dca, entry 0xdde 0xdde 0x1bb200ddf, entry 0xf43 0xf43 0x1e8400fb7,
  entry 0xf4d 0xf4d 0x1e9800fb7, entry 0xf52 0xf52 0x1ea200fb7, entry 0xf57 0xf57 0x1eac00fb7,
  entry 0xf5c 0xf5c 0x1eb600fb7, entry 0xf69 0xf69 0x1e8000fb5, entry 0xf73 0xf73 0x1ee200f72,
  entry 0xf75 0xf75 0x1ee200f74, entry 0xf76 0xf76 0x1f6400f80, entry 0xf78 0xf78 0x1f6600f80,
  entry 0xf81 0xf81 0x1ee200f80, entry 0xf93 0xf93 0x1f2400fb7, entry 0xf9d 0xf9d 0x1f3800fb7,
  entry 0xfa2 0xfa2 0x1f4200fb7, entry 0xfa7 0xfa7 0x1f4c00fb7, entry 0xfac 0xfac 0x1f5600fb7,
  entry 0xfb9 0xfb9 0x1f2000fb5, entry 0x1026 0x1026 0x204a0102e, entry 0x1b06 0x1b06 0x360a01b35,
  entry 0x1b08 0x1b08 0x360e01b35, entry 0x1b0a 0x1b0a 0x361201b35,
  entry 0x1b0c 0x1b0c 0x361601b35, entry 0x1b0e 0x1b0e 0x361a01b35,
  entry 0x1b12 0x1b12 0x362201b35, entry 0x1b3b 0x1b3b 0x367401b35,
  entry 0x1b3d 0x1b3d 0x367801b35, entry 0x1b40 0x1b40 0x367c01b35,
  entry 0x1b41 0x1b41 0x367e01b35, entry 0x1b43 0x1b43 0x368401b35, entry 0x1e00 0x1e00 0x8200325,
  entry 0x1e01 0x1e01 0xc200325, entry 0x1e02 0x1e02 0x8400307, entry 0x1e03 0x1e03 0xc400307,
  entry 0x1e04 0x1e04 0x8400323, entry 0x1e05 0x1e05 0xc400323, entry 0x1e06 0x1e06 0x8400331,
  entry 0x1e07 0x1e07 0xc400331, entry 0x1e08 0x1e08 0x18e00301, entry 0x1e09 0x1e09 0x1ce00301,
  entry 0x1e0a 0x1e0a 0x8800307, entry 0x1e0b 0x1e0b 0xc800307, entry 0x1e0c 0x1e0c 0x8800323,
  entry 0x1e0d 0x1e0d 0xc800323, entry 0x1e0e 0x1e0e 0x8800331, entry 0x1e0f 0x1e0f 0xc800331,
  entry 0x1e10 0x1e10 0x8800327, entry 0x1e11 0x1e11 0xc800327, entry 0x1e12 0x1e12 0x880032d,
  entry 0x1e13 0x1e13 0xc80032d, entry 0x1e14 0x1e14 0x22400300, entry 0x1e15 0x1e15 0x22600300,
  entry 0x1e16 0x1e16 0x22400301, entry 0x1e17 0x1e17 0x22600301, entry 0x1e18 0x1e18 0x8a0032d,
  entry 0x1e19 0x1e19 0xca0032d, entry 0x1e1a 0x1e1a 0x8a00330, entry 0x1e1b 0x1e1b 0xca00330,
  entry 0x1e1c 0x1e1c 0x45000306, entry 0x1e1d 0x1e1d 0x45200306, entry 0x1e1e 0x1e1e 0x8c00307,
  entry 0x1e1f 0x1e1f 0xcc00307, entry 0x1e20 0x1e20 0x8e00304, entry 0x1e21 0x1e21 0xce00304,
  entry 0x1e22 0x1e22 0x9000307, entry 0x1e23 0x1e23 0xd000307, entry 0x1e24 0x1e24 0x9000323,
  entry 0x1e25 0x1e25 0xd000323, entry 0x1e26 0x1e26 0x9000308, entry 0x1e27 0x1e27 0xd000308,
  entry 0x1e28 0x1e28 0x9000327, entry 0x1e29 0x1e29 0xd000327, entry 0x1e2a 0x1e2a 0x900032e,
  entry 0x1e2b 0x1e2b 0xd00032e, entry 0x1e2c 0x1e2c 0x9200330, entry 0x1e2d 0x1e2d 0xd200330,
  entry 0x1e2e 0x1e2e 0x19e00301, entry 0x1e2f 0x1e2f 0x1de00301, entry 0x1e30 0x1e30 0x9600301,
  entry 0x1e31 0x1e31 0xd600301, entry 0x1e32 0x1e32 0x9600323, entry 0x1e33 0x1e33 0xd600323,
  entry 0x1e34 0x1e34 0x9600331, entry 0x1e35 0x1e35 0xd600331, entry 0x1e36 0x1e36 0x9800323,
  entry 0x1e37 0x1e37 0xd800323, entry 0x1e38 0x1e38 0x3c6c00304, entry 0x1e39 0x1e39 0x3c6e00304,
  entry 0x1e3a 0x1e3a 0x9800331, entry 0x1e3b 0x1e3b 0xd800331, entry 0x1e3c 0x1e3c 0x980032d,
  entry 0x1e3d 0x1e3d 0xd80032d, entry 0x1e3e 0x1e3e 0x9a00301, entry 0x1e3f 0x1e3f 0xda00301,
  entry 0x1e40 0x1e40 0x9a00307, entry 0x1e41 0x1e41 0xda00307, entry 0x1e42 0x1e42 0x9a00323,
  entry 0x1e43 0x1e43 0xda00323, entry 0x1e44 0x1e44 0x9c00307, entry 0x1e45 0x1e45 0xdc00307,
  entry 0x1e46 0x1e46 0x9c00323, entry 0x1e47 0x1e47 0xdc00323, entry 0x1e48 0x1e48 0x9c00331,
  entry 0x1e49 0x1e49 0xdc00331, entry 0x1e4a 0x1e4a 0x9c0032d, entry 0x1e4b 0x1e4b 0xdc0032d,
  entry 0x1e4c 0x1e4c 0x1aa00301, entry 0x1e4d 0x1e4d 0x1ea00301, entry 0x1e4e 0x1e4e 0x1aa00308,
  entry 0x1e4f 0x1e4f 0x1ea00308, entry 0x1e50 0x1e50 0x29800300, entry 0x1e51 0x1e51 0x29a00300,
  entry 0x1e52 0x1e52 0x29800301, entry 0x1e53 0x1e53 0x29a00301, entry 0x1e54 0x1e54 0xa000301,
  entry 0x1e55 0x1e55 0xe000301, entry 0x1e56 0x1e56 0xa000307, entry 0x1e57 0x1e57 0xe000307,
  entry 0x1e58 0x1e58 0xa400307, entry 0x1e59 0x1e59 0xe400307, entry 0x1e5a 0x1e5a 0xa400323,
  entry 0x1e5b 0x1e5b 0xe400323, entry 0x1e5c 0x1e5c 0x3cb400304, entry 0x1e5d 0x1e5d 0x3cb600304,
  entry 0x1e5e 0x1e5e 0xa400331, entry 0x1e5f 0x1e5f 0xe400331, entry 0x1e60 0x1e60 0xa600307,
  entry 0x1e61 0x1e61 0xe600307, entry 0x1e62 0x1e62 0xa600323, entry 0x1e63 0x1e63 0xe600323,
  entry 0x1e64 0x1e64 0x2b400307, entry 0x1e65 0x1e65 0x2b600307, entry 0x1e66 0x1e66 0x2c000307,
  entry 0x1e67 0x1e67 0x2c200307, entry 0x1e68 0x1e68 0x3cc400307, entry 0x1e69 0x1e69 0x3cc600307,
  entry 0x1e6a 0x1e6a 0xa800307, entry 0x1e6b 0x1e6b 0xe800307, entry 0x1e6c 0x1e6c 0xa800323,
  entry 0x1e6d 0x1e6d 0xe800323, entry 0x1e6e 0x1e6e 0xa800331, entry 0x1e6f 0x1e6f 0xe800331,
  entry 0x1e70 0x1e70 0xa80032d, entry 0x1e71 0x1e71 0xe80032d, entry 0x1e72 0x1e72 0xaa00324,
  entry 0x1e73 0x1e73 0xea00324, entry 0x1e74 0x1e74 0xaa00330, entry 0x1e75 0x1e75 0xea00330,
  entry 0x1e76 0x1e76 0xaa0032d, entry 0x1e77 0x1e77 0xea0032d, entry 0x1e78 0x1e78 0x2d000301,
  entry 0x1e79 0x1e79 0x2d200301, entry 0x1e7a 0x1e7a 0x2d400308, entry 0x1e7b 0x1e7b 0x2d600308,
  entry 0x1e7c 0x1e7c 0xac00303, entry 0x1e7d 0x1e7d 0xec00303, entry 0x1e7e 0x1e7e 0xac00323,
  entry 0x1e7f 0x1e7f 0xec00323, entry 0x1e80 0x1e80 0xae00300, entry 0x1e81 0x1e81 0xee00300,
  entry 0x1e82 0x1e82 0xae00301, entry 0x1e83 0x1e83 0xee00301, entry 0x1e84 0x1e84 0xae00308,
  entry 0x1e85 0x1e85 0xee00308, entry 0x1e86 0x1e86 0xae00307, entry 0x1e87 0x1e87 0xee00307,
  entry 0x1e88 0x1e88 0xae00323, entry 0x1e89 0x1e89 0xee00323, entry 0x1e8a 0x1e8a 0xb000307,
  entry 0x1e8b 0x1e8b 0xf000307, entry 0x1e8c 0x1e8c 0xb000308, entry 0x1e8d 0x1e8d 0xf000308,
  entry 0x1e8e 0x1e8e 0xb200307, entry 0x1e8f 0x1e8f 0xf200307, entry 0x1e90 0x1e90 0xb400302,
  entry 0x1e91 0x1e91 0xf400302, entry 0x1e92 0x1e92 0xb400323, entry 0x1e93 0x1e93 0xf400323,
  entry 0x1e94 0x1e94 0xb400331, entry 0x1e95 0x1e95 0xf400331, entry 0x1e96 0x1e96 0xd000331,
  entry 0x1e97 0x1e97 0xe800308, entry 0x1e98 0x1e98 0xee0030a, entry 0x1e99 0x1e99 0xf20030a,
  entry 0x1e9b 0x1e9b 0x2fe00307, entry 0x1ea0 0x1ea0 0x8200323, entry 0x1ea1 0x1ea1 0xc200323,
  entry 0x1ea2 0x1ea2 0x8200309, entry 0x1ea3 0x1ea3 0xc200309, entry 0x1ea4 0x1ea4 0x18400301,
  entry 0x1ea5 0x1ea5 0x1c400301, entry 0x1ea6 0x1ea6 0x18400300, entry 0x1ea7 0x1ea7 0x1c400300,
  entry 0x1ea8 0x1ea8 0x18400309, entry 0x1ea9 0x1ea9 0x1c400309, entry 0x1eaa 0x1eaa 0x18400303,
  entry 0x1eab 0x1eab 0x1c400303, entry 0x1eac 0x1eac 0x3d4000302, entry 0x1ead 0x1ead 0x3d4200302,
  entry 0x1eae 0x1eae 0x20400301, entry 0x1eaf 0x1eaf 0x20600301, entry 0x1eb0 0x1eb0 0x20400300,
  entry 0x1eb1 0x1eb1 0x20600300, entry 0x1eb2 0x1eb2 0x20400309, entry 0x1eb3 0x1eb3 0x20600309,
  entry 0x1eb4 0x1eb4 0x20400303, entry 0x1eb5 0x1eb5 0x20600303, entry 0x1eb6 0x1eb6 0x3d4000306,
  entry 0x1eb7 0x1eb7 0x3d4200306, entry 0x1eb8 0x1eb8 0x8a00323, entry 0x1eb9 0x1eb9 0xca00323,
  entry 0x1eba 0x1eba 0x8a00309, entry 0x1ebb 0x1ebb 0xca00309, entry 0x1ebc 0x1ebc 0x8a00303,
  entry 0x1ebd 0x1ebd 0xca00303, entry 0x1ebe 0x1ebe 0x19400301, entry 0x1ebf 0x1ebf 0x1d400301,
  entry 0x1ec0 0x1ec0 0x19400300, entry 0x1ec1 0x1ec1 0x1d400300, entry 0x1ec2 0x1ec2 0x19400309,
  entry 0x1ec3 0x1ec3 0x1d400309, entry 0x1ec4 0x1ec4 0x19400303, entry 0x1ec5 0x1ec5 0x1d400303,
  entry 0x1ec6 0x1ec6 0x3d7000302, entry 0x1ec7 0x1ec7 0x3d7200302, entry 0x1ec8 0x1ec8 0x9200309,
  entry 0x1ec9 0x1ec9 0xd200309, entry 0x1eca 0x1eca 0x9200323, entry 0x1ecb 0x1ecb 0xd200323,
  entry 0x1ecc 0x1ecc 0x9e00323, entry 0x1ecd 0x1ecd 0xde00323, entry 0x1ece 0x1ece 0x9e00309,
  entry 0x1ecf 0x1ecf 0xde00309, entry 0x1ed0 0x1ed0 0x1a800301, entry 0x1ed1 0x1ed1 0x1e800301,
  entry 0x1ed2 0x1ed2 0x1a800300, entry 0x1ed3 0x1ed3 0x1e800300, entry 0x1ed4 0x1ed4 0x1a800309,
  entry 0x1ed5 0x1ed5 0x1e800309, entry 0x1ed6 0x1ed6 0x1a800303, entry 0x1ed7 0x1ed7 0x1e800303,
  entry 0x1ed8 0x1ed8 0x3d9800302, entry 0x1ed9 0x1ed9 0x3d9a00302, entry 0x1eda 0x1eda 0x34000301,
  entry 0x1edb 0x1edb 0x34200301, entry 0x1edc 0x1edc 0x34000300, entry 0x1edd 0x1edd 0x34200300,
  entry 0x1ede 0x1ede 0x34000309, entry 0x1edf 0x1edf 0x34200309, entry 0x1ee0 0x1ee0 0x34000303,
  entry 0x1ee1 0x1ee1 0x34200303, entry 0x1ee2 0x1ee2 0x34000323, entry 0x1ee3 0x1ee3 0x34200323,
  entry 0x1ee4 0x1ee4 0xaa00323, entry 0x1ee5 0x1ee5 0xea00323, entry 0x1ee6 0x1ee6 0xaa00309,
  entry 0x1ee7 0x1ee7 0xea00309, entry 0x1ee8 0x1ee8 0x35e00301, entry 0x1ee9 0x1ee9 0x36000301,
  entry 0x1eea 0x1eea 0x35e00300, entry 0x1eeb 0x1eeb 0x36000300, entry 0x1eec 0x1eec 0x35e00309,
  entry 0x1eed 0x1eed 0x36000309, entry 0x1eee 0x1eee 0x35e00303, entry 0x1eef 0x1eef 0x36000303,
  entry 0x1ef0 0x1ef0 0x35e00323, entry 0x1ef1 0x1ef1 0x36000323, entry 0x1ef2 0x1ef2 0xb200300,
  entry 0x1ef3 0x1ef3 0xf200300, entry 0x1ef4 0x1ef4 0xb200323, entry 0x1ef5 0x1ef5 0xf200323,
  entry 0x1ef6 0x1ef6 0xb200309, entry 0x1ef7 0x1ef7 0xf200309, entry 0x1ef8 0x1ef8 0xb200303,
  entry 0x1ef9 0x1ef9 0xf200303, entry 0x1f00 0x1f00 0x76200313, entry 0x1f01 0x1f01 0x76200314,
  entry 0x1f02 0x1f02 0x3e0000300, entry 0x1f03 0x1f03 0x3e0200300,
  entry 0x1f04 0x1f04 0x3e0000301, entry 0x1f05 0x1f05 0x3e0200301,
  entry 0x1f06 0x1f06 0x3e0000342, entry 0x1f07 0x1f07 0x3e0200342, entry 0x1f08 0x1f08 0x72200313,
  entry 0x1f09 0x1f09 0x72200314, entry 0x1f0a 0x1f0a 0x3e1000300, entry 0x1f0b 0x1f0b 0x3e1200300,
  entry 0x1f0c 0x1f0c 0x3e1000301, entry 0x1f0d 0x1f0d 0x3e1200301,
  entry 0x1f0e 0x1f0e 0x3e1000342, entry 0x1f0f 0x1f0f 0x3e1200342, entry 0x1f10 0x1f10 0x76a00313,
  entry 0x1f11 0x1f11 0x76a00314, entry 0x1f12 0x1f12 0x3e2000300, entry 0x1f13 0x1f13 0x3e2200300,
  entry 0x1f14 0x1f14 0x3e2000301, entry 0x1f15 0x1f15 0x3e2200301, entry 0x1f18 0x1f18 0x72a00313,
  entry 0x1f19 0x1f19 0x72a00314, entry 0x1f1a 0x1f1a 0x3e3000300, entry 0x1f1b 0x1f1b 0x3e3200300,
  entry 0x1f1c 0x1f1c 0x3e3000301, entry 0x1f1d 0x1f1d 0x3e3200301, entry 0x1f20 0x1f20 0x76e00313,
  entry 0x1f21 0x1f21 0x76e00314, entry 0x1f22 0x1f22 0x3e4000300, entry 0x1f23 0x1f23 0x3e4200300,
  entry 0x1f24 0x1f24 0x3e4000301, entry 0x1f25 0x1f25 0x3e4200301,
  entry 0x1f26 0x1f26 0x3e4000342, entry 0x1f27 0x1f27 0x3e4200342, entry 0x1f28 0x1f28 0x72e00313,
  entry 0x1f29 0x1f29 0x72e00314, entry 0x1f2a 0x1f2a 0x3e5000300, entry 0x1f2b 0x1f2b 0x3e5200300,
  entry 0x1f2c 0x1f2c 0x3e5000301, entry 0x1f2d 0x1f2d 0x3e5200301,
  entry 0x1f2e 0x1f2e 0x3e5000342, entry 0x1f2f 0x1f2f 0x3e5200342, entry 0x1f30 0x1f30 0x77200313,
  entry 0x1f31 0x1f31 0x77200314, entry 0x1f32 0x1f32 0x3e6000300, entry 0x1f33 0x1f33 0x3e6200300,
  entry 0x1f34 0x1f34 0x3e6000301, entry 0x1f35 0x1f35 0x3e6200301,
  entry 0x1f36 0x1f36 0x3e6000342, entry 0x1f37 0x1f37 0x3e6200342, entry 0x1f38 0x1f38 0x73200313,
  entry 0x1f39 0x1f39 0x73200314, entry 0x1f3a 0x1f3a 0x3e7000300, entry 0x1f3b 0x1f3b 0x3e7200300,
  entry 0x1f3c 0x1f3c 0x3e7000301, entry 0x1f3d 0x1f3d 0x3e7200301,
  entry 0x1f3e 0x1f3e 0x3e7000342, entry 0x1f3f 0x1f3f 0x3e7200342, entry 0x1f40 0x1f40 0x77e00313,
  entry 0x1f41 0x1f41 0x77e00314, entry 0x1f42 0x1f42 0x3e8000300, entry 0x1f43 0x1f43 0x3e8200300,
  entry 0x1f44 0x1f44 0x3e8000301, entry 0x1f45 0x1f45 0x3e8200301, entry 0x1f48 0x1f48 0x73e00313,
  entry 0x1f49 0x1f49 0x73e00314, entry 0x1f4a 0x1f4a 0x3e9000300, entry 0x1f4b 0x1f4b 0x3e9200300,
  entry 0x1f4c 0x1f4c 0x3e9000301, entry 0x1f4d 0x1f4d 0x3e9200301, entry 0x1f50 0x1f50 0x78a00313,
  entry 0x1f51 0x1f51 0x78a00314, entry 0x1f52 0x1f52 0x3ea000300, entry 0x1f53 0x1f53 0x3ea200300,
  entry 0x1f54 0x1f54 0x3ea000301, entry 0x1f55 0x1f55 0x3ea200301,
  entry 0x1f56 0x1f56 0x3ea000342, entry 0x1f57 0x1f57 0x3ea200342, entry 0x1f59 0x1f59 0x74a00314,
  entry 0x1f5b 0x1f5b 0x3eb200300, entry 0x1f5d 0x1f5d 0x3eb200301,
  entry 0x1f5f 0x1f5f 0x3eb200342, entry 0x1f60 0x1f60 0x79200313, entry 0x1f61 0x1f61 0x79200314,
  entry 0x1f62 0x1f62 0x3ec000300, entry 0x1f63 0x1f63 0x3ec200300,
  entry 0x1f64 0x1f64 0x3ec000301, entry 0x1f65 0x1f65 0x3ec200301,
  entry 0x1f66 0x1f66 0x3ec000342, entry 0x1f67 0x1f67 0x3ec200342, entry 0x1f68 0x1f68 0x75200313,
  entry 0x1f69 0x1f69 0x75200314, entry 0x1f6a 0x1f6a 0x3ed000300, entry 0x1f6b 0x1f6b 0x3ed200300,
  entry 0x1f6c 0x1f6c 0x3ed000301, entry 0x1f6d 0x1f6d 0x3ed200301,
  entry 0x1f6e 0x1f6e 0x3ed000342, entry 0x1f6f 0x1f6f 0x3ed200342, entry 0x1f70 0x1f70 0x76200300,
  entry 0x1f71 0x1f71 0x75800000, entry 0x1f72 0x1f72 0x76a00300, entry 0x1f73 0x1f73 0x75a00000,
  entry 0x1f74 0x1f74 0x76e00300, entry 0x1f75 0x1f75 0x75c00000, entry 0x1f76 0x1f76 0x77200300,
  entry 0x1f77 0x1f77 0x75e00000, entry 0x1f78 0x1f78 0x77e00300, entry 0x1f79 0x1f79 0x79800000,
  entry 0x1f7a 0x1f7a 0x78a00300, entry 0x1f7b 0x1f7b 0x79a00000, entry 0x1f7c 0x1f7c 0x79200300,
  entry 0x1f7d 0x1f7d 0x79c00000, entry 0x1f80 0x1f80 0x3e0000345, entry 0x1f81 0x1f81 0x3e0200345,
  entry 0x1f82 0x1f82 0x3e0400345, entry 0x1f83 0x1f83 0x3e0600345,
  entry 0x1f84 0x1f84 0x3e0800345, entry 0x1f85 0x1f85 0x3e0a00345,
  entry 0x1f86 0x1f86 0x3e0c00345, entry 0x1f87 0x1f87 0x3e0e00345,
  entry 0x1f88 0x1f88 0x3e1000345, entry 0x1f89 0x1f89 0x3e1200345,
  entry 0x1f8a 0x1f8a 0x3e1400345, entry 0x1f8b 0x1f8b 0x3e1600345,
  entry 0x1f8c 0x1f8c 0x3e1800345, entry 0x1f8d 0x1f8d 0x3e1a00345,
  entry 0x1f8e 0x1f8e 0x3e1c00345, entry 0x1f8f 0x1f8f 0x3e1e00345,
  entry 0x1f90 0x1f90 0x3e4000345, entry 0x1f91 0x1f91 0x3e4200345,
  entry 0x1f92 0x1f92 0x3e4400345, entry 0x1f93 0x1f93 0x3e4600345,
  entry 0x1f94 0x1f94 0x3e4800345, entry 0x1f95 0x1f95 0x3e4a00345,
  entry 0x1f96 0x1f96 0x3e4c00345, entry 0x1f97 0x1f97 0x3e4e00345,
  entry 0x1f98 0x1f98 0x3e5000345, entry 0x1f99 0x1f99 0x3e5200345,
  entry 0x1f9a 0x1f9a 0x3e5400345, entry 0x1f9b 0x1f9b 0x3e5600345,
  entry 0x1f9c 0x1f9c 0x3e5800345, entry 0x1f9d 0x1f9d 0x3e5a00345,
  entry 0x1f9e 0x1f9e 0x3e5c00345, entry 0x1f9f 0x1f9f 0x3e5e00345,
  entry 0x1fa0 0x1fa0 0x3ec000345, entry 0x1fa1 0x1fa1 0x3ec200345,
  entry 0x1fa2 0x1fa2 0x3ec400345, entry 0x1fa3 0x1fa3 0x3ec600345,
  entry 0x1fa4 0x1fa4 0x3ec800345, entry 0x1fa5 0x1fa5 0x3eca00345,
  entry 0x1fa6 0x1fa6 0x3ecc00345, entry 0x1fa7 0x1fa7 0x3ece00345,
  entry 0x1fa8 0x1fa8 0x3ed000345, entry 0x1fa9 0x1fa9 0x3ed200345,
  entry 0x1faa 0x1faa 0x3ed400345, entry 0x1fab 0x1fab 0x3ed600345,
  entry 0x1fac 0x1fac 0x3ed800345, entry 0x1fad 0x1fad 0x3eda00345,
  entry 0x1fae 0x1fae 0x3edc00345, entry 0x1faf 0x1faf 0x3ede00345, entry 0x1fb0 0x1fb0 0x76200306,
  entry 0x1fb1 0x1fb1 0x76200304, entry 0x1fb2 0x1fb2 0x3ee000345, entry 0x1fb3 0x1fb3 0x76200345,
  entry 0x1fb4 0x1fb4 0x75800345, entry 0x1fb6 0x1fb6 0x76200342, entry 0x1fb7 0x1fb7 0x3f6c00345,
  entry 0x1fb8 0x1fb8 0x72200306, entry 0x1fb9 0x1fb9 0x72200304, entry 0x1fba 0x1fba 0x72200300,
  entry 0x1fbb 0x1fbb 0x70c00000, entry 0x1fbc 0x1fbc 0x72200345, entry 0x1fbe 0x1fbe 0x77200000,
  entry 0x1fc1 0x1fc1 0x15000342, entry 0x1fc2 0x1fc2 0x3ee800345, entry 0x1fc3 0x1fc3 0x76e00345,
  entry 0x1fc4 0x1fc4 0x75c00345, entry 0x1fc6 0x1fc6 0x76e00342, entry 0x1fc7 0x1fc7 0x3f8c00345,
  entry 0x1fc8 0x1fc8 0x72a00300, entry 0x1fc9 0x1fc9 0x71000000, entry 0x1fca 0x1fca 0x72e00300,
  entry 0x1fcb 0x1fcb 0x71200000, entry 0x1fcc 0x1fcc 0x72e00345, entry 0x1fcd 0x1fcd 0x3f7e00300,
  entry 0x1fce 0x1fce 0x3f7e00301, entry 0x1fcf 0x1fcf 0x3f7e00342, entry 0x1fd0 0x1fd0 0x77200306,
  entry 0x1fd1 0x1fd1 0x77200304, entry 0x1fd2 0x1fd2 0x79400300, entry 0x1fd3 0x1fd3 0x72000000,
  entry 0x1fd6 0x1fd6 0x77200342, entry 0x1fd7 0x1fd7 0x79400342, entry 0x1fd8 0x1fd8 0x73200306,
  entry 0x1fd9 0x1fd9 0x73200304, entry 0x1fda 0x1fda 0x73200300, entry 0x1fdb 0x1fdb 0x71400000,
  entry 0x1fdd 0x1fdd 0x3ffc00300, entry 0x1fde 0x1fde 0x3ffc00301,
  entry 0x1fdf 0x1fdf 0x3ffc00342, entry 0x1fe0 0x1fe0 0x78a00306, entry 0x1fe1 0x1fe1 0x78a00304,
  entry 0x1fe2 0x1fe2 0x79600300, entry 0x1fe3 0x1fe3 0x76000000, entry 0x1fe4 0x1fe4 0x78200313,
  entry 0x1fe5 0x1fe5 0x78200314, entry 0x1fe6 0x1fe6 0x78a00342, entry 0x1fe7 0x1fe7 0x79600342,
  entry 0x1fe8 0x1fe8 0x74a00306, entry 0x1fe9 0x1fe9 0x74a00304, entry 0x1fea 0x1fea 0x74a00300,
  entry 0x1feb 0x1feb 0x71c00000, entry 0x1fec 0x1fec 0x74200314, entry 0x1fed 0x1fed 0x15000300,
  entry 0x1fee 0x1fee 0x70a00000, entry 0x1fef 0x1fef 0xc000000, entry 0x1ff2 0x1ff2 0x3ef800345,
  entry 0x1ff3 0x1ff3 0x79200345, entry 0x1ff4 0x1ff4 0x79c00345, entry 0x1ff6 0x1ff6 0x79200342,
  entry 0x1ff7 0x1ff7 0x3fec00345, entry 0x1ff8 0x1ff8 0x73e00300, entry 0x1ff9 0x1ff9 0x71800000,
  entry 0x1ffa 0x1ffa 0x75200300, entry 0x1ffb 0x1ffb 0x71e00000, entry 0x1ffc 0x1ffc 0x75200345,
  entry 0x1ffd 0x1ffd 0x16800000, entry 0x2000 0x2000 0x400400000, entry 0x2001 0x2001 0x400600000,
  entry 0x2126 0x2126 0x75200000, entry 0x212a 0x212a 0x9600000, entry 0x212b 0x212b 0x18a00000,
  entry 0x219a 0x219a 0x432000338, entry 0x219b 0x219b 0x432400338,
  entry 0x21ae 0x21ae 0x432800338, entry 0x21cd 0x21cd 0x43a000338,
  entry 0x21ce 0x21ce 0x43a800338, entry 0x21cf 0x21cf 0x43a400338,
  entry 0x2204 0x2204 0x440600338, entry 0x2209 0x2209 0x441000338,
  entry 0x220c 0x220c 0x441600338, entry 0x2224 0x2224 0x444600338,
  entry 0x2226 0x2226 0x444a00338, entry 0x2241 0x2241 0x447800338,
  entry 0x2244 0x2244 0x448600338, entry 0x2247 0x2247 0x448a00338,
  entry 0x2249 0x2249 0x449000338, entry 0x2260 0x2260 0x7a00338, entry 0x2262 0x2262 0x44c200338,
  entry 0x226d 0x226d 0x449a00338, entry 0x226e 0x226e 0x7800338, entry 0x226f 0x226f 0x7c00338,
  entry 0x2270 0x2270 0x44c800338, entry 0x2271 0x2271 0x44ca00338,
  entry 0x2274 0x2274 0x44e400338, entry 0x2275 0x2275 0x44e600338,
  entry 0x2278 0x2278 0x44ec00338, entry 0x2279 0x2279 0x44ee00338,
  entry 0x2280 0x2280 0x44f400338, entry 0x2281 0x2281 0x44f600338,
  entry 0x2284 0x2284 0x450400338, entry 0x2285 0x2285 0x450600338,
  entry 0x2288 0x2288 0x450c00338, entry 0x2289 0x2289 0x450e00338,
  entry 0x22ac 0x22ac 0x454400338, entry 0x22ad 0x22ad 0x455000338,
  entry 0x22ae 0x22ae 0x455200338, entry 0x22af 0x22af 0x455600338,
  entry 0x22e0 0x22e0 0x44f800338, entry 0x22e1 0x22e1 0x44fa00338,
  entry 0x22e2 0x22e2 0x452200338, entry 0x22e3 0x22e3 0x452400338,
  entry 0x22ea 0x22ea 0x456400338, entry 0x22eb 0x22eb 0x456600338,
  entry 0x22ec 0x22ec 0x456800338, entry 0x22ed 0x22ed 0x456a00338,
  entry 0x2329 0x2329 0x601000000, entry 0x232a 0x232a 0x601200000,
  entry 0x2adc 0x2adc 0x55ba00338, entry 0x304c 0x304c 0x609603099,
  entry 0x304e 0x304e 0x609a03099, entry 0x3050 0x3050 0x609e03099,
  entry 0x3052 0x3052 0x60a203099, entry 0x3054 0x3054 0x60a603099,
  entry 0x3056 0x3056 0x60aa03099, entry 0x3058 0x3058 0x60ae03099,
  entry 0x305a 0x305a 0x60b203099, entry 0x305c 0x305c 0x60b603099,
  entry 0x305e 0x305e 0x60ba03099, entry 0x3060 0x3060 0x60be03099,
  entry 0x3062 0x3062 0x60c203099, entry 0x3065 0x3065 0x60c803099,
  entry 0x3067 0x3067 0x60cc03099, entry 0x3069 0x3069 0x60d003099,
  entry 0x3070 0x3070 0x60de03099, entry 0x3071 0x3071 0x60de0309a,
  entry 0x3073 0x3073 0x60e403099, entry 0x3074 0x3074 0x60e40309a,
  entry 0x3076 0x3076 0x60ea03099, entry 0x3077 0x3077 0x60ea0309a,
  entry 0x3079 0x3079 0x60f003099, entry 0x307a 0x307a 0x60f00309a,
  entry 0x307c 0x307c 0x60f603099, entry 0x307d 0x307d 0x60f60309a,
  entry 0x3094 0x3094 0x608c03099, entry 0x309e 0x309e 0x613a03099,
  entry 0x30ac 0x30ac 0x615603099, entry 0x30ae 0x30ae 0x615a03099,
  entry 0x30b0 0x30b0 0x615e03099, entry 0x30b2 0x30b2 0x616203099,
  entry 0x30b4 0x30b4 0x616603099, entry 0x30b6 0x30b6 0x616a03099,
  entry 0x30b8 0x30b8 0x616e03099, entry 0x30ba 0x30ba 0x617203099,
  entry 0x30bc 0x30bc 0x617603099, entry 0x30be 0x30be 0x617a03099,
  entry 0x30c0 0x30c0 0x617e03099, entry 0x30c2 0x30c2 0x618203099,
  entry 0x30c5 0x30c5 0x618803099, entry 0x30c7 0x30c7 0x618c03099,
  entry 0x30c9 0x30c9 0x619003099, entry 0x30d0 0x30d0 0x619e03099,
  entry 0x30d1 0x30d1 0x619e0309a, entry 0x30d3 0x30d3 0x61a403099,
  entry 0x30d4 0x30d4 0x61a40309a, entry 0x30d6 0x30d6 0x61aa03099,
  entry 0x30d7 0x30d7 0x61aa0309a, entry 0x30d9 0x30d9 0x61b003099,
  entry 0x30da 0x30da 0x61b00309a, entry 0x30dc 0x30dc 0x61b603099,
  entry 0x30dd 0x30dd 0x61b60309a, entry 0x30f4 0x30f4 0x614c03099,
  entry 0x30f7 0x30f7 0x61de03099, entry 0x30f8 0x30f8 0x61e003099,
  entry 0x30f9 0x30f9 0x61e203099, entry 0x30fa 0x30fa 0x61e403099,
  entry 0x30fe 0x30fe 0x61fa03099, entry 0xf900 0xf900 0x1189000000,
  entry 0xf901 0xf901 0xcde800000, entry 0xf902 0xf902 0x11d9400000,
  entry 0xf903 0xf903 0x1199000000, entry 0xf904 0xf904 0xdda200000,
  entry 0xf905 0xf905 0x9c6400000, entry 0xf906 0xf906 0xa7ca00000,
  entry 0xf907 0xf907 0x13f3800000, entry 0xf908 0xf908 0x13f3800000,
  entry 0xf909 0xf909 0xb2a200000, entry 0xf90a 0xf90a 0x123a200000,
  entry 0xf90b 0xf90b 0xab0e00000, entry 0xf90c 0xf90c 0xb29000000,
  entry 0xf90d 0xf90d 0xc3ec00000, entry 0xf90e 0xf90e 0xecd200000,
  entry 0xf90f 0xf90f 0xff0a00000, entry 0xf910 0xf910 0x10c7e00000,
  entry 0xf911 0xf911 0x10f7400000, entry 0xf912 0xf912 0x111f000000,
  entry 0xf913 0xf913 0x1211e00000, entry 0xf914 0xf914 0xd40400000,
  entry 0xf915 0xf915 0xda3600000, entry 0xf916 0xf916 0xe1b200000,
  entry 0xf917 0xf917 0xe7bc00000, entry 0xf918 0xf918 0x1087a00000,
  entry 0xf919 0xf919 0x122d400000, entry 0xf91a 0xf91a 0x133e200000,
  entry 0xf91b 0xf91b 0x9d0400000, entry 0xf91c 0xf91c 0xa6ea00000,
  entry 0xf91d 0xf91d 0xd60800000, entry 0xf91e 0xf91e 0xe43600000,
  entry 0xf91f 0xf91f 0x10c5a00000, entry 0xf920 0xf920 0x13c3c00000,
  entry 0xf921 0xf921 0xbaa000000, entry 0xf922 0xf922 0xdfd600000,
  entry 0xf923 0xf923 0x10b9a00000, entry 0xf924 0xf924 0x112c800000,
  entry 0xf925 0xf925 0xc59200000, entry 0xf926 0xf926 0x103b000000,
  entry 0xf927 0xf927 0x1103e00000, entry 0xf928 0xf928 0xbd9400000,
  entry 0xf929 0xf929 0xce2e00000, entry 0xf92a 0xf92a 0xdad400000,
  entry 0xf92b 0xf92b 0xe5f800000, entry 0xf92c 0xf92c 0x1219c00000,
  entry 0xf92d 0xf92d 0x9f0c00000, entry 0xf92e 0xf92e 0xa36e00000,
  entry 0xf92f 0xf92f 0xa5bc00000, entry 0xf930 0xf930 0xc98800000,
  entry 0xf931 0xf931 0xd5a600000, entry 0xf932 0xf932 0xe42000000,
  entry 0xf933 0xf933 0xedce00000, entry 0xf934 0xf934 0x1000200000,
  entry 0xf935 0xf935 0x10c0c00000, entry 0xf936 0xf936 0x10cb800000,
  entry 0xf937 0xf937 0x11bde00000, entry 0xf938 0xf938 0x12e6400000,
  entry 0xf939 0xf939 0x136de00000, entry 0xf93a 0xf93a 0x13bf400000,
  entry 0xf93b 0xf93b 0xf11800000, entry 0xf93c 0xf93c 0xf2fe00000,
  entry 0xf93d 0xf93d 0xfb4000000, entry 0xf93e 0xf93e 0x1079200000,
  entry 0xf93f 0xf93f 0x1260800000, entry 0xf940 0xf940 0x13cfe00000,
  entry 0xf941 0xf941 0x115ac00000, entry 0xf942 0xf942 0xb1be00000,
  entry 0xf943 0xf943 0xbe0800000, entry 0xf944 0xf944 0xf8c000000,
  entry 0xf945 0xf945 0x100fc00000, entry 0xf946 0xf946 0xe4c400000,
  entry 0xf947 0xf947 0xf19400000, entry 0xf948 0xf948 0x1198400000,
  entry 0xf949 0xf949 0x12dee00000, entry 0xf94a 0xf94a 0xb1b000000,
  entry 0xf94b 0xf94b 0xb8c400000, entry 0xf94c 0xf94c 0xd42600000,
  entry 0xf94d 0xf94d 0xdbb400000, entry 0xf94e 0xf94e 0xde1e00000,
  entry 0xf94f 0xf94f 0xfa5e00000, entry 0xf950 0xf950 0xfc6e00000,
  entry 0xf951 0xf951 0x12c9600000, entry 0xf952 0xf952 0xa5a400000,
  entry 0xf953 0xf953 0x1011600000, entry 0xf954 0xf954 0xa3b800000,
  entry 0xf955 0xf955 0xa39800000, entry 0xf956 0xf956 0xf43800000,
  entry 0xf957 0xf957 0xfb7c00000, entry 0xf958 0xf958 0x107e200000,
  entry 0xf959 0xf959 0x12cea00000, entry 0xf95a 0xf95a 0x1170000000,
  entry 0xf95b 0xf95b 0xc59e00000, entry 0xf95c 0xf95c 0xd40400000,
  entry 0xf95d 0xf95d 0x115fc00000, entry 0xf95e 0xf95e 0x9c7200000,
  entry 0xf95f 0xf95f 0xb7ce00000, entry 0xf960 0xf960 0xc02400000,
  entry 0xf961 0xf961 0xe70e00000, entry 0xf962 0xf962 0xeae000000,
  entry 0xf963 0xf963 0xa62e00000, entry 0xf964 0xf964 0xf1f600000,
  entry 0xf965 0xf965 0x9f7e00000, entry 0xf966 0xf966 0xbf5200000,
  entry 0xf967 0xf967 0x9c1a00000, entry 0xf968 0xf968 0xd99800000,
  entry 0xf969 0xf969 0xcaf000000, entry 0xf96a 0xf96a 0xfa4400000,
  entry 0xf96b 0xf96b 0xa78600000, entry 0xf96c 0xf96c 0xb0bc00000,
  entry 0xf96d 0xf96d 0xee0200000, entry 0xf96e 0xf96e 0x1089200000,
  entry 0xf96f 0xf96f 0x1155400000, entry 0xf970 0xf970 0xd77400000,
  entry 0xf971 0xf971 0x11f6000000, entry 0xf972 0xf972 0xd91000000,
  entry 0xf973 0xf973 0xc5fc00000, entry 0xf974 0xf974 0x105ca00000,
  entry 0xf975 0xf975 0xc74000000, entry 0xf976 0xf976 0xeaca00000,
  entry 0xf977 0xf977 0x9d5c00000, entry 0xf978 0xf978 0xa2d200000,
  entry 0xf979 0xf979 0xa39200000, entry 0xf97a 0xf97a 0xd10200000,
  entry 0xf97b 0xf97b 0xf9ce00000, entry 0xf97c 0xf97c 0x104de00000,
  entry 0xf97d 0xf97d 0x115a400000, entry 0xf97e 0xf97e 0x1239e00000,
  entry 0xf97f 0xf97f 0xa5ea00000, entry 0xf980 0xf980 0xa88400000,
  entry 0xf981 0xf981 0xb2e600000, entry 0xf982 0xf982 0xbdd800000,
  entry 0xf983 0xf983 0xcb8a00000, entry 0xf984 0xf984 0xdffc00000,
  entry 0xf985 0xf985 0xf25400000, entry 0xf986 0xf986 0x12b5a00000,
  entry 0xf987 0xf987 0x134d400000, entry 0xf988 0xf988 0x13d2e00000,
  entry 0xf989 0xf989 0x13d9c00000, entry 0xf98a 0xf98a 0xa53600000,
  entry 0xf98b 0xf98b 0xcd8c00000, entry 0xf98c 0xf98c 0xd6ee00000,
  entry 0xf98d 0xf98d 0x11ec400000, entry 0xf98e 0xf98e 0xbce800000,
  entry 0xf98f 0xf98f 0xc32000000, entry 0xf990 0xf990 0xc40000000,
  entry 0xf991 0xf991 0xc93400000, entry 0xf992 0xf992 0xde4600000,
  entry 0xf993 0xf993 0xe29200000, entry 0xf994 0xf994 0xe91200000,
  entry 0xf995 0xf995 0xf39400000, entry 0xf996 0xf996 0xfbe800000,
  entry 0xf997 0xf997 0x100de00000, entry 0xf998 0xf998 0x11e4c00000,
  entry 0xf999 0xf999 0x109dc00000, entry 0xf99a 0xf99a 0x1204600000,
  entry 0xf99b 0xf99b 0x1269400000, entry 0xf99c 0xf99c 0xa42e00000,
  entry 0xf99d 0xf99d 0xa54600000, entry 0xf99e 0xf99e 0xa97a00000,
  entry 0xf99f 0xf99f 0xe19000000, entry 0xf9a0 0xf9a0 0x1118400000,
  entry 0xf9a1 0xf9a1 0x1155400000, entry 0xf9a2 0xf9a2 0xbd9200000,
  entry 0xf9a3 0xf9a3 0xbfea00000, entry 0xf9a4 0xf9a4 0xc6f600000,
  entry 0xf9a5 0xf9a5 0xd75c00000, entry 0xf9a6 0xf9a6 0xf87c00000,
  entry 0xf9a7 0xf9a7 0xe6ea00000, entry 0xf9a8 0xf9a8 0x9dc800000,
  entry 0xf9a9 0xf9a9 0xadf200000, entry 0xf9aa 0xf9aa 0xb7ce00000,
  entry 0xf9ab 0xf9ab 0xbb7400000, entry 0xf9ac 0xf9ac 0xc03800000,
  entry 0xf9ad 0xf9ad 0xe76400000, entry 0xf9ae 0xf9ae 0xe8d200000,
  entry 0xf9af 0xf9af 0xff3400000, entry 0xf9b0 0xf9b0 0x1008c00000,
  entry 0xf9b1 0xf9b1 0x1246800000, entry 0xf9b2 0xf9b2 0x12dec00000,
  entry 0xf9b3 0xf9b3 0x12e9000000, entry 0xf9b4 0xf9b4 0x1303000000,
  entry 0xf9b5 0xf9b5 0x9f1600000, entry 0xf9b6 0xf9b6 0xf35c00000,
  entry 0xf9b7 0xf9b7 0x1236800000, entry 0xf9b8 0xf9b8 0x12d7000000,
  entry 0xf9b9 0xf9b9 0xc1c200000, entry 0xf9ba 0xf9ba 0x9d0c00000,
  entry 0xf9bb 0xf9bb 0xa1b400000, entry 0xf9bc 0xf9bc 0xb7dc00000,
  entry 0xf9bd 0xf9bd 0xb87e00000, entry 0xf9be 0xf9be 0xcb3200000,
  entry 0xf9bf 0xf9bf 0xd40400000, entry 0xf9c0 0xf9c0 0xe39c00000,
  entry 0xf9c1 0xf9c1 0xec8400000, entry 0xf9c2 0xf9c2 0x109f800000,
  entry 0xf9c3 0xf9c3 0x120f800000, entry 0xf9c4 0xf9c4 0x13f1a00000,
  entry 0xf9c5 0xf9c5 0xcd1000000, entry 0xf9c6 0xf9c6 0x12c5c00000,
  entry 0xf9c7 0xf9c7 0xa51200000, entry 0xf9c8 0xf9c8 0xcef600000,
  entry 0xf9c9 0xf9c9 0xcfe600000, entry 0xf9ca 0xf9ca 0xda8200000,
  entry 0xf9cb 0xf9cb 0xdd3800000, entry 0xf9cc 0xf9cc 0xe81200000,
  entry 0xf9cd 0xf9cd 0xeab200000, entry 0xf9ce 0xf9ce 0xf0d600000,
  entry 0xf9cf 0xf9cf 0xfa2000000, entry 0xf9d0 0xf9d0 0x130bc00000,
  entry 0xf9d1 0xf9d1 0xa2da00000, entry 0xf9d2 0xf9d2 0xc45c00000,
  entry 0xf9d3 0xf9d3 0x12cf000000, entry 0xf9d4 0xf9d4 0xa05600000,
  entry 0xf9d5 0xf9d5 0xba3200000, entry 0xf9d6 0xf9d6 0xdbd400000,
  entry 0xf9d7 0xf9d7 0x11e5400000, entry 0xf9d8 0xf9d8 0xbf1600000,
  entry 0xf9d9 0xf9d9 0xc28800000, entry 0xf9da 0xf9da 0xd02e00000,
  entry 0xf9db 0xf9db 0xe70e00000, entry 0xf9dc 0xf9dc 0x12d0c00000,
  entry 0xf9dd 0xf9dd 0xa45200000, entry 0xf9de 0xf9de 0xa81e00000,
  entry 0xf9df 0xf9df 0xb8ca00000, entry 0xf9e0 0xf9e0 0xcc2600000,
  entry 0xf9e1 0xf9e1 0xce9c00000, entry 0xf9e2 0xf9e2 0xd15000000,
  entry 0xf9e3 0xf9e3 0xd9ca00000, entry 0xf9e4 0xf9e4 0xe80c00000,
  entry 0xf9e5 0xf9e5 0xebc400000, entry 0xf9e6 0xf9e6 0xfef200000,
  entry 0xf9e7 0xf9e7 0x1119e00000, entry 0xf9e8 0xf9e8 0x111c200000,
  entry 0xf9e9 0xf9e9 0x1239800000, entry 0xf9ea 0xf9ea 0x12dc400000,
  entry 0xf9eb 0xf9eb 0xa67e00000, entry 0xf9ec 0xf9ec 0xdd7400000,
  entry 0xf9ed 0xf9ed 0xa83a00000, entry 0xf9ee 0xf9ee 0xe3a000000,
  entry 0xf9ef 0xf9ef 0xe93000000, entry 0xf9f0 0xf9f0 0x10bf400000,
  entry 0xf9f1 0xf9f1 0x12d4600000, entry 0xf9f2 0xf9f2 0x138ae00000,
  entry 0xf9f3 0xf9f3 0x13d3e00000, entry 0xf9f4 0xf9f4 0xcf2e00000,
  entry 0xf9f5 0xf9f5 0xdb9600000, entry 0xf9f6 0xf9f6 0x103d000000,
  entry 0xf9f7 0xf9f7 0xf59600000, entry 0xf9f8 0xf9f8 0xf64000000,
  entry 0xf9f9 0xf9f9 0xf92400000, entry 0xf9fa 0xf9fa 0xe58000000,
  entry 0xf9fb 0xf9fb 0xe13200000, entry 0xf9fc 0xf9fc 0x116b000000,
  entry 0xf9fd 0xf9fd 0x9d8000000, entry 0xf9fe 0xf9fe 0x1066c00000,
  entry 0xf9ff 0xf9ff 0xa47400000, entry 0xfa00 0xfa00 0xa40e00000,
  entry 0xfa01 0xfa01 0xbd4c00000, entry 0xfa02 0xfa02 0xc5a600000,
  entry 0xfa03 0xfa03 0xf9ac00000, entry 0xfa04 0xfa04 0xb70a00000,
  entry 0xfa05 0xfa05 0xda3c00000, entry 0xfa06 0xfa06 0xcd6800000,
  entry 0xfa07 0xfa07 0x11e7600000, entry 0xfa08 0xfa08 0x1109800000,
  entry 0xfa09 0xfa09 0x12c9a00000, entry 0xfa0a 0xfa0a 0x1131600000,
  entry 0xfa0b 0xfa0b 0xbda600000, entry 0xfa0c 0xfa0c 0xa28000000,
  entry 0xfa0d 0xfa0d 0xab8000000, entry 0xfa10 0xfa10 0xb0b400000,
  entry 0xfa12 0xfa12 0xcce800000, entry 0xfa15 0xfa15 0xa3bc00000,
  entry 0xfa16 0xfa16 0xe65400000, entry 0xfa17 0xfa17 0xed9400000,
  entry 0xfa18 0xfa18 0xf27800000, entry 0xfa19 0xfa19 0xf2bc00000,
  entry 0xfa1a 0xfa1a 0xf2ca00000, entry 0xfa1b 0xfa1b 0xf31e00000,
  entry 0xfa1c 0xfa1c 0x12eac00000, entry 0xfa1d 0xfa1d 0xf97c00000,
  entry 0xfa1e 0xfa1e 0xff7a00000, entry 0xfa20 0xfa20 0x10c2400000,
  entry 0xfa22 0xfa22 0x115f000000, entry 0xfa25 0xfa25 0x1207000000,
  entry 0xfa26 0xfa26 0x121fa00000, entry 0xfa2a 0xfa2a 0x131de00000,
  entry 0xfa2b 0xfa2b 0x131f800000, entry 0xfa2c 0xfa2c 0x1325000000,
  entry 0xfa2d 0xfa2d 0x13b6800000, entry 0xfa2e 0xfa2e 0x121bc00000,
  entry 0xfa2f 0xfa2f 0x12d6e00000, entry 0xfa30 0xfa30 0x9f5c00000,
  entry 0xfa31 0xfa31 0xa1ce00000, entry 0xfa32 0xfa32 0xa29a00000,
  entry 0xfa33 0xfa33 0xa59200000, entry 0xfa34 0xfa34 0xa5c800000,
  entry 0xfa35 0xfa35 0xa6a200000, entry 0xfa36 0xfa36 0xab3a00000,
  entry 0xfa37 0xfa37 0xac0c00000, entry 0xfa38 0xfa38 0xacd000000,
  entry 0xfa39 0xfa39 0xb08000000, entry 0xfa3a 0xfa3a 0xb15000000,
  entry 0xfa3b 0xfa3b 0xb8c800000, entry 0xfa3c 0xfa3c 0xb8dc00000,
  entry 0xfa3d 0xfa3d 0xc12800000, entry 0xfa3e 0xfa3e 0xc2d000000,
  entry 0xfa3f 0xfa3f 0xc31c00000, entry 0xfa40 0xfa40 0xc3e400000,
  entry 0xfa41 0xfa41 0xca9e00000, entry 0xfa42 0xfa42 0xcbc400000,
  entry 0xfa43 0xfa43 0xcd2200000, entry 0xfa44 0xfa44 0xd10a00000,
  entry 0xfa45 0xfa45 0xdaee00000, entry 0xfa46 0xfa46 0xdc3400000,
  entry 0xfa47 0xfa47 0xde4400000, entry 0xfa48 0xfa48 0xe2dc00000,
  entry 0xfa49 0xfa49 0xe45600000, entry 0xfa4a 0xfa4a 0xe84400000,
  entry 0xfa4b 0xfa4b 0xf12200000, entry 0xfa4c 0xfa4c 0xf27c00000,
  entry 0xfa4d 0xfa4d 0xf29200000, entry 0xfa4e 0xfa4e 0xf29000000,
  entry 0xfa4f 0xfa4f 0xf2a000000, entry 0xfa50 0xfa50 0xf2ac00000,
  entry 0xfa51 0xfa51 0xf2ba00000, entry 0xfa52 0xfa52 0xf31a00000,
  entry 0xfa53 0xfa53 0xf31c00000, entry 0xfa54 0xfa54 0xf48000000,
  entry 0xfa55 0xfa55 0xf50200000, entry 0xfa56 0xfa56 0xf78000000,
  entry 0xfa57 0xfa57 0xfbe800000, entry 0xfa58 0xfa58 0xfc1200000,
  entry 0xfa59 0xfa59 0xfc8200000, entry 0xfa5a 0xfa5a 0xfee400000,
  entry 0xfa5b 0xfa5b 0x1000a00000, entry 0xfa5c 0xfa5c 0x103da00000,
  entry 0xfa5d 0xfa5d 0x104f200000, entry 0xfa5e 0xfa5e 0x104f200000,
  entry 0xfa5f 0xfa5f 0x108ae00000, entry 0xfa60 0xfa60 0x1122000000,
  entry 0xfa61 0xfa61 0x1132c00000, entry 0xfa62 0xfa62 0x1160200000,
  entry 0xfa63 0xfa63 0x1167200000, entry 0xfa64 0xfa64 0x119a600000,
  entry 0xfa65 0xfa65 0x11a1000000, entry 0xfa66 0xfa66 0x11f6c00000,
  entry 0xfa67 0xfa67 0x1207000000, entry 0xfa68 0xfa68 0x12dc600000,
  entry 0xfa69 0xfa69 0x12ffe00000, entry 0xfa6a 0xfa6a 0x1307600000,
  entry 0xfa6b 0xfa6b 0xc0ea00000, entry 0xfa6c 0xfa6c 0x485dc00000,
  entry 0xfa6d 0xfa6d 0x1043000000, entry 0xfa70 0xfa70 0x9c4c00000,
  entry 0xfa71 0xfa71 0xa36a00000, entry 0xfa72 0xfa72 0xa2d000000,
  entry 0xfa73 0xfa73 0x9f0000000, entry 0xfa74 0xfa74 0xa28a00000,
  entry 0xfa75 0xfa75 0xa30000000, entry 0xfa76 0xfa76 0xa58e00000,
  entry 0xfa77 0xfa77 0xa5f400000, entry 0xfa78 0xfa78 0xab3a00000,
  entry 0xfa79 0xfa79 0xaaaa00000, entry 0xfa7a 0xfa7a 0xab3200000,
  entry 0xfa7b 0xfa7b 0xabc400000, entry 0xfa7c 0xfa7c 0xb0b400000,
  entry 0xfa7d 0xfa7d 0xb16600000, entry 0xfa7e 0xfa7e 0xb28800000,
  entry 0xfa7f 0xfa7f 0xb2a800000, entry 0xfa80 0xfa80 0xb4c400000,
  entry 0xfa81 0xfa81 0xb65000000, entry 0xfa82 0xfa82 0xbda400000,
  entry 0xfa83 0xfa83 0xbdb200000, entry 0xfa84 0xfa84 0xbed200000,
  entry 0xfa85 0xfa85 0xbf5a00000, entry 0xfa86 0xfa86 0xc1b000000,
  entry 0xfa87 0xfa87 0xc29c00000, entry 0xfa88 0xfa88 0xc21000000,
  entry 0xfa89 0xfa89 0xc31c00000, entry 0xfa8a 0xfa8a 0xc2c000000,
  entry 0xfa8b 0xfa8b 0xc3e400000, entry 0xfa8c 0xfa8c 0xc46800000,
  entry 0xfa8d 0xfa8d 0xc78800000, entry 0xfa8e 0xfa8e 0xc83800000,
  entry 0xfa8f 0xfa8f 0xc8a400000, entry 0xfa90 0xfa90 0xcaac00000,
  entry 0xfa91 0xfa91 0xcce800000, entry 0xfa92 0xfa92 0xce2e00000,
  entry 0xfa93 0xfa93 0xce3600000, entry 0xfa94 0xfa94 0xceac00000,
  entry 0xfa95 0xfa95 0xd6f200000, entry 0xfa96 0xfa96 0xd77400000,
  entry 0xfa97 0xfa97 0xda8200000, entry 0xfa98 0xfa98 0xddb600000,
  entry 0xfa99 0xfa99 0xdd9600000, entry 0xfa9a 0xfa9a 0xde4400000,
  entry 0xfa9b 0xfa9b 0xe03c00000, entry 0xfa9c 0xfa9c 0xe2dc00000,
  entry 0xfa9d 0xfa9d 0xef4e00000, entry 0xfa9e 0xfa9e 0xe46a00000,
  entry 0xfa9f 0xfa9f 0xe55e00000, entry 0xfaa0 0xfaa0 0xe65400000,
  entry 0xfaa1 0xfaa1 0xe8e200000, entry 0xfaa2 0xfaa2 0xea0c00000,
  entry 0xfaa3 0xfaa3 0xea7600000, entry 0xfaa4 0xfaa4 0xec3a00000,
  entry 0xfaa5 0xfaa5 0xec3e00000, entry 0xfaa6 0xfaa6 0xed9400000,
  entry 0xfaa7 0xfaa7 0xedb600000, entry 0xfaa8 0xfaa8 0xede800000,
  entry 0xfaa9 0xfaa9 0xee9400000, entry 0xfaaa 0xfaaa 0xee8000000,
  entry 0xfaab 0xfaab 0xf19800000, entry 0xfaac 0xfaac 0xf56200000,
  entry 0xfaad 0xfaad 0xf78000000, entry 0xfaae 0xfaae 0xf8f600000,
  entry 0xfaaf 0xfaaf 0xfab600000, entry 0xfab0 0xfab0 0xfbe800000,
  entry 0xfab1 0xfab1 0xfe7c00000, entry 0xfab2 0xfab2 0x1000a00000,
  entry 0xfab3 0xfab3 0x106a400000, entry 0xfab4 0xfab4 0x107de00000,
  entry 0xfab5 0xfab5 0x10ef200000, entry 0xfab6 0xfab6 0x1128200000,
  entry 0xfab7 0xfab7 0x1130c00000, entry 0xfab8 0xfab8 0x1132c00000,
  entry 0xfab9 0xfab9 0x1157e00000, entry 0xfaba 0xfaba 0x115f000000,
  entry 0xfabb 0xfabb 0x1159600000, entry 0xfabc 0xfabc 0x1160200000,
  entry 0xfabd 0xfabd 0x115fc00000, entry 0xfabe 0xfabe 0x115da00000,
  entry 0xfabf 0xfabf 0x1167200000, entry 0xfac0 0xfac0 0x1171400000,
  entry 0xfac1 0xfac1 0x11a1000000, entry 0xfac2 0xfac2 0x11e7000000,
  entry 0xfac3 0xfac3 0x120e400000, entry 0xfac4 0xfac4 0x1233200000,
  entry 0xfac5 0xfac5 0x124ec00000, entry 0xfac6 0xfac6 0x12cf800000,
  entry 0xfac7 0xfac7 0x12dc600000, entry 0xfac8 0xfac8 0x12eac00000,
  entry 0xfac9 0xfac9 0x12fb600000, entry 0xfaca 0xfaca 0x12ffe00000,
  entry 0xfacb 0xfacb 0x1301600000, entry 0xfacc 0xfacc 0x1307600000,
  entry 0xfacd 0xfacd 0x1362400000, entry 0xface 0xface 0x13f3800000,
  entry 0xfacf 0xfacf 0x4509400000, entry 0xfad0 0xfad0 0x4508800000,
  entry 0xfad1 0xfad1 0x467aa00000, entry 0xfad2 0xfad2 0x773a00000,
  entry 0xfad3 0xfad3 0x803000000, entry 0xfad4 0xfad4 0x807200000,
  entry 0xfad5 0xfad5 0x4a49200000, entry 0xfad6 0xfad6 0x4b9a000000,
  entry 0xfad7 0xfad7 0x4fda600000, entry 0xfad8 0xfad8 0x13e8600000,
  entry 0xfad9 0xfad9 0x13f1c00000, entry 0xfb1d 0xfb1d 0xbb2005b4, entry 0xfb1f 0xfb1f 0xbe4005b7,
  entry 0xfb2a 0xfb2a 0xbd2005c1, entry 0xfb2b 0xfb2b 0xbd2005c2, entry 0xfb2c 0xfb2c 0x1f692005c1,
  entry 0xfb2d 0xfb2d 0x1f692005c2, entry 0xfb2e 0xfb2e 0xba0005b7, entry 0xfb2f 0xfb2f 0xba0005b8,
  entry 0xfb30 0xfb30 0xba0005bc, entry 0xfb31 0xfb31 0xba2005bc, entry 0xfb32 0xfb32 0xba4005bc,
  entry 0xfb33 0xfb33 0xba6005bc, entry 0xfb34 0xfb34 0xba8005bc, entry 0xfb35 0xfb35 0xbaa005bc,
  entry 0xfb36 0xfb36 0xbac005bc, entry 0xfb38 0xfb38 0xbb0005bc, entry 0xfb39 0xfb39 0xbb2005bc,
  entry 0xfb3a 0xfb3a 0xbb4005bc, entry 0xfb3b 0xfb3b 0xbb6005bc, entry 0xfb3c 0xfb3c 0xbb8005bc,
  entry 0xfb3e 0xfb3e 0xbbc005bc, entry 0xfb40 0xfb40 0xbc0005bc, entry 0xfb41 0xfb41 0xbc2005bc,
  entry 0xfb43 0xfb43 0xbc6005bc, entry 0xfb44 0xfb44 0xbc8005bc, entry 0xfb46 0xfb46 0xbcc005bc,
  entry 0xfb47 0xfb47 0xbce005bc, entry 0xfb48 0xfb48 0xbd0005bc, entry 0xfb49 0xfb49 0xbd2005bc,
  entry 0xfb4a 0xfb4a 0xbd4005bc, entry 0xfb4b 0xfb4b 0xbaa005b9, entry 0xfb4c 0xfb4c 0xba2005bf,
  entry 0xfb4d 0xfb4d 0xbb6005bf, entry 0xfb4e 0xfb4e 0xbc8005bf,
  entry 0x1109a 0x1109a 0x22132110ba, entry 0x1109c 0x1109c 0x22136110ba,
  entry 0x110ab 0x110ab 0x2214a110ba, entry 0x1112e 0x1112e 0x2226211127,
  entry 0x1112f 0x1112f 0x2226411127, entry 0x1134b 0x1134b 0x2268e1133e,
  entry 0x1134c 0x1134c 0x2268e11357, entry 0x114bb 0x114bb 0x22972114ba,
  entry 0x114bc 0x114bc 0x22972114b0, entry 0x114be 0x114be 0x22972114bd,
  entry 0x115ba 0x115ba 0x22b70115af, entry 0x115bb 0x115bb 0x22b72115af,
  entry 0x11938 0x11938 0x2326a11930, entry 0x1d15e 0x1d15e 0x3a2ae1d165,
  entry 0x1d15f 0x1d15f 0x3a2b01d165, entry 0x1d160 0x1d160 0x3a2be1d16e,
  entry 0x1d161 0x1d161 0x3a2be1d16f, entry 0x1d162 0x1d162 0x3a2be1d170,
  entry 0x1d163 0x1d163 0x3a2be1d171, entry 0x1d164 0x1d164 0x3a2be1d172,
  entry 0x1d1bb 0x1d1bb 0x3a3721d165, entry 0x1d1bc 0x1d1bc 0x3a3741d165,
  entry 0x1d1bd 0x1d1bd 0x3a3761d16e, entry 0x1d1be 0x1d1be 0x3a3781d16e,
  entry 0x1d1bf 0x1d1bf 0x3a3761d16f, entry 0x1d1c0 0x1d1c0 0x3a3781d16f,
  entry 0x2f800 0x2f800 0x9c7a00000, entry 0x2f801 0x2f801 0x9c7000000,
  entry 0x2f802 0x2f802 0x9c8200000, entry 0x2f803 0x2f803 0x4024400000,
  entry 0x2f804 0x2f804 0x9ec000000, entry 0x2f805 0x2f805 0x9f5c00000,
  entry 0x2f806 0x2f806 0x9f7600000, entry 0x2f807 0x2f807 0xa00400000,
  entry 0x2f808 0x2f808 0xa0f400000, entry 0x2f809 0x2f809 0xa13200000,
  entry 0x2f80a 0x2f80a 0xa1ce00000, entry 0x2f80b 0x2f80b 0xa19e00000,
  entry 0x2f80c 0x2f80c 0x693c00000, entry 0x2f80d 0x2f80d 0x40c7400000,
  entry 0x2f80e 0x2f80e 0xa29a00000, entry 0x2f80f 0x2f80f 0xa2a800000,
  entry 0x2f810 0x2f810 0xa2c800000, entry 0x2f811 0x2f811 0xa2ee00000,
  entry 0x2f812 0x2f812 0x40a3800000, entry 0x2f813 0x2f813 0x697200000,
  entry 0x2f814 0x2f814 0xa2ce00000, entry 0x2f815 0x2f815 0xa31a00000,
  entry 0x2f816 0x2f816 0x40a9600000, entry 0x2f817 0x2f817 0xa32e00000,
  entry 0x2f818 0x2f818 0xa34800000, entry 0x2f819 0x2f819 0x9d9800000,
  entry 0x2f81a 0x2f81a 0xa35800000, entry 0x2f81b 0x2f81b 0xa36a00000,
  entry 0x2f81c 0x2f81c 0x523be00000, entry 0x2f81d 0x2f81d 0xa3ea00000,
  entry 0x2f81e 0x2f81e 0xa40600000, entry 0x2f81f 0x2f81f 0x69be00000,
  entry 0x2f820 0x2f820 0xa47600000, entry 0x2f821 0x2f821 0xa48c00000,
  entry 0x2f822 0x2f822 0xa4e400000, entry 0x2f823 0x2f823 0xa4ee00000,
  entry 0x2f824 0x2f824 0x6a2a00000, entry 0x2f825 0x2f825 0xa58e00000,
  entry 0x2f826 0x2f826 0xa59200000, entry 0x2f827 0x2f827 0xa5c800000,
  entry 0x2f828 0x2f828 0xa5f400000, entry 0x2f829 0x2f829 0xa60a00000,
  entry 0x2f82a 0x2f82a 0xa60c00000, entry 0x2f82b 0x2f82b 0xa62e00000,
  entry 0x2f82c 0x2f82c 0xa69200000, entry 0x2f82d 0x2f82d 0xa6a200000,
  entry 0x2f82e 0x2f82e 0xa6b400000, entry 0x2f82f 0x2f82f 0xa6e600000,
  entry 0x2f830 0x2f830 0xa6fa00000, entry 0x2f831 0x2f831 0xa6fe00000,
  entry 0x2f832 0x2f832 0xa6fe00000, entry 0x2f833 0x2f833 0xa6fe00000,
  entry 0x2f834 0x2f834 0x4145800000, entry 0x2f835 0x2f835 0xe0e000000,
  entry 0x2f836 0x2f836 0xa79400000, entry 0x2f837 0x2f837 0xa7be00000,
  entry 0x2f838 0x2f838 0x416c600000, entry 0x2f839 0x2f839 0xa7d600000,
  entry 0x2f83a 0x2f83a 0xa7e200000, entry 0x2f83b 0x2f83b 0xa80c00000,
  entry 0x2f83c 0x2f83c 0xa93c00000, entry 0x2f83d 0x2f83d 0xa87000000,
  entry 0x2f83e 0x2f83e 0xa89000000, entry 0x2f83f 0x2f83f 0xa8d000000,
  entry 0x2f840 0x2f840 0xa94400000, entry 0x2f841 0x2f841 0xa9ec00000,
  entry 0x2f842 0x2f842 0xaa2000000, entry 0x2f843 0x2f843 0xaaa600000,
  entry 0x2f844 0x2f844 0xaac600000, entry 0x2f845 0x2f845 0xab0800000,
  entry 0x2f846 0x2f846 0xab0800000, entry 0x2f847 0x2f847 0xab3200000,
  entry 0x2f848 0x2f848 0xab5600000, entry 0x2f849 0x2f849 0xab6600000,
  entry 0x2f84a 0x2f84a 0xab8400000, entry 0x2f84b 0x2f84b 0xae2c00000,
  entry 0x2f84c 0x2f84c 0xac0c00000, entry 0x2f84d 0x2f84d 0xae2e00000,
  entry 0x2f84e 0x2f84e 0xaca200000, entry 0x2f84f 0x2f84f 0xace800000,
  entry 0x2f850 0x2f850 0xa40e00000, entry 0x2f851 0x2f851 0xb1dc00000,
  entry 0x2f852 0x2f852 0xaf9c00000, entry 0x2f853 0x2f853 0xafe800000,
  entry 0x2f854 0x2f854 0xb01a00000, entry 0x2f855 0x2f855 0xaf1600000,
  entry 0x2f856 0x2f856 0xb06400000, entry 0x2f857 0x2f857 0xb06200000,
  entry 0x2f858 0x2f858 0xb15800000, entry 0x2f859 0x2f859 0x429c800000,
  entry 0x2f85a 0x2f85a 0xb1e400000, entry 0x2f85b 0x2f85b 0xb1ee00000,
  entry 0x2f85c 0x2f85c 0xb20c00000, entry 0x2f85d 0x2f85d 0xb23400000,
  entry 0x2f85e 0x2f85e 0xb24400000, entry 0x2f85f 0x2f85f 0xb2c400000,
  entry 0x2f860 0x2f860 0x42d5000000, entry 0x2f861 0x2f861 0x42dd400000,
  entry 0x2f862 0x2f862 0xb3d800000, entry 0x2f863 0x2f863 0xb43600000,
  entry 0x2f864 0x2f864 0xb44e00000, entry 0x2f865 0x2f865 0xb3b000000,
  entry 0x2f866 0x2f866 0xb4cc00000, entry 0x2f867 0x2f867 0x6ddc00000,
  entry 0x2f868 0x2f868 0x6df800000, entry 0x2f869 0x2f869 0xb61000000,
  entry 0x2f86a 0x2f86a 0xb67c00000, entry 0x2f86b 0x2f86b 0xb67c00000,
  entry 0x2f86c 0x2f86c 0x4339000000, entry 0x2f86d 0x2f86d 0xb78600000,
  entry 0x2f86e 0x2f86e 0xb7b000000, entry 0x2f86f 0x2f86f 0xb7ce00000,
  entry 0x2f870 0x2f870 0xb7e600000, entry 0x2f871 0x2f871 0x4363000000,
  entry 0x2f872 0x2f872 0xb7fe00000, entry 0x2f873 0x2f873 0xb80c00000,
  entry 0x2f874 0x2f874 0xbea600000, entry 0x2f875 0x2f875 0xb84400000,
  entry 0x2f876 0x2f876 0x6f0200000, entry 0x2f877 0x2f877 0xb8c000000,
  entry 0x2f878 0x2f878 0xb8dc00000, entry 0x2f879 0x2f879 0xb98000000,
  entry 0x2f87a 0x2f87a 0xb91a00000, entry 0x2f87b 0x2f87b 0x43bc800000,
  entry 0x2f87c 0x2f87c 0xba8600000, entry 0x2f87d 0x2f87d 0x43bcc00000,
  entry 0x2f87e 0x2f87e 0xbadc00000, entry 0x2f87f 0x2f87f 0xbad600000,
  entry 0x2f880 0x2f880 0xbaf800000, entry 0x2f881 0x2f881 0xbbc200000,
  entry 0x2f882 0x2f882 0xbbc400000, entry 0x2f883 0x2f883 0x705e00000,
  entry 0x2f884 0x2f884 0xbbfa00000, entry 0x2f885 0x2f885 0xbc5000000,
  entry 0x2f886 0x2f886 0xbc7a00000, entry 0x2f887 0x2f887 0xbcd200000,
  entry 0x2f888 0x2f888 0x70c400000, entry 0x2f889 0x2f889 0x4430600000,
  entry 0x2f88a 0x2f88a 0x70f800000, entry 0x2f88b 0x2f88b 0xbd6000000,
  entry 0x2f88c 0x2f88c 0xbd6600000, entry 0x2f88d 0x2f88d 0xbd6c00000,
  entry 0x2f88e 0x2f88e 0xbd9400000, entry 0x2f88f 0x2f88f 0x5472400000,
  entry 0x2f890 0x2f890 0xbdfc00000, entry 0x2f891 0x2f891 0x4466200000,
  entry 0x2f892 0x2f892 0x4466200000, entry 0x2f893 0x2f893 0x1040200000,
  entry 0x2f894 0x2f894 0xbe4400000, entry 0x2f895 0x2f895 0xbe4400000,
  entry 0x2f896 0x2f896 0x718e00000, entry 0x2f897 0x2f897 0x4657000000,
  entry 0x2f898 0x2f898 0x4c3b400000, entry 0x2f899 0x2f899 0xbec400000,
  entry 0x2f89a 0x2f89a 0xbed600000, entry 0x2f89b 0x2f89b 0x71c600000,
  entry 0x2f89c 0x2f89c 0xbf3400000, entry 0x2f89d 0x2f89d 0xbf9a00000,
  entry 0x2f89e 0x2f89e 0xbfae00000, entry 0x2f89f 0x2f89f 0xbff200000,
  entry 0x2f8a0 0x2f8a0 0xc10200000, entry 0x2f8a1 0x2f8a1 0x727400000,
  entry 0x2f8a2 0x2f8a2 0x723800000, entry 0x2f8a3 0x2f8a3 0xc12800000,
  entry 0x2f8a4 0x2f8a4 0x44da800000, entry 0x2f8a5 0x2f8a5 0xc18e00000,
  entry 0x2f8a6 0x2f8a6 0xc29000000, entry 0x2f8a7 0x2f8a7 0xc29800000,
  entry 0x2f8a8 0x2f8a8 0xc29c00000, entry 0x2f8a9 0x2f8a9 0xc29800000,
  entry 0x2f8aa 0x2f8aa 0xc2f400000, entry 0x2f8ab 0x2f8ab 0xc31c00000,
  entry 0x2f8ac 0x2f8ac 0xc36400000, entry 0x2f8ad 0x2f8ad 0xc34800000,
  entry 0x2f8ae 0x2f8ae 0xc35e00000, entry 0x2f8af 0x2f8af 0xc3bc00000,
  entry 0x2f8b0 0x2f8b0 0xc3e400000, entry 0x2f8b1 0x2f8b1 0xc3ec00000,
  entry 0x2f8b2 0x2f8b2 0xc42000000, entry 0x2f8b3 0x2f8b3 0xc43600000,
  entry 0x2f8b4 0x2f8b4 0xc4ba00000, entry 0x2f8b5 0x2f8b5 0xc56200000,
  entry 0x2f8b6 0x2f8b6 0xc5a800000, entry 0x2f8b7 0x2f8b7 0xc6a000000,
  entry 0x2f8b8 0x2f8b8 0x4561800000, entry 0x2f8b9 0x2f8b9 0xc67a00000,
  entry 0x2f8ba 0x2f8ba 0xc5f800000, entry 0x2f8bb 0x2f8bb 0xc6d000000,
  entry 0x2f8bc 0x2f8bc 0xc70600000, entry 0x2f8bd 0x2f8bd 0xc7c800000,
  entry 0x2f8be 0x2f8be 0x457e200000, entry 0x2f8bf 0x2f8bf 0xc84400000,
  entry 0x2f8c0 0x2f8c0 0xc78a00000, entry 0x2f8c1 0x2f8c1 0xc75200000,
  entry 0x2f8c2 0x2f8c2 0x745c00000, entry 0x2f8c3 0x2f8c3 0xc8d200000,
  entry 0x2f8c4 0x2f8c4 0xc8fc00000, entry 0x2f8c5 0x2f8c5 0xc93a00000,
  entry 0x2f8c6 0x2f8c6 0xc8ee00000, entry 0x2f8c7 0x2f8c7 0x74d800000,
  entry 0x2f8c8 0x2f8c8 0xca9e00000, entry 0x2f8c9 0x2f8c9 0xcad800000,
  entry 0x2f8ca 0x2f8ca 0x4601400000, entry 0x2f8cb 0x2f8cb 0xcbc600000,
  entry 0x2f8cc 0x2f8cc 0xcdf000000, entry 0x2f8cd 0x2f8cd 0xcc9200000,
  entry 0x2f8ce 0x2f8ce 0x763200000, entry 0x2f8cf 0x2f8cf 0xcd2200000,
  entry 0x2f8d0 0x2f8d0 0x761000000, entry 0x2f8d1 0x2f8d1 0x75c800000,
  entry 0x2f8d2 0x2f8d2 0xa32400000, entry 0x2f8d3 0x2f8d3 0xa32a00000,
  entry 0x2f8d4 0x2f8d4 0xce0000000, entry 0x2f8d5 0x2f8d5 0xcd3800000,
  entry 0x2f8d6 0x2f8d6 0x1015a00000, entry 0x2f8d7 0x2f8d7 0x87b200000,
  entry 0x2f8d8 0x2f8d8 0xce2e00000, entry 0x2f8d9 0x2f8d9 0xce3600000,
  entry 0x2f8da 0x2f8da 0xce4200000, entry 0x2f8db 0x2f8db 0xcebc00000,
  entry 0x2f8dc 0x2f8dc 0xcea600000, entry 0x2f8dd 0x2f8dd 0x4678600000,
  entry 0x2f8de 0x2f8de 0x769200000, entry 0x2f8df 0x2f8df 0xcff400000,
  entry 0x2f8e0 0x2f8e0 0xcf0a00000, entry 0x2f8e1 0x2f8e1 0xd0a400000,
  entry 0x2f8e2 0x2f8e2 0xd10a00000, entry 0x2f8e3 0x2f8e3 0x468da00000,
  entry 0x2f8e4 0x2f8e4 0xd11c00000, entry 0x2f8e5 0x2f8e5 0xd03e00000,
  entry 0x2f8e6 0x2f8e6 0xd22800000, entry 0x2f8e7 0x2f8e7 0x773a00000,
  entry 0x2f8e8 0x2f8e8 0xd28400000, entry 0x2f8e9 0x2f8e9 0xd34600000,
  entry 0x2f8ea 0x2f8ea 0xd3d400000, entry 0x2f8eb 0x2f8eb 0xd55000000,
  entry 0x2f8ec 0x2f8ec 0x46d4600000, entry 0x2f8ed 0x2f8ed 0xd5b600000,
  entry 0x2f8ee 0x2f8ee 0x783000000, entry 0x2f8ef 0x2f8ef 0xd64200000,
  entry 0x2f8f0 0x2f8f0 0x4714e00000, entry 0x2f8f1 0x2f8f1 0xd6a800000,
  entry 0x2f8f2 0x2f8f2 0x789c00000, entry 0x2f8f3 0x2f8f3 0xd6e400000,
  entry 0x2f8f4 0x2f8f4 0xd73e00000, entry 0x2f8f5 0x2f8f5 0xd77400000,
  entry 0x2f8f6 0x2f8f6 0xd77600000, entry 0x2f8f7 0x2f8f7 0x4751a00000,
  entry 0x2f8f8 0x2f8f8 0x43a1600000, entry 0x2f8f9 0x2f8f9 0x475f400000,
  entry 0x2f8fa 0x2f8fa 0xd89c00000, entry 0x2f8fb 0x2f8fb 0x4797800000,
  entry 0x2f8fc 0x2f8fc 0xd97e00000, entry 0x2f8fd 0x2f8fd 0xd99a00000,
  entry 0x2f8fe 0x2f8fe 0xd8ce00000, entry 0x2f8ff 0x2f8ff 0xda2c00000,
  entry 0x2f900 0x2f900 0xda7c00000, entry 0x2f901 0x2f901 0xdaee00000,
  entry 0x2f902 0x2f902 0xda8200000, entry 0x2f903 0x2f903 0xdad200000,
  entry 0x2f904 0x2f904 0xdaf000000, entry 0x2f905 0x2f905 0xdb0a00000,
  entry 0x2f906 0x2f906 0x47a3c00000, entry 0x2f907 0x2f907 0xda6800000,
  entry 0x2f908 0x2f908 0xdc5e00000, entry 0x2f909 0x2f909 0xdcdc00000,
  entry 0x2f90a 0x2f90a 0x7a6600000, entry 0x2f90b 0x2f90b 0xdd9600000,
  entry 0x2f90c 0x2f90c 0xdd8e00000, entry 0x2f90d 0x2f90d 0x47da200000,
  entry 0x2f90e 0x2f90e 0xdbf200000, entry 0x2f90f 0x2f90f 0xdedc00000,
  entry 0x2f910 0x2f910 0x47ebc00000, entry 0x2f911 0x2f911 0x47f1c00000,
  entry 0x2f912 0x2f912 0xdf8c00000, entry 0x2f913 0x2f913 0xe07200000,
  entry 0x2f914 0x2f914 0xe03c00000, entry 0x2f915 0x2f915 0xe03600000,
  entry 0x2f916 0x2f916 0x7b2c00000, entry 0x2f917 0x2f917 0xe09400000,
  entry 0x2f918 0x2f918 0xe0fa00000, entry 0x2f919 0x2f919 0xe0ee00000,
  entry 0x2f91a 0x2f91a 0xe15a00000, entry 0x2f91b 0x2f91b 0x40a4a00000,
  entry 0x2f91c 0x2f91c 0xe28a00000, entry 0x2f91d 0x2f91d 0x484c600000,
  entry 0x2f91e 0x2f91e 0xe33800000, entry 0x2f91f 0x2f91f 0x4875600000,
  entry 0x2f920 0x2f920 0xe45000000, entry 0x2f921 0x2f921 0xe46a00000,
  entry 0x2f922 0x2f922 0xe4a000000, entry 0x2f923 0x2f923 0x48c1000000,
  entry 0x2f924 0x2f924 0xe50000000, entry 0x2f925 0x2f925 0xe52a00000,
  entry 0x2f926 0x2f926 0x48e6a00000, entry 0x2f927 0x2f927 0x4902800000,
  entry 0x2f928 0x2f928 0xe6f400000, entry 0x2f929 0x2f929 0xe71600000,
  entry 0x2f92a 0x2f92a 0x7d5800000, entry 0x2f92b 0x2f92b 0xe74a00000,
  entry 0x2f92c 0x2f92c 0x7d7000000, entry 0x2f92d 0x2f92d 0x7d7000000,
  entry 0x2f92e 0x2f92e 0xe88e00000, entry 0x2f92f 0x2f92f 0xe8b800000,
  entry 0x2f930 0x2f930 0xe8e200000, entry 0x2f931 0x2f931 0xe90a00000,
  entry 0x2f932 0x2f932 0xe99400000, entry 0x2f933 0x2f933 0x7e3600000,
  entry 0x2f934 0x2f934 0xea4800000, entry 0x2f935 0x2f935 0x4986c00000,
  entry 0x2f936 0x2f936 0xea7c00000, entry 0x2f937 0x2f937 0x4992400000,
  entry 0x2f938 0x2f938 0xeae000000, entry 0x2f939 0x2f939 0x4433e00000,
  entry 0x2f93a 0x2f93a 0xec2000000, entry 0x2f93b 0x2f93b 0x49f4200000,
  entry 0x2f93c 0x2f93c 0x49f7000000, entry 0x2f93d 0x2f93d 0x4a08800000,
  entry 0x2f93e 0x2f93e 0x7ff800000, entry 0x2f93f 0x2f93f 0x801000000,
  entry 0x2f940 0x2f940 0xede800000, entry 0x2f941 0x2f941 0x4a1e600000,
  entry 0x2f942 0x2f942 0x4a1e400000, entry 0x2f943 0x2f943 0x4a23200000,
  entry 0x2f944 0x2f944 0x4a26600000, entry 0x2f945 0x2f945 0xee3c00000,
  entry 0x2f946 0x2f946 0xee3e00000, entry 0x2f947 0x2f947 0xee3e00000,
  entry 0x2f948 0x2f948 0xee9400000, entry 0x2f949 0x2f949 0x807200000,
  entry 0x2f94a 0x2f94a 0xef1600000, entry 0x2f94b 0x2f94b 0x808c00000,
  entry 0x2f94c 0x2f94c 0x812c00000, entry 0x2f94d 0x2f94d 0x4a83a00000,
  entry 0x2f94e 0x2f94e 0xf09c00000, entry 0x2f94f 0x2f94f 0xf11800000,
  entry 0x2f950 0x2f950 0xf19800000, entry 0x2f951 0x2f951 0x81c600000,
  entry 0x2f952 0x2f952 0x4ac4c00000, entry 0x2f953 0x2f953 0xf2ac00000,
  entry 0x2f954 0x2f954 0x4ad3400000, entry 0x2f955 0x2f955 0x4ad8a00000,
  entry 0x2f956 0x2f956 0xf31e00000, entry 0x2f957 0x2f957 0xf3d600000,
  entry 0x2f958 0x2f958 0x825e00000, entry 0x2f959 0x2f959 0xf48000000,
  entry 0x2f95a 0x2f95a 0xf49400000, entry 0x2f95b 0x2f95b 0xf49e00000,
  entry 0x2f95c 0x2f95c 0x4b2f800000, entry 0x2f95d 0x2f95d 0x4b54e00000,
  entry 0x2f95e 0x2f95e 0x4b54e00000, entry 0x2f95f 0x2f95f 0xf5dc00000,
  entry 0x2f960 0x2f960 0x840400000, entry 0x2f961 0x2f961 0x4b75600000,
  entry 0x2f962 0x2f962 0xf78c00000, entry 0x2f963 0x2f963 0xf79200000,
  entry 0x2f964 0x2f964 0x844e00000, entry 0x2f965 0x2f965 0x4b90000000,
  entry 0x2f966 0x2f966 0xf9a400000, entry 0x2f967 0x2f967 0x854000000,
  entry 0x2f968 0x2f968 0xf9d000000, entry 0x2f969 0x2f969 0xf9c600000,
  entry 0x2f96a 0x2f96a 0xfa0000000, entry 0x2f96b 0x2f96b 0x4bf0c00000,
  entry 0x2f96c 0x2f96c 0xfac600000, entry 0x2f96d 0x2f96d 0x860200000,
  entry 0x2f96e 0x2f96e 0xfb8e00000, entry 0x2f96f 0x2f96f 0xfc0400000,
  entry 0x2f970 0x2f970 0xfc8a00000, entry 0x2f971 0x2f971 0x866800000,
  entry 0x2f972 0x2f972 0x4c45000000, entry 0x2f973 0x2f973 0x4c48e00000,
  entry 0x2f974 0x2f974 0x86b200000, entry 0x2f975 0x2f975 0x4c5b200000,
  entry 0x2f976 0x2f976 0xfef400000, entry 0x2f977 0x2f977 0x4c67c00000,
  entry 0x2f978 0x2f978 0xff2a00000, entry 0x2f979 0x2f979 0xfff400000,
  entry 0x2f97a 0x2f97a 0x1000a00000, entry 0x2f97b 0x2f97b 0x4c9b400000,
  entry 0x2f97c 0x2f97c 0x4ca4600000, entry 0x2f97d 0x2f97d 0x100c000000,
  entry 0x2f97e 0x2f97e 0x4cb5000000, entry 0x2f97f 0x2f97f 0x100e000000,
  entry 0x2f980 0x2f980 0x466be00000, entry 0x2f981 0x2f981 0x87aa00000,
  entry 0x2f982 0x2f982 0x1016400000, entry 0x2f983 0x2f983 0x1020600000,
  entry 0x2f984 0x2f984 0x881600000, entry 0x2f985 0x2f985 0x1027c00000,
  entry 0x2f986 0x2f986 0xb56a00000, entry 0x2f987 0x2f987 0x4cf4e00000,
  entry 0x2f988 0x2f988 0x4cf6a00000, entry 0x2f989 0x2f989 0x4672600000,
  entry 0x2f98a 0x2f98a 0x4673800000, entry 0x2f98b 0x2f98b 0x1040200000,
  entry 0x2f98c 0x2f98c 0x1040800000, entry 0x2f98d 0x2f98d 0x11f3c00000,
  entry 0x2f98e 0x2f98e 0x88d600000, entry 0x2f98f 0x2f98f 0x1052200000,
  entry 0x2f990 0x2f990 0x1051600000, entry 0x2f991 0x2f991 0x1053a00000,
  entry 0x2f992 0x2f992 0xa56600000, entry 0x2f993 0x2f993 0x1056200000,
  entry 0x2f994 0x2f994 0x1056600000, entry 0x2f995 0x2f995 0x1057a00000,
  entry 0x2f996 0x2f996 0x105cc00000, entry 0x2f997 0x2f997 0x4d67800000,
  entry 0x2f998 0x2f998 0x105ca00000, entry 0x2f999 0x2f999 0x1063a00000,
  entry 0x2f99a 0x2f99a 0x106c600000, entry 0x2f99b 0x2f99b 0x1075a00000,
  entry 0x2f99c 0x2f99c 0x1064600000, entry 0x2f99d 0x2f99d 0x1077a00000,
  entry 0x2f99e 0x2f99e 0x107ce00000, entry 0x2f99f 0x2f99f 0x108ae00000,
  entry 0x2f9a0 0x2f9a0 0x106a600000, entry 0x2f9a1 0x2f9a1 0x1079400000,
  entry 0x2f9a2 0x2f9a2 0x1079800000, entry 0x2f9a3 0x2f9a3 0x107b800000,
  entry 0x2f9a4 0x2f9a4 0x4d86c00000, entry 0x2f9a5 0x2f9a5 0x4dad600000,
  entry 0x2f9a6 0x2f9a6 0x4d9aa00000, entry 0x2f9a7 0x2f9a7 0x8a5600000,
  entry 0x2f9a8 0x2f9a8 0x109e200000, entry 0x2f9a9 0x2f9a9 0x109e600000,
  entry 0x2f9aa 0x2f9aa 0x10a2c00000, entry 0x2f9ab 0x2f9ab 0x4e79400000,
  entry 0x2f9ac 0x2f9ac 0x10ac800000, entry 0x2f9ad 0x2f9ad 0x4de5800000,
  entry 0x2f9ae 0x2f9ae 0x8aba00000, entry 0x2f9af 0x2f9af 0x8ac200000,
  entry 0x2f9b0 0x2f9b0 0x4df6200000, entry 0x2f9b1 0x2f9b1 0x4e1a400000,
  entry 0x2f9b2 0x2f9b2 0x8ad600000, entry 0x2f9b3 0x2f9b3 0x10ca000000,
  entry 0x2f9b4 0x2f9b4 0x10cb800000, entry 0x2f9b5 0x2f9b5 0x10cce00000,
  entry 0x2f9b6 0x2f9b6 0x10cd200000, entry 0x2f9b7 0x2f9b7 0x10d5200000,
  entry 0x2f9b8 0x2f9b8 0x10d1000000, entry 0x2f9b9 0x2f9b9 0x10e1c00000,
  entry 0x2f9ba 0x2f9ba 0x10dc400000, entry 0x2f9bb 0x2f9bb 0x10ef200000,
  entry 0x2f9bc 0x2f9bc 0x10e5000000, entry 0x2f9bd 0x2f9bd 0x10ed600000,
  entry 0x2f9be 0x2f9be 0x10f0c00000, entry 0x2f9bf 0x2f9bf 0x8bae00000,
  entry 0x2f9c0 0x2f9c0 0x10fc200000, entry 0x2f9c1 0x2f9c1 0x1100200000,
  entry 0x2f9c2 0x2f9c2 0x8bf200000, entry 0x2f9c3 0x2f9c3 0x110c000000,
  entry 0x2f9c4 0x2f9c4 0x110c600000, entry 0x2f9c5 0x2f9c5 0x4ecce00000,
  entry 0x2f9c6 0x2f9c6 0x111ae00000, entry 0x2f9c7 0x2f9c7 0x111bc00000,
  entry 0x2f9c8 0x2f9c8 0x8c6a00000, entry 0x2f9c9 0x2f9c9 0x111f400000,
  entry 0x2f9ca 0x2f9ca 0x697600000, entry 0x2f9cb 0x2f9cb 0x4f15c00000,
  entry 0x2f9cc 0x2f9cc 0x4f2cc00000, entry 0x2f9cd 0x2f9cd 0x8d7c00000,
  entry 0x2f9ce 0x2f9ce 0x8d8e00000, entry 0x2f9cf 0x2f9cf 0x1154000000,
  entry 0x2f9d0 0x2f9d0 0x115da00000, entry 0x2f9d1 0x2f9d1 0x1171400000,
  entry 0x2f9d2 0x2f9d2 0x118aa00000, entry 0x2f9d3 0x2f9d3 0x4f95000000,
  entry 0x2f9d4 0x2f9d4 0x1195600000, entry 0x2f9d5 0x2f9d5 0x1198200000,
  entry 0x2f9d6 0x2f9d6 0x11a3600000, entry 0x2f9d7 0x2f9d7 0x11aee00000,
  entry 0x2f9d8 0x2f9d8 0x4fe5e00000, entry 0x2f9d9 0x2f9d9 0x4100800000,
  entry 0x2f9da 0x2f9da 0x11b9600000, entry 0x2f9db 0x2f9db 0x11b7800000,
  entry 0x2f9dc 0x2f9dc 0x11be000000, entry 0x2f9dd 0x2f9dd 0x411bc00000,
  entry 0x2f9de 0x2f9de 0x11da800000, entry 0x2f9df 0x2f9df 0x11e7000000,
  entry 0x2f9e0 0x2f9e0 0x50ba400000, entry 0x2f9e1 0x2f9e1 0x50bda00000,
  entry 0x2f9e2 0x2f9e2 0x1212800000, entry 0x2f9e3 0x2f9e3 0x121e200000,
  entry 0x2f9e4 0x2f9e4 0x1222200000, entry 0x2f9e5 0x2f9e5 0x50e5c00000,
  entry 0x2f9e6 0x2f9e6 0x1223600000, entry 0x2f9e7 0x2f9e7 0x1247000000,
  entry 0x2f9e8 0x2f9e8 0x125ae00000, entry 0x2f9e9 0x2f9e9 0x125b000000,
  entry 0x2f9ea 0x2f9ea 0x124f800000, entry 0x2f9eb 0x2f9eb 0x127f200000,
  entry 0x2f9ec 0x2f9ec 0x1282a00000, entry 0x2f9ed 0x2f9ed 0x517f400000,
  entry 0x2f9ee 0x2f9ee 0x12b1600000, entry 0x2f9ef 0x2f9ef 0x932a00000,
  entry 0x2f9f0 0x2f9f0 0x12b6e00000, entry 0x2f9f1 0x2f9f1 0x51aee00000,
  entry 0x2f9f2 0x2f9f2 0x93cc00000, entry 0x2f9f3 0x2f9f3 0x12d8600000,
  entry 0x2f9f4 0x2f9f4 0xbb6400000, entry 0x2f9f5 0x2f9f5 0x12e4600000,
  entry 0x2f9f6 0x2f9f6 0x5228a00000, entry 0x2f9f7 0x2f9f7 0x5243400000,
  entry 0x2f9f8 0x2f9f8 0x94dc00000, entry 0x2f9f9 0x2f9f9 0x94ec00000,
  entry 0x2f9fa 0x2f9fa 0x12fc000000, entry 0x2f9fb 0x2f9fb 0x5281400000,
  entry 0x2f9fc 0x2f9fc 0x956400000, entry 0x2f9fd 0x2f9fd 0x5292c00000,
  entry 0x2f9fe 0x2f9fe 0x1301600000, entry 0x2f9ff 0x2f9ff 0x1301600000,
  entry 0x2fa00 0x2fa00 0x1305200000, entry 0x2fa01 0x2fa01 0x52b6c00000,
  entry 0x2fa02 0x2fa02 0x131c400000, entry 0x2fa03 0x2fa03 0x966600000,
  entry 0x2fa04 0x2fa04 0x1325200000, entry 0x2fa05 0x2fa05 0x1334e00000,
  entry 0x2fa06 0x2fa06 0x1338400000, entry 0x2fa07 0x2fa07 0x133fc00000,
  entry 0x2fa08 0x2fa08 0x979c00000, entry 0x2fa09 0x2fa09 0x5366000000,
  entry 0x2fa0a 0x2fa0a 0x1362400000, entry 0x2fa0b 0x2fa0b 0x1388000000,
  entry 0x2fa0c 0x2fa0c 0x139fa00000, entry 0x2fa0d 0x2fa0d 0x999c00000,
  entry 0x2fa0e 0x2fa0e 0x99da00000, entry 0x2fa0f 0x2fa0f 0x13ace00000,
  entry 0x2fa10 0x2fa10 0x5419c00000, entry 0x2fa11 0x2fa11 0x99f000000,
  entry 0x2fa12 0x2fa12 0x5420a00000, entry 0x2fa13 0x2fa13 0x5441c00000,
  entry 0x2fa14 0x2fa14 0x5452200000, entry 0x2fa15 0x2fa15 0x13d7600000,
  entry 0x2fa16 0x2fa16 0x9aac00000, entry 0x2fa17 0x2fa17 0x13df200000,
  entry 0x2fa18 0x2fa18 0x13dfc00000, entry 0x2fa19 0x2fa19 0x13e0a00000,
  entry 0x2fa1a 0x2fa1a 0x13e1e00000, entry 0x2fa1b 0x2fa1b 0x13e2c00000,
  entry 0x2fa1c 0x2fa1c 0x13e7600000, entry 0x2fa1d 0x2fa1d 0x54c0000000]⟩

set_option maxRecDepth 20000 in
/-- Primary composite of each composable pair. -/
def compositions : RangeTable := ⟨#[
  entry 0x7800338 0x7800338 0x226e, entry 0x7a00338 0x7a00338 0x2260,
  entry 0x7c00338 0x7c00338 0x226f, entry 0x8200300 0x8200300 0xc0, entry 0x8200301 0x8200301 0xc1,
  entry 0x8200302 0x8200302 0xc2, entry 0x8200303 0x8200303 0xc3, entry 0x8200304 0x8200304 0x100,
  entry 0x8200306 0x8200306 0x102, entry 0x8200307 0x8200307 0x226, entry 0x8200308 0x8200308 0xc4,
  entry 0x8200309 0x8200309 0x1ea2, entry 0x820030a 0x820030a 0xc5,
  entry 0x820030c 0x820030c 0x1cd, entry 0x820030f 0x820030f 0x200,
  entry 0x8200311 0x8200311 0x202, entry 0x8200323 0x8200323 0x1ea0,
  entry 0x8200325 0x8200325 0x1e00, entry 0x8200328 0x8200328 0x104,
  entry 0x8400307 0x8400307 0x1e02, entry 0x8400323 0x8400323 0x1e04,
  entry 0x8400331 0x8400331 0x1e06, entry 0x8600301 0x8600301 0x106,
  entry 0x8600302 0x8600302 0x108, entry 0x8600307 0x8600307 0x10a,
  entry 0x860030c 0x860030c 0x10c, entry 0x8600327 0x8600327 0xc7,
  entry 0x8800307 0x8800307 0x1e0a, entry 0x880030c 0x880030c 0x10e,
  entry 0x8800323 0x8800323 0x1e0c, entry 0x8800327 0x8800327 0x1e10,
  entry 0x880032d 0x880032d 0x1e12, entry 0x8800331 0x8800331 0x1e0e,
  entry 0x8a00300 0x8a00300 0xc8, entry 0x8a00301 0x8a00301 0xc9, entry 0x8a00302 0x8a00302 0xca,
  entry 0x8a00303 0x8a00303 0x1ebc, entry 0x8a00304 0x8a00304 0x112,
  entry 0x8a00306 0x8a00306 0x114, entry 0x8a00307 0x8a00307 0x116, entry 0x8a00308 0x8a00308 0xcb,
  entry 0x8a00309 0x8a00309 0x1eba, entry 0x8a0030c 0x8a0030c 0x11a,
  entry 0x8a0030f 0x8a0030f 0x204, entry 0x8a00311 0x8a00311 0x206,
  entry 0x8a00323 0x8a00323 0x1eb8, entry 0x8a00327 0x8a00327 0x228,
  entry 0x8a00328 0x8a00328 0x118, entry 0x8a0032d 0x8a0032d 0x1e18,
  entry 0x8a00330 0x8a00330 0x1e1a, entry 0x8c00307 0x8c00307 0x1e1e,
  entry 0x8e00301 0x8e00301 0x1f4, entry 0x8e00302 0x8e00302 0x11c,
  entry 0x8e00304 0x8e00304 0x1e20, entry 0x8e00306 0x8e00306 0x11e,
  entry 0x8e00307 0x8e00307 0x120, entry 0x8e0030c 0x8e0030c 0x1e6,
  entry 0x8e00327 0x8e00327 0x122, entry 0x9000302 0x9000302 0x124,
  entry 0x9000307 0x9000307 0x1e22, entry 0x9000308 0x9000308 0x1e26,
  entry 0x900030c 0x900030c 0x21e, entry 0x9000323 0x9000323 0x1e24,
  entry 0x9000327 0x9000327 0x1e28, entry 0x900032e 0x900032e 0x1e2a,
  entry 0x9200300 0x9200300 0xcc, entry 0x9200301 0x9200301 0xcd, entry 0x9200302 0x9200302 0xce,
  entry 0x9200303 0x9200303 0x128, entry 0x9200304 0x9200304 0x12a,
  entry 0x9200306 0x9200306 0x12c, entry 0x9200307 0x9200307 0x130, entry 0x9200308 0x9200308 0xcf,
  entry 0x9200309 0x9200309 0x1ec8, entry 0x920030c 0x920030c 0x1cf,
  entry 0x920030f 0x920030f 0x208, entry 0x9200311 0x9200311 0x20a,
  entry 0x9200323 0x9200323 0x1eca, entry 0x9200328 0x9200328 0x12e,
  entry 0x9200330 0x9200330 0x1e2c, entry 0x9400302 0x9400302 0x134,
  entry 0x9600301 0x9600301 0x1e30, entry 0x960030c 0x960030c 0x1e8,
  entry 0x9600323 0x9600323 0x1e32, entry 0x9600327 0x9600327 0x136,
  entry 0x9600331 0x9600331 0x1e34, entry 0x9800301 0x9800301 0x139,
  entry 0x980030c 0x980030c 0x13d, entry 0x9800323 0x9800323 0x1e36,
  entry 0x9800327 0x9800327 0x13b, entry 0x980032d 0x980032d 0x1e3c,
  entry 0x9800331 0x9800331 0x1e3a, entry 0x9a00301 0x9a00301 0x1e3e,
  entry 0x9a00307 0x9a00307 0x1e40, entry 0x9a00323 0x9a00323 0x1e42,
  entry 0x9c00300 0x9c00300 0x1f8, entry 0x9c00301 0x9c00301 0x143, entry 0x9c00303 0x9c00303 0xd1,
  entry 0x9c00307 0x9c00307 0x1e44, entry 0x9c0030c 0x9c0030c 0x147,
  entry 0x9c00323 0x9c00323 0x1e46, entry 0x9c00327 0x9c00327 0x145,
  entry 0x9c0032d 0x9c0032d 0x1e4a, entry 0x9c00331 0x9c00331 0x1e48,
  entry 0x9e00300 0x9e00300 0xd2, entry 0x9e00301 0x9e00301 0xd3, entry 0x9e00302 0x9e00302 0xd4,
  entry 0x9e00303 0x9e00303 0xd5, entry 0x9e00304 0x9e00304 0x14c, entry 0x9e00306 0x9e00306 0x14e,
  entry 0x9e00307 0x9e00307 0x22e, entry 0x9e00308 0x9e00308 0xd6,
  entry 0x9e00309 0x9e00309 0x1ece, entry 0x9e0030b 0x9e0030b 0x150,
  entry 0x9e0030c 0x9e0030c 0x1d1, entry 0x9e0030f 0x9e0030f 0x20c,
  entry 0x9e00311 0x9e00311 0x20e, entry 0x9e0031b 0x9e0031b 0x1a0,
  entry 0x9e00323 0x9e00323 0x1ecc, entry 0x9e00328 0x9e00328 0x1ea,
  entry 0xa000301 0xa000301 0x1e54, entry 0xa000307 0xa000307 0x1e56,
  entry 0xa400301 0xa400301 0x154, entry 0xa400307 0xa400307 0x1e58,
  entry 0xa40030c 0xa40030c 0x158, entry 0xa40030f 0xa40030f 0x210,
  entry 0xa400311 0xa400311 0x212, entry 0xa400323 0xa400323 0x1e5a,
  entry 0xa400327 0xa400327 0x156, entry 0xa400331 0xa400331 0x1e5e,
  entry 0xa600301 0xa600301 0x15a, entry 0xa600302 0xa600302 0x15c,
  entry 0xa600307 0xa600307 0x1e60, entry 0xa60030c 0xa60030c 0x160,
  entry 0xa600323 0xa600323 0x1e62, entry 0xa600326 0xa600326 0x218,
  entry 0xa600327 0xa600327 0x15e, entry 0xa800307 0xa800307 0x1e6a,
  entry 0xa80030c 0xa80030c 0x164, entry 0xa800323 0xa800323 0x1e6c,
  entry 0xa800326 0xa800326 0x21a, entry 0xa800327 0xa800327 0x162,
  entry 0xa80032d 0xa80032d 0x1e70, entry 0xa800331 0xa800331 0x1e6e,
  entry 0xaa00300 0xaa00300 0xd9, entry 0xaa00301 0xaa00301 0xda, entry 0xaa00302 0xaa00302 0xdb,
  entry 0xaa00303 0xaa00303 0x168, entry 0xaa00304 0xaa00304 0x16a,
  entry 0xaa00306 0xaa00306 0x16c, entry 0xaa00308 0xaa00308 0xdc,
  entry 0xaa00309 0xaa00309 0x1ee6, entry 0xaa0030a 0xaa0030a 0x16e,
  entry 0xaa0030b 0xaa0030b 0x170, entry 0xaa0030c 0xaa0030c 0x1d3,
  entry 0xaa0030f 0xaa0030f 0x214, entry 0xaa00311 0xaa00311 0x216,
  entry 0xaa0031b 0xaa0031b 0x1af, entry 0xaa00323 0xaa00323 0x1ee4,
  entry 0xaa00324 0xaa00324 0x1e72, entry 0xaa00328 0xaa00328 0x172,
  entry 0xaa0032d 0xaa0032d 0x1e76, entry 0xaa00330 0xaa00330 0x1e74,
  entry 0xac00303 0xac00303 0x1e7c, entry 0xac00323 0xac00323 0x1e7e,
  entry 0xae00300 0xae00300 0x1e80, entry 0xae00301 0xae00301 0x1e82,
  entry 0xae00302 0xae00302 0x174, entry 0xae00307 0xae00307 0x1e86,
  entry 0xae00308 0xae00308 0x1e84, entry 0xae00323 0xae00323 0x1e88,
  entry 0xb000307 0xb000307 0x1e8a, entry 0xb000308 0xb000308 0x1e8c,
  entry 0xb200300 0xb200300 0x1ef2, entry 0xb200301 0xb200301 0xdd,
  entry 0xb200302 0xb200302 0x176, entry 0xb200303 0xb200303 0x1ef8,
  entry 0xb200304 0xb200304 0x232, entry 0xb200307 0xb200307 0x1e8e,
  entry 0xb200308 0xb200308 0x178, entry 0xb200309 0xb200309 0x1ef6,
  entry 0xb200323 0xb200323 0x1ef4, entry 0xb400301 0xb400301 0x179,
  entry 0xb400302 0xb400302 0x1e90, entry 0xb400307 0xb400307 0x17b,
  entry 0xb40030c 0xb40030c 0x17d, entry 0xb400323 0xb400323 0x1e92,
  entry 0xb400331 0xb400331 0x1e94, entry 0xc200300 0xc200300 0xe0, entry 0xc200301 0xc200301 0xe1,
  entry 0xc200302 0xc200302 0xe2, entry 0xc200303 0xc200303 0xe3, entry 0xc200304 0xc200304 0x101,
  entry 0xc200306 0xc200306 0x103, entry 0xc200307 0xc200307 0x227, entry 0xc200308 0xc200308 0xe4,
  entry 0xc200309 0xc200309 0x1ea3, entry 0xc20030a 0xc20030a 0xe5,
  entry 0xc20030c 0xc20030c 0x1ce, entry 0xc20030f 0xc20030f 0x201,
  entry 0xc200311 0xc200311 0x203, entry 0xc200323 0xc200323 0x1ea1,
  entry 0xc200325 0xc200325 0x1e01, entry 0xc200328 0xc200328 0x105,
  entry 0xc400307 0xc400307 0x1e03, entry 0xc400323 0xc400323 0x1e05,
  entry 0xc400331 0xc400331 0x1e07, entry 0xc600301 0xc600301 0x107,
  entry 0xc600302 0xc600302 0x109, entry 0xc600307 0xc600307 0x10b,
  entry 0xc60030c 0xc60030c 0x10d, entry 0xc600327 0xc600327 0xe7,
  entry 0xc800307 0xc800307 0x1e0b, entry 0xc80030c 0xc80030c 0x10f,
  entry 0xc800323 0xc800323 0x1e0d, entry 0xc800327 0xc800327 0x1e11,
  entry 0xc80032d 0xc80032d 0x1e13, entry 0xc800331 0xc800331 0x1e0f,
  entry 0xca00300 0xca00300 0xe8, entry 0xca00301 0xca00301 0xe9, entry 0xca00302 0xca00302 0xea,
  entry 0xca00303 0xca00303 0x1ebd, entry 0xca00304 0xca00304 0x113,
  entry 0xca00306 0xca00306 0x115, entry 0xca00307 0xca00307 0x117, entry 0xca00308 0xca00308 0xeb,
  entry 0xca00309 0xca00309 0x1ebb, entry 0xca0030c 0xca0030c 0x11b,
  entry 0xca0030f 0xca0030f 0x205, entry 0xca00311 0xca00311 0x207,
  entry 0xca00323 0xca00323 0x1eb9, entry 0xca00327 0xca00327 0x229,
  entry 0xca00328 0xca00328 0x119, entry 0xca0032d 0xca0032d 0x1e19,
  entry 0xca00330 0xca00330 0x1e1b, entry 0xcc00307 0xcc00307 0x1e1f,
  entry 0xce00301 0xce00301 0x1f5, entry 0xce00302 0xce00302 0x11d,
  entry 0xce00304 0xce00304 0x1e21, entry 0xce00306 0xce00306 0x11f,
  entry 0xce00307 0xce00307 0x121, entry 0xce0030c 0xce0030c 0x1e7,
  entry 0xce00327 0xce00327 0x123, entry 0xd000302 0xd000302 0x125,
  entry 0xd000307 0xd000307 0x1e23, entry 0xd000308 0xd000308 0x1e27,
  entry 0xd00030c 0xd00030c 0x21f, entry 0xd000323 0xd000323 0x1e25,
  entry 0xd000327 0xd000327 0x1e29, entry 0xd00032e 0xd00032e 0x1e2b,
  entry 0xd000331 0xd000331 0x1e96, entry 0xd200300 0xd200300 0xec, entry 0xd200301 0xd200301 0xed,
  entry 0xd200302 0xd200302 0xee, entry 0xd200303 0xd200303 0x129, entry 0xd200304 0xd200304 0x12b,
  entry 0xd200306 0xd200306 0x12d, entry 0xd200308 0xd200308 0xef,
  entry 0xd200309 0xd200309 0x1ec9, entry 0xd20030c 0xd20030c 0x1d0,
  entry 0xd20030f 0xd20030f 0x209, entry 0xd200311 0xd200311 0x20b,
  entry 0xd200323 0xd200323 0x1ecb, entry 0xd200328 0xd200328 0x12f,
  entry 0xd200330 0xd200330 0x1e2d, entry 0xd400302 0xd400302 0x135,
  entry 0xd40030c 0xd40030c 0x1f0, entry 0xd600301 0xd600301 0x1e31,
  entry 0xd60030c 0xd60030c 0x1e9, entry 0xd600323 0xd600323 0x1e33,
  entry 0xd600327 0xd600327 0x137, entry 0xd600331 0xd600331 0x1e35,
  entry 0xd800301 0xd800301 0x13a, entry 0xd80030c 0xd80030c 0x13e,
  entry 0xd800323 0xd800323 0x1e37, entry 0xd800327 0xd800327 0x13c,
  entry 0xd80032d 0xd80032d 0x1e3d, entry 0xd800331 0xd800331 0x1e3b,
  entry 0xda00301 0xda00301 0x1e3f, entry 0xda00307 0xda00307 0x1e41,
  entry 0xda00323 0xda00323 0x1e43, entry 0xdc00300 0xdc00300 0x1f9,
  entry 0xdc00301 0xdc00301 0x144, entry 0xdc00303 0xdc00303 0xf1,
  entry 0xdc00307 0xdc00307 0x1e45, entry 0xdc0030c 0xdc0030c 0x148,
  entry 0xdc00323 0xdc00323 0x1e47, entry 0xdc00327 0xdc00327 0x146,
  entry 0xdc0032d 0xdc0032d 0x1e4b, entry 0xdc00331 0xdc00331 0x1e49,
  entry 0xde00300 0xde00300 0xf2, entry 0xde00301 0xde00301 0xf3, entry 0xde00302 0xde00302 0xf4,
  entry 0xde00303 0xde00303 0xf5, entry 0xde00304 0xde00304 0x14d, entry 0xde00306 0xde00306 0x14f,
  entry 0xde00307 0xde00307 0x22f, entry 0xde00308 0xde00308 0xf6,
  entry 0xde00309 0xde00309 0x1ecf, entry 0xde0030b 0xde0030b 0x151,
  entry 0xde0030c 0xde0030c 0x1d2, entry 0xde0030f 0xde0030f 0x20d,
  entry 0xde00311 0xde00311 0x20f, entry 0xde0031b 0xde0031b 0x1a1,
  entry 0xde00323 0xde00323 0x1ecd, entry 0xde00328 0xde00328 0x1eb,
  entry 0xe000301 0xe000301 0x1e55, entry 0xe000307 0xe000307 0x1e57,
  entry 0xe400301 0xe400301 0x155, entry 0xe400307 0xe400307 0x1e59,
  entry 0xe40030c 0xe40030c 0x159, entry 0xe40030f 0xe40030f 0x211,
  entry 0xe400311 0xe400311 0x213, entry 0xe400323 0xe400323 0x1e5b,
  entry 0xe400327 0xe400327 0x157, entry 0xe400331 0xe400331 0x1e5f,
  entry 0xe600301 0xe600301 0x15b, entry 0xe600302 0xe600302 0x15d,
  entry 0xe600307 0xe600307 0x1e61, entry 0xe60030c 0xe60030c 0x161,
  entry 0xe600323 0xe600323 0x1e63, entry 0xe600326 0xe600326 0x219,
  entry 0xe600327 0xe600327 0x15f, entry 0xe800307 0xe800307 0x1e6b,
  entry 0xe800308 0xe800308 0x1e97, entry 0xe80030c 0xe80030c 0x165,
  entry 0xe800323 0xe800323 0x1e6d, entry 0xe800326 0xe800326 0x21b,
  entry 0xe800327 0xe800327 0x163, entry 0xe80032d 0xe80032d 0x1e71,
  entry 0xe800331 0xe800331 0x1e6f, entry 0xea00300 0xea00300 0xf9, entry 0xea00301 0xea00301 0xfa,
  entry 0xea00302 0xea00302 0xfb, entry 0xea00303 0xea00303 0x169, entry 0xea00304 0xea00304 0x16b,
  entry 0xea00306 0xea00306 0x16d, entry 0xea00308 0xea00308 0xfc,
  entry 0xea00309 0xea00309 0x1ee7, entry 0xea0030a 0xea0030a 0x16f,
  entry 0xea0030b 0xea0030b 0x171, entry 0xea0030c 0xea0030c 0x1d4,
  entry 0xea0030f 0xea0030f 0x215, entry 0xea00311 0xea00311 0x217,
  entry 0xea0031b 0xea0031b 0x1b0, entry 0xea00323 0xea00323 0x1ee5,
  entry 0xea00324 0xea00324 0x1e73, entry 0xea00328 0xea00328 0x173,
  entry 0xea0032d 0xea0032d 0x1e77, entry 0xea00330 0xea00330 0x1e75,
  entry 0xec00303 0xec00303 0x1e7d, entry 0xec00323 0xec00323 0x1e7f,
  entry 0xee00300 0xee00300 0x1e81, entry 0xee00301 0xee00301 0x1e83,
  entry 0xee00302 0xee00302 0x175, entry 0xee00307 0xee00307 0x1e87,
  entry 0xee00308 0xee00308 0x1e85, entry 0xee0030a 0xee0030a 0x1e98,
  entry 0xee00323 0xee00323 0x1e89, entry 0xf000307 0xf000307 0x1e8b,
  entry 0xf000308 0xf000308 0x1e8d, entry 0xf200300 0xf200300 0x1ef3,
  entry 0xf200301 0xf200301 0xfd, entry 0xf200302 0xf200302 0x177,
  entry 0xf200303 0xf200303 0x1ef9, entry 0xf200304 0xf200304 0x233,
  entry 0xf200307 0xf200307 0x1e8f, entry 0xf200308 0xf200308 0xff,
  entry 0xf200309 0xf200309 0x1ef7, entry 0xf20030a 0xf20030a 0x1e99,
  entry 0xf200323 0xf200323 0x1ef5, entry 0xf400301 0xf400301 0x17a,
  entry 0xf400302 0xf400302 0x1e91, entry 0xf400307 0xf400307 0x17c,
  entry 0xf40030c 0xf40030c 0x17e, entry 0xf400323 0xf400323 0x1e93,
  entry 0xf400331 0xf400331 0x1e95, entry 0x15000300 0x15000300 0x1fed,
  entry 0x15000301 0x15000301 0x385, entry 0x15000342 0x15000342 0x1fc1,
  entry 0x18400300 0x18400300 0x1ea6, entry 0x18400301 0x18400301 0x1ea4,
  entry 0x18400303 0x18400303 0x1eaa, entry 0x18400309 0x18400309 0x1ea8,
  entry 0x18800304 0x18800304 0x1de, entry 0x18a00301 0x18a00301 0x1fa,
  entry 0x18c00301 0x18c00301 0x1fc, entry 0x18c00304 0x18c00304 0x1e2,
  entry 0x18e00301 0x18e00301 0x1e08, entry 0x19400300 0x19400300 0x1ec0,
  entry 0x19400301 0x19400301 0x1ebe, entry 0x19400303 0x19400303 0x1ec4,
  entry 0x19400309 0x19400309 0x1ec2, entry 0x19e00301 0x19e00301 0x1e2e,
  entry 0x1a800300 0x1a800300 0x1ed2, entry 0x1a800301 0x1a800301 0x1ed0,
  entry 0x1a800303 0x1a800303 0x1ed6, entry 0x1a800309 0x1a800309 0x1ed4,
  entry 0x1aa00301 0x1aa00301 0x1e4c, entry 0x1aa00304 0x1aa00304 0x22c,
  entry 0x1aa00308 0x1aa00308 0x1e4e, entry 0x1ac00304 0x1ac00304 0x22a,
  entry 0x1b000301 0x1b000301 0x1fe, entry 0x1b800300 0x1b800300 0x1db,
  entry 0x1b800301 0x1b800301 0x1d7, entry 0x1b800304 0x1b800304 0x1d5,
  entry 0x1b80030c 0x1b80030c 0x1d9, entry 0x1c400300 0x1c400300 0x1ea7,
  entry 0x1c400301 0x1c400301 0x1ea5, entry 0x1c400303 0x1c400303 0x1eab,
  entry 0x1c400309 0x1c400309 0x1ea9, entry 0x1c800304 0x1c800304 0x1df,
  entry 0x1ca00301 0x1ca00301 0x1fb, entry 0x1cc00301 0x1cc00301 0x1fd,
  entry 0x1cc00304 0x1cc00304 0x1e3, entry 0x1ce00301 0x1ce00301 0x1e09,
  entry 0x1d400300 0x1d400300 0x1ec1, entry 0x1d400301 0x1d400301 0x1ebf,
  entry 0x1d400303 0x1d400303 0x1ec5, entry 0x1d400309 0x1d400309 0x1ec3,
  entry 0x1de00301 0x1de00301 0x1e2f, entry 0x1e800300 0x1e800300 0x1ed3,
  entry 0x1e800301 0x1e800301 0x1ed1, entry 0x1e800303 0x1e800303 0x1ed7,
  entry 0x1e800309 0x1e800309 0x1ed5, entry 0x1ea00301 0x1ea00301 0x1e4d,
  entry 0x1ea00304 0x1ea00304 0x22d, entry 0x1ea00308 0x1ea00308 0x1e4f,
  entry 0x1ec00304 0x1ec00304 0x22b, entry 0x1f000301 0x1f000301 0x1ff,
  entry 0x1f800300 0x1f800300 0x1dc, entry 0x1f800301 0x1f800301 0x1d8,
  entry 0x1f800304 0x1f800304 0x1d6, entry 0x1f80030c 0x1f80030c 0x1da,
  entry 0x20400300 0x20400300 0x1eb0, entry 0x20400301 0x20400301 0x1eae,
  entry 0x20400303 0x20400303 0x1eb4, entry 0x20400309 0x20400309 0x1eb2,
  entry 0x20600300 0x20600300 0x1eb1, entry 0x20600301 0x20600301 0x1eaf,
  entry 0x20600303 0x20600303 0x1eb5, entry 0x20600309 0x20600309 0x1eb3,
  entry 0x22400300 0x22400300 0x1e14, entry 0x22400301 0x22400301 0x1e16,
  entry 0x22600300 0x22600300 0x1e15, entry 0x22600301 0x22600301 0x1e17,
  entry 0x29800300 0x29800300 0x1e50, entry 0x29800301 0x29800301 0x1e52,
  entry 0x29a00300 0x29a00300 0x1e51, entry 0x29a00301 0x29a00301 0x1e53,
  entry 0x2b400307 0x2b400307 0x1e64, entry 0x2b600307 0x2b600307 0x1e65,
  entry 0x2c000307 0x2c000307 0x1e66, entry 0x2c200307 0x2c200307 0x1e67,
  entry 0x2d000301 0x2d000301 0x1e78, entry 0x2d200301 0x2d200301 0x1e79,
  entry 0x2d400308 0x2d400308 0x1e7a, entry 0x2d600308 0x2d600308 0x1e7b,
  entry 0x2fe00307 0x2fe00307 0x1e9b, entry 0x34000300 0x34000300 0x1edc,
  entry 0x34000301 0x34000301 0x1eda, entry 0x34000303 0x34000303 0x1ee0,
  entry 0x34000309 0x34000309 0x1ede, entry 0x34000323 0x34000323 0x1ee2,
  entry 0x34200300 0x34200300 0x1edd, entry 0x34200301 0x34200301 0x1edb,
  entry 0x34200303 0x34200303 0x1ee1, entry 0x34200309 0x34200309 0x1edf,
  entry 0x34200323 0x34200323 0x1ee3, entry 0x35e00300 0x35e00300 0x1eea,
  entry 0x35e00301 0x35e00301 0x1ee8, entry 0x35e00303 0x35e00303 0x1eee,
  entry 0x35e00309 0x35e00309 0x1eec, entry 0x35e00323 0x35e00323 0x1ef0,
  entry 0x36000300 0x36000300 0x1eeb, entry 0x36000301 0x36000301 0x1ee9,
  entry 0x36000303 0x36000303 0x1eef, entry 0x36000309 0x36000309 0x1eed,
  entry 0x36000323 0x36000323 0x1ef1, entry 0x36e0030c 0x36e0030c 0x1ee,
  entry 0x3d400304 0x3d400304 0x1ec, entry 0x3d600304 0x3d600304 0x1ed,
  entry 0x44c00304 0x44c00304 0x1e0, entry 0x44e00304 0x44e00304 0x1e1,
  entry 0x45000306 0x45000306 0x1e1c, entry 0x45200306 0x45200306 0x1e1d,
  entry 0x45c00304 0x45c00304 0x230, entry 0x45e00304 0x45e00304 0x231,
  entry 0x5240030c 0x5240030c 0x1ef, entry 0x72200300 0x72200300 0x1fba,
  entry 0x72200301 0x72200301 0x386, entry 0x72200304 0x72200304 0x1fb9,
  entry 0x72200306 0x72200306 0x1fb8, entry 0x72200313 0x72200313 0x1f08,
  entry 0x72200314 0x72200314 0x1f09, entry 0x72200345 0x72200345 0x1fbc,
  entry 0x72a00300 0x72a00300 0x1fc8, entry 0x72a00301 0x72a00301 0x388,
  entry 0x72a00313 0x72a00313 0x1f18, entry 0x72a00314 0x72a00314 0x1f19,
  entry 0x72e00300 0x72e00300 0x1fca, entry 0x72e00301 0x72e00301 0x389,
  entry 0x72e00313 0x72e00313 0x1f28, entry 0x72e00314 0x72e00314 0x1f29,
  entry 0x72e00345 0x72e00345 0x1fcc, entry 0x73200300 0x73200300 0x1fda,
  entry 0x73200301 0x73200301 0x38a, entry 0x73200304 0x73200304 0x1fd9,
  entry 0x73200306 0x73200306 0x1fd8, entry 0x73200308 0x73200308 0x3aa,
  entry 0x73200313 0x73200313 0x1f38, entry 0x73200314 0x73200314 0x1f39,
  entry 0x73e00300 0x73e00300 0x1ff8, entry 0x73e00301 0x73e00301 0x38c,
  entry 0x73e00313 0x73e00313 0x1f48, entry 0x73e00314 0x73e00314 0x1f49,
  entry 0x74200314 0x74200314 0x1fec, entry 0x74a00300 0x74a00300 0x1fea,
  entry 0x74a00301 0x74a00301 0x38e, entry 0x74a00304 0x74a00304 0x1fe9,
  entry 0x74a00306 0x74a00306 0x1fe8, entry 0x74a00308 0x74a00308 0x3ab,
  entry 0x74a00314 0x74a00314 0x1f59, entry 0x75200300 0x75200300 0x1ffa,
  entry 0x75200301 0x75200301 0x38f, entry 0x75200313 0x75200313 0x1f68,
  entry 0x75200314 0x75200314 0x1f69, entry 0x75200345 0x75200345 0x1ffc,
  entry 0x75800345 0x75800345 0x1fb4, entry 0x75c00345 0x75c00345 0x1fc4,
  entry 0x76200300 0x76200300 0x1f70, entry 0x76200301 0x76200301 0x3ac,
  entry 0x76200304 0x76200304 0x1fb1, entry 0x76200306 0x76200306 0x1fb0,
  entry 0x76200313 0x76200313 0x1f00, entry 0x76200314 0x76200314 0x1f01,
  entry 0x76200342 0x76200342 0x1fb6, entry 0x76200345 0x76200345 0x1fb3,
  entry 0x76a00300 0x76a00300 0x1f72, entry 0x76a00301 0x76a00301 0x3ad,
  entry 0x76a00313 0x76a00313 0x1f10, entry 0x76a00314 0x76a00314 0x1f11,
  entry 0x76e00300 0x76e00300 0x1f74, entry 0x76e00301 0x76e00301 0x3ae,
  entry 0x76e00313 0x76e00313 0x1f20, entry 0x76e00314 0x76e00314 0x1f21,
  entry 0x76e00342 0x76e00342 0x1fc6, entry 0x76e00345 0x76e00345 0x1fc3,
  entry 0x77200300 0x77200300 0x1f76, entry 0x77200301 0x77200301 0x3af,
  entry 0x77200304 0x77200304 0x1fd1, entry 0x77200306 0x77200306 0x1fd0,
  entry 0x77200308 0x77200308 0x3ca, entry 0x77200313 0x77200313 0x1f30,
  entry 0x77200314 0x77200314 0x1f31, entry 0x77200342 0x77200342 0x1fd6,
  entry 0x77e00300 0x77e00300 0x1f78, entry 0x77e00301 0x77e00301 0x3cc,
  entry 0x77e00313 0x77e00313 0x1f40, entry 0x77e00314 0x77e00314 0x1f41,
  entry 0x78200313 0x78200313 0x1fe4, entry 0x78200314 0x78200314 0x1fe5,
  entry 0x78a00300 0x78a00300 0x1f7a, entry 0x78a00301 0x78a00301 0x3cd,
  entry 0x78a00304 0x78a00304 0x1fe1, entry 0x78a00306 0x78a00306 0x1fe0,
  entry 0x78a00308 0x78a00308 0x3cb, entry 0x78a00313 0x78a00313 0x1f50,
  entry 0x78a00314 0x78a00314 0x1f51, entry 0x78a00342 0x78a00342 0x1fe6,
  entry 0x79200300 0x79200300 0x1f7c, entry 0x79200301 0x79200301 0x3ce,
  entry 0x79200313 0x79200313 0x1f60, entry 0x79200314 0x79200314 0x1f61,
  entry 0x79200342 0x79200342 0x1ff6, entry 0x79200345 0x79200345 0x1ff3,
  entry 0x79400300 0x79400300 0x1fd2, entry 0x79400301 0x79400301 0x390,
  entry 0x79400342 0x79400342 0x1fd7, entry 0x79600300 0x79600300 0x1fe2,
  entry 0x79600301 0x79600301 0x3b0, entry 0x79600342 0x79600342 0x1fe7,
  entry 0x79c00345 0x79c00345 0x1ff4, entry 0x7a400301 0x7a400301 0x3d3,
  entry 0x7a400308 0x7a400308 0x3d4, entry 0x80c00308 0x80c00308 0x407,
  entry 0x82000306 0x82000306 0x4d0, entry 0x82000308 0x82000308 0x4d2,
  entry 0x82600301 0x82600301 0x403, entry 0x82a00300 0x82a00300 0x400,
  entry 0x82a00306 0x82a00306 0x4d6, entry 0x82a00308 0x82a00308 0x401,
  entry 0x82c00306 0x82c00306 0x4c1, entry 0x82c00308 0x82c00308 0x4dc,
  entry 0x82e00308 0x82e00308 0x4de, entry 0x83000300 0x83000300 0x40d,
  entry 0x83000304 0x83000304 0x4e2, entry 0x83000306 0x83000306 0x419,
  entry 0x83000308 0x83000308 0x4e4, entry 0x83400301 0x83400301 0x40c,
  entry 0x83c00308 0x83c00308 0x4e6, entry 0x84600304 0x84600304 0x4ee,
  entry 0x84600306 0x84600306 0x40e, entry 0x84600308 0x84600308 0x4f0,
  entry 0x8460030b 0x8460030b 0x4f2, entry 0x84e00308 0x84e00308 0x4f4,
  entry 0x85600308 0x85600308 0x4f8, entry 0x85a00308 0x85a00308 0x4ec,
  entry 0x86000306 0x86000306 0x4d1, entry 0x86000308 0x86000308 0x4d3,
  entry 0x86600301 0x86600301 0x453, entry 0x86a00300 0x86a00300 0x450,
  entry 0x86a00306 0x86a00306 0x4d7, entry 0x86a00308 0x86a00308 0x451,
  entry 0x86c00306 0x86c00306 0x4c2, entry 0x86c00308 0x86c00308 0x4dd,
  entry 0x86e00308 0x86e00308 0x4df, entry 0x87000300 0x87000300 0x45d,
  entry 0x87000304 0x87000304 0x4e3, entry 0x87000306 0x87000306 0x439,
  entry 0x87000308 0x87000308 0x4e5, entry 0x87400301 0x87400301 0x45c,
  entry 0x87c00308 0x87c00308 0x4e7, entry 0x88600304 0x88600304 0x4ef,
  entry 0x88600306 0x88600306 0x45e, entry 0x88600308 0x88600308 0x4f1,
  entry 0x8860030b 0x8860030b 0x4f3, entry 0x88e00308 0x88e00308 0x4f5,
  entry 0x89600308 0x89600308 0x4f9, entry 0x89a00308 0x89a00308 0x4ed,
  entry 0x8ac00308 0x8ac00308 0x457, entry 0x8e80030f 0x8e80030f 0x476,
  entry 0x8ea0030f 0x8ea0030f 0x477, entry 0x9b000308 0x9b000308 0x4da,
  entry 0x9b200308 0x9b200308 0x4db, entry 0x9d000308 0x9d000308 0x4ea,
  entry 0x9d200308 0x9d200308 0x4eb, entry 0xc4e00653 0xc4e00653 0x622,
  entry 0xc4e00654 0xc4e00654 0x623, entry 0xc4e00655 0xc4e00655 0x625,
  entry 0xc9000654 0xc9000654 0x624, entry 0xc9400654 0xc9400654 0x626,
  entry 0xd8200654 0xd8200654 0x6c2, entry 0xda400654 0xda400654 0x6d3,
  entry 0xdaa00654 0xdaa00654 0x6c0, entry 0x12500093c 0x12500093c 0x929,
  entry 0x12600093c 0x12600093c 0x931, entry 0x12660093c 0x12660093c 0x934,
  entry 0x138e009be 0x138e009be 0x9cb, entry 0x138e009d7 0x138e009d7 0x9cc,
  entry 0x168e00b3e 0x168e00b3e 0xb4b, entry 0x168e00b56 0x168e00b56 0xb48,
  entry 0x168e00b57 0x168e00b57 0xb4c, entry 0x172400bd7 0x172400bd7 0xb94,
  entry 0x178c00bbe 0x178c00bbe 0xbca, entry 0x178c00bd7 0x178c00bd7 0xbcc,
  entry 0x178e00bbe 0x178e00bbe 0xbcb, entry 0x188c00c56 0x188c00c56 0xc48,
  entry 0x197e00cd5 0x197e00cd5 0xcc0, entry 0x198c00cc2 0x198c00cc2 0xcca,
  entry 0x198c00cd5 0x198c00cd5 0xcc7, entry 0x198c00cd6 0x198c00cd6 0xcc8,
  entry 0x199400cd5 0x199400cd5 0xccb, entry 0x1a8c00d3e 0x1a8c00d3e 0xd4a,
  entry 0x1a8c00d57 0x1a8c00d57 0xd4c, entry 0x1a8e00d3e 0x1a8e00d3e 0xd4b,
  entry 0x1bb200dca 0x1bb200dca 0xdda, entry 0x1bb200dcf 0x1bb200dcf 0xddc,
  entry 0x1bb200ddf 0x1bb200ddf 0xdde, entry 0x1bb800dca 0x1bb800dca 0xddd,
  entry 0x204a0102e 0x204a0102e 0x1026, entry 0x360a01b35 0x360a01b35 0x1b06,
  entry 0x360e01b35 0x360e01b35 0x1b08, entry 0x361201b35 0x361201b35 0x1b0a,
  entry 0x361601b35 0x361601b35 0x1b0c, entry 0x361a01b35 0x361a01b35 0x1b0e,
  entry 0x362201b35 0x362201b35 0x1b12, entry 0x367401b35 0x367401b35 0x1b3b,
  entry 0x367801b35 0x367801b35 0x1b3d, entry 0x367c01b35 0x367c01b35 0x1b40,
  entry 0x367e01b35 0x367e01b35 0x1b41, entry 0x368401b35 0x368401b35 0x1b43,
  entry 0x3c6c00304 0x3c6c00304 0x1e38, entry 0x3c6e00304 0x3c6e00304 0x1e39,
  entry 0x3cb400304 0x3cb400304 0x1e5c, entry 0x3cb600304 0x3cb600304 0x1e5d,
  entry 0x3cc400307 0x3cc400307 0x1e68, entry 0x3cc600307 0x3cc600307 0x1e69,
  entry 0x3d4000302 0x3d4000302 0x1eac, entry 0x3d4000306 0x3d4000306 0x1eb6,
  entry 0x3d4200302 0x3d4200302 0x1ead, entry 0x3d4200306 0x3d4200306 0x1eb7,
  entry 0x3d7000302 0x3d7000302 0x1ec6, entry 0x3d7200302 0x3d7200302 0x1ec7,
  entry 0x3d9800302 0x3d9800302 0x1ed8, entry 0x3d9a00302 0x3d9a00302 0x1ed9,
  entry 0x3e0000300 0x3e0000300 0x1f02, entry 0x3e0000301 0x3e0000301 0x1f04,
  entry 0x3e0000342 0x3e0000342 0x1f06, entry 0x3e0000345 0x3e0000345 0x1f80,
  entry 0x3e0200300 0x3e0200300 0x1f03, entry 0x3e0200301 0x3e0200301 0x1f05,
  entry 0x3e0200342 0x3e0200342 0x1f07, entry 0x3e0200345 0x3e0200345 0x1f81,
  entry 0x3e0400345 0x3e0400345 0x1f82, entry 0x3e0600345 0x3e0600345 0x1f83,
  entry 0x3e0800345 0x3e0800345 0x1f84, entry 0x3e0a00345 0x3e0a00345 0x1f85,
  entry 0x3e0c00345 0x3e0c00345 0x1f86, entry 0x3e0e00345 0x3e0e00345 0x1f87,
  entry 0x3e1000300 0x3e1000300 0x1f0a, entry 0x3e1000301 0x3e1000301 0x1f0c,
  entry 0x3e1000342 0x3e1000342 0x1f0e, entry 0x3e1000345 0x3e1000345 0x1f88,
  entry 0x3e1200300 0x3e1200300 0x1f0b, entry 0x3e1200301 0x3e1200301 0x1f0d,
  entry 0x3e1200342 0x3e1200342 0x1f0f, entry 0x3e1200345 0x3e1200345 0x1f89,
  entry 0x3e1400345 0x3e1400345 0x1f8a, entry 0x3e1600345 0x3e1600345 0x1f8b,
  entry 0x3e1800345 0x3e1800345 0x1f8c, entry 0x3e1a00345 0x3e1a00345 0x1f8d,
  entry 0x3e1c00345 0x3e1c00345 0x1f8e, entry 0x3e1e00345 0x3e1e00345 0x1f8f,
  entry 0x3e2000300 0x3e2000300 0x1f12, entry 0x3e2000301 0x3e2000301 0x1f14,
  entry 0x3e2200300 0x3e2200300 0x1f13, entry 0x3e2200301 0x3e2200301 0x1f15,
  entry 0x3e3000300 0x3e3000300 0x1f1a, entry 0x3e3000301 0x3e3000301 0x1f1c,
  entry 0x3e3200300 0x3e3200300 0x1f1b, entry 0x3e3200301 0x3e3200301 0x1f1d,
  entry 0x3e4000300 0x3e4000300 0x1f22, entry 0x3e4000301 0x3e4000301 0x1f24,
  entry 0x3e4000342 0x3e4000342 0x1f26, entry 0x3e4000345 0x3e4000345 0x1f90,
  entry 0x3e4200300 0x3e4200300 0x1f23, entry 0x3e4200301 0x3e4200301 0x1f25,
  entry 0x3e4200342 0x3e4200342 0x1f27, entry 0x3e4200345 0x3e4200345 0x1f91,
  entry 0x3e4400345 0x3e4400345 0x1f92, entry 0x3e4600345 0x3e4600345 0x1f93,
  entry 0x3e4800345 0x3e4800345 0x1f94, entry 0x3e4a00345 0x3e4a00345 0x1f95,
  entry 0x3e4c00345 0x3e4c00345 0x1f96, entry 0x3e4e00345 0x3e4e00345 0x1f97,
  entry 0x3e5000300 0x3e5000300 0x1f2a, entry 0x3e5000301 0x3e5000301 0x1f2c,
  entry 0x3e5000342 0x3e5000342 0x1f2e, entry 0x3e5000345 0x3e5000345 0x1f98,
  entry 0x3e5200300 0x3e5200300 0x1f2b, entry 0x3e5200301 0x3e5200301 0x1f2d,
  entry 0x3e5200342 0x3e5200342 0x1f2f, entry 0x3e5200345 0x3e5200345 0x1f99,
  entry 0x3e5400345 0x3e5400345 0x1f9a, entry 0x3e5600345 0x3e5600345 0x1f9b,
  entry 0x3e5800345 0x3e5800345 0x1f9c, entry 0x3e5a00345 0x3e5a00345 0x1f9d,
  entry 0x3e5c00345 0x3e5c00345 0x1f9e, entry 0x3e5e00345 0x3e5e00345 0x1f9f,
  entry 0x3e6000300 0x3e6000300 0x1f32, entry 0x3e6000301 0x3e6000301 0x1f34,
  entry 0x3e6000342 0x3e6000342 0x1f36, entry 0x3e6200300 0x3e6200300 0x1f33,
  entry 0x3e6200301 0x3e6200301 0x1f35, entry 0x3e6200342 0x3e6200342 0x1f37,
  entry 0x3e7000300 0x3e7000300 0x1f3a, entry 0x3e7000301 0x3e7000301 0x1f3c,
  entry 0x3e7000342 0x3e7000342 0x1f3e, entry 0x3e7200300 0x3e7200300 0x1f3b,
  entry 0x3e7200301 0x3e7200301 0x1f3d, entry 0x3e7200342 0x3e7200342 0x1f3f,
  entry 0x3e8000300 0x3e8000300 0x1f42, entry 0x3e8000301 0x3e8000301 0x1f44,
  entry 0x3e8200300 0x3e8200300 0x1f43, entry 0x3e8200301 0x3e8200301 0x1f45,
  entry 0x3e9000300 0x3e9000300 0x1f4a, entry 0x3e9000301 0x3e9000301 0x1f4c,
  entry 0x3e9200300 0x3e9200300 0x1f4b, entry 0x3e9200301 0x3e9200301 0x1f4d,
  entry 0x3ea000300 0x3ea000300 0x1f52, entry 0x3ea000301 0x3ea000301 0x1f54,
  entry 0x3ea000342 0x3ea000342 0x1f56, entry 0x3ea200300 0x3ea200300 0x1f53,
  entry 0x3ea200301 0x3ea200301 0x1f55, entry 0x3ea200342 0x3ea200342 0x1f57,
  entry 0x3eb200300 0x3eb200300 0x1f5b, entry 0x3eb200301 0x3eb200301 0x1f5d,
  entry 0x3eb200342 0x3eb200342 0x1f5f, entry 0x3ec000300 0x3ec000300 0x1f62,
  entry 0x3ec000301 0x3ec000301 0x1f64, entry 0x3ec000342 0x3ec000342 0x1f66,
  entry 0x3ec000345 0x3ec000345 0x1fa0, entry 0x3ec200300 0x3ec200300 0x1f63,
  entry 0x3ec200301 0x3ec200301 0x1f65, entry 0x3ec200342 0x3ec200342 0x1f67,
  entry 0x3ec200345 0x3ec200345 0x1fa1, entry 0x3ec400345 0x3ec400345 0x1fa2,
  entry 0x3ec600345 0x3ec600345 0x1fa3, entry 0x3ec800345 0x3ec800345 0x1fa4,
  entry 0x3eca00345 0x3eca00345 0x1fa5, entry 0x3ecc00345 0x3ecc00345 0x1fa6,
  entry 0x3ece00345 0x3ece00345 0x1fa7, entry 0x3ed000300 0x3ed000300 0x1f6a,
  entry 0x3ed000301 0x3ed000301 0x1f6c, entry 0x3ed000342 0x3ed000342 0x1f6e,
  entry 0x3ed000345 0x3ed000345 0x1fa8, entry 0x3ed200300 0x3ed200300 0x1f6b,
  entry 0x3ed200301 0x3ed200301 0x1f6d, entry 0x3ed200342 0x3ed200342 0x1f6f,
  entry 0x3ed200345 0x3ed200345 0x1fa9, entry 0x3ed400345 0x3ed400345 0x1faa,
  entry 0x3ed600345 0x3ed600345 0x1fab, entry 0x3ed800345 0x3ed800345 0x1fac,
  entry 0x3eda00345 0x3eda00345 0x1fad, entry 0x3edc00345 0x3edc00345 0x1fae,
  entry 0x3ede00345 0x3ede00345 0x1faf, entry 0x3ee000345 0x3ee000345 0x1fb2,
  entry 0x3ee800345 0x3ee800345 0x1fc2, entry 0x3ef800345 0x3ef800345 0x1ff2,
  entry 0x3f6c00345 0x3f6c00345 0x1fb7, entry 0x3f7e00300 0x3f7e00300 0x1fcd,
  entry 0x3f7e00301 0x3f7e00301 0x1fce, entry 0x3f7e00342 0x3f7e00342 0x1fcf,
  entry 0x3f8c00345 0x3f8c00345 0x1fc7, entry 0x3fec00345 0x3fec00345 0x1ff7,
  entry 0x3ffc00300 0x3ffc00300 0x1fdd, entry 0x3ffc00301 0x3ffc00301 0x1fde,
  entry 0x3ffc00342 0x3ffc00342 0x1fdf, entry 0x432000338 0x432000338 0x219a,
  entry 0x432400338 0x432400338 0x219b, entry 0x432800338 0x432800338 0x21ae,
  entry 0x43a000338 0x43a000338 0x21cd, entry 0x43a400338 0x43a400338 0x21cf,
  entry 0x43a800338 0x43a800338 0x21ce, entry 0x440600338 0x440600338 0x2204,
  entry 0x441000338 0x441000338 0x2209, entry 0x441600338 0x441600338 0x220c,
  entry 0x444600338 0x444600338 0x2224, entry 0x444a00338 0x444a00338 0x2226,
  entry 0x447800338 0x447800338 0x2241, entry 0x448600338 0x448600338 0x2244,
  entry 0x448a00338 0x448a00338 0x2247, entry 0x449000338 0x449000338 0x2249,
  entry 0x449a00338 0x449a00338 0x226d, entry 0x44c200338 0x44c200338 0x2262,
  entry 0x44c800338 0x44c800338 0x2270, entry 0x44ca00338 0x44ca00338 0x2271,
  entry 0x44e400338 0x44e400338 0x2274, entry 0x44e600338 0x44e600338 0x2275,
  entry 0x44ec00338 0x44ec00338 0x2278, entry 0x44ee00338 0x44ee00338 0x2279,
  entry 0x44f400338 0x44f400338 0x2280, entry 0x44f600338 0x44f600338 0x2281,
  entry 0x44f800338 0x44f800338 0x22e0, entry 0x44fa00338 0x44fa00338 0x22e1,
  entry 0x450400338 0x450400338 0x2284, entry 0x450600338 0x450600338 0x2285,
  entry 0x450c00338 0x450c00338 0x2288, entry 0x450e00338 0x450e00338 0x2289,
  entry 0x452200338 0x452200338 0x22e2, entry 0x452400338 0x452400338 0x22e3,
  entry 0x454400338 0x454400338 0x22ac, entry 0x455000338 0x455000338 0x22ad,
  entry 0x455200338 0x455200338 0x22ae, entry 0x455600338 0x455600338 0x22af,
  entry 0x456400338 0x456400338 0x22ea, entry 0x456600338 0x456600338 0x22eb,
  entry 0x456800338 0x456800338 0x22ec, entry 0x456a00338 0x456a00338 0x22ed,
  entry 0x608c03099 0x608c03099 0x3094, entry 0x609603099 0x609603099 0x304c,
  entry 0x609a03099 0x609a03099 0x304e, entry 0x609e03099 0x609e03099 0x3050,
  entry 0x60a203099 0x60a203099 0x3052, entry 0x60a603099 0x60a603099 0x3054,
  entry 0x60aa03099 0x60aa03099 0x3056, entry 0x60ae03099 0x60ae03099 0x3058,
  entry 0x60b203099 0x60b203099 0x305a, entry 0x60b603099 0x60b603099 0x305c,
  entry 0x60ba03099 0x60ba03099 0x305e, entry 0x60be03099 0x60be03099 0x3060,
  entry 0x60c203099 0x60c203099 0x3062, entry 0x60c803099 0x60c803099 0x3065,
  entry 0x60cc03099 0x60cc03099 0x3067, entry 0x60d003099 0x60d003099 0x3069,
  entry 0x60de03099 0x60de03099 0x3070, entry 0x60de0309a 0x60de0309a 0x3071,
  entry 0x60e403099 0x60e403099 0x3073, entry 0x60e40309a 0x60e40309a 0x3074,
  entry 0x60ea03099 0x60ea03099 0x3076, entry 0x60ea0309a 0x60ea0309a 0x3077,
  entry 0x60f003099 0x60f003099 0x3079, entry 0x60f00309a 0x60f00309a 0x307a,
  entry 0x60f603099 0x60f603099 0x307c, entry 0x60f60309a 0x60f60309a 0x307d,
  entry 0x613a03099 0x613a03099 0x309e, entry 0x614c03099 0x614c03099 0x30f4,
  entry 0x615603099 0x615603099 0x30ac, entry 0x615a03099 0x615a03099 0x30ae,
  entry 0x615e03099 0x615e03099 0x30b0, entry 0x616203099 0x616203099 0x30b2,
  entry 0x616603099 0x616603099 0x30b4, entry 0x616a03099 0x616a03099 0x30b6,
  entry 0x616e03099 0x616e03099 0x30b8, entry 0x617203099 0x617203099 0x30ba,
  entry 0x617603099 0x617603099 0x30bc, entry 0x617a03099 0x617a03099 0x30be,
  entry 0x617e03099 0x617e03099 0x30c0, entry 0x618203099 0x618203099 0x30c2,
  entry 0x618803099 0x618803099 0x30c5, entry 0x618c03099 0x618c03099 0x30c7,
  entry 0x619003099 0x619003099 0x30c9, entry 0x619e03099 0x619e03099 0x30d0,
  entry 0x619e0309a 0x619e0309a 0x30d1, entry 0x61a403099 0x61a403099 0x30d3,
  entry 0x61a40309a 0x61a40309a 0x30d4, entry 0x61aa03099 0x61aa03099 0x30d6,
  entry 0x61aa0309a 0x61aa0309a 0x30d7, entry 0x61b003099 0x61b003099 0x30d9,
  entry 0x61b00309a 0x61b00309a 0x30da, entry 0x61b603099 0x61b603099 0x30dc,
  entry 0x61b60309a 0x61b60309a 0x30dd, entry 0x61de03099 0x61de03099 0x30f7,
  entry 0x61e003099 0x61e003099 0x30f8, entry 0x61e203099 0x61e203099 0x30f9,
  entry 0x61e403099 0x61e403099 0x30fa, entry 0x61fa03099 0x61fa03099 0x30fe,
  entry 0x22132110ba 0x22132110ba 0x1109a, entry 0x22136110ba 0x22136110ba 0x1109c,
  entry 0x2214a110ba 0x2214a110ba 0x110ab, entry 0x2226211127 0x2226211127 0x1112e,
  entry 0x2226411127 0x2226411127 0x1112f, entry 0x2268e1133e 0x2268e1133e 0x1134b,
  entry 0x2268e11357 0x2268e11357 0x1134c, entry 0x22972114b0 0x22972114b0 0x114bc,
  entry 0x22972114ba 0x22972114ba 0x114bb, entry 0x22972114bd 0x22972114bd 0x114be,
  entry 0x22b70115af 0x22b70115af 0x115ba, entry 0x22b72115af 0x22b72115af 0x115bb,
  entry 0x2326a11930 0x2326a11930 0x11938]⟩

/-- Leading non-starters times four plus trailing non-starters of each code point. -/
def nonStarterCounts : RangeTable := ⟨#[
  entry 0xa8 0xa8 1, entry 0xaf 0xaf 1, entry 0xb4 0xb4 1, entry 0xb8 0xb8 1, entry 0xc0 0xc5 1,
  entry 0xc7 0xcf 1, entry 0xd1 0xd6 1, entry 0xd9 0xdd 1, entry 0xe0 0xe5 1, entry 0xe7 0xef 1,
  entry 0xf1 0xf6 1, entry 0xf9 0xfd 1, entry 0xff 0x10f 1, entry 0x112 0x125 1,
  entry 0x128 0x130 1, entry 0x134 0x137 1, entry 0x139 0x13e 1, entry 0x143 0x148 1,
  entry 0x14c 0x151 1, entry 0x154 0x165 1, entry 0x168 0x17e 1, entry 0x1a0 0x1a1 1,
  entry 0x1af 0x1b0 1, entry 0x1c4 0x1c6 1, entry 0x1cd 0x1d4 1, entry 0x1d5 0x1dc 2,
  entry 0x1de 0x1e1 2, entry 0x1e2 0x1e3 1, entry 0x1e6 0x1eb 1, entry 0x1ec 0x1ed 2,
  entry 0x1ee 0x1f0 1, entry 0x1f4 0x1f5 1, entry 0x1f8 0x1f9 1, entry 0x1fa 0x1fb 2,
  entry 0x1fc 0x21b 1, entry 0x21e 0x21f 1, entry 0x226 0x229 1, entry 0x22a 0x22d 2,
  entry 0x22e 0x22f 1, entry 0x230 0x231 2, entry 0x232 0x233 1, entry 0x2d8 0x2dd 1,
  entry 0x300 0x343 5, entry 0x344 0x344 10, entry 0x345 0x34e 5, entry 0x350 0x36f 5,
  entry 0x37a 0x37a 1, entry 0x384 0x384 1, entry 0x385 0x385 2, entry 0x386 0x386 1,
  entry 0x388 0x38a 1, entry 0x38c 0x38c 1, entry 0x38e 0x38f 1, entry 0x390 0x390 2,
  entry 0x3aa 0x3af 1, entry 0x3b0 0x3b0 2, entry 0x3ca 0x3ce 1, entry 0x3d3 0x3d4 1,
  entry 0x400 0x401 1, entry 0x403 0x403 1, entry 0x407 0x407 1, entry 0x40c 0x40e 1,
  entry 0x419 0x419 1, entry 0x439 0x439 1, entry 0x450 0x451 1, entry 0x453 0x453 1,
  entry 0x457 0x457 1, entry 0x45c 0x45e 1, entry 0x476 0x477 1, entry 0x483 0x487 5,
  entry 0x4c1 0x4c2 1, entry 0x4d0 0x4d3 1, entry 0x4d6 0x4d7 1, entry 0x4da 0x4df 1,
  entry 0x4e2 0x4e7 1, entry 0x4ea 0x4f5 1, entry 0x4f8 0x4f9 1, entry 0x591 0x5bd 5,
  entry 0x5bf 0x5bf 5, entry 0x5c1 0x5c2 5, entry 0x5c4 0x5c5 5, entry 0x5c7 0x5c7 5,
  entry 0x610 0x61a 5, entry 0x622 0x626 1, entry 0x64b 0x65f 5, entry 0x670 0x670 5,
  entry 0x6c0 0x6c0 1, entry 0x6c2 0x6c2 1, entry 0x6d3 0x6d3 1, entry 0x6d6 0x6dc 5,
  entry 0x6df 0x6e4 5, entry 0x6e7 0x6e8 5, entry 0x6ea 0x6ed 5, entry 0x711 0x711 5,
  entry 0x730 0x74a 5, entry 0x7eb 0x7f3 5, entry 0x7fd 0x7fd 5, entry 0x816 0x819 5,
  entry 0x81b 0x823 5, entry 0x825 0x827 5, entry 0x829 0x82d 5, entry 0x859 0x85b 5,
  entry 0x898 0x89f 5, entry 0x8ca 0x8e1 5, entry 0x8e3 0x8ff 5, entry 0x929 0x929 1,
  entry 0x931 0x931 1, entry 0x934 0x934 1, entry 0x93c 0x93c 5, entry 0x94d 0x94d 5,
  entry 0x951 0x954 5, entry 0x958 0x95f 1, entry 0x9bc 0x9bc 5, entry 0x9be 0x9be 5,
  entry 0x9cb 0x9cc 1, entry 0x9cd 0x9cd 5, entry 0x9d7 0x9d7 5, entry 0x9dc 0x9dd 1,
  entry 0x9df 0x9df 1, entry 0x9fe 0x9fe 5, entry 0xa33 0xa33 1, entry 0xa36 0xa36 1,
  entry 0xa3c 0xa3c 5, entry 0xa4d 0xa4d 5, entry 0xa59 0xa5b 1, entry 0xa5e 0xa5e 1,
  entry 0xabc 0xabc 5, entry 0xacd 0xacd 5, entry 0xb3c 0xb3c 5, entry 0xb3e 0xb3e 5,
  entry 0xb48 0xb48 1, entry 0xb4b 0xb4c 1, entry 0xb4d 0xb4d 5, entry 0xb56 0xb57 5,
  entry 0xb5c 0xb5d 1, entry 0xb94 0xb94 1, entry 0xbbe 0xbbe 5, entry 0xbca 0xbcc 1,
  entry 0xbcd 0xbcd 5, entry 0xbd7 0xbd7 5, entry 0xc3c 0xc3c 5, entry 0xc48 0xc48 1,
  entry 0xc4d 0xc4d 5, entry 0xc55 0xc56 5, entry 0xcbc 0xcbc 5, entry 0xcc0 0xcc0 1,
  entry 0xcc2 0xcc2 5, entry 0xcc7 0xcc8 1, entry 0xcca 0xcca 1, entry 0xccb 0xccb 2,
  entry 0xccd 0xccd 5, entry 0xcd5 0xcd6 5, entry 0xd3b 0xd3c 5, entry 0xd3e 0xd3e 5,
  entry 0xd4a 0xd4c 1, entry 0xd4d 0xd4d 5, entry 0xd57 0xd57 5, entry 0xdca 0xdca 5,
  entry 0xdcf 0xdcf 5, entry 0xdda 0xdda 1, entry 0xddc 0xddc 1, entry 0xddd 0xddd 2,
  entry 0xdde 0xdde 1, entry 0xddf 0xddf 5, entry 0xe38 0xe3a 5, entry 0xe48 0xe4b 5,
  entry 0xeb8 0xeba 5, entry 0xec8 0xecb 5, entry 0xf18 0xf19 5, entry 0xf35 0xf35 5,
  entry 0xf37 0xf37 5, entry 0xf39 0xf39 5, entry 0xf71 0xf72 5, entry 0xf73 0xf73 10,
  entry 0xf74 0xf74 5, entry 0xf75 0xf75 10, entry 0xf76 0xf76 1, entry 0xf77 0xf77 2,
  entry 0xf78 0xf78 1, entry 0xf79 0xf79 2, entry 0xf7a 0xf7d 5, entry 0xf80 0xf80 5,
  entry 0xf81 0xf81 10, entry 0xf82 0xf84 5, entry 0xf86 0xf87 5, entry 0xfc6 0xfc6 5,
  entry 0x1026 0x1026 1, entry 0x102e 0x102e 5, entry 0x1037 0x1037 5, entry 0x1039 0x103a 5,
  entry 0x108d 0x108d 5, entry 0x1161 0x1175 5, entry 0x11a8 0x11c2 5, entry 0x135d 0x135f 5,
  entry 0x1714 0x1715 5, entry 0x1734 0x1734 5, entry 0x17d2 0x17d2 5, entry 0x17dd 0x17dd 5,
  entry 0x18a9 0x18a9 5, entry 0x1939 0x193b 5, entry 0x1a17 0x1a18 5, entry 0x1a60 0x1a60 5,
  entry 0x1a75 0x1a7c 5, entry 0x1a7f 0x1a7f 5, entry 0x1ab0 0x1abd 5, entry 0x1abf 0x1ace 5,
  entry 0x1b06 0x1b06 1, entry 0x1b08 0x1b08 1, entry 0x1b0a 0x1b0a 1, entry 0x1b0c 0x1b0c 1,
  entry 0x1b0e 0x1b0e 1, entry 0x1b12 0x1b12 1, entry 0x1b34 0x1b35 5, entry 0x1b3b 0x1b3b 1,
  entry 0x1b3d 0x1b3d 1, entry 0x1b40 0x1b41 1, entry 0x1b43 0x1b43 1, entry 0x1b44 0x1b44 5,
  entry 0x1b6b 0x1b73 5, entry 0x1baa 0x1bab 5, entry 0x1be6 0x1be6 5, entry 0x1bf2 0x1bf3 5,
  entry 0x1c37 0x1c37 5, entry 0x1cd0 0x1cd2 5, entry 0x1cd4 0x1ce0 5, entry 0x1ce2 0x1ce8 5,
  entry 0x1ced 0x1ced 5, entry 0x1cf4 0x1cf4 5, entry 0x1cf8 0x1cf9 5, entry 0x1dc0 0x1dff 5,
  entry 0x1e00 0x1e07 1, entry 0x1e08 0x1e09 2, entry 0x1e0a 0x1e13 1, entry 0x1e14 0x1e17 2,
  entry 0x1e18 0x1e1b 1, entry 0x1e1c 0x1e1d 2, entry 0x1e1e 0x1e2d 1, entry 0x1e2e 0x1e2f 2,
  entry 0x1e30 0x1e37 1, entry 0x1e38 0x1e39 2, entry 0x1e3a 0x1e4b 1, entry 0x1e4c 0x1e53 2,
  entry 0x1e54 0x1e5b 1, entry 0x1e5c 0x1e5d 2, entry 0x1e5e 0x1e63 1, entry 0x1e64 0x1e69 2,
  entry 0x1e6a 0x1e77 1, entry 0x1e78 0x1e7b 2, entry 0x1e7c 0x1e99 1, entry 0x1e9b 0x1e9b 1,
  entry 0x1ea0 0x1ea3 1, entry 0x1ea4 0x1eb7 2, entry 0x1eb8 0x1ebd 1, entry 0x1ebe 0x1ec7 2,
  entry 0x1ec8 0x1ecf 1, entry 0x1ed0 0x1ee3 2, entry 0x1ee4 0x1ee7 1, entry 0x1ee8 0x1ef1 2,
  entry 0x1ef2 0x1ef9 1, entry 0x1f00 0x1f01 1, entry 0x1f02 0x1f07 2, entry 0x1f08 0x1f09 1,
  entry 0x1f0a 0x1f0f 2, entry 0x1f10 0x1f11 1, entry 0x1f12 0x1f15 2, entry 0x1f18 0x1f19 1,
  entry 0x1f1a 0x1f1d 2, entry 0x1f20 0x1f21 1, entry 0x1f22 0x1f27 2, entry 0x1f28 0x1f29 1,
  entry 0x1f2a 0x1f2f 2, entry 0x1f30 0x1f31 1, entry 0x1f32 0x1f37 2, entry 0x1f38 0x1f39 1,
  entry 0x1f3a 0x1f3f 2, entry 0x1f40 0x1f41 1, entry 0x1f42 0x1f45 2, entry 0x1f48 0x1f49 1,
  entry 0x1f4a 0x1f4d 2, entry 0x1f50 0x1f51 1, entry 0x1f52 0x1f57 2, entry 0x1f59 0x1f59 1,
  entry 0x1f5b 0x1f5b 2, entry 0x1f5d 0x1f5d 2, entry 0x1f5f 0x1f5f 2, entry 0x1f60 0x1f61 1,
  entry 0x1f62 0x1f67 2, entry 0x1f68 0x1f69 1, entry 0x1f6a 0x1f6f 2, entry 0x1f70 0x1f7d 1,
  entry 0x1f80 0x1f81 2, entry 0x1f82 0x1f87 3, entry 0x1f88 0x1f89 2, entry 0x1f8a 0x1f8f 3,
  entry 0x1f90 0x1f91 2, entry 0x1f92 0x1f97 3, entry 0x1f98 0x1f99 2, entry 0x1f9a 0x1f9f 3,
  entry 0x1fa0 0x1fa1 2, entry 0x1fa2 0x1fa7 3, entry 0x1fa8 0x1fa9 2, entry 0x1faa 0x1faf 3,
  entry 0x1fb0 0x1fb1 1, entry 0x1fb2 0x1fb2 2, entry 0x1fb3 0x1fb3 1, entry 0x1fb4 0x1fb4 2,
  entry 0x1fb6 0x1fb6 1, entry 0x1fb7 0x1fb7 2, entry 0x1fb8 0x1fbd 1, entry 0x1fbf 0x1fc0 1,
  entry 0x1fc1 0x1fc2 2, entry 0x1fc3 0x1fc3 1, entry 0x1fc4 0x1fc4 2, entry 0x1fc6 0x1fc6 1,
  entry 0x1fc7 0x1fc7 2, entry 0x1fc8 0x1fcc 1, entry 0x1fcd 0x1fcf 2, entry 0x1fd0 0x1fd1 1,
  entry 0x1fd2 0x1fd3 2, entry 0x1fd6 0x1fd6 1, entry 0x1fd7 0x1fd7 2, entry 0x1fd8 0x1fdb 1,
  entry 0x1fdd 0x1fdf 2, entry 0x1fe0 0x1fe1 1, entry 0x1fe2 0x1fe3 2, entry 0x1fe4 0x1fe6 1,
  entry 0x1fe7 0x1fe7 2, entry 0x1fe8 0x1fec 1, entry 0x1fed 0x1fee 2, entry 0x1ff2 0x1ff2 2,
  entry 0x1ff3 0x1ff3 1, entry 0x1ff4 0x1ff4 2, entry 0x1ff6 0x1ff6 1, entry 0x1ff7 0x1ff7 2,
  entry 0x1ff8 0x1ffe 1, entry 0x2017 0x2017 1, entry 0x203e 0x203e 1, entry 0x20d0 0x20dc 5,
  entry 0x20e1 0x20e1 5, entry 0x20e5 0x20f0 5, entry 0x212b 0x212b 1, entry 0x219a 0x219b 1,
  entry 0x21ae 0x21ae 1, entry 0x21cd 0x21cf 1, entry 0x2204 0x2204 1, entry 0x2209 0x2209 1,
  entry 0x220c 0x220c 1, entry 0x2224 0x2224 1, entry 0x2226 0x2226 1, entry 0x2241 0x2241 1,
  entry 0x2244 0x2244 1, entry 0x2247 0x2247 1, entry 0x2249 0x2249 1, entry 0x2260 0x2260 1,
  entry 0x2262 0x2262 1, entry 0x226d 0x2271 1, entry 0x2274 0x2275 1, entry 0x2278 0x2279 1,
  entry 0x2280 0x2281 1, entry 0x2284 0x2285 1, entry 0x2288 0x2289 1, entry 0x22ac 0x22af 1,
  entry 0x22e0 0x22e3 1, entry 0x22ea 0x22ed 1, entry 0x2adc 0x2adc 1, entry 0x2cef 0x2cf1 5,
  entry 0x2d7f 0x2d7f 5, entry 0x2de0 0x2dff 5, entry 0x302a 0x302f 5, entry 0x304c 0x304c 1,
  entry 0x304e 0x304e 1, entry 0x3050 0x3050 1, entry 0x3052 0x3052 1, entry 0x3054 0x3054 1,
  entry 0x3056 0x3056 1, entry 0x3058 0x3058 1, entry 0x305a 0x305a 1, entry 0x305c 0x305c 1,
  entry 0x305e 0x305e 1, entry 0x3060 0x3060 1, entry 0x3062 0x3062 1, entry 0x3065 0x3065 1,
  entry 0x3067 0x3067 1, entry 0x3069 0x3069 1, entry 0x3070 0x3071 1, entry 0x3073 0x3074 1,
  entry 0x3076 0x3077 1, entry 0x3079 0x307a 1, entry 0x307c 0x307d 1, entry 0x3094 0x3094 1,
  entry 0x3099 0x309a 5, entry 0x309b 0x309c 1, entry 0x309e 0x309e 1, entry 0x30ac 0x30ac 1,
  entry 0x30ae 0x30ae 1, entry 0x30b0 0x30b0 1, entry 0x30b2 0x30b2 1, entry 0x30b4 0x30b4 1,
  entry 0x30b6 0x30b6 1, entry 0x30b8 0x30b8 1, entry 0x30ba 0x30ba 1, entry 0x30bc 0x30bc 1,
  entry 0x30be 0x30be 1, entry 0x30c0 0x30c0 1, entry 0x30c2 0x30c2 1, entry 0x30c5 0x30c5 1,
  entry 0x30c7 0x30c7 1, entry 0x30c9 0x30c9 1, entry 0x30d0 0x30d1 1, entry 0x30d3 0x30d4 1,
  entry 0x30d6 0x30d7 1, entry 0x30d9 0x30da 1, entry 0x30dc 0x30dd 1, entry 0x30f4 0x30f4 1,
  entry 0x30f7 0x30fa 1, entry 0x30fe 0x30fe 1, entry 0x3133 0x3133 5, entry 0x3135 0x3136 5,
  entry 0x313a 0x313f 5, entry 0x314f 0x3163 5, entry 0x326e 0x327e 1, entry 0x3304 0x3304 1,
  entry 0x3307 0x3307 1, entry 0x3310 0x3310 1, entry 0x331e 0x331e 1, entry 0x3321 0x3321 1,
  entry 0x3332 0x3332 1, entry 0x333b 0x333b 1, entry 0x3340 0x3340 1, entry 0x334b 0x334b 1,
  entry 0x334e 0x334e 1, entry 0xa66f 0xa66f 5, entry 0xa674 0xa67d 5, entry 0xa69e 0xa69f 5,
  entry 0xa6f0 0xa6f1 5, entry 0xa806 0xa806 5, entry 0xa82c 0xa82c 5, entry 0xa8c4 0xa8c4 5,
  entry 0xa8e0 0xa8f1 5, entry 0xa92b 0xa92d 5, entry 0xa953 0xa953 5, entry 0xa9b3 0xa9b3 5,
  entry 0xa9c0 0xa9c0 5, entry 0xaab0 0xaab0 5, entry 0xaab2 0xaab4 5, entry 0xaab7 0xaab8 5,
  entry 0xaabe 0xaabf 5, entry 0xaac1 0xaac1 5, entry 0xaaf6 0xaaf6 5, entry 0xabed 0xabed 5,
  entry 0xfb1d 0xfb1d 1, entry 0xfb1e 0xfb1e 5, entry 0xfb1f 0xfb1f 1, entry 0xfb2a 0xfb2b 1,
  entry 0xfb2c 0xfb2d 2, entry 0xfb2e 0xfb36 1, entry 0xfb38 0xfb3c 1, entry 0xfb3e 0xfb3e 1,
  entry 0xfb40 0xfb41 1, entry 0xfb43 0xfb44 1, entry 0xfb46 0xfb4e 1, entry 0xfba4 0xfba5 1,
  entry 0xfbb0 0xfbb1 1, entry 0xfc5b 0xfc5d 1, entry 0xfc5e 0xfc63 2, entry 0xfc90 0xfc90 1,
  entry 0xfcd9 0xfcd9 1, entry 0xfcf2 0xfcf4 2, entry 0xfd3c 0xfd3d 1, entry 0xfe20 0xfe2f 5,
  entry 0xfe49 0xfe4c 1, entry 0xfe70 0xfe72 1, entry 0xfe74 0xfe74 1, entry 0xfe76 0xfe7f 1,
  entry 0xfe81 0xfe8c 1, entry 0xfef5 0xfefa 1, entry 0xff9e 0xff9f 5, entry 0xffa3 0xffa3 5,
  entry 0xffa5 0xffa6 5, entry 0xffaa 0xffaf 5, entry 0xffc2 0xffc7 5, entry 0xffca 0xffcf 5,
  entry 0xffd2 0xffd7 5, entry 0xffda 0xffdc 5, entry 0xffe3 0xffe3 1, entry 0x101fd 0x101fd 5,
  entry 0x102e0 0x102e0 5, entry 0x10376 0x1037a 5, entry 0x10a0d 0x10a0d 5,
  entry 0x10a0f 0x10a0f 5, entry 0x10a38 0x10a3a 5, entry 0x10a3f 0x10a3f 5,
  entry 0x10ae5 0x10ae6 5, entry 0x10d24 0x10d27 5, entry 0x10eab 0x10eac 5,
  entry 0x10efd 0x10eff 5, entry 0x10f46 0x10f50 5, entry 0x10f82 0x10f85 5,
  entry 0x11046 0x11046 5, entry 0x11070 0x11070 5, entry 0x1107f 0x1107f 5,
  entry 0x1109a 0x1109a 1, entry 0x1109c 0x1109c 1, entry 0x110ab 0x110ab 1,
  entry 0x110b9 0x110ba 5, entry 0x11100 0x11102 5, entry 0x11127 0x11127 5,
  entry 0x1112e 0x1112f 1, entry 0x11133 0x11134 5, entry 0x11173 0x11173 5,
  entry 0x111c0 0x111c0 5, entry 0x111ca 0x111ca 5, entry 0x11235 0x11236 5,
  entry 0x112e9 0x112ea 5, entry 0x1133b 0x1133c 5, entry 0x1133e 0x1133e 5,
  entry 0x1134b 0x1134c 1, entry 0x1134d 0x1134d 5, entry 0x11357 0x11357 5,
  entry 0x11366 0x1136c 5, entry 0x11370 0x11374 5, entry 0x11442 0x11442 5,
  entry 0x11446 0x11446 5, entry 0x1145e 0x1145e 5, entry 0x114b0 0x114b0 5,
  entry 0x114ba 0x114ba 5, entry 0x114bb 0x114bc 1, entry 0x114bd 0x114bd 5,
  entry 0x114be 0x114be 1, entry 0x114c2 0x114c3 5, entry 0x115af 0x115af 5,
  entry 0x115ba 0x115bb 1, entry 0x115bf 0x115c0 5, entry 0x1163f 0x1163f 5,
  entry 0x116b6 0x116b7 5, entry 0x1172b 0x1172b 5, entry 0x11839 0x1183a 5,
  entry 0x11930 0x11930 5, entry 0x11938 0x11938 1, entry 0x1193d 0x1193e 5,
  entry 0x11943 0x11943 5, entry 0x119e0 0x119e0 5, entry 0x11a34 0x11a34 5,
  entry 0x11a47 0x11a47 5, entry 0x11a99 0x11a99 5, entry 0x11c3f 0x11c3f 5,
  entry 0x11d42 0x11d42 5, entry 0x11d44 0x11d45 5, entry 0x11d97 0x11d97 5,
  entry 0x11f41 0x11f42 5, entry 0x16af0 0x16af4 5, entry 0x16b30 0x16b36 5,
  entry 0x16ff0 0x16ff1 5, entry 0x1bc9e 0x1bc9e 5, entry 0x1d15e 0x1d15f 1,
  entry 0x1d160 0x1d164 2, entry 0x1d165 0x1d169 5, entry 0x1d16d 0x1d172 5,
  entry 0x1d17b 0x1d182 5, entry 0x1d185 0x1d18b 5, entry 0x1d1aa 0x1d1ad 5,
  entry 0x1d1bb 0x1d1bc 1, entry 0x1d1bd 0x1d1c0 2, entry 0x1d242 0x1d244 5,
  entry 0x1e000 0x1e006 5, entry 0x1e008 0x1e018 5, entry 0x1e01b 0x1e021 5,
  entry 0x1e023 0x1e024 5, entry 0x1e026 0x1e02a 5, entry 0x1e08f 0x1e08f 5,
  entry 0x1e130 0x1e136 5, entry 0x1e2ae 0x1e2ae 5, entry 0x1e2ec 0x1e2ef 5,
  entry 0x1e4ec 0x1e4ef 5, entry 0x1e8d0 0x1e8d6 5, entry 0x1e944 0x1e94a 5,
  entry 0x1f213 0x1f213 1]⟩

end Combinatory.Unicode
