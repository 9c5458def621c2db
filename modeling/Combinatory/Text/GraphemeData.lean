import Combinatory.Text.RangeTable

/-!
# Grapheme cluster break classes: data

The class of each code point in the rules that split text into user-perceived characters, from
`1` (carriage return) to `14` (extended pictographic); a code point in no range is other.
-/

namespace Combinatory.Unicode

open RangeTable (entry)

set_option maxRecDepth 20000 in
/-- Grapheme cluster break class of each code point. -/
def breakClasses : RangeTable := ⟨#[
  entry 0x0 0x9 3, entry 0xa 0xa 2, entry 0xb 0xc 3, entry 0xd 0xd 1, entry 0xe 0x1f 3,
  entry 0x7f 0x9f 3, entry 0xa9 0xa9 14, entry 0xad 0xad 3, entry 0xae 0xae 14,
  entry 0x300 0x36f 4, entry 0x483 0x489 4, entry 0x591 0x5bd 4, entry 0x5bf 0x5bf 4,
  entry 0x5c1 0x5c2 4, entry 0x5c4 0x5c5 4, entry 0x5c7 0x5c7 4, entry 0x600 0x605 7,
  entry 0x610 0x61a 4, entry 0x61c 0x61c 3, entry 0x64b 0x65f 4, entry 0x670 0x670 4,
  entry 0x6d6 0x6dc 4, entry 0x6dd 0x6dd 7, entry 0x6df 0x6e4 4, entry 0x6e7 0x6e8 4,
  entry 0x6ea 0x6ed 4, entry 0x70f 0x70f 7, entry 0x711 0x711 4, entry 0x730 0x74a 4,
  entry 0x7a6 0x7b0 4, entry 0x7eb 0x7f3 4, entry 0x7fd 0x7fd 4, entry 0x816 0x819 4,
  entry 0x81b 0x823 4, entry 0x825 0x827 4, entry 0x829 0x82d 4, entry 0x859 0x85b 4,
  entry 0x890 0x891 7, entry 0x898 0x89f 4, entry 0x8ca 0x8e1 4, entry 0x8e2 0x8e2 7,
  entry 0x8e3 0x902 4, entry 0x903 0x903 8, entry 0x93a 0x93a 4, entry 0x93b 0x93b 8,
  entry 0x93c 0x93c 4, entry 0x93e 0x940 8, entry 0x941 0x948 4, entry 0x949 0x94c 8,
  entry 0x94d 0x94d 4, entry 0x94e 0x94f 8, entry 0x951 0x957 4, entry 0x962 0x963 4,
  entry 0x981 0x981 4, entry 0x982 0x983 8, entry 0x9bc 0x9bc 4, entry 0x9be 0x9be 4,
  entry 0x9bf 0x9c0 8, entry 0x9c1 0x9c4 4, entry 0x9c7 0x9c8 8, entry 0x9cb 0x9cc 8,
  entry 0x9cd 0x9cd 4, entry 0x9d7 0x9d7 4, entry 0x9e2 0x9e3 4, entry 0x9fe 0x9fe 4,
  entry 0xa01 0xa02 4, entry 0xa03 0xa03 8, entry 0xa3c 0xa3c 4, entry 0xa3e 0xa40 8,
  entry 0xa41 0xa42 4, entry 0xa47 0xa48 4, entry 0xa4b 0xa4d 4, entry 0xa51 0xa51 4,
  entry 0xa70 0xa71 4, entry 0xa75 0xa75 4, entry 0xa81 0xa82 4, entry 0xa83 0xa83 8,
  entry 0xabc 0xabc 4, entry 0xabe 0xac0 8, entry 0xac1 0xac5 4, entry 0xac7 0xac8 4,
  entry 0xac9 0xac9 8, entry 0xacb 0xacc 8, entry 0xacd 0xacd 4, entry 0xae2 0xae3 4,
  entry 0xafa 0xaff 4, entry 0xb01 0xb01 4, entry 0xb02 0xb03 8, entry 0xb3c 0xb3c 4,
  entry 0xb3e 0xb3f 4, entry 0xb40 0xb40 8, entry 0xb41 0xb44 4, entry 0xb47 0xb48 8,
  entry 0xb4b 0xb4c 8, entry 0xb4d 0xb4d 4, entry 0xb55 0xb57 4, entry 0xb62 0xb63 4,
  entry 0xb82 0xb82 4, entry 0xbbe 0xbbe 4, entry 0xbbf 0xbbf 8, entry 0xbc0 0xbc0 4,
  entry 0xbc1 0xbc2 8, entry 0xbc6 0xbc8 8, entry 0xbca 0xbcc 8, entry 0xbcd 0xbcd 4,
  entry 0xbd7 0xbd7 4, entry 0xc00 0xc00 4, entry 0xc01 0xc03 8, entry 0xc04 0xc04 4,
  entry 0xc3c 0xc3c 4, entry 0xc3e 0xc40 4, entry 0xc41 0xc44 8, entry 0xc46 0xc48 4,
  entry 0xc4a 0xc4d 4, entry 0xc55 0xc56 4, entry 0xc62 0xc63 4, entry 0xc81 0xc81 4,
  entry 0xc82 0xc83 8, entry 0xcbc 0xcbc 4, entry 0xcbe 0xcbe 8, entry 0xcbf 0xcbf 4,
  entry 0xcc0 0xcc1 8, entry 0xcc2 0xcc2 4, entry 0xcc3 0xcc4 8, entry 0xcc6 0xcc6 4,
  entry 0xcc7 0xcc8 8, entry 0xcca 0xccb 8, entry 0xccc 0xccd 4, entry 0xcd5 0xcd6 4,
  entry 0xce2 0xce3 4, entry 0xcf3 0xcf3 8, entry 0xd00 0xd01 4, entry 0xd02 0xd03 8,
  entry 0xd3b 0xd3c 4, entry 0xd3e 0xd3e 4, entry 0xd3f 0xd40 8, entry 0xd41 0xd44 4,
  entry 0xd46 0xd48 8, entry 0xd4a 0xd4c 8, entry 0xd4d 0xd4d 4, entry 0xd4e 0xd4e 7,
  entry 0xd57 0xd57 4, entry 0xd62 0xd63 4, entry 0xd81 0xd81 4, entry 0xd82 0xd83 8,
  entry 0xdca 0xdca 4, entry 0xdcf 0xdcf 4, entry 0xdd0 0xdd1 8, entry 0xdd2 0xdd4 4,
  entry 0xdd6 0xdd6 4, entry 0xdd8 0xdde 8, entry 0xddf 0xddf 4, entry 0xdf2 0xdf3 8,
  entry 0xe31 0xe31 4, entry 0xe33 0xe33 8, entry 0xe34 0xe3a 4, entry 0xe47 0xe4e 4,
  entry 0xeb1 0xeb1 4, entry 0xeb3 0xeb3 8, entry 0xeb4 0xebc 4, entry 0xec8 0xece 4,
  entry 0xf18 0xf19 4, entry 0xf35 0xf35 4, entry 0xf37 0xf37 4, entry 0xf39 0xf39 4,
  entry 0xf3e 0xf3f 8, entry 0xf71 0xf7e 4, entry 0xf7f 0xf7f 8, entry 0xf80 0xf84 4,
  entry 0xf86 0xf87 4, entry 0xf8d 0xf97 4, entry 0xf99 0xfbc 4, entry 0xfc6 0xfc6 4,
  entry 0x102d 0x1030 4, entry 0x1031 0x1031 8, entry 0x1032 0x1037 4, entry 0x1039 0x103a 4,
  entry 0x103b 0x103c 8, entry 0x103d 0x103e 4, entry 0x1056 0x1057 8, entry 0x1058 0x1059 4,
  entry 0x105e 0x1060 4, entry 0x1071 0x1074 4, entry 0x1082 0x1082 4, entry 0x1084 0x1084 8,
  entry 0x1085 0x1086 4, entry 0x108d 0x108d 4, entry 0x109d 0x109d 4, entry 0x1100 0x115f 9,
  entry 0x1160 0x11a7 10, entry 0x11a8 0x11ff 11, entry 0x135d 0x135f 4, entry 0x1712 0x1714 4,
  entry 0x1715 0x1715 8, entry 0x1732 0x1733 4, entry 0x1734 0x1734 8, entry 0x1752 0x1753 4,
  entry 0x1772 0x1773 4, entry 0x17b4 0x17b5 4, entry 0x17b6 0x17b6 8, entry 0x17b7 0x17bd 4,
  entry 0x17be 0x17c5 8, entry 0x17c6 0x17c6 4, entry 0x17c7 0x17c8 8, entry 0x17c9 0x17d3 4,
  entry 0x17dd 0x17dd 4, entry 0x180b 0x180d 4, entry 0x180e 0x180e 3, entry 0x180f 0x180f 4,
  entry 0x1885 0x1886 4, entry 0x18a9 0x18a9 4, entry 0x1920 0x1922 4, entry 0x1923 0x1926 8,
  entry 0x1927 0x1928 4, entry 0x1929 0x192b 8, entry 0x1930 0x1931 8, entry 0x1932 0x1932 4,
  entry 0x1933 0x1938 8, entry 0x1939 0x193b 4, entry 0x1a17 0x1a18 4, entry 0x1a19 0x1a1a 8,
  entry 0x1a1b 0x1a1b 4, entry 0x1a55 0x1a55 8, entry 0x1a56 0x1a56 4, entry 0x1a57 0x1a57 8,
  entry 0x1a58 0x1a5e 4, entry 0x1a60 0x1a60 4, entry 0x1a62 0x1a62 4, entry 0x1a65 0x1a6c 4,
  entry 0x1a6d 0x1a72 8, entry 0x1a73 0x1a7c 4, entry 0x1a7f 0x1a7f 4, entry 0x1ab0 0x1ace 4,
  entry 0x1b00 0x1b03 4, entry 0x1b04 0x1b04 8, entry 0x1b34 0x1b3a 4, entry 0x1b3b 0x1b3b 8,
  entry 0x1b3c 0x1b3c 4, entry 0x1b3d 0x1b41 8, entry 0x1b42 0x1b42 4, entry 0x1b43 0x1b44 8,
  entry 0x1b6b 0x1b73 4, entry 0x1b80 0x1b81 4, entry 0x1b82 0x1b82 8, entry 0x1ba1 0x1ba1 8,
  entry 0x1ba2 0x1ba5 4, entry 0x1ba6 0x1ba7 8, entry 0x1ba8 0x1ba9 4, entry 0x1baa 0x1baa 8,
  entry 0x1bab 0x1bad 4, entry 0x1be6 0x1be6 4, entry 0x1be7 0x1be7 8, entry 0x1be8 0x1be9 4,
  entry 0x1bea 0x1bec 8, entry 0x1bed 0x1bed 4, entry 0x1bee 0x1bee 8, entry 0x1bef 0x1bf1 4,
  entry 0x1bf2 0x1bf3 8, entry 0x1c24 0x1c2b 8, entry 0x1c2c 0x1c33 4, entry 0x1c34 0x1c35 8,
  entry 0x1c36 0x1c37 4, entry 0x1cd0 0x1cd2 4, entry 0x1cd4 0x1ce0 4, entry 0x1ce1 0x1ce1 8,
  entry 0x1ce2 0x1ce8 4, entry 0x1ced 0x1ced 4, entry 0x1cf4 0x1cf4 4, entry 0x1cf7 0x1cf7 8,
  entry 0x1cf8 0x1cf9 4, entry 0x1dc0 0x1dff 4, entry 0x200b 0x200b 3, entry 0x200c 0x200c 4,
  entry 0x200d 0x200d 5, entry 0x200e 0x200f 3, entry 0x2028 0x202e 3, entry 0x203c 0x203c 14,
  entry 0x2049 0x2049 14, entry 0x2060 0x206f 3, entry 0x20d0 0x20f0 4, entry 0x2122 0x2122 14,
  entry 0x2139 0x2139 14, entry 0x2194 0x2199 14, entry 0x21a9 0x21aa 14, entry 0x231a 0x231b 14,
  entry 0x2328 0x2328 14, entry 0x2388 0x2388 14, entry 0x23cf 0x23cf 14, entry 0x23e9 0x23f3 14,
  entry 0x23f8 0x23fa 14, entry 0x24c2 0x24c2 14, entry 0x25aa 0x25ab 14, entry 0x25b6 0x25b6 14,
  entry 0x25c0 0x25c0 14, entry 0x25fb 0x25fe 14, entry 0x2600 0x2605 14, entry 0x2607 0x2612 14,
  entry 0x2614 0x2685 14, entry 0x2690 0x2705 14, entry 0x2708 0x2712 14, entry 0x2714 0x2714 14,
  entry 0x2716 0x2716 14, entry 0x271d 0x271d 14, entry 0x2721 0x2721 14, entry 0x2728 0x2728 14,
  entry 0x2733 0x2734 14, entry 0x2744 0x2744 14, entry 0x2747 0x2747 14, entry 0x274c 0x274c 14,
  entry 0x274e 0x274e 14, entry 0x2753 0x2755 14, entry 0x2757 0x2757 14, entry 0x2763 0x2767 14,
  entry 0x2795 0x2797 14, entry 0x27a1 0x27a1 14, entry 0x27b0 0x27b0 14, entry 0x27bf 0x27bf 14,
  entry 0x2934 0x2935 14, entry 0x2b05 0x2b07 14, entry 0x2b1b 0x2b1c 14, entry 0x2b50 0x2b50 14,
  entry 0x2b55 0x2b55 14, entry 0x2cef 0x2cf1 4, entry 0x2d7f 0x2d7f 4, entry 0x2de0 0x2dff 4,
  entry 0x302a 0x302f 4, entry 0x3030 0x3030 14, entry 0x303d 0x303d 14, entry 0x3099 0x309a 4,
  entry 0x3297 0x3297 14, entry 0x3299 0x3299 14, entry 0xa66f 0xa672 4, entry 0xa674 0xa67d 4,
  entry 0xa69e 0xa69f 4, entry 0xa6f0 0xa6f1 4, entry 0xa802 0xa802 4, entry 0xa806 0xa806 4,
  entry 0xa80b 0xa80b 4, entry 0xa823 0xa824 8, entry 0xa825 0xa826 4, entry 0xa827 0xa827 8,
  entry 0xa82c 0xa82c 4, entry 0xa880 0xa881 8, entry 0xa8b4 0xa8c3 8, entry 0xa8c4 0xa8c5 4,
  entry 0xa8e0 0xa8f1 4, entry 0xa8ff 0xa8ff 4, entry 0xa926 0xa92d 4, entry 0xa947 0xa951 4,
  entry 0xa952 0xa953 8, entry 0xa960 0xa97c 9, entry 0xa980 0xa982 4, entry 0xa983 0xa983 8,
  entry 0xa9b3 0xa9b3 4, entry 0xa9b4 0xa9b5 8, entry 0xa9b6 0xa9b9 4, entry 0xa9ba 0xa9bb 8,
  entry 0xa9bc 0xa9bd 4, entry 0xa9be 0xa9c0 8, entry 0xa9e5 0xa9e5 4, entry 0xaa29 0xaa2e 4,
  entry 0xaa2f 0xaa30 8, entry 0xaa31 0xaa32 4, entry 0xaa33 0xaa34 8, entry 0xaa35 0xaa36 4,
  entry 0xaa43 0xaa43 4, entry 0xaa4c 0xaa4c 4, entry 0xaa4d 0xaa4d 8, entry 0xaa7c 0xaa7c 4,
  entry 0xaab0 0xaab0 4, entry 0xaab2 0xaab4 4, entry 0xaab7 0xaab8 4, entry 0xaabe 0xaabf 4,
  entry 0xaac1 0xaac1 4, entry 0xaaeb 0xaaeb 8, entry 0xaaec 0xaaed 4, entry 0xaaee 0xaaef 8,
  entry 0xaaf5 0xaaf5 8, entry 0xaaf6 0xaaf6 4, entry 0xabe3 0xabe4 8, entry 0xabe5 0xabe5 4,
  entry 0xabe6 0xabe7 8, entry 0xabe8 0xabe8 4, entry 0xabe9 0xabea 8, entry 0xabec 0xabec 8,
  entry 0xabed 0xabed 4, entry 0xac00 0xac00 12, entry 0xac01 0xac1b 13, entry 0xac1c 0xac1c 12,
  entry 0xac1d 0xac37 13, entry 0xac38 0xac38 12, entry 0xac39 0xac53 13, entry 0xac54 0xac54 12,
  entry 0xac55 0xac6f 13, entry 0xac70 0xac70 12, entry 0xac71 0xac8b 13, entry 0xac8c 0xac8c 12,
  entry 0xac8d 0xaca7 13, entry 0xaca8 0xaca8 12, entry 0xaca9 0xacc3 13, entry 0xacc4 0xacc4 12,
  entry 0xacc5 0xacdf 13, entry 0xace0 0xace0 12, entry 0xace1 0xacfb 13, entry 0xacfc 0xacfc 12,
  entry 0xacfd 0xad17 13, entry 0xad18 0xad18 12, entry 0xad19 0xad33 13, entry 0xad34 0xad34 12,
  entry 0xad35 0xad4f 13, entry 0xad50 0xad50 12, entry 0xad51 0xad6b 13, entry 0xad6c 0xad6c 12,
  entry 0xad6d 0xad87 13, entry 0xad88 0xad88 12, entry 0xad89 0xada3 13, entry 0xada4 0xada4 12,
  entry 0xada5 0xadbf 13, entry 0xadc0 0xadc0 12, entry 0xadc1 0xaddb 13, entry 0xaddc 0xaddc 12,
  entry 0xaddd 0xadf7 13, entry 0xadf8 0xadf8 12, entry 0xadf9 0xae13 13, entry 0xae14 0xae14 12,
  entry 0xae15 0xae2f 13, entry 0xae30 0xae30 12, entry 0xae31 0xae4b 13, entry 0xae4c 0xae4c 12,
  entry 0xae4d 0xae67 13, entry 0xae68 0xae68 12, entry 0xae69 0xae83 13, entry 0xae84 0xae84 12,
  entry 0xae85 0xae9f 13, entry 0xaea0 0xaea0 12, entry 0xaea1 0xaebb 13, entry 0xaebc 0xaebc 12,
  entry 0xaebd 0xaed7 13, entry 0xaed8 0xaed8 12, entry 0xaed9 0xaef3 13, entry 0xaef4 0xaef4 12,
  entry 0xaef5 0xaf0f 13, entry 0xaf10 0xaf10 12, entry 0xaf11 0xaf2b 13, entry 0xaf2c 0xaf2c 12,
  entry 0xaf2d 0xaf47 13, entry 0xaf48 0xaf48 12, entry 0xaf49 0xaf63 13, entry 0xaf64 0xaf64 12,
  entry 0xaf65 0xaf7f 13, entry 0xaf80 0xaf80 12, entry 0xaf81 0xaf9b 13, entry 0xaf9c 0xaf9c 12,
  entry 0xaf9d 0xafb7 13, entry 0xafb8 0xafb8 12, entry 0xafb9 0xafd3 13, entry 0xafd4 0xafd4 12,
  entry 0xafd5 0xafef 13, entry 0xaff0 0xaff0 12, entry 0xaff1 0xb00b 13, entry 0xb00c 0xb00c 12,
  entry 0xb00d 0xb027 13, entry 0xb028 0xb028 12, entry 0xb029 0xb043 13, entry 0xb044 0xb044 12,
  entry 0xb045 0xb05f 13, entry 0xb060 0xb060 12, entry 0xb061 0xb07b 13, entry 0xb07c 0xb07c 12,
  entry 0xb07d 0xb097 13, entry 0xb098 0xb098 12, entry 0xb099 0xb0b3 13, entry 0xb0b4 0xb0b4 12,
  entry 0xb0b5 0xb0cf 13, entry 0xb0d0 0xb0d0 12, entry 0xb0d1 0xb0eb 13, entry 0xb0ec 0xb0ec 12,
  entry 0xb0ed 0xb107 13, entry 0xb108 0xb108 12, entry 0xb109 0xb123 13, entry 0xb124 0xb124 12,
  entry 0xb125 0xb13f 13, entry 0xb140 0xb140 12, entry 0xb141 0xb15b 13, entry 0xb15c 0xb15c 12,
  entry 0xb15d 0xb177 13, entry 0xb178 0xb178 12, entry 0xb179 0xb193 13, entry 0xb194 0xb194 12,
  entry 0xb195 0xb1af 13, entry 0xb1b0 0xb1b0 12, entry 0xb1b1 0xb1cb 13, entry 0xb1cc 0xb1cc 12,
  entry 0xb1cd 0xb1e7 13, entry 0xb1e8 0xb1e8 12, entry 0xb1e9 0xb203 13, entry 0xb204 0xb204 12,
  entry 0xb205 0xb21f 13, entry 0xb220 0xb220 12, entry 0xb221 0xb23b 13, entry 0xb23c 0xb23c 12,
  entry 0xb23d 0xb257 13, entry 0xb258 0xb258 12, entry 0xb259 0xb273 13, entry 0xb274 0xb274 12,
  entry 0xb275 0xb28f 13, entry 0xb290 0xb290 12, entry 0xb291 0xb2ab 13, entry 0xb2ac 0xb2ac 12,
  entry 0xb2ad 0xb2c7 13, entry 0xb2c8 0xb2c8 12, entry 0xb2c9 0xb2e3 13, entry 0xb2e4 0xb2e4 12,
  entry 0xb2e5 0xb2ff 13, entry 0xb300 0xb300 12, entry 0xb301 0xb31b 13, entry 0xb31c 0xb31c 12,
  entry 0xb31d 0xb337 13, entry 0xb338 0xb338 12, entry 0xb339 0xb353 13, entry 0xb354 0xb354 12,
  entry 0xb355 0xb36f 13, entry 0xb370 0xb370 12, entry 0xb371 0xb38b 13, entry 0xb38c 0xb38c 12,
  entry 0xb38d 0xb3a7 13, entry 0xb3a8 0xb3a8 12, entry 0xb3a9 0xb3c3 13, entry 0xb3c4 0xb3c4 12,
  entry 0xb3c5 0xb3df 13, entry 0xb3e0 0xb3e0 12, entry 0xb3e1 0xb3fb 13, entry 0xb3fc 0xb3fc 12,
  entry 0xb3fd 0xb417 13, entry 0xb418 0xb418 12, entry 0xb419 0xb433 13, entry 0xb434 0xb434 12,
  entry 0xb435 0xb44f 13, entry 0xb450 0xb450 12, entry 0xb451 0xb46b 13, entry 0xb46c 0xb46c 12,
  entry 0xb46d 0xb487 13, entry 0xb488 0xb488 12, entry 0xb489 0xb4a3 13, entry 0xb4a4 0xb4a4 12,
  entry 0xb4a5 0xb4bf 13, entry 0xb4c0 0xb4c0 12, entry 0xb4c1 0xb4db 13, entry 0xb4dc 0xb4dc 12,
  entry 0xb4dd 0xb4f7 13, entry 0xb4f8 0xb4f8 12, entry 0xb4f9 0xb513 13, entry 0xb514 0xb514 12,
  entry 0xb515 0xb52f 13, entry 0xb530 0xb530 12, entry 0xb531 0xb54b 13, entry 0xb54c 0xb54c 12,
  entry 0xb54d 0xb567 13, entry 0xb568 0xb568 12, entry 0xb569 0xb583 13, entry 0xb584 0xb584 12,
  entry 0xb585 0xb59f 13, entry 0xb5a0 0xb5a0 12, entry 0xb5a1 0xb5bb 13, entry 0xb5bc 0xb5bc 12,
  entry 0xb5bd 0xb5d7 13, entry 0xb5d8 0xb5d8 12, entry 0xb5d9 0xb5f3 13, entry 0xb5f4 0xb5f4 12,
  entry 0xb5f5 0xb60f 13, entry 0xb610 0xb610 12, entry 0xb611 0xb62b 13, entry 0xb62c 0xb62c 12,
  entry 0xb62d 0xb647 13, entry 0xb648 0xb648 12, entry 0xb649 0xb663 13, entry 0xb664 0xb664 12,
  entry 0xb665 0xb67f 13, entry 0xb680 0xb680 12, entry 0xb681 0xb69b 13, entry 0xb69c 0xb69c 12,
  entry 0xb69d 0xb6b7 13, entry 0xb6b8 0xb6b8 12, entry 0xb6b9 0xb6d3 13, entry 0xb6d4 0xb6d4 12,
  entry 0xb6d5 0xb6ef 13, entry 0xb6f0 0xb6f0 12, entry 0xb6f1 0xb70b 13, entry 0xb70c 0xb70c 12,
  entry 0xb70d 0xb727 13, entry 0xb728 0xb728 12, entry 0xb729 0xb743 13, entry 0xb744 0xb744 12,
  entry 0xb745 0xb75f 13, entry 0xb760 0xb760 12, entry 0xb761 0xb77b 13, entry 0xb77c 0xb77c 12,
  entry 0xb77d 0xb797 13, entry 0xb798 0xb798 12, entry 0xb799 0xb7b3 13, entry 0xb7b4 0xb7b4 12,
  entry 0xb7b5 0xb7cf 13, entry 0xb7d0 0xb7d0 12, entry 0xb7d1 0xb7eb 13, entry 0xb7ec 0xb7ec 12,
  entry 0xb7ed 0xb807 13, entry 0xb808 0xb808 12, entry 0xb809 0xb823 13, entry 0xb824 0xb824 12,
  entry 0xb825 0xb83f 13, entry 0xb840 0xb840 12, entry 0xb841 0xb85b 13, entry 0xb85c 0xb85c 12,
  entry 0xb85d 0xb877 13, entry 0xb878 0xb878 12, entry 0xb879 0xb893 13, entry 0xb894 0xb894 12,
  entry 0xb895 0xb8af 13, entry 0xb8b0 0xb8b0 12, entry 0xb8b1 0xb8cb 13, entry 0xb8cc 0xb8cc 12,
  entry 0xb8cd 0xb8e7 13, entry 0xb8e8 0xb8e8 12, entry 0xb8e9 0xb903 13, entry 0xb904 0xb904 12,
  entry 0xb905 0xb91f 13, entry 0xb920 0xb920 12, entry 0xb921 0xb93b 13, entry 0xb93c 0xb93c 12,
  entry 0xb93d 0xb957 13, entry 0xb958 0xb958 12, entry 0xb959 0xb973 13, entry 0xb974 0xb974 12,
  entry 0xb975 0xb98f 13, entry 0xb990 0xb990 12, entry 0xb991 0xb9ab 13, entry 0xb9ac 0xb9ac 12,
  entry 0xb9ad 0xb9c7 13, entry 0xb9c8 0xb9c8 12, entry 0xb9c9 0xb9e3 13, entry 0xb9e4 0xb9e4 12,
  entry 0xb9e5 0xb9ff 13, entry 0xba00 0xba00 12, entry 0xba01 0xba1b 13, entry 0xba1c 0xba1c 12,
  entry 0xba1d 0xba37 13, entry 0xba38 0xba38 12, entry 0xba39 0xba53 13, entry 0xba54 0xba54 12,
  entry 0xba55 0xba6f 13, entry 0xba70 0xba70 12, entry 0xba71 0xba8b 13, entry 0xba8c 0xba8c 12,
  entry 0xba8d 0xbaa7 13, entry 0xbaa8 0xbaa8 12, entry 0xbaa9 0xbac3 13, entry 0xbac4 0xbac4 12,
  entry 0xbac5 0xbadf 13, entry 0xbae0 0xbae0 12, entry 0xbae1 0xbafb 13, entry 0xbafc 0xbafc 12,
  entry 0xbafd 0xbb17 13, entry 0xbb18 0xbb18 12, entry 0xbb19 0xbb33 13, entry 0xbb34 0xbb34 12,
  entry 0xbb35 0xbb4f 13, entry 0xbb50 0xbb50 12, entry 0xbb51 0xbb6b 13, entry 0xbb6c 0xbb6c 12,
  entry 0xbb6d 0xbb87 13, entry 0xbb88 0xbb88 12, entry 0xbb89 0xbba3 13, entry 0xbba4 0xbba4 12,
  entry 0xbba5 0xbbbf 13, entry 0xbbc0 0xbbc0 12, entry 0xbbc1 0xbbdb 13, entry 0xbbdc 0xbbdc 12,
  entry 0xbbdd 0xbbf7 13, entry 0xbbf8 0xbbf8 12, entry 0xbbf9 0xbc13 13, entry 0xbc14 0xbc14 12,
  entry 0xbc15 0xbc2f 13, entry 0xbc30 0xbc30 12, entry 0xbc31 0xbc4b 13, entry 0xbc4c 0xbc4c 12,
  entry 0xbc4d 0xbc67 13, entry 0xbc68 0xbc68 12, entry 0xbc69 0xbc83 13, entry 0xbc84 0xbc84 12,
  entry 0xbc85 0xbc9f 13, entry 0xbca0 0xbca0 12, entry 0xbca1 0xbcbb 13, entry 0xbcbc 0xbcbc 12,
  entry 0xbcbd 0xbcd7 13, entry 0xbcd8 0xbcd8 12, entry 0xbcd9 0xbcf3 13, entry 0xbcf4 0xbcf4 12,
  entry 0xbcf5 0xbd0f 13, entry 0xbd10 0xbd10 12, entry 0xbd11 0xbd2b 13, entry 0xbd2c 0xbd2c 12,
  entry 0xbd2d 0xbd47 13, entry 0xbd48 0xbd48 12, entry 0xbd49 0xbd63 13, entry 0xbd64 0xbd64 12,
  entry 0xbd65 0xbd7f 13, entry 0xbd80 0xbd80 12, entry 0xbd81 0xbd9b 13, entry 0xbd9c 0xbd9c 12,
  entry 0xbd9d 0xbdb7 13, entry 0xbdb8 0xbdb8 12, entry 0xbdb9 0xbdd3 13, entry 0xbdd4 0xbdd4 12,
  entry 0xbdd5 0xbdef 13, entry 0xbdf0 0xbdf0 12, entry 0xbdf1 0xbe0b 13, entry 0xbe0c 0xbe0c 12,
  entry 0xbe0d 0xbe27 13, entry 0xbe28 0xbe28 12, entry 0xbe29 0xbe43 13, entry 0xbe44 0xbe44 12,
  entry 0xbe45 0xbe5f 13, entry 0xbe60 0xbe60 12, entry 0xbe61 0xbe7b 13, entry 0xbe7c 0xbe7c 12,
  entry 0xbe7d 0xbe97 13, entry 0xbe98 0xbe98 12, entry 0xbe99 0xbeb3 13, entry 0xbeb4 0xbeb4 12,
  entry 0xbeb5 0xbecf 13, entry 0xbed0 0xbed0 12, entry 0xbed1 0xbeeb 13, entry 0xbeec 0xbeec 12,
  entry 0xbeed 0xbf07 13, entry 0xbf08 0xbf08 12, entry 0xbf09 0xbf23 13, entry 0xbf24 0xbf24 12,
  entry 0xbf25 0xbf3f 13, entry 0xbf40 0xbf40 12, entry 0xbf41 0xbf5b 13, entry 0xbf5c 0xbf5c 12,
  entry 0xbf5d 0xbf77 13, entry 0xbf78 0xbf78 12, entry 0xbf79 0xbf93 13, entry 0xbf94 0xbf94 12,
  entry 0xbf95 0xbfaf 13, entry 0xbfb0 0xbfb0 12, entry 0xbfb1 0xbfcb 13, entry 0xbfcc 0xbfcc 12,
  entry 0xbfcd 0xbfe7 13, entry 0xbfe8 0xbfe8 12, entry 0xbfe9 0xc003 13, entry 0xc004 0xc004 12,
  entry 0xc005 0xc01f 13, entry 0xc020 0xc020 12, entry 0xc021 0xc03b 13, entry 0xc03c 0xc03c 12,
  entry 0xc03d 0xc057 13, entry 0xc058 0xc058 12, entry 0xc059 0xc073 13, entry 0xc074 0xc074 12,
  entry 0xc075 0xc08f 13, entry 0xc090 0xc090 12, entry 0xc091 0xc0ab 13, entry 0xc0ac 0xc0ac 12,
  entry 0xc0ad 0xc0c7 13, entry 0xc0c8 0xc0c8 12, entry 0xc0c9 0xc0e3 13, entry 0xc0e4 0xc0e4 12,
  entry 0xc0e5 0xc0ff 13, entry 0xc100 0xc100 12, entry 0xc101 0xc11b 13, entry 0xc11c 0xc11c 12,
  entry 0xc11d 0xc137 13, entry 0xc138 0xc138 12, entry 0xc139 0xc153 13, entry 0xc154 0xc154 12,
  entry 0xc155 0xc16f 13, entry 0xc170 0xc170 12, entry 0xc171 0xc18b 13, entry 0xc18c 0xc18c 12,
  entry 0xc18d 0xc1a7 13, entry 0xc1a8 0xc1a8 12, entry 0xc1a9 0xc1c3 13, entry 0xc1c4 0xc1c4 12,
  entry 0xc1c5 0xc1df 13, entry 0xc1e0 0xc1e0 12, entry 0xc1e1 0xc1fb 13, entry 0xc1fc 0xc1fc 12,
  entry 0xc1fd 0xc217 13, entry 0xc218 0xc218 12, entry 0xc219 0xc233 13, entry 0xc234 0xc234 12,
  entry 0xc235 0xc24f 13, entry 0xc250 0xc250 12, entry 0xc251 0xc26b 13, entry 0xc26c 0xc26c 12,
  entry 0xc26d 0xc287 13, entry 0xc288 0xc288 12, entry 0xc289 0xc2a3 13, entry 0xc2a4 0xc2a4 12,
  entry 0xc2a5 0xc2bf 13, entry 0xc2c0 0xc2c0 12, entry 0xc2c1 0xc2db 13, entry 0xc2dc 0xc2dc 12,
  entry 0xc2dd 0xc2f7 13, entry 0xc2f8 0xc2f8 12, entry 0xc2f9 0xc313 13, entry 0xc314 0xc314 12,
  entry 0xc315 0xc32f 13, entry 0xc330 0xc330 12, entry 0xc331 0xc34b 13, entry 0xc34c 0xc34c 12,
  entry 0xc34d 0xc367 13, entry 0xc368 0xc368 12, entry 0xc369 0xc383 13, entry 0xc384 0xc384 12,
  entry 0xc385 0xc39f 13, entry 0xc3a0 0xc3a0 12, entry 0xc3a1 0xc3bb 13, entry 0xc3bc 0xc3bc 12,
  entry 0xc3bd 0xc3d7 13, entry 0xc3d8 0xc3d8 12, entry 0xc3d9 0xc3f3 13, entry 0xc3f4 0xc3f4 12,
  entry 0xc3f5 0xc40f 13, entry 0xc410 0xc410 12, entry 0xc411 0xc42b 13, entry 0xc42c 0xc42c 12,
  entry 0xc42d 0xc447 13, entry 0xc448 0xc448 12, entry 0xc449 0xc463 13, entry 0xc464 0xc464 12,
  entry 0xc465 0xc47f 13, entry 0xc480 0xc480 12, entry 0xc481 0xc49b 13, entry 0xc49c 0xc49c 12,
  entry 0xc49d 0xc4b7 13, entry 0xc4b8 0xc4b8 12, entry 0xc4b9 0xc4d3 13, entry 0xc4d4 0xc4d4 12,
  entry 0xc4d5 0xc4ef 13, entry 0xc4f0 0xc4f0 12, entry 0xc4f1 0xc50b 13, entry 0xc50c 0xc50c 12,
  entry 0xc50d 0xc527 13, entry 0xc528 0xc528 12, entry 0xc529 0xc543 13, entry 0xc544 0xc544 12,
  entry 0xc545 0xc55f 13, entry 0xc560 0xc560 12, entry 0xc561 0xc57b 13, entry 0xc57c 0xc57c 12,
  entry 0xc57d 0xc597 13, entry 0xc598 0xc598 12, entry 0xc599 0xc5b3 13, entry 0xc5b4 0xc5b4 12,
  entry 0xc5b5 0xc5cf 13, entry 0xc5d0 0xc5d0 12, entry 0xc5d1 0xc5eb 13, entry 0xc5ec 0xc5ec 12,
  entry 0xc5ed 0xc607 13, entry 0xc608 0xc608 12, entry 0xc609 0xc623 13, entry 0xc624 0xc624 12,
  entry 0xc625 0xc63f 13, entry 0xc640 0xc640 12, entry 0xc641 0xc65b 13, entry 0xc65c 0xc65c 12,
  entry 0xc65d 0xc677 13, entry 0xc678 0xc678 12, entry 0xc679 0xc693 13, entry 0xc694 0xc694 12,
  entry 0xc695 0xc6af 13, entry 0xc6b0 0xc6b0 12, entry 0xc6b1 0xc6cb 13, entry 0xc6cc 0xc6cc 12,
  entry 0xc6cd 0xc6e7 13, entry 0xc6e8 0xc6e8 12, entry 0xc6e9 0xc703 13, entry 0xc704 0xc704 12,
  entry 0xc705 0xc71f 13, entry 0xc720 0xc720 12, entry 0xc721 0xc73b 13, entry 0xc73c 0xc73c 12,
  entry 0xc73d 0xc757 13, entry 0xc758 0xc758 12, entry 0xc759 0xc773 13, entry 0xc774 0xc774 12,
  entry 0xc775 0xc78f 13, entry 0xc790 0xc790 12, entry 0xc791 0xc7ab 13, entry 0xc7ac 0xc7ac 12,
  entry 0xc7ad 0xc7c7 13, entry 0xc7c8 0xc7c8 12, entry 0xc7c9 0xc7e3 13, entry 0xc7e4 0xc7e4 12,
  entry 0xc7e5 0xc7ff 13, entry 0xc800 0xc800 12, entry 0xc801 0xc81b 13, entry 0xc81c 0xc81c 12,
  entry 0xc81d 0xc837 13, entry 0xc838 0xc838 12, entry 0xc839 0xc853 13, entry 0xc854 0xc854 12,
  entry 0xc855 0xc86f 13, entry 0xc870 0xc870 12, entry 0xc871 0xc88b 13, entry 0xc88c 0xc88c 12,
  entry 0xc88d 0xc8a7 13, entry 0xc8a8 0xc8a8 12, entry 0xc8a9 0xc8c3 13, entry 0xc8c4 0xc8c4 12,
  entry 0xc8c5 0xc8df 13, entry 0xc8e0 0xc8e0 12, entry 0xc8e1 0xc8fb 13, entry 0xc8fc 0xc8fc 12,
  entry 0xc8fd 0xc917 13, entry 0xc918 0xc918 12, entry 0xc919 0xc933 13, entry 0xc934 0xc934 12,
  entry 0xc935 0xc94f 13, entry 0xc950 0xc950 12, entry 0xc951 0xc96b 13, entry 0xc96c 0xc96c 12,
  entry 0xc96d 0xc987 13, entry 0xc988 0xc988 12, entry 0xc989 0xc9a3 13, entry 0xc9a4 0xc9a4 12,
  entry 0xc9a5 0xc9bf 13, entry 0xc9c0 0xc9c0 12, entry 0xc9c1 0xc9db 13, entry 0xc9dc 0xc9dc 12,
  entry 0xc9dd 0xc9f7 13, entry 0xc9f8 0xc9f8 12, entry 0xc9f9 0xca13 13, entry 0xca14 0xca14 12,
  entry 0xca15 0xca2f 13, entry 0xca30 0xca30 12, entry 0xca31 0xca4b 13, entry 0xca4c 0xca4c 12,
  entry 0xca4d 0xca67 13, entry 0xca68 0xca68 12, entry 0xca69 0xca83 13, entry 0xca84 0xca84 12,
  entry 0xca85 0xca9f 13, entry 0xcaa0 0xcaa0 12, entry 0xcaa1 0xcabb 13, entry 0xcabc 0xcabc 12,
  entry 0xcabd 0xcad7 13, entry 0xcad8 0xcad8 12, entry 0xcad9 0xcaf3 13, entry 0xcaf4 0xcaf4 12,
  entry 0xcaf5 0xcb0f 13, entry 0xcb10 0xcb10 12, entry 0xcb11 0xcb2b 13, entry 0xcb2c 0xcb2c 12,
  entry 0xcb2d 0xcb47 13, entry 0xcb48 0xcb48 12, entry 0xcb49 0xcb63 13, entry 0xcb64 0xcb64 12,
  entry 0xcb65 0xcb7f 13, entry 0xcb80 0xcb80 12, entry 0xcb81 0xcb9b 13, entry 0xcb9c 0xcb9c 12,
  entry 0xcb9d 0xcbb7 13, entry 0xcbb8 0xcbb8 12, entry 0xcbb9 0xcbd3 13, entry 0xcbd4 0xcbd4 12,
  entry 0xcbd5 0xcbef 13, entry 0xcbf0 0xcbf0 12, entry 0xcbf1 0xcc0b 13, entry 0xcc0c 0xcc0c 12,
  entry 0xcc0d 0xcc27 13, entry 0xcc28 0xcc28 12, entry 0xcc29 0xcc43 13, entry 0xcc44 0xcc44 12,
  entry 0xcc45 0xcc5f 13, entry 0xcc60 0xcc60 12, entry 0xcc61 0xcc7b 13, entry 0xcc7c 0xcc7c 12,
  entry 0xcc7d 0xcc97 13, entry 0xcc98 0xcc98 12, entry 0xcc99 0xccb3 13, entry 0xccb4 0xccb4 12,
  entry 0xccb5 0xcccf 13, entry 0xccd0 0xccd0 12, entry 0xccd1 0xcceb 13, entry 0xccec 0xccec 12,
  entry 0xcced 0xcd07 13, entry 0xcd08 0xcd08 12, entry 0xcd09 0xcd23 13, entry 0xcd24 0xcd24 12,
  entry 0xcd25 0xcd3f 13, entry 0xcd40 0xcd40 12, entry 0xcd41 0xcd5b 13, entry 0xcd5c 0xcd5c 12,
  entry 0xcd5d 0xcd77 13, entry 0xcd78 0xcd78 12, entry 0xcd79 0xcd93 13, entry 0xcd94 0xcd94 12,
  entry 0xcd95 0xcdaf 13, entry 0xcdb0 0xcdb0 12, entry 0xcdb1 0xcdcb 13, entry 0xcdcc 0xcdcc 12,
  entry 0xcdcd 0xcde7 13, entry 0xcde8 0xcde8 12, entry 0xcde9 0xce03 13, entry 0xce04 0xce04 12,
  entry 0xce05 0xce1f 13, entry 0xce20 0xce20 12, entry 0xce21 0xce3b 13, entry 0xce3c 0xce3c 12,
  entry 0xce3d 0xce57 13, entry 0xce58 0xce58 12, entry 0xce59 0xce73 13, entry 0xce74 0xce74 12,
  entry 0xce75 0xce8f 13, entry 0xce90 0xce90 12, entry 0xce91 0xceab 13, entry 0xceac 0xceac 12,
  entry 0xcead 0xcec7 13, entry 0xcec8 0xcec8 12, entry 0xcec9 0xcee3 13, entry 0xcee4 0xcee4 12,
  entry 0xcee5 0xceff 13, entry 0xcf00 0xcf00 12, entry 0xcf01 0xcf1b 13, entry 0xcf1c 0xcf1c 12,
  entry 0xcf1d 0xcf37 13, entry 0xcf38 0xcf38 12, entry 0xcf39 0xcf53 13, entry 0xcf54 0xcf54 12,
  entry 0xcf55 0xcf6f 13, entry 0xcf70 0xcf70 12, entry 0xcf71 0xcf8b 13, entry 0xcf8c 0xcf8c 12,
  entry 0xcf8d 0xcfa7 13, entry 0xcfa8 0xcfa8 12, entry 0xcfa9 0xcfc3 13, entry 0xcfc4 0xcfc4 12,
  entry 0xcfc5 0xcfdf 13, entry 0xcfe0 0xcfe0 12, entry 0xcfe1 0xcffb 13, entry 0xcffc 0xcffc 12,
  entry 0xcffd 0xd017 13, entry 0xd018 0xd018 12, entry 0xd019 0xd033 13, entry 0xd034 0xd034 12,
  entry 0xd035 0xd04f 13, entry 0xd050 0xd050 12, entry 0xd051 0xd06b 13, entry 0xd06c 0xd06c 12,
  entry 0xd06d 0xd087 13, entry 0xd088 0xd088 12, entry 0xd089 0xd0a3 13, entry 0xd0a4 0xd0a4 12,
  entry 0xd0a5 0xd0bf 13, entry 0xd0c0 0xd0c0 12, entry 0xd0c1 0xd0db 13, entry 0xd0dc 0xd0dc 12,
  entry 0xd0dd 0xd0f7 13, entry 0xd0f8 0xd0f8 12, entry 0xd0f9 0xd113 13, entry 0xd114 0xd114 12,
  entry 0xd115 0xd12f 13, entry 0xd130 0xd130 12, entry 0xd131 0xd14b 13, entry 0xd14c 0xd14c 12,
  entry 0xd14d 0xd167 13, entry 0xd168 0xd168 12, entry 0xd169 0xd183 13, entry 0xd184 0xd184 12,
  entry 0xd185 0xd19f 13, entry 0xd1a0 0xd1a0 12, entry 0xd1a1 0xd1bb 13, entry 0xd1bc 0xd1bc 12,
  entry 0xd1bd 0xd1d7 13, entry 0xd1d8 0xd1d8 12, entry 0xd1d9 0xd1f3 13, entry 0xd1f4 0xd1f4 12,
  entry 0xd1f5 0xd20f 13, entry 0xd210 0xd210 12, entry 0xd211 0xd22b 13, entry 0xd22c 0xd22c 12,
  entry 0xd22d 0xd247 13, entry 0xd248 0xd248 12, entry 0xd249 0xd263 13, entry 0xd264 0xd264 12,
  entry 0xd265 0xd27f 13, entry 0xd280 0xd280 12, entry 0xd281 0xd29b 13, entry 0xd29c 0xd29c 12,
  entry 0xd29d 0xd2b7 13, entry 0xd2b8 0xd2b8 12, entry 0xd2b9 0xd2d3 13, entry 0xd2d4 0xd2d4 12,
  entry 0xd2d5 0xd2ef 13, entry 0xd2f0 0xd2f0 12, entry 0xd2f1 0xd30b 13, entry 0xd30c 0xd30c 12,
  entry 0xd30d 0xd327 13, entry 0xd328 0xd328 12, entry 0xd329 0xd343 13, entry 0xd344 0xd344 12,
  entry 0xd345 0xd35f 13, entry 0xd360 0xd360 12, entry 0xd361 0xd37b 13, entry 0xd37c 0xd37c 12,
  entry 0xd37d 0xd397 13, entry 0xd398 0xd398 12, entry 0xd399 0xd3b3 13, entry 0xd3b4 0xd3b4 12,
  entry 0xd3b5 0xd3cf 13, entry 0xd3d0 0xd3d0 12, entry 0xd3d1 0xd3eb 13, entry 0xd3ec 0xd3ec 12,
  entry 0xd3ed 0xd407 13, entry 0xd408 0xd408 12, entry 0xd409 0xd423 13, entry 0xd424 0xd424 12,
  entry 0xd425 0xd43f 13, entry 0xd440 0xd440 12, entry 0xd441 0xd45b 13, entry 0xd45c 0xd45c 12,
  entry 0xd45d 0xd477 13, entry 0xd478 0xd478 12, entry 0xd479 0xd493 13, entry 0xd494 0xd494 12,
  entry 0xd495 0xd4af 13, entry 0xd4b0 0xd4b0 12, entry 0xd4b1 0xd4cb 13, entry 0xd4cc 0xd4cc 12,
  entry 0xd4cd 0xd4e7 13, entry 0xd4e8 0xd4e8 12, entry 0xd4e9 0xd503 13, entry 0xd504 0xd504 12,
  entry 0xd505 0xd51f 13, entry 0xd520 0xd520 12, entry 0xd521 0xd53b 13, entry 0xd53c 0xd53c 12,
  entry 0xd53d 0xd557 13, entry 0xd558 0xd558 12, entry 0xd559 0xd573 13, entry 0xd574 0xd574 12,
  entry 0xd575 0xd58f 13, entry 0xd590 0xd590 12, entry 0xd591 0xd5ab 13, entry 0xd5ac 0xd5ac 12,
  entry 0xd5ad 0xd5c7 13, entry 0xd5c8 0xd5c8 12, entry 0xd5c9 0xd5e3 13, entry 0xd5e4 0xd5e4 12,
  entry 0xd5e5 0xd5ff 13, entry 0xd600 0xd600 12, entry 0xd601 0xd61b 13, entry 0xd61c 0xd61c 12,
  entry 0xd61d 0xd637 13, entry 0xd638 0xd638 12, entry 0xd639 0xd653 13, entry 0xd654 0xd654 12,
  entry 0xd655 0xd66f 13, entry 0xd670 0xd670 12, entry 0xd671 0xd68b 13, entry 0xd68c 0xd68c 12,
  entry 0xd68d 0xd6a7 13, entry 0xd6a8 0xd6a8 12, entry 0xd6a9 0xd6c3 13, entry 0xd6c4 0xd6c4 12,
  entry 0xd6c5 0xd6df 13, entry 0xd6e0 0xd6e0 12, entry 0xd6e1 0xd6fb 13, entry 0xd6fc 0xd6fc 12,
  entry 0xd6fd 0xd717 13, entry 0xd718 0xd718 12, entry 0xd719 0xd733 13, entry 0xd734 0xd734 12,
  entry 0xd735 0xd74f 13, entry 0xd750 0xd750 12, entry 0xd751 0xd76b 13, entry 0xd76c 0xd76c 12,
  entry 0xd76d 0xd787 13, entry 0xd788 0xd788 12, entry 0xd789 0xd7a3 13, entry 0xd7b0 0xd7c6 10,
  entry 0xd7cb 0xd7fb 11, entry 0xfb1e 0xfb1e 4, entry 0xfe00 0xfe0f 4, entry 0xfe20 0xfe2f 4,
  entry 0xfeff 0xfeff 3, entry 0xff9e 0xff9f 4, entry 0xfff0 0xfffb 3, entry 0x101fd 0x101fd 4,
  entry 0x102e0 0x102e0 4, entry 0x10376 0x1037a 4, entry 0x10a01 0x10a03 4,
  entry 0x10a05 0x10a06 4, entry 0x10a0c 0x10a0f 4, entry 0x10a38 0x10a3a 4,
  entry 0x10a3f 0x10a3f 4, entry 0x10ae5 0x10ae6 4, entry 0x10d24 0x10d27 4,
  entry 0x10eab 0x10eac 4, entry 0x10efd 0x10eff 4, entry 0x10f46 0x10f50 4,
  entry 0x10f82 0x10f85 4, entry 0x11000 0x11000 8, entry 0x11001 0x11001 4,
  entry 0x11002 0x11002 8, entry 0x11038 0x11046 4, entry 0x11070 0x11070 4,
  entry 0x11073 0x11074 4, entry 0x1107f 0x11081 4, entry 0x11082 0x11082 8,
  entry 0x110b0 0x110b2 8, entry 0x110b3 0x110b6 4, entry 0x110b7 0x110b8 8,
  entry 0x110b9 0x110ba 4, entry 0x110bd 0x110bd 7, entry 0x110c2 0x110c2 4,
  entry 0x110cd 0x110cd 7, entry 0x11100 0x11102 4, entry 0x11127 0x1112b 4,
  entry 0x1112c 0x1112c 8, entry 0x1112d 0x11134 4, entry 0x11145 0x11146 8,
  entry 0x11173 0x11173 4, entry 0x11180 0x11181 4, entry 0x11182 0x11182 8,
  entry 0x111b3 0x111b5 8, entry 0x111b6 0x111be 4, entry 0x111bf 0x111c0 8,
  entry 0x111c2 0x111c3 7, entry 0x111c9 0x111cc 4, entry 0x111ce 0x111ce 8,
  entry 0x111cf 0x111cf 4, entry 0x1122c 0x1122e 8, entry 0x1122f 0x11231 4,
  entry 0x11232 0x11233 8, entry 0x11234 0x11234 4, entry 0x11235 0x11235 8,
  entry 0x11236 0x11237 4, entry 0x1123e 0x1123e 4, entry 0x11241 0x11241 4,
  entry 0x112df 0x112df 4, entry 0x112e0 0x112e2 8, entry 0x112e3 0x112ea 4,
  entry 0x11300 0x11301 4, entry 0x11302 0x11303 8, entry 0x1133b 0x1133c 4,
  entry 0x1133e 0x1133e 4, entry 0x1133f 0x1133f 8, entry 0x11340 0x11340 4,
  entry 0x11341 0x11344 8, entry 0x11347 0x11348 8, entry 0x1134b 0x1134d 8,
  entry 0x11357 0x11357 4, entry 0x11362 0x11363 8, entry 0x11366 0x1136c 4,
  entry 0x11370 0x11374 4, entry 0x11435 0x11437 8, entry 0x11438 0x1143f 4,
  entry 0x11440 0x11441 8, entry 0x11442 0x11444 4, entry 0x11445 0x11445 8,
  entry 0x11446 0x11446 4, entry 0x1145e 0x1145e 4, entry 0x114b0 0x114b0 4,
  entry 0x114b1 0x114b2 8, entry 0x114b3 0x114b8 4, entry 0x114b9 0x114b9 8,
  entry 0x114ba 0x114ba 4, entry 0x114bb 0x114bc 8, entry 0x114bd 0x114bd 4,
  entry 0x114be 0x114be 8, entry 0x114bf 0x114c0 4, entry 0x114c1 0x114c1 8,
  entry 0x114c2 0x114c3 4, entry 0x115af 0x115af 4, entry 0x115b0 0x115b1 8,
  entry 0x115b2 0x115b5 4, entry 0x115b8 0x115bb 8, entry 0x115bc 0x115bd 4,
  entry 0x115be 0x115be 8, entry 0x115bf 0x115c0 4, entry 0x115dc 0x115dd 4,
  entry 0x11630 0x11632 8, entry 0x11633 0x1163a 4, entry 0x1163b 0x1163c 8,
  entry 0x1163d 0x1163d 4, entry 0x1163e 0x1163e 8, entry 0x1163f 0x11640 4,
  entry 0x116ab 0x116ab 4, entry 0x116ac 0x116ac 8, entry 0x116ad 0x116ad 4,
  entry 0x116ae 0x116af 8, entry 0x116b0 0x116b5 4, entry 0x116b6 0x116b6 8,
  entry 0x116b7 0x116b7 4, entry 0x1171d 0x1171f 4, entry 0x11722 0x11725 4,
  entry 0x11726 0x11726 8, entry 0x11727 0x1172b 4, entry 0x1182c 0x1182e 8,
  entry 0x1182f 0x11837 4, entry 0x11838 0x11838 8, entry 0x11839 0x1183a 4,
  entry 0x11930 0x11930 4, entry 0x11931 0x11935 8, entry 0x11937 0x11938 8,
  entry 0x1193b 0x1193c 4, entry 0x1193d 0x1193d 8, entry 0x1193e 0x1193e 4,
  entry 0x1193f 0x1193f 7, entry 0x11940 0x11940 8, entry 0x11941 0x11941 7,
  entry 0x11942 0x11942 8, entry 0x11943 0x11943 4, entry 0x119d1 0x119d3 8,
  entry 0x119d4 0x119d7 4, entry 0x119da 0x119db 4, entry 0x119dc 0x119df 8,
  entry 0x119e0 0x119e0 4, entry 0x119e4 0x119e4 8, entry 0x11a01 0x11a0a 4,
  entry 0x11a33 0x11a38 4, entry 0x11a39 0x11a39 8, entry 0x11a3a 0x11a3a 7,
  entry 0x11a3b 0x11a3e 4, entry 0x11a47 0x11a47 4, entry 0x11a51 0x11a56 4,
  entry 0x11a57 0x11a58 8, entry 0x11a59 0x11a5b 4, entry 0x11a84 0x11a89 7,
  entry 0x11a8a 0x11a96 4, entry 0x11a97 0x11a97 8, entry 0x11a98 0x11a99 4,
  entry 0x11c2f 0x11c2f 8, entry 0x11c30 0x11c36 4, entry 0x11c38 0x11c3d 4,
  entry 0x11c3e 0x11c3e 8, entry 0x11c3f 0x11c3f 4, entry 0x11c92 0x11ca7 4,
  entry 0x11ca9 0x11ca9 8, entry 0x11caa 0x11cb0 4, entry 0x11cb1 0x11cb1 8,
  entry 0x11cb2 0x11cb3 4, entry 0x11cb4 0x11cb4 8, entry 0x11cb5 0x11cb6 4,
  entry 0x11d31 0x11d36 4, entry 0x11d3a 0x11d3a 4, entry 0x11d3c 0x11d3d 4,
  entry 0x11d3f 0x11d45 4, entry 0x11d46 0x11d46 7, entry 0x11d47 0x11d47 4,
  entry 0x11d8a 0x11d8e 8, entry 0x11d90 0x11d91 4, entry 0x11d93 0x11d94 8,
  entry 0x11d95 0x11d95 4, entry 0x11d96 0x11d96 8, entry 0x11d97 0x11d97 4,
  entry 0x11ef3 0x11ef4 4, entry 0x11ef5 0x11ef6 8, entry 0x11f00 0x11f01 4,
  entry 0x11f02 0x11f02 7, entry 0x11f03 0x11f03 8, entry 0x11f34 0x11f35 8,
  entry 0x11f36 0x11f3a 4, entry 0x11f3e 0x11f3f 8, entry 0x11f40 0x11f40 4,
  entry 0x11f41 0x11f41 8, entry 0x11f42 0x11f42 4, entry 0x13430 0x1343f 3,
  entry 0x13440 0x13440 4, entry 0x13447 0x13455 4, entry 0x16af0 0x16af4 4,
  entry 0x16b30 0x16b36 4, entry 0x16f4f 0x16f4f 4, entry 0x16f51 0x16f87 8,
  entry 0x16f8f 0x16f92 4, entry 0x16fe4 0x16fe4 4, entry 0x16ff0 0x16ff1 8,
  entry 0x1bc9d 0x1bc9e 4, entry 0x1bca0 0x1bca3 3, entry 0x1cf00 0x1cf2d 4,
  entry 0x1cf30 0x1cf46 4, entry 0x1d165 0x1d165 4, entry 0x1d166 0x1d166 8,
  entry 0x1d167 0x1d169 4, entry 0x1d16d 0x1d16d 8, entry 0x1d16e 0x1d172 4,
  entry 0x1d173 0x1d17a 3, entry 0x1d17b 0x1d182 4, entry 0x1d185 0x1d18b 4,
  entry 0x1d1aa 0x1d1ad 4, entry 0x1d242 0x1d244 4, entry 0x1da00 0x1da36 4,
  entry 0x1da3b 0x1da6c 4, entry 0x1da75 0x1da75 4, entry 0x1da84 0x1da84 4,
  entry 0x1da9b 0x1da9f 4, entry 0x1daa1 0x1daaf 4, entry 0x1e000 0x1e006 4,
  entry 0x1e008 0x1e018 4, entry 0x1e01b 0x1e021 4, entry 0x1e023 0x1e024 4,
  entry 0x1e026 0x1e02a 4, entry 0x1e08f 0x1e08f 4, entry 0x1e130 0x1e136 4,
  entry 0x1e2ae 0x1e2ae 4, entry 0x1e2ec 0x1e2ef 4, entry 0x1e4ec 0x1e4ef 4,
  entry 0x1e8d0 0x1e8d6 4, entry 0x1e944 0x1e94a 4, entry 0x1f000 0x1f0ff 14,
  entry 0x1f10d 0x1f10f 14, entry 0x1f12f 0x1f12f 14, entry 0x1f16c 0x1f171 14,
  entry 0x1f17e 0x1f17f 14, entry 0x1f18e 0x1f18e 14, entry 0x1f191 0x1f19a 14,
  entry 0x1f1ad 0x1f1e5 14, entry 0x1f1e6 0x1f1ff 6, entry 0x1f201 0x1f20f 14,
  entry 0x1f21a 0x1f21a 14, entry 0x1f22f 0x1f22f 14, entry 0x1f232 0x1f23a 14,
  entry 0x1f23c 0x1f23f 14, entry 0x1f249 0x1f3fa 14, entry 0x1f3fb 0x1f3ff 4,
  entry 0x1f400 0x1f53d 14, entry 0x1f546 0x1f64f 14, entry 0x1f680 0x1f6ff 14,
  entry 0x1f774 0x1f77f 14, entry 0x1f7d5 0x1f7ff 14, entry 0x1f80c 0x1f80f 14,
  entry 0x1f848 0x1f84f 14, entry 0x1f85a 0x1f85f 14, entry 0x1f888 0x1f88f 14,
  entry 0x1f8ae 0x1f8ff 14, entry 0x1f90c 0x1f93a 14, entry 0x1f93c 0x1f945 14,
  entry 0x1f947 0x1faff 14, entry 0x1fc00 0x1fffd 14, entry 0xe0000 0xe001f 3,
  entry 0xe0020 0xe007f 4, entry 0xe0080 0xe00ff 3, entry 0xe0100 0xe01ef 4,
  entry 0xe01f0 0xe0fff 3]⟩

end Combinatory.Unicode
