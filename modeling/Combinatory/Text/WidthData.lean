import Combinatory.Text.RangeTable

/-!
# Cell widths of code points: data

Wide and fullwidth characters (East Asian Width W and F), the combining characters (the runs
of one width and one category whose first or last name says so), the characters that take no
cell at all, and the characters shown as emoji by default, as range tables.
-/

namespace Combinatory.Unicode

open RangeTable (entry)

/-- East Asian Wide and Fullwidth code points. -/
def wide : RangeTable := ⟨#[
  entry 0x1100 0x115f 1, entry 0x231a 0x231b 1, entry 0x2329 0x232a 1, entry 0x23e9 0x23ec 1,
  entry 0x23f0 0x23f0 1, entry 0x23f3 0x23f3 1, entry 0x25fd 0x25fe 1, entry 0x2614 0x2615 1,
  entry 0x2648 0x2653 1, entry 0x267f 0x267f 1, entry 0x2693 0x2693 1, entry 0x26a1 0x26a1 1,
  entry 0x26aa 0x26ab 1, entry 0x26bd 0x26be 1, entry 0x26c4 0x26c5 1, entry 0x26ce 0x26ce 1,
  entry 0x26d4 0x26d4 1, entry 0x26ea 0x26ea 1, entry 0x26f2 0x26f3 1, entry 0x26f5 0x26f5 1,
  entry 0x26fa 0x26fa 1, entry 0x26fd 0x26fd 1, entry 0x2705 0x2705 1, entry 0x270a 0x270b 1,
  entry 0x2728 0x2728 1, entry 0x274c 0x274c 1, entry 0x274e 0x274e 1, entry 0x2753 0x2755 1,
  entry 0x2757 0x2757 1, entry 0x2795 0x2797 1, entry 0x27b0 0x27b0 1, entry 0x27bf 0x27bf 1,
  entry 0x2b1b 0x2b1c 1, entry 0x2b50 0x2b50 1, entry 0x2b55 0x2b55 1, entry 0x2e80 0x2e99 1,
  entry 0x2e9b 0x2ef3 1, entry 0x2f00 0x2fd5 1, entry 0x2ff0 0x2ffb 1, entry 0x3000 0x303e 1,
  entry 0x3041 0x3096 1, entry 0x3099 0x30ff 1, entry 0x3105 0x312f 1, entry 0x3131 0x318e 1,
  entry 0x3190 0x31e3 1, entry 0x31f0 0x321e 1, entry 0x3220 0x3247 1, entry 0x3250 0x4dbf 1,
  entry 0x4e00 0xa48c 1, entry 0xa490 0xa4c6 1, entry 0xa960 0xa97c 1, entry 0xac00 0xd7a3 1,
  entry 0xf900 0xfaff 1, entry 0xfe10 0xfe19 1, entry 0xfe30 0xfe52 1, entry 0xfe54 0xfe66 1,
  entry 0xfe68 0xfe6b 1, entry 0xff01 0xff60 1, entry 0xffe0 0xffe6 1, entry 0x16fe0 0x16fe4 1,
  entry 0x16ff0 0x16ff1 1, entry 0x17000 0x187f7 1, entry 0x18800 0x18cd5 1,
  entry 0x18d00 0x18d08 1, entry 0x1aff0 0x1aff3 1, entry 0x1aff5 0x1affb 1,
  entry 0x1affd 0x1affe 1, entry 0x1b000 0x1b122 1, entry 0x1b132 0x1b132 1,
  entry 0x1b150 0x1b152 1, entry 0x1b155 0x1b155 1, entry 0x1b164 0x1b167 1,
  entry 0x1b170 0x1b2fb 1, entry 0x1f004 0x1f004 1, entry 0x1f0cf 0x1f0cf 1,
  entry 0x1f18e 0x1f18e 1, entry 0x1f191 0x1f19a 1, entry 0x1f200 0x1f202 1,
  entry 0x1f210 0x1f23b 1, entry 0x1f240 0x1f248 1, entry 0x1f250 0x1f251 1,
  entry 0x1f260 0x1f265 1, entry 0x1f300 0x1f320 1, entry 0x1f32d 0x1f335 1,
  entry 0x1f337 0x1f37c 1, entry 0x1f37e 0x1f393 1, entry 0x1f3a0 0x1f3ca 1,
  entry 0x1f3cf 0x1f3d3 1, entry 0x1f3e0 0x1f3f0 1, entry 0x1f3f4 0x1f3f4 1,
  entry 0x1f3f8 0x1f43e 1, entry 0x1f440 0x1f440 1, entry 0x1f442 0x1f4fc 1,
  entry 0x1f4ff 0x1f53d 1, entry 0x1f54b 0x1f54e 1, entry 0x1f550 0x1f567 1,
  entry 0x1f57a 0x1f57a 1, entry 0x1f595 0x1f596 1, entry 0x1f5a4 0x1f5a4 1,
  entry 0x1f5fb 0x1f64f 1, entry 0x1f680 0x1f6c5 1, entry 0x1f6cc 0x1f6cc 1,
  entry 0x1f6d0 0x1f6d2 1, entry 0x1f6d5 0x1f6d7 1, entry 0x1f6dc 0x1f6df 1,
  entry 0x1f6eb 0x1f6ec 1, entry 0x1f6f4 0x1f6fc 1, entry 0x1f7e0 0x1f7eb 1,
  entry 0x1f7f0 0x1f7f0 1, entry 0x1f90c 0x1f93a 1, entry 0x1f93c 0x1f945 1,
  entry 0x1f947 0x1f9ff 1, entry 0x1fa70 0x1fa7c 1, entry 0x1fa80 0x1fa88 1,
  entry 0x1fa90 0x1fabd 1, entry 0x1fabf 0x1fac5 1, entry 0x1face 0x1fadb 1,
  entry 0x1fae0 0x1fae8 1, entry 0x1faf0 0x1faf8 1, entry 0x20000 0x2fffd 1,
  entry 0x30000 0x3fffd 1]⟩

/-- Code points named as combining characters. -/
def combining : RangeTable := ⟨#[
  entry 0x300 0x36f 1, entry 0x483 0x489 1, entry 0x7eb 0x7f3 1, entry 0xc00 0xc00 1,
  entry 0xc04 0xc04 1, entry 0xcf3 0xcf3 1, entry 0xd00 0xd01 1, entry 0x135d 0x135f 1,
  entry 0x1a7f 0x1a7f 1, entry 0x1ab0 0x1ace 1, entry 0x1b6b 0x1b73 1, entry 0x1dc0 0x1dff 1,
  entry 0x20d0 0x20f0 1, entry 0x2cef 0x2cf1 1, entry 0x2de0 0x2dff 1, entry 0x3099 0x309a 1,
  entry 0xa66f 0xa672 1, entry 0xa674 0xa67d 1, entry 0xa69e 0xa69f 1, entry 0xa6f0 0xa6f1 1,
  entry 0xa8e0 0xa8f1 1, entry 0xfe20 0xfe2f 1, entry 0x101fd 0x101fd 1, entry 0x10376 0x1037a 1,
  entry 0x10eab 0x10eac 1, entry 0x10f46 0x10f50 1, entry 0x10f82 0x10f85 1,
  entry 0x11300 0x11301 1, entry 0x1133b 0x1133c 1, entry 0x11366 0x1136c 1,
  entry 0x11370 0x11374 1, entry 0x16af0 0x16af4 1, entry 0x1cf00 0x1cf2d 1,
  entry 0x1cf30 0x1cf46 1, entry 0x1d165 0x1d169 1, entry 0x1d16d 0x1d172 1,
  entry 0x1d17b 0x1d182 1, entry 0x1d185 0x1d18b 1, entry 0x1d1aa 0x1d1ad 1,
  entry 0x1d242 0x1d244 1, entry 0x1e000 0x1e006 1, entry 0x1e008 0x1e018 1,
  entry 0x1e01b 0x1e021 1, entry 0x1e023 0x1e024 1, entry 0x1e026 0x1e02a 1,
  entry 0x1e08f 0x1e08f 1, entry 0x1e8d0 0x1e8d6 1]⟩

/-- Control and format code points that take no cell. -/
def invisible : RangeTable := ⟨#[
  entry 0x0 0x1f 1, entry 0x7f 0x9f 1, entry 0xad 0xad 1, entry 0x70f 0x70f 1,
  entry 0x180b 0x180e 1, entry 0x200b 0x200f 1, entry 0x2028 0x202e 1, entry 0x206a 0x206f 1,
  entry 0xd800 0xdfff 1, entry 0xfeff 0xfeff 1, entry 0xfff9 0xfffb 1, entry 0xfffe 0xffff 1]⟩

/-- Code points shown as emoji by default. -/
def emojiPresentation : RangeTable := ⟨#[
  entry 0x231a 0x231b 1, entry 0x23e9 0x23ec 1, entry 0x23f0 0x23f0 1, entry 0x23f3 0x23f3 1,
  entry 0x25fd 0x25fe 1, entry 0x2614 0x2615 1, entry 0x2648 0x2653 1, entry 0x267f 0x267f 1,
  entry 0x2693 0x2693 1, entry 0x26a1 0x26a1 1, entry 0x26aa 0x26ab 1, entry 0x26bd 0x26be 1,
  entry 0x26c4 0x26c5 1, entry 0x26ce 0x26ce 1, entry 0x26d4 0x26d4 1, entry 0x26ea 0x26ea 1,
  entry 0x26f2 0x26f3 1, entry 0x26f5 0x26f5 1, entry 0x26fa 0x26fa 1, entry 0x26fd 0x26fd 1,
  entry 0x2705 0x2705 1, entry 0x270a 0x270b 1, entry 0x2728 0x2728 1, entry 0x274c 0x274c 1,
  entry 0x274e 0x274e 1, entry 0x2753 0x2755 1, entry 0x2757 0x2757 1, entry 0x2795 0x2797 1,
  entry 0x27b0 0x27b0 1, entry 0x27bf 0x27bf 1, entry 0x2b1b 0x2b1c 1, entry 0x2b50 0x2b50 1,
  entry 0x2b55 0x2b55 1, entry 0x1f004 0x1f004 1, entry 0x1f0cf 0x1f0cf 1, entry 0x1f18e 0x1f18e 1,
  entry 0x1f191 0x1f19a 1, entry 0x1f1e6 0x1f1ff 1, entry 0x1f201 0x1f201 1,
  entry 0x1f21a 0x1f21a 1, entry 0x1f22f 0x1f22f 1, entry 0x1f232 0x1f236 1,
  entry 0x1f238 0x1f23a 1, entry 0x1f250 0x1f251 1, entry 0x1f300 0x1f320 1,
  entry 0x1f32d 0x1f335 1, entry 0x1f337 0x1f37c 1, entry 0x1f37e 0x1f393 1,
  entry 0x1f3a0 0x1f3ca 1, entry 0x1f3cf 0x1f3d3 1, entry 0x1f3e0 0x1f3f0 1,
  entry 0x1f3f4 0x1f3f4 1, entry 0x1f3f8 0x1f43e 1, entry 0x1f440 0x1f440 1,
  entry 0x1f442 0x1f4fc 1, entry 0x1f4ff 0x1f53d 1, entry 0x1f54b 0x1f54e 1,
  entry 0x1f550 0x1f567 1, entry 0x1f57a 0x1f57a 1, entry 0x1f595 0x1f596 1,
  entry 0x1f5a4 0x1f5a4 1, entry 0x1f5fb 0x1f64f 1, entry 0x1f680 0x1f6c5 1,
  entry 0x1f6cc 0x1f6cc 1, entry 0x1f6d0 0x1f6d2 1, entry 0x1f6d5 0x1f6d7 1,
  entry 0x1f6dc 0x1f6df 1, entry 0x1f6eb 0x1f6ec 1, entry 0x1f6f4 0x1f6fc 1,
  entry 0x1f7e0 0x1f7eb 1, entry 0x1f7f0 0x1f7f0 1, entry 0x1f90c 0x1f93a 1,
  entry 0x1f93c 0x1f945 1, entry 0x1f947 0x1f9ff 1, entry 0x1fa70 0x1fa7c 1,
  entry 0x1fa80 0x1fa88 1, entry 0x1fa90 0x1fabd 1, entry 0x1fabf 0x1fac5 1,
  entry 0x1face 0x1fadb 1, entry 0x1fae0 0x1fae8 1, entry 0x1faf0 0x1faf8 1]⟩

end Combinatory.Unicode
