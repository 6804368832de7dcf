import Hypermedia.Text.Split
/-!
# Directions

In which direction a character is written.  A domain that holds a character written from right to left keeps the
directions in each of its labels together.
-/
namespace Hypermedia
namespace Domain

inductive Direction where
  | left
  | right
  /-- A digit that is written from left to right everywhere. -/
  | european
  /-- A digit that belongs to scripts written from right to left. -/
  | arabic
  /-- A sign without a direction of its own. -/
  | neutral
  /-- A mark with the direction of its letter. -/
  | mark
  deriving DecidableEq

structure DirectionChange where
  first : Nat
  direction : Direction

/-- The changes of direction beyond ASCII, among characters that stand in domains. -/
def directionChanges : List DirectionChange :=
  [⟨0xa1, .neutral⟩, ⟨0xdf, .left⟩, ⟨0xf7, .neutral⟩, ⟨0xf8, .left⟩, ⟨0x2b9, .neutral⟩, ⟨0x2bb, .left⟩,
    ⟨0x2c2, .neutral⟩, ⟨0x2d0, .left⟩, ⟨0x2d2, .neutral⟩, ⟨0x2ee, .left⟩, ⟨0x2ef, .neutral⟩, ⟨0x300, .mark⟩,
    ⟨0x371, .left⟩, ⟨0x375, .neutral⟩, ⟨0x377, .left⟩, ⟨0x3f6, .neutral⟩, ⟨0x3f8, .left⟩, ⟨0x483, .mark⟩,
    ⟨0x48b, .left⟩, ⟨0x58a, .neutral⟩, ⟨0x591, .mark⟩, ⟨0x5be, .right⟩, ⟨0x5bf, .mark⟩, ⟨0x5c0, .right⟩, ⟨0x5c1, .mark⟩,
    ⟨0x5c3, .right⟩, ⟨0x5c4, .mark⟩, ⟨0x5c6, .right⟩, ⟨0x5c7, .mark⟩, ⟨0x5d0, .right⟩, ⟨0x606, .neutral⟩,
    ⟨0x608, .right⟩, ⟨0x609, .neutral⟩, ⟨0x60b, .right⟩, ⟨0x60c, .neutral⟩, ⟨0x60d, .right⟩, ⟨0x60e, .neutral⟩,
    ⟨0x610, .mark⟩, ⟨0x61b, .right⟩, ⟨0x64b, .mark⟩, ⟨0x660, .arabic⟩, ⟨0x66a, .neutral⟩, ⟨0x66b, .arabic⟩,
    ⟨0x66d, .right⟩, ⟨0x670, .mark⟩, ⟨0x671, .right⟩, ⟨0x6d6, .mark⟩, ⟨0x6de, .neutral⟩, ⟨0x6df, .mark⟩,
    ⟨0x6e5, .right⟩, ⟨0x6e7, .mark⟩, ⟨0x6e9, .neutral⟩, ⟨0x6ea, .mark⟩, ⟨0x6ee, .right⟩, ⟨0x6f0, .european⟩,
    ⟨0x6fa, .right⟩, ⟨0x711, .mark⟩, ⟨0x712, .right⟩, ⟨0x730, .mark⟩, ⟨0x74d, .right⟩, ⟨0x7a6, .mark⟩, ⟨0x7b1, .right⟩,
    ⟨0x7eb, .mark⟩, ⟨0x7f4, .right⟩, ⟨0x7f6, .neutral⟩, ⟨0x7fa, .right⟩, ⟨0x7fd, .mark⟩, ⟨0x7fe, .right⟩,
    ⟨0x816, .mark⟩, ⟨0x81a, .right⟩, ⟨0x81b, .mark⟩, ⟨0x824, .right⟩, ⟨0x825, .mark⟩, ⟨0x828, .right⟩, ⟨0x829, .mark⟩,
    ⟨0x830, .right⟩, ⟨0x859, .mark⟩, ⟨0x85e, .right⟩, ⟨0x897, .mark⟩, ⟨0x8a0, .right⟩, ⟨0x8ca, .mark⟩, ⟨0x903, .left⟩,
    ⟨0x93a, .mark⟩, ⟨0x93b, .left⟩, ⟨0x93c, .mark⟩, ⟨0x93d, .left⟩, ⟨0x941, .mark⟩, ⟨0x949, .left⟩, ⟨0x94d, .mark⟩,
    ⟨0x94e, .left⟩, ⟨0x951, .mark⟩, ⟨0x960, .left⟩, ⟨0x962, .mark⟩, ⟨0x964, .left⟩, ⟨0x981, .mark⟩, ⟨0x982, .left⟩,
    ⟨0x9bc, .mark⟩, ⟨0x9bd, .left⟩, ⟨0x9c1, .mark⟩, ⟨0x9c7, .left⟩, ⟨0x9cd, .mark⟩, ⟨0x9ce, .left⟩, ⟨0x9e2, .mark⟩,
    ⟨0x9e6, .left⟩, ⟨0x9f2, .neutral⟩, ⟨0x9f4, .left⟩, ⟨0x9fb, .neutral⟩, ⟨0x9fc, .left⟩, ⟨0x9fe, .mark⟩,
    ⟨0xa03, .left⟩, ⟨0xa3c, .mark⟩, ⟨0xa3e, .left⟩, ⟨0xa41, .mark⟩, ⟨0xa5c, .left⟩, ⟨0xa70, .mark⟩, ⟨0xa72, .left⟩,
    ⟨0xa75, .mark⟩, ⟨0xa76, .left⟩, ⟨0xa81, .mark⟩, ⟨0xa83, .left⟩, ⟨0xabc, .mark⟩, ⟨0xabd, .left⟩, ⟨0xac1, .mark⟩,
    ⟨0xac9, .left⟩, ⟨0xacd, .mark⟩, ⟨0xad0, .left⟩, ⟨0xae2, .mark⟩, ⟨0xae6, .left⟩, ⟨0xaf1, .neutral⟩, ⟨0xaf9, .left⟩,
    ⟨0xafa, .mark⟩, ⟨0xb02, .left⟩, ⟨0xb3c, .mark⟩, ⟨0xb3d, .left⟩, ⟨0xb3f, .mark⟩, ⟨0xb40, .left⟩, ⟨0xb41, .mark⟩,
    ⟨0xb47, .left⟩, ⟨0xb4d, .mark⟩, ⟨0xb57, .left⟩, ⟨0xb62, .mark⟩, ⟨0xb66, .left⟩, ⟨0xb82, .mark⟩, ⟨0xb83, .left⟩,
    ⟨0xbc0, .mark⟩, ⟨0xbc1, .left⟩, ⟨0xbcd, .mark⟩, ⟨0xbd0, .left⟩, ⟨0xbf3, .neutral⟩, ⟨0xc00, .mark⟩, ⟨0xc01, .left⟩,
    ⟨0xc04, .mark⟩, ⟨0xc05, .left⟩, ⟨0xc3c, .mark⟩, ⟨0xc3d, .left⟩, ⟨0xc3e, .mark⟩, ⟨0xc41, .left⟩, ⟨0xc46, .mark⟩,
    ⟨0xc58, .left⟩, ⟨0xc62, .mark⟩, ⟨0xc66, .left⟩, ⟨0xc78, .neutral⟩, ⟨0xc7f, .left⟩, ⟨0xc81, .mark⟩, ⟨0xc82, .left⟩,
    ⟨0xcbc, .mark⟩, ⟨0xcbd, .left⟩, ⟨0xccc, .mark⟩, ⟨0xcd5, .left⟩, ⟨0xce2, .mark⟩, ⟨0xce6, .left⟩, ⟨0xd00, .mark⟩,
    ⟨0xd02, .left⟩, ⟨0xd3b, .mark⟩, ⟨0xd3d, .left⟩, ⟨0xd41, .mark⟩, ⟨0xd46, .left⟩, ⟨0xd4d, .mark⟩, ⟨0xd4e, .left⟩,
    ⟨0xd62, .mark⟩, ⟨0xd66, .left⟩, ⟨0xd81, .mark⟩, ⟨0xd82, .left⟩, ⟨0xdca, .mark⟩, ⟨0xdcf, .left⟩, ⟨0xdd2, .mark⟩,
    ⟨0xdd8, .left⟩, ⟨0xe31, .mark⟩, ⟨0xe32, .left⟩, ⟨0xe34, .mark⟩, ⟨0xe3f, .neutral⟩, ⟨0xe40, .left⟩, ⟨0xe47, .mark⟩,
    ⟨0xe4f, .left⟩, ⟨0xeb1, .mark⟩, ⟨0xeb2, .left⟩, ⟨0xeb4, .mark⟩, ⟨0xebd, .left⟩, ⟨0xec8, .mark⟩, ⟨0xed0, .left⟩,
    ⟨0xf18, .mark⟩, ⟨0xf1a, .left⟩, ⟨0xf35, .mark⟩, ⟨0xf36, .left⟩, ⟨0xf37, .mark⟩, ⟨0xf38, .left⟩, ⟨0xf39, .mark⟩,
    ⟨0xf3a, .neutral⟩, ⟨0xf3e, .left⟩, ⟨0xf71, .mark⟩, ⟨0xf7f, .left⟩, ⟨0xf80, .mark⟩, ⟨0xf85, .left⟩, ⟨0xf86, .mark⟩,
    ⟨0xf88, .left⟩, ⟨0xf8d, .mark⟩, ⟨0xfbe, .left⟩, ⟨0xfc6, .mark⟩, ⟨0xfc7, .left⟩, ⟨0x102d, .mark⟩, ⟨0x1031, .left⟩,
    ⟨0x1032, .mark⟩, ⟨0x1038, .left⟩, ⟨0x1039, .mark⟩, ⟨0x103b, .left⟩, ⟨0x103d, .mark⟩, ⟨0x103f, .left⟩,
    ⟨0x1058, .mark⟩, ⟨0x105a, .left⟩, ⟨0x105e, .mark⟩, ⟨0x1061, .left⟩, ⟨0x1071, .mark⟩, ⟨0x1075, .left⟩,
    ⟨0x1082, .mark⟩, ⟨0x1083, .left⟩, ⟨0x1085, .mark⟩, ⟨0x1087, .left⟩, ⟨0x108d, .mark⟩, ⟨0x108e, .left⟩,
    ⟨0x109d, .mark⟩, ⟨0x109e, .left⟩, ⟨0x135d, .mark⟩, ⟨0x1360, .left⟩, ⟨0x1390, .neutral⟩, ⟨0x13a0, .left⟩,
    ⟨0x1400, .neutral⟩, ⟨0x1401, .left⟩, ⟨0x169b, .neutral⟩, ⟨0x16a0, .left⟩, ⟨0x1712, .mark⟩, ⟨0x1715, .left⟩,
    ⟨0x1732, .mark⟩, ⟨0x1734, .left⟩, ⟨0x1752, .mark⟩, ⟨0x1760, .left⟩, ⟨0x1772, .mark⟩, ⟨0x1780, .left⟩,
    ⟨0x17b7, .mark⟩, ⟨0x17be, .left⟩, ⟨0x17c6, .mark⟩, ⟨0x17c7, .left⟩, ⟨0x17c9, .mark⟩, ⟨0x17d4, .left⟩,
    ⟨0x17db, .neutral⟩, ⟨0x17dc, .left⟩, ⟨0x17dd, .mark⟩, ⟨0x17e0, .left⟩, ⟨0x17f0, .neutral⟩, ⟨0x1810, .left⟩,
    ⟨0x1885, .mark⟩, ⟨0x1887, .left⟩, ⟨0x18a9, .mark⟩, ⟨0x18aa, .left⟩, ⟨0x1920, .mark⟩, ⟨0x1923, .left⟩,
    ⟨0x1927, .mark⟩, ⟨0x1929, .left⟩, ⟨0x1932, .mark⟩, ⟨0x1933, .left⟩, ⟨0x1939, .mark⟩, ⟨0x1940, .neutral⟩,
    ⟨0x1946, .left⟩, ⟨0x19de, .neutral⟩, ⟨0x1a00, .left⟩, ⟨0x1a17, .mark⟩, ⟨0x1a19, .left⟩, ⟨0x1a1b, .mark⟩,
    ⟨0x1a1e, .left⟩, ⟨0x1a56, .mark⟩, ⟨0x1a57, .left⟩, ⟨0x1a58, .mark⟩, ⟨0x1a61, .left⟩, ⟨0x1a62, .mark⟩,
    ⟨0x1a63, .left⟩, ⟨0x1a65, .mark⟩, ⟨0x1a6d, .left⟩, ⟨0x1a73, .mark⟩, ⟨0x1a80, .left⟩, ⟨0x1ab0, .mark⟩,
    ⟨0x1b04, .left⟩, ⟨0x1b34, .mark⟩, ⟨0x1b35, .left⟩, ⟨0x1b36, .mark⟩, ⟨0x1b3b, .left⟩, ⟨0x1b3c, .mark⟩,
    ⟨0x1b3d, .left⟩, ⟨0x1b42, .mark⟩, ⟨0x1b43, .left⟩, ⟨0x1b6b, .mark⟩, ⟨0x1b74, .left⟩, ⟨0x1b80, .mark⟩,
    ⟨0x1b82, .left⟩, ⟨0x1ba2, .mark⟩, ⟨0x1ba6, .left⟩, ⟨0x1ba8, .mark⟩, ⟨0x1baa, .left⟩, ⟨0x1bab, .mark⟩,
    ⟨0x1bae, .left⟩, ⟨0x1be6, .mark⟩, ⟨0x1be7, .left⟩, ⟨0x1be8, .mark⟩, ⟨0x1bea, .left⟩, ⟨0x1bed, .mark⟩,
    ⟨0x1bee, .left⟩, ⟨0x1bef, .mark⟩, ⟨0x1bf2, .left⟩, ⟨0x1c2c, .mark⟩, ⟨0x1c34, .left⟩, ⟨0x1c36, .mark⟩,
    ⟨0x1c3b, .left⟩, ⟨0x1cd0, .mark⟩, ⟨0x1cd3, .left⟩, ⟨0x1cd4, .mark⟩, ⟨0x1ce1, .left⟩, ⟨0x1ce2, .mark⟩,
    ⟨0x1ce9, .left⟩, ⟨0x1ced, .mark⟩, ⟨0x1cee, .left⟩, ⟨0x1cf4, .mark⟩, ⟨0x1cf5, .left⟩, ⟨0x1cf8, .mark⟩,
    ⟨0x1cfa, .left⟩, ⟨0x1dc0, .mark⟩, ⟨0x1e01, .left⟩, ⟨0x200c, .neutral⟩, ⟨0x20d0, .mark⟩, ⟨0x2104, .neutral⟩,
    ⟨0x214e, .left⟩, ⟨0x218a, .neutral⟩, ⟨0x2336, .left⟩, ⟨0x237b, .neutral⟩, ⟨0x2395, .left⟩, ⟨0x2396, .neutral⟩,
    ⟨0x26ac, .left⟩, ⟨0x26ad, .neutral⟩, ⟨0x2800, .left⟩, ⟨0x2900, .neutral⟩, ⟨0x2c30, .left⟩, ⟨0x2ce5, .neutral⟩,
    ⟨0x2cec, .left⟩, ⟨0x2cef, .mark⟩, ⟨0x2cf3, .left⟩, ⟨0x2cf9, .neutral⟩, ⟨0x2d00, .left⟩, ⟨0x2d7f, .mark⟩,
    ⟨0x2d80, .left⟩, ⟨0x2de0, .mark⟩, ⟨0x2e00, .neutral⟩, ⟨0x3005, .left⟩, ⟨0x3008, .neutral⟩, ⟨0x3021, .left⟩,
    ⟨0x302a, .mark⟩, ⟨0x302e, .left⟩, ⟨0x3030, .neutral⟩, ⟨0x3031, .left⟩, ⟨0x3037, .neutral⟩, ⟨0x303b, .left⟩,
    ⟨0x303d, .neutral⟩, ⟨0x3041, .left⟩, ⟨0x3099, .mark⟩, ⟨0x309d, .left⟩, ⟨0x30a0, .neutral⟩, ⟨0x30a1, .left⟩,
    ⟨0x30fb, .neutral⟩, ⟨0x30fc, .left⟩, ⟨0x31c0, .neutral⟩, ⟨0x31f0, .left⟩, ⟨0x4dc0, .neutral⟩, ⟨0x4e00, .left⟩,
    ⟨0xa490, .neutral⟩, ⟨0xa4d0, .left⟩, ⟨0xa60d, .neutral⟩, ⟨0xa610, .left⟩, ⟨0xa66f, .mark⟩, ⟨0xa673, .neutral⟩,
    ⟨0xa674, .mark⟩, ⟨0xa67e, .neutral⟩, ⟨0xa681, .left⟩, ⟨0xa69e, .mark⟩, ⟨0xa6a0, .left⟩, ⟨0xa6f0, .mark⟩,
    ⟨0xa6f2, .left⟩, ⟨0xa700, .neutral⟩, ⟨0xa723, .left⟩, ⟨0xa788, .neutral⟩, ⟨0xa789, .left⟩, ⟨0xa802, .mark⟩,
    ⟨0xa803, .left⟩, ⟨0xa806, .mark⟩, ⟨0xa807, .left⟩, ⟨0xa80b, .mark⟩, ⟨0xa80c, .left⟩, ⟨0xa825, .mark⟩,
    ⟨0xa827, .left⟩, ⟨0xa828, .neutral⟩, ⟨0xa82c, .mark⟩, ⟨0xa830, .left⟩, ⟨0xa838, .neutral⟩, ⟨0xa840, .left⟩,
    ⟨0xa874, .neutral⟩, ⟨0xa880, .left⟩, ⟨0xa8c4, .mark⟩, ⟨0xa8ce, .left⟩, ⟨0xa8e0, .mark⟩, ⟨0xa8f2, .left⟩,
    ⟨0xa8ff, .mark⟩, ⟨0xa900, .left⟩, ⟨0xa926, .mark⟩, ⟨0xa92e, .left⟩, ⟨0xa947, .mark⟩, ⟨0xa952, .left⟩,
    ⟨0xa980, .mark⟩, ⟨0xa983, .left⟩, ⟨0xa9b3, .mark⟩, ⟨0xa9b4, .left⟩, ⟨0xa9b6, .mark⟩, ⟨0xa9ba, .left⟩,
    ⟨0xa9bc, .mark⟩, ⟨0xa9be, .left⟩, ⟨0xa9e5, .mark⟩, ⟨0xa9e6, .left⟩, ⟨0xaa29, .mark⟩, ⟨0xaa2f, .left⟩,
    ⟨0xaa31, .mark⟩, ⟨0xaa33, .left⟩, ⟨0xaa35, .mark⟩, ⟨0xaa40, .left⟩, ⟨0xaa43, .mark⟩, ⟨0xaa44, .left⟩,
    ⟨0xaa4c, .mark⟩, ⟨0xaa4d, .left⟩, ⟨0xaa7c, .mark⟩, ⟨0xaa7d, .left⟩, ⟨0xaab0, .mark⟩, ⟨0xaab1, .left⟩,
    ⟨0xaab2, .mark⟩, ⟨0xaab5, .left⟩, ⟨0xaab7, .mark⟩, ⟨0xaab9, .left⟩, ⟨0xaabe, .mark⟩, ⟨0xaac0, .left⟩,
    ⟨0xaac1, .mark⟩, ⟨0xaac2, .left⟩, ⟨0xaaec, .mark⟩, ⟨0xaaee, .left⟩, ⟨0xaaf6, .mark⟩, ⟨0xab01, .left⟩,
    ⟨0xab6a, .neutral⟩, ⟨0xabc0, .left⟩, ⟨0xabe5, .mark⟩, ⟨0xabe6, .left⟩, ⟨0xabe8, .mark⟩, ⟨0xabe9, .left⟩,
    ⟨0xabed, .mark⟩, ⟨0xabf0, .left⟩, ⟨0xfb1e, .mark⟩, ⟨0xfbb2, .right⟩, ⟨0xfbc3, .neutral⟩, ⟨0xfe20, .mark⟩,
    ⟨0xfe45, .neutral⟩, ⟨0xfe73, .right⟩, ⟨0x10000, .left⟩, ⟨0x10101, .neutral⟩, ⟨0x10102, .left⟩, ⟨0x10140, .neutral⟩,
    ⟨0x1018d, .left⟩, ⟨0x10190, .neutral⟩, ⟨0x101d0, .left⟩, ⟨0x101fd, .mark⟩, ⟨0x10280, .left⟩, ⟨0x102e0, .mark⟩,
    ⟨0x102e1, .european⟩, ⟨0x10300, .left⟩, ⟨0x10376, .mark⟩, ⟨0x10380, .left⟩, ⟨0x10800, .right⟩, ⟨0x1091f, .neutral⟩,
    ⟨0x10920, .right⟩, ⟨0x10a01, .mark⟩, ⟨0x10a10, .right⟩, ⟨0x10a38, .mark⟩, ⟨0x10a40, .right⟩, ⟨0x10ae5, .mark⟩,
    ⟨0x10aeb, .right⟩, ⟨0x10b39, .neutral⟩, ⟨0x10b40, .right⟩, ⟨0x10d24, .mark⟩, ⟨0x10d30, .arabic⟩, ⟨0x10d40, .right⟩,
    ⟨0x10d69, .mark⟩, ⟨0x10d6e, .neutral⟩, ⟨0x10d6f, .right⟩, ⟨0x10e60, .arabic⟩, ⟨0x10e80, .right⟩, ⟨0x10eab, .mark⟩,
    ⟨0x10ead, .right⟩, ⟨0x10ed0, .neutral⟩, ⟨0x10efa, .mark⟩, ⟨0x10f00, .right⟩, ⟨0x10f46, .mark⟩, ⟨0x10f51, .right⟩,
    ⟨0x10f82, .mark⟩, ⟨0x10f86, .right⟩, ⟨0x11000, .left⟩, ⟨0x11001, .mark⟩, ⟨0x11002, .left⟩, ⟨0x11038, .mark⟩,
    ⟨0x11047, .left⟩, ⟨0x11052, .neutral⟩, ⟨0x11066, .left⟩, ⟨0x11070, .mark⟩, ⟨0x11071, .left⟩, ⟨0x11073, .mark⟩,
    ⟨0x11075, .left⟩, ⟨0x1107f, .mark⟩, ⟨0x11082, .left⟩, ⟨0x110b3, .mark⟩, ⟨0x110b7, .left⟩, ⟨0x110b9, .mark⟩,
    ⟨0x110bb, .left⟩, ⟨0x110c2, .mark⟩, ⟨0x110d0, .left⟩, ⟨0x11100, .mark⟩, ⟨0x11103, .left⟩, ⟨0x11127, .mark⟩,
    ⟨0x1112c, .left⟩, ⟨0x1112d, .mark⟩, ⟨0x11136, .left⟩, ⟨0x11173, .mark⟩, ⟨0x11174, .left⟩, ⟨0x11180, .mark⟩,
    ⟨0x11182, .left⟩, ⟨0x111b6, .mark⟩, ⟨0x111bf, .left⟩, ⟨0x111c9, .mark⟩, ⟨0x111cd, .left⟩, ⟨0x111cf, .mark⟩,
    ⟨0x111d0, .left⟩, ⟨0x1122f, .mark⟩, ⟨0x11232, .left⟩, ⟨0x11234, .mark⟩, ⟨0x11235, .left⟩, ⟨0x11236, .mark⟩,
    ⟨0x11238, .left⟩, ⟨0x1123e, .mark⟩, ⟨0x1123f, .left⟩, ⟨0x11241, .mark⟩, ⟨0x11280, .left⟩, ⟨0x112df, .mark⟩,
    ⟨0x112e0, .left⟩, ⟨0x112e3, .mark⟩, ⟨0x112f0, .left⟩, ⟨0x11300, .mark⟩, ⟨0x11302, .left⟩, ⟨0x1133b, .mark⟩,
    ⟨0x1133d, .left⟩, ⟨0x11340, .mark⟩, ⟨0x11341, .left⟩, ⟨0x11366, .mark⟩, ⟨0x11380, .left⟩, ⟨0x113bb, .mark⟩,
    ⟨0x113c2, .left⟩, ⟨0x113ce, .mark⟩, ⟨0x113cf, .left⟩, ⟨0x113d0, .mark⟩, ⟨0x113d1, .left⟩, ⟨0x113d2, .mark⟩,
    ⟨0x113d3, .left⟩, ⟨0x113e1, .mark⟩, ⟨0x11400, .left⟩, ⟨0x11438, .mark⟩, ⟨0x11440, .left⟩, ⟨0x11442, .mark⟩,
    ⟨0x11445, .left⟩, ⟨0x11446, .mark⟩, ⟨0x11447, .left⟩, ⟨0x1145e, .mark⟩, ⟨0x1145f, .left⟩, ⟨0x114b3, .mark⟩,
    ⟨0x114b9, .left⟩, ⟨0x114ba, .mark⟩, ⟨0x114bb, .left⟩, ⟨0x114bf, .mark⟩, ⟨0x114c1, .left⟩, ⟨0x114c2, .mark⟩,
    ⟨0x114c4, .left⟩, ⟨0x115b2, .mark⟩, ⟨0x115b8, .left⟩, ⟨0x115bc, .mark⟩, ⟨0x115be, .left⟩, ⟨0x115bf, .mark⟩,
    ⟨0x115c1, .left⟩, ⟨0x115dc, .mark⟩, ⟨0x11600, .left⟩, ⟨0x11633, .mark⟩, ⟨0x1163b, .left⟩, ⟨0x1163d, .mark⟩,
    ⟨0x1163e, .left⟩, ⟨0x1163f, .mark⟩, ⟨0x11641, .left⟩, ⟨0x11660, .neutral⟩, ⟨0x11680, .left⟩, ⟨0x116ab, .mark⟩,
    ⟨0x116ac, .left⟩, ⟨0x116ad, .mark⟩, ⟨0x116ae, .left⟩, ⟨0x116b0, .mark⟩, ⟨0x116b6, .left⟩, ⟨0x116b7, .mark⟩,
    ⟨0x116b8, .left⟩, ⟨0x1171d, .mark⟩, ⟨0x11720, .left⟩, ⟨0x11722, .mark⟩, ⟨0x11726, .left⟩, ⟨0x11727, .mark⟩,
    ⟨0x11730, .left⟩, ⟨0x1182f, .mark⟩, ⟨0x11838, .left⟩, ⟨0x11839, .mark⟩, ⟨0x1183b, .left⟩, ⟨0x1193b, .mark⟩,
    ⟨0x1193d, .left⟩, ⟨0x1193e, .mark⟩, ⟨0x1193f, .left⟩, ⟨0x11943, .mark⟩, ⟨0x11944, .left⟩, ⟨0x119d4, .mark⟩,
    ⟨0x119dc, .left⟩, ⟨0x119e0, .mark⟩, ⟨0x119e1, .left⟩, ⟨0x11a01, .mark⟩, ⟨0x11a07, .left⟩, ⟨0x11a09, .mark⟩,
    ⟨0x11a0b, .left⟩, ⟨0x11a33, .mark⟩, ⟨0x11a39, .left⟩, ⟨0x11a3b, .mark⟩, ⟨0x11a3f, .left⟩, ⟨0x11a47, .mark⟩,
    ⟨0x11a50, .left⟩, ⟨0x11a51, .mark⟩, ⟨0x11a57, .left⟩, ⟨0x11a59, .mark⟩, ⟨0x11a5c, .left⟩, ⟨0x11a8a, .mark⟩,
    ⟨0x11a97, .left⟩, ⟨0x11a98, .mark⟩, ⟨0x11a9a, .left⟩, ⟨0x11b60, .mark⟩, ⟨0x11b61, .left⟩, ⟨0x11b62, .mark⟩,
    ⟨0x11b65, .left⟩, ⟨0x11b66, .mark⟩, ⟨0x11b67, .left⟩, ⟨0x11c30, .mark⟩, ⟨0x11c3e, .left⟩, ⟨0x11c92, .mark⟩,
    ⟨0x11ca9, .left⟩, ⟨0x11caa, .mark⟩, ⟨0x11cb1, .left⟩, ⟨0x11cb2, .mark⟩, ⟨0x11cb4, .left⟩, ⟨0x11cb5, .mark⟩,
    ⟨0x11d00, .left⟩, ⟨0x11d31, .mark⟩, ⟨0x11d46, .left⟩, ⟨0x11d47, .mark⟩, ⟨0x11d50, .left⟩, ⟨0x11d90, .mark⟩,
    ⟨0x11d93, .left⟩, ⟨0x11d95, .mark⟩, ⟨0x11d96, .left⟩, ⟨0x11d97, .mark⟩, ⟨0x11d98, .left⟩, ⟨0x11ef3, .mark⟩,
    ⟨0x11ef5, .left⟩, ⟨0x11f00, .mark⟩, ⟨0x11f02, .left⟩, ⟨0x11f36, .mark⟩, ⟨0x11f3e, .left⟩, ⟨0x11f40, .mark⟩,
    ⟨0x11f41, .left⟩, ⟨0x11f42, .mark⟩, ⟨0x11f43, .left⟩, ⟨0x11f5a, .mark⟩, ⟨0x11fb0, .left⟩, ⟨0x11fd5, .neutral⟩,
    ⟨0x11fff, .left⟩, ⟨0x13440, .mark⟩, ⟨0x13441, .left⟩, ⟨0x13447, .mark⟩, ⟨0x13460, .left⟩, ⟨0x1611e, .mark⟩,
    ⟨0x1612a, .left⟩, ⟨0x1612d, .mark⟩, ⟨0x16130, .left⟩, ⟨0x16af0, .mark⟩, ⟨0x16af5, .left⟩, ⟨0x16b30, .mark⟩,
    ⟨0x16b37, .left⟩, ⟨0x16f4f, .mark⟩, ⟨0x16f50, .left⟩, ⟨0x16f8f, .mark⟩, ⟨0x16f93, .left⟩, ⟨0x16fe2, .neutral⟩,
    ⟨0x16fe3, .left⟩, ⟨0x16fe4, .mark⟩, ⟨0x16ff0, .left⟩, ⟨0x1bc9d, .mark⟩, ⟨0x1bc9f, .left⟩, ⟨0x1cc00, .neutral⟩,
    ⟨0x1cf00, .mark⟩, ⟨0x1cf50, .left⟩, ⟨0x1d167, .mark⟩, ⟨0x1d16a, .left⟩, ⟨0x1d17b, .mark⟩, ⟨0x1d183, .left⟩,
    ⟨0x1d185, .mark⟩, ⟨0x1d18c, .left⟩, ⟨0x1d1aa, .mark⟩, ⟨0x1d1ae, .left⟩, ⟨0x1d1e9, .neutral⟩, ⟨0x1d242, .mark⟩,
    ⟨0x1d245, .neutral⟩, ⟨0x1d2c0, .left⟩, ⟨0x1d300, .neutral⟩, ⟨0x1d360, .left⟩, ⟨0x1da00, .mark⟩, ⟨0x1da37, .left⟩,
    ⟨0x1da3b, .mark⟩, ⟨0x1da6d, .left⟩, ⟨0x1da75, .mark⟩, ⟨0x1da76, .left⟩, ⟨0x1da84, .mark⟩, ⟨0x1da85, .left⟩,
    ⟨0x1da9b, .mark⟩, ⟨0x1df00, .left⟩, ⟨0x1e000, .mark⟩, ⟨0x1e100, .left⟩, ⟨0x1e130, .mark⟩, ⟨0x1e137, .left⟩,
    ⟨0x1e2ae, .mark⟩, ⟨0x1e2c0, .left⟩, ⟨0x1e2ec, .mark⟩, ⟨0x1e2f0, .left⟩, ⟨0x1e2ff, .neutral⟩, ⟨0x1e4d0, .left⟩,
    ⟨0x1e4ec, .mark⟩, ⟨0x1e4f0, .left⟩, ⟨0x1e5ee, .mark⟩, ⟨0x1e5f0, .left⟩, ⟨0x1e6e3, .mark⟩, ⟨0x1e6e4, .left⟩,
    ⟨0x1e6e6, .mark⟩, ⟨0x1e6e7, .left⟩, ⟨0x1e6ee, .mark⟩, ⟨0x1e6f0, .left⟩, ⟨0x1e6f5, .mark⟩, ⟨0x1e6fe, .left⟩,
    ⟨0x1e800, .right⟩, ⟨0x1e8d0, .mark⟩, ⟨0x1e922, .right⟩, ⟨0x1e944, .mark⟩, ⟨0x1e94b, .right⟩, ⟨0x1eef0, .neutral⟩,
    ⟨0x1f150, .left⟩, ⟨0x1f16d, .neutral⟩, ⟨0x1f170, .left⟩, ⟨0x1f1ad, .neutral⟩, ⟨0x1f1e6, .left⟩, ⟨0x1f260, .neutral⟩,
    ⟨0x20000, .left⟩]

def direction (c : Char) : Direction :=
  if c.isAlpha then .left
  else if c.isDigit then .european
  else if c.toNat < 0x80 then .neutral
  else ((directionChanges.takeWhile (·.first ≤ c.toNat)).getLast?.map (·.direction)).getD .left

def isRightward (c : Char) : Bool :=
  match direction c with
  | .right | .arabic => true
  | _ => false

/-- Whether the directions in a label go together.  A label starts with a letter.  After a letter from left to right
there is none from right to left, and the last character before trailing marks is such a letter or a European digit;
after a letter from right to left there is none from left to right, the last one is such a letter or a digit, and the
digits are of one kind. -/
def isDirected (label : List Char) : Bool :=
  match label.map direction with
  | [] => true
  | .left :: ds =>
    let core := Text.stripRight (· == .mark) ds
    core.all (fun d => d != .right && d != .arabic) && core.getLast?.all (fun d => d == .left || d == .european)
  | .right :: ds =>
    let core := Text.stripRight (· == .mark) ds
    core.all (· != .left) && core.getLast?.all (fun d => d != .neutral) &&
      !(core.contains .european && core.contains .arabic)
  | _ => false

end Domain
end Hypermedia
