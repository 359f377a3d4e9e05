/-
  The DIACRITICS that stand by themselves, and the marks that take a place of their own, both as
  closed ranges of code points in increasing order.

  Most diacritics are marks without a width, or letters.  The first table has the others.  The
  second one has the marks that extend the character in front of them though they have a width, or
  go around it.
-/

set_option maxRecDepth 8000

namespace RouteLocalizer.Text.Table

/-- Diacritics that are neither marks without a width nor letters. -/
def spacingDiacritic : List (Nat × Nat) :=
  [(0xA8, 0xA8), (0xAF, 0xAF), (0xB4, 0xB4), (0xB7, 0xB8), (0x2C2, 0x2C5), (0x2D2, 0x2DF),
   (0x2E5, 0x2EB), (0x2ED, 0x2ED), (0x2EF, 0x2FF), (0x375, 0x375), (0x384, 0x385), (0xF3E, 0xF3F),
   (0x1063, 0x1064), (0x1069, 0x106D), (0x1087, 0x108C), (0x108F, 0x108F), (0x109A, 0x109B),
   (0x1715, 0x1715), (0x1ABE, 0x1ABE), (0x1B44, 0x1B44), (0x1BAA, 0x1BAA), (0x1CD3, 0x1CD3),
   (0x1CE1, 0x1CE1), (0x1CF7, 0x1CF7), (0x1FBD, 0x1FBD), (0x1FBF, 0x1FC1), (0x1FCD, 0x1FCF),
   (0x1FDD, 0x1FDF), (0x1FED, 0x1FEF), (0x1FFD, 0x1FFE), (0x302E, 0x302F), (0x309B, 0x309C),
   (0xA700, 0xA716), (0xA720, 0xA721), (0xA789, 0xA78A), (0xA92E, 0xA92E), (0xA953, 0xA953),
   (0xA9C0, 0xA9C0), (0xAA7B, 0xAA7B), (0xAA7D, 0xAA7D), (0xAB5B, 0xAB5B), (0xAB6A, 0xAB6B),
   (0xABEC, 0xABEC), (0xFF3E, 0xFF3E), (0xFF40, 0xFF40), (0xFFE3, 0xFFE3), (0x111C0, 0x111C0),
   (0x11235, 0x11235), (0x1134D, 0x1134D), (0x116B6, 0x116B6), (0x1193D, 0x1193D),
   (0x16FF0, 0x16FF1), (0x1D16D, 0x1D172)]

/-- Marks that extend a character and are no marks without a width. -/
def spacingExtender : List (Nat × Nat) :=
  [(0x488, 0x489), (0x9BE, 0x9BE), (0x9D7, 0x9D7), (0xB3E, 0xB3E), (0xB57, 0xB57), (0xBBE, 0xBBE),
   (0xBD7, 0xBD7), (0xCC2, 0xCC2), (0xCD5, 0xCD6), (0xD3E, 0xD3E), (0xD57, 0xD57), (0xDCF, 0xDCF),
   (0xDDF, 0xDDF), (0x1ABE, 0x1ABE), (0x1B35, 0x1B35), (0x20DD, 0x20E0), (0x20E2, 0x20E4),
   (0x302E, 0x302F), (0xA670, 0xA672), (0x1133E, 0x1133E), (0x11357, 0x11357), (0x114B0, 0x114B0),
   (0x114BD, 0x114BD), (0x115AF, 0x115AF), (0x11930, 0x11930), (0x1D165, 0x1D165),
   (0x1D16E, 0x1D172)]

end RouteLocalizer.Text.Table
