import Handoff.Design.Color

/-!
The named colours, and the one nearest to a colour. Of equally near ones the first is taken.
-/
namespace Handoff.Classes

structure NamedColor where
  name : String
  color : Color

private def paletteRows : List (String × Color) :=
  [("white", .rgb 0xff 0xff 0xff), ("black", .rgb 0x00 0x00 0x00),
   ("slate-50", .rgb 0xf8 0xfa 0xfc), ("slate-100", .rgb 0xf1 0xf5 0xf9),
   ("slate-200", .rgb 0xe2 0xe8 0xf0), ("slate-300", .rgb 0xcb 0xd5 0xe1),
   ("slate-400", .rgb 0x94 0xa3 0xb8), ("slate-500", .rgb 0x64 0x74 0x8b),
   ("slate-600", .rgb 0x47 0x55 0x69), ("slate-700", .rgb 0x33 0x41 0x55),
   ("slate-800", .rgb 0x1e 0x29 0x3b), ("slate-900", .rgb 0x0f 0x17 0x2a),
   ("slate-950", .rgb 0x02 0x06 0x17), ("gray-50", .rgb 0xf9 0xfa 0xfb),
   ("gray-100", .rgb 0xf3 0xf4 0xf6), ("gray-200", .rgb 0xe5 0xe7 0xeb),
   ("gray-300", .rgb 0xd1 0xd5 0xdb), ("gray-400", .rgb 0x9c 0xa3 0xaf),
   ("gray-500", .rgb 0x6b 0x72 0x80), ("gray-600", .rgb 0x4b 0x55 0x63),
   ("gray-700", .rgb 0x37 0x41 0x51), ("gray-800", .rgb 0x1f 0x29 0x37),
   ("gray-900", .rgb 0x11 0x18 0x27), ("gray-950", .rgb 0x03 0x07 0x12),
   ("neutral-50", .rgb 0xfa 0xfa 0xfa), ("neutral-100", .rgb 0xf5 0xf5 0xf5),
   ("neutral-200", .rgb 0xe5 0xe5 0xe5), ("neutral-300", .rgb 0xd4 0xd4 0xd4),
   ("neutral-400", .rgb 0xa3 0xa3 0xa3), ("neutral-500", .rgb 0x73 0x73 0x73),
   ("neutral-600", .rgb 0x52 0x52 0x52), ("neutral-700", .rgb 0x40 0x40 0x40),
   ("neutral-800", .rgb 0x26 0x26 0x26), ("neutral-900", .rgb 0x17 0x17 0x17),
   ("neutral-950", .rgb 0x0a 0x0a 0x0a), ("red-50", .rgb 0xfe 0xf2 0xf2),
   ("red-100", .rgb 0xfe 0xe2 0xe2), ("red-200", .rgb 0xfe 0xca 0xca),
   ("red-300", .rgb 0xfc 0xa5 0xa5), ("red-400", .rgb 0xf8 0x71 0x71),
   ("red-500", .rgb 0xef 0x44 0x44), ("red-600", .rgb 0xdc 0x26 0x26),
   ("red-700", .rgb 0xb9 0x1c 0x1c), ("red-800", .rgb 0x99 0x1b 0x1b),
   ("red-900", .rgb 0x7f 0x1d 0x1d), ("red-950", .rgb 0x45 0x0a 0x0a),
   ("blue-50", .rgb 0xef 0xf6 0xff), ("blue-100", .rgb 0xdb 0xea 0xfe),
   ("blue-200", .rgb 0xbf 0xdb 0xfe), ("blue-300", .rgb 0x93 0xc5 0xfd),
   ("blue-400", .rgb 0x60 0xa5 0xfa), ("blue-500", .rgb 0x3b 0x82 0xf6),
   ("blue-600", .rgb 0x25 0x63 0xeb), ("blue-700", .rgb 0x1d 0x4e 0xd8),
   ("blue-800", .rgb 0x1e 0x40 0xaf), ("blue-900", .rgb 0x1e 0x3a 0x8a),
   ("blue-950", .rgb 0x17 0x25 0x54), ("green-50", .rgb 0xf0 0xfd 0xf4),
   ("green-100", .rgb 0xdc 0xfc 0xe7), ("green-200", .rgb 0xbb 0xf7 0xd0),
   ("green-300", .rgb 0x86 0xef 0xac), ("green-400", .rgb 0x4a 0xde 0x80),
   ("green-500", .rgb 0x22 0xc5 0x5e), ("green-600", .rgb 0x16 0xa3 0x4a),
   ("green-700", .rgb 0x15 0x80 0x3d), ("green-800", .rgb 0x16 0x65 0x34),
   ("green-900", .rgb 0x14 0x53 0x2d), ("green-950", .rgb 0x05 0x2e 0x16),
   ("yellow-50", .rgb 0xfe 0xfc 0xe8), ("yellow-100", .rgb 0xfe 0xf9 0xc3),
   ("yellow-200", .rgb 0xfe 0xf0 0x8a), ("yellow-300", .rgb 0xfd 0xe0 0x47),
   ("yellow-400", .rgb 0xfa 0xcc 0x15), ("yellow-500", .rgb 0xea 0xb3 0x08),
   ("yellow-600", .rgb 0xca 0x8a 0x04), ("yellow-700", .rgb 0xa1 0x62 0x07),
   ("yellow-800", .rgb 0x85 0x4d 0x0e), ("yellow-900", .rgb 0x71 0x3f 0x12),
   ("yellow-950", .rgb 0x42 0x20 0x06), ("purple-50", .rgb 0xfa 0xf5 0xff),
   ("purple-100", .rgb 0xf3 0xe8 0xff), ("purple-200", .rgb 0xe9 0xd5 0xff),
   ("purple-300", .rgb 0xd8 0xb4 0xfe), ("purple-400", .rgb 0xc0 0x84 0xfc),
   ("purple-500", .rgb 0xa8 0x55 0xf7), ("purple-600", .rgb 0x93 0x33 0xea),
   ("purple-700", .rgb 0x7e 0x22 0xce), ("purple-800", .rgb 0x6b 0x21 0xa8),
   ("purple-900", .rgb 0x58 0x1c 0x87), ("purple-950", .rgb 0x3b 0x07 0x64)]

/-- White, black and nine scales. The order decides between equally near colours. -/
def palette : List NamedColor := paletteRows.map fun (name, color) => ⟨name, color⟩

/-- The nearer of the best colour so far and a candidate, with its distance. -/
def nearer (color : Color) (best : Option (NamedColor × Binary64)) (candidate : NamedColor) :
    Option (NamedColor × Binary64) :=
  let distance := color.distance candidate.color
  match best with
  | some (entry, least) =>
    if least ≤ distance then some (entry, least) else some (candidate, distance)
  | none => some (candidate, distance)

/-- The named colour nearest to a colour, with its distance. -/
def nearest? (color : Color) : Option (NamedColor × Binary64) := palette.foldl (nearer color) none

end Handoff.Classes
