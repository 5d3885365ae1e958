import Landform.Session

namespace Landform

/-!
The script library that goes with the generator: functions by which map scripts draw
rectangles and ellipses without spelling out the properties of a shape.
-/

namespace MapLibrary

/-- The lines of the library. -/
def sourceLines : List String :=
  ["// Shape helpers available to every map script.",
    "",
    "fn DrawRect(map, spec, x, y, wdt, hgt) \x7b",
    "    map.Draw(spec, #\x7b Algo: MAPALGO_Rect, X: x, Y: y, Wdt: wdt, Hgt: hgt \x7d)",
    "\x7d",
    "",
    "fn DrawEllipse(map, spec, x, y, radius_x, radius_y) \x7b",
    "    map.Draw(spec, #\x7b Algo: MAPALGO_Ellipse, X: x, Y: y, Wdt: radius_x, " ++
      "Hgt: radius_y \x7d)",
    "\x7d",
    "",
    "// Fills every row from y down to the bottom edge.",
    "fn FillBelow(map, spec, y) \x7b",
    "    DrawRect(map, spec, 0, y, map.Wdt, map.Hgt - y)",
    "\x7d"]

/-- The library as a system script. -/
def script : ScriptSource where
  fileName := "MapLibrary.c"
  source := String.intercalate "\n" sourceLines ++ "\n"

end MapLibrary

end Landform
