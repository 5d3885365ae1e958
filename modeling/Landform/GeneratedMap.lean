import Landform.Raster

namespace Landform

/-!
The outcome of a run: a map made of a foreground and a background raster of one size
together with the lines the run's scripts have written, or the message of a failure.
-/

/-- The rasters of a finished run. -/
structure GeneratedMap where
  width : Nat
  height : Nat
  rowstride : Nat
  foreground : Option Raster
  background : Option Raster
  scriptOutput : List String := []

namespace GeneratedMap

/-- Why two rasters do not make a map. -/
inductive Misfit where
  | noRaster
  | sizesDiffer (foreground background : Nat × Nat)

/-- The misfit as a fault. -/
def Misfit.fault : Misfit -> Fault
  | .noRaster =>
      { code := "RASTER_MISSING", message := "Map generation produced no raster." }
  | .sizesDiffer (fw, fh) (bw, bh) =>
      { code := "RASTER_SIZE"
        message :=
          s!"Foreground ({fw}x{fh}) and background ({bw}x{bh}) rasters differ in size." }

/-- Whether two rasters have the same sides. -/
def sameSize (a b : Raster) : Bool :=
  a.width == b.width && a.height == b.height

/-- The map made of the given rasters; one of them may be absent, but not both. -/
def ofRasters : Option Raster -> Option Raster -> Except Misfit GeneratedMap
  | none, none => .error .noRaster
  | some fore, none => .ok ⟨fore.width, fore.height, fore.width, some fore, none, []⟩
  | none, some back => .ok ⟨back.width, back.height, back.width, none, some back, []⟩
  | some fore, some back =>
      if sameSize fore back then
        .ok ⟨fore.width, fore.height, fore.width, some fore, some back, []⟩
      else
        .error (.sizesDiffer (fore.width, fore.height) (back.width, back.height))

/-- The same map with the lines its scripts have written. -/
def withOutput (map : GeneratedMap) (lines : List String) : GeneratedMap :=
  { map with scriptOutput := lines }

end GeneratedMap

/-- A finished run: its map, or the words of its failure. -/
inductive GenerationResult where
  | success (map : GeneratedMap)
  | failure (message : String)

namespace GenerationResult

/-- Closes a run: a fault is reduced to the words it reports. -/
def ofOutcome : Except Fault GeneratedMap -> GenerationResult
  | .ok map => .success map
  | .error fault => .failure fault.report

/-- The map of a successful run. -/
def map? : GenerationResult -> Option GeneratedMap
  | .success map => some map
  | .failure _ => none

/-- The message of a failed run. -/
def message? : GenerationResult -> Option String
  | .success _ => none
  | .failure message => some message

/-- Whether the run has produced a map. -/
def succeeded (result : GenerationResult) : Bool :=
  result.map?.isSome

/-- The width of the map; a failed run counts as zero. -/
def width (result : GenerationResult) : Nat :=
  (result.map?.map GeneratedMap.width).getD 0

/-- The height of the map; a failed run counts as zero. -/
def height (result : GenerationResult) : Nat :=
  (result.map?.map GeneratedMap.height).getD 0

/-- The number of cells from one row to the next; a failed run counts as zero. -/
def rowstride (result : GenerationResult) : Nat :=
  (result.map?.map GeneratedMap.rowstride).getD 0

/-- The foreground of a successful run. -/
def foreground? (result : GenerationResult) : Option Raster :=
  result.map?.bind GeneratedMap.foreground

/-- The background of a successful run. -/
def background? (result : GenerationResult) : Option Raster :=
  result.map?.bind GeneratedMap.background

/-- The lines written by the scripts of a successful run. -/
def scriptOutput (result : GenerationResult) : List String :=
  (result.map?.map GeneratedMap.scriptOutput).getD []

end GenerationResult

end Landform
