import CoverageWindows.Json.Reader
import CoverageWindows.Json.Writer
import CoverageWindows.Mark.Basic

/-!
# Marks as documents

The JSON form of a boundary mark: an object of three numbers and three flags.
-/

namespace CoverageWindows
namespace Mark

open Json

/-- A mark as an object. -/
def writer (m : Mark) : Writer :=
  writeObject
    [("line", writeNatural m.line.toNat), ("column", writeNatural m.column.toNat),
      ("count", writeNatural m.count.toNat), ("hasCount", writeFlag m.hasCount),
      ("isRegionEntry", writeFlag m.isRegionEntry), ("isGapRegion", writeFlag m.isGapRegion)]

/-- The parts of a mark that are read so far. -/
structure Draft where
  line : Option UInt32
  column : Option UInt32
  count : Option Count
  hasCount : Option Bool
  isRegionEntry : Option Bool
  isGapRegion : Option Bool

/-- The written form of a mark. -/
def form : RecordForm Draft Mark where
  title := "BoundaryRecord"
  fields :=
    [.ofReader "line" Draft.line (fun d n => { d with line := some n }) readU32,
      .ofReader "column" Draft.column (fun d n => { d with column := some n }) readU32,
      .ofReader "count" Draft.count (fun d n => { d with count := some n }) readU64,
      .ofReader "hasCount" Draft.hasCount (fun d b => { d with hasCount := some b }) readFlag,
      .ofReader "isRegionEntry" Draft.isRegionEntry (fun d b => { d with isRegionEntry := some b })
        readFlag,
      .ofReader "isGapRegion" Draft.isGapRegion (fun d b => { d with isGapRegion := some b })
        readFlag]
  start := ⟨none, none, none, none, none, none⟩
  finish d := do
    let line ← need "line" d.line
    let column ← need "column" d.column
    let count ← need "count" d.count
    let hasCount ← need "hasCount" d.hasCount
    let isRegionEntry ← need "isRegionEntry" d.isRegionEntry
    let isGapRegion ← need "isGapRegion" d.isGapRegion
    return ⟨line, column, count, hasCount, isRegionEntry, isGapRegion⟩

end Mark
end CoverageWindows
