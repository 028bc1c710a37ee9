import CoverageWindows.Object.Elf
import CoverageWindows.Object.MachO

/-!
# Formats of object files

The first bytes of a file tell its format.
-/

namespace CoverageWindows
namespace ObjectFile

/-- The number of bytes that a file of any format has at least. -/
def leastSize : Nat := 16

/-- The object file that the bytes of a file hold, if they hold one of a known format. -/
def parse? (file : Bytes) : Option ObjectFile :=
  if file.length < leastSize then none
  else
    match file with
    | 0x7F :: 0x45 :: 0x4C :: 0x46 :: 1 :: _ => Elf.parse? Elf.layout32 file
    | 0x7F :: 0x45 :: 0x4C :: 0x46 :: 2 :: _ => Elf.parse? Elf.layout64 file
    | 0xCF :: 0xFA :: 0xED :: 0xFE :: _ => MachO.parse? file
    | _ => none

end ObjectFile
end CoverageWindows
