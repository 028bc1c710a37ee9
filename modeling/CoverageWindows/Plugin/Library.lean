import CoverageWindows.Plugin.Adapter

/-!
# Decoder libraries on disk

A library may define tables under several symbols.  The symbol of the wanted interface is tried
first, then the symbol that every library may define.
-/

namespace CoverageWindows
namespace Plugin

/-- What a file is to the loader of libraries: none that can be opened, or the tables that it
defines by their symbols. -/
inductive Library where
  | unopened (why : String)
  | opened (tables : List (String × ExportTable))

/-- The symbol of the table that fits every interface. -/
def genericSymbol : String := "coverage_parser_library_instance"

/-- The table of an interface that a library defines. -/
def tableFor (tables : List (String × ExportTable)) (abi : Abi) : Option ExportTable :=
  match tables.lookup abi.tableSymbol with
  | some t => some t
  | none => tables.lookup genericSymbol

/-- The library for an interface. -/
def load (l : Library) (abi : Abi) : Except Failure Plugin :=
  match l with
  | .unopened why => .error (.unavailable why)
  | .opened tables =>
      match tableFor tables abi with
      | none => .error (.unresolved .noSymbol)
      | some t => ofTable abi (some t)

end Plugin
end CoverageWindows
