import CoverageWindows.Abi
import CoverageWindows.Failure

/-!
# Shared backends

Collectors of one interface share one backend.  The registry remembers, for each interface, the last
backend that was loaded for it, but does not keep it alive: only the handles that were given out do.
A backend without handles is gone, and the next request loads another one.

Main results:

- Theorem `acquire_of_alive`: while a backend is alive, no other one is loaded for its interface.
-/

namespace CoverageWindows

/-- A backend that was loaded: its number, and what it says about itself. -/
structure LoadedBackend where
  number : Nat
  abi : Abi
  version : String
  deriving DecidableEq, Repr

/-- What loading a backend comes to. -/
inductive Loading where
  | backend (abi : Abi) (version : String)
  | failed (f : Failure)
  | crashed (why : String)
  deriving DecidableEq, Repr

/-- The failure of loading where no backend is to be had. -/
def Loading.refused (why : String) : Loading := .failed (.unavailable why)

/-- The backends that were loaded last for the interfaces, the handles that are held, by their
holders, and the number of backends loaded so far. -/
structure Registry where
  last17 : Option LoadedBackend
  last19 : Option LoadedBackend
  held : List (String × LoadedBackend)
  loadedCount : Nat
  deriving DecidableEq, Repr

/-- Why no handle was given out. -/
inductive AcquireFault where
  | failure (f : Failure)
  | crashed (why : String)
  deriving DecidableEq, Repr

namespace Registry

/-- The registry before the first request. -/
def empty : Registry := ⟨none, none, [], 0⟩

/-- The backend that was loaded last for an interface. -/
def last (r : Registry) : Abi → Option LoadedBackend
  | .llvm17 => r.last17
  | .llvm19 => r.last19

/-- The registry that remembers a backend for an interface. -/
def remember (r : Registry) (a : Abi) (b : LoadedBackend) : Registry :=
  match a with
  | .llvm17 => { r with last17 := some b }
  | .llvm19 => { r with last19 := some b }

/-- Whether a handle of a backend is held. -/
def isAlive (r : Registry) (b : LoadedBackend) : Bool :=
  r.held.any fun h => h.2.number == b.number

/-- The backend of an interface, if it is alive. -/
def current? (r : Registry) (a : Abi) : Option LoadedBackend :=
  (r.last a).filter r.isAlive

/-- Whether the backend of an interface is alive. -/
def isLoaded (r : Registry) (a : Abi) : Bool :=
  (r.current? a).isSome

/-- The handle of a holder. -/
def handle? (r : Registry) (holder : String) : Option LoadedBackend :=
  r.held.lookup holder

/-- The registry without the handle of a holder. -/
def drop (r : Registry) (holder : String) : Registry :=
  { r with held := r.held.filter fun h => h.1 != holder }

/-- The registry in which a holder has a handle in place of the one before. -/
def hold (r : Registry) (holder : String) (b : LoadedBackend) : Registry :=
  { r.drop holder with held := (holder, b) :: (r.drop holder).held }

/-- A handle for an interface, whether the backend had to be loaded, and the registry after that.  A
backend of another interface is not kept. -/
def acquire (r : Registry) (holder : String) (a : Abi) (load : Abi → Loading) :
    Except AcquireFault LoadedBackend × Bool × Registry :=
  match r.current? a with
  | some b => (.ok b, false, r.hold holder b)
  | none =>
      match load a with
      | .failed f => (.error (.failure f), true, r)
      | .crashed why => (.error (.crashed why), true, r)
      | .backend abi version =>
          if abi = a then
            let b : LoadedBackend := ⟨r.loadedCount, abi, version⟩
            (.ok b, true,
              ({ r with loadedCount := r.loadedCount + 1 }.remember a b).hold holder b)
          else
            (.error (.failure (.unavailable
              ("loader returned a " ++ abi.name ++ " backend for " ++ a.name))), true, r)

/-- While a backend is alive, no other one is loaded for its interface. -/
theorem acquire_of_alive (r : Registry) (holder : String) (a : Abi) (load : Abi → Loading)
    {b : LoadedBackend} (h : r.current? a = some b) :
    r.acquire holder a load = (.ok b, false, r.hold holder b) := by
  simp [acquire, h]

end Registry
end CoverageWindows
