import CoverageWindows.Registry

/-!
# Sharing of backends

Requests are made of a registry one after another: handles are acquired and dropped, and it is asked
whether an interface is loaded.  Which handles are out is told by the requests and the replies
alone, and all that the registry does is told by the handles that are out.  What it remembers of a
backend whose last handle was dropped never shows.

Main results:

- Theorem `Sound.current?_eq_some_iff`: the backend of an interface is that of the handles that are
  out for it.
- Theorem `Sound.acquire`: a request for a handle keeps the registry sound, whatever loading comes
  to.
- Theorem `Sound.serve`: so does every list of requests.
- Theorem `sharing_of_requests`: after every list of requests the handles that are out for one
  interface are of one backend, and tell what the next request comes to.
-/

namespace CoverageWindows

/-! ## Requests and replies -/

/-- What is asked of a registry.  A holder has one handle at most: where it acquires another one,
the one before is dropped after that. -/
inductive Request where
  | acquire (holder : String) (abi : Abi) (load : Abi → Loading)
  | isLoaded (abi : Abi)
  | drop (holder : String)

/-- What is replied: a handle or why there is none, with whether a backend had to be loaded; whether
an interface is loaded; nothing to a drop. -/
inductive Reply where
  | acquired (result : Except AcquireFault LoadedBackend) (loaderCalled : Bool)
  | isLoaded (loaded : Bool)
  | dropped

/-- A handle that is out: its holder, the interface that it was acquired for, and its backend. -/
structure Handle where
  holder : String
  asked : Abi
  backend : LoadedBackend
  deriving DecidableEq, Repr

namespace Handle

/-- The handles without that of a holder. -/
def without (hs : List Handle) (holder : String) : List Handle :=
  hs.filter fun h => h.holder != holder

/-- The handles that are out after a request, told by its reply. -/
def enter (hs : List Handle) : Request × Reply → List Handle
  | (.acquire holder a _, .acquired (.ok b) _) => ⟨holder, a, b⟩ :: without hs holder
  | (.drop holder, _) => without hs holder
  | _ => hs

/-- The handles that are out after requests, told by their replies. -/
def out (served : List (Request × Reply)) : List Handle :=
  served.foldl enter []

/-- Dropping a holder adds no handle. -/
theorem mem_of_mem_without {hs : List Handle} {holder : String} {h : Handle}
    (hmem : h ∈ without hs holder) : h ∈ hs :=
  (List.mem_filter.1 hmem).1

end Handle

namespace Registry

/-- The reply to a request, and the registry after it. -/
def reply (r : Registry) : Request → Reply × Registry
  | .acquire holder a load =>
      let (result, called, r) := r.acquire holder a load
      (.acquired result called, r)
  | .isLoaded a => (.isLoaded (r.isLoaded a), r)
  | .drop holder => (.dropped, r.drop holder)

/-- The requests with their replies, one after another, and the registry after the last one. -/
def serve (r : Registry) : List Request → List (Request × Reply) × Registry
  | [] => ([], r)
  | q :: rest =>
      let (reply, r) := r.reply q
      let (served, r) := r.serve rest
      ((q, reply) :: served, r)

/-! ## Registries that agree with their handles -/

/-- A registry agrees with the handles that are out: it holds these, it remembers the backend of
each for the interface that was asked for, and no two backends that it remembers have one number. -/
structure Sound (r : Registry) (hs : List Handle) : Prop where
  held : r.held = hs.map fun h => (h.holder, h.backend)
  last : ∀ h ∈ hs, r.last h.asked = some h.backend
  abi : ∀ a b, r.last a = some b → b.abi = a
  number : ∀ a b, r.last a = some b → b.number < r.loadedCount
  different : ∀ a a' b b', r.last a = some b → r.last a' = some b' → b.number = b'.number → a = a'

/-- What is remembered for an interface does not change the others. -/
theorem last_remember (r : Registry) (a a' : Abi) (b : LoadedBackend) :
    (r.remember a b).last a' = if a' = a then some b else r.last a' := by
  cases a <;> cases a' <;> rfl

@[simp]
theorem loadedCount_remember (r : Registry) (a : Abi) (b : LoadedBackend) :
    (r.remember a b).loadedCount = r.loadedCount := by
  cases a <;> rfl

@[simp]
theorem held_remember (r : Registry) (a : Abi) (b : LoadedBackend) :
    (r.remember a b).held = r.held := by
  cases a <;> rfl

theorem sound_empty : empty.Sound [] where
  held := rfl
  last := by simp
  abi a b h := by cases a <;> cases h
  number a b h := by cases a <;> cases h
  different a a' b b' h := by cases a <;> cases h

namespace Sound

variable {r : Registry} {hs : List Handle}

/-- A backend is alive exactly while a handle of its number is out. -/
theorem isAlive_iff (h : r.Sound hs) (b : LoadedBackend) :
    r.isAlive b = true ↔ ∃ k ∈ hs, k.backend.number = b.number := by
  simp [isAlive, h.held]

/-- The backend of an interface is that of the handles that are out for it. -/
theorem current?_eq_some_iff (h : r.Sound hs) (a : Abi) (b : LoadedBackend) :
    r.current? a = some b ↔ ∃ k ∈ hs, k.asked = a ∧ k.backend = b := by
  rw [current?, Option.filter_eq_some_iff, h.isAlive_iff]
  constructor
  · rintro ⟨hlast, k, hk, hnumber⟩
    obtain rfl : k.asked = a := h.different _ _ _ _ (h.last k hk) hlast hnumber
    exact ⟨k, hk, rfl, Option.some.inj ((h.last k hk).symm.trans hlast)⟩
  · rintro ⟨k, hk, rfl, rfl⟩
    exact ⟨h.last k hk, k, hk, rfl⟩

/-- An interface has no backend exactly while no handle is out for it. -/
theorem current?_eq_none_iff (h : r.Sound hs) (a : Abi) :
    r.current? a = none ↔ ∀ k ∈ hs, k.asked ≠ a := by
  rw [Option.eq_none_iff_forall_ne_some]
  constructor
  · intro hnone k hk hasked
    exact hnone k.backend ((h.current?_eq_some_iff a _).2 ⟨k, hk, hasked, rfl⟩)
  · intro hother b hb
    rcases (h.current?_eq_some_iff a b).1 hb with ⟨k, hk, hasked, -⟩
    exact hother k hk hasked

/-- An interface is loaded exactly while a handle is out for it. -/
theorem isLoaded_iff_out (h : r.Sound hs) (a : Abi) :
    r.isLoaded a = true ↔ ∃ k ∈ hs, k.asked = a := by
  rw [isLoaded, Option.isSome_iff_exists]
  constructor
  · rintro ⟨b, hb⟩
    rcases (h.current?_eq_some_iff a b).1 hb with ⟨k, hk, hasked, -⟩
    exact ⟨k, hk, hasked⟩
  · rintro ⟨k, hk, hasked⟩
    exact ⟨k.backend, (h.current?_eq_some_iff a _).2 ⟨k, hk, hasked, rfl⟩⟩

/-- Handles for one interface are of one backend, and only these are. -/
theorem backend_eq_iff (h : r.Sound hs) {k k' : Handle} (hk : k ∈ hs) (hk' : k' ∈ hs) :
    k.backend = k'.backend ↔ k.asked = k'.asked := by
  constructor
  · intro heq
    exact h.different _ _ _ _ (h.last k hk) (h.last k' hk') (by rw [heq])
  · intro heq
    have hlast := h.last k hk
    rw [heq, h.last k' hk'] at hlast
    exact (Option.some.inj hlast).symm

/-! ## What a request keeps -/

/-- Dropping a holder keeps the registry sound. -/
theorem drop (h : r.Sound hs) (holder : String) :
    (r.drop holder).Sound (Handle.without hs holder) :=
  { h with
    held := by
      rw [Registry.drop, h.held, Handle.without, List.filter_map]
      rfl
    last := fun k hk => h.last k (Handle.mem_of_mem_without hk) }

/-- A handle of the backend that is remembered for an interface can be given out for it. -/
theorem hold (h : r.Sound hs) (holder : String) {a : Abi} {b : LoadedBackend}
    (hlast : r.last a = some b) :
    (r.hold holder b).Sound (⟨holder, a, b⟩ :: Handle.without hs holder) :=
  { h.drop holder with
    held := by
      rw [Registry.hold, (h.drop holder).held]
      rfl
    last := by
      intro k hk
      rcases List.mem_cons.1 hk with rfl | hk
      · exact hlast
      · exact h.last k (Handle.mem_of_mem_without hk) }

/-- A backend with the next number can be remembered for its interface while no handle is out for
that. -/
theorem remember (h : r.Sound hs) {a : Abi} (hnone : ∀ k ∈ hs, k.asked ≠ a) (version : String) :
    ({ r with loadedCount := r.loadedCount + 1 }.remember a
      ⟨r.loadedCount, a, version⟩).Sound hs where
  held := by rw [held_remember]; exact h.held
  last := by
    intro k hk
    rw [last_remember, if_neg (hnone k hk)]
    exact h.last k hk
  abi := by
    intro a' b hb
    rw [last_remember] at hb
    split at hb
    · cases hb
      exact (‹a' = a›).symm
    · exact h.abi a' b hb
  number := by
    intro a' b hb
    rw [last_remember] at hb
    rw [loadedCount_remember]
    split at hb
    · cases hb
      exact Nat.lt_succ_self _
    · exact Nat.lt_succ_of_lt (h.number a' b hb)
  different := by
    -- The new number is greater than all that were given before.
    intro a₁ a₂ b₁ b₂ h₁ h₂ hnumber
    rw [last_remember] at h₁ h₂
    split at h₁ <;> split at h₂
    · rename_i heq₁ heq₂
      rw [heq₁, heq₂]
    · cases h₁
      exact absurd hnumber.symm (Nat.ne_of_lt (h.number a₂ b₂ h₂))
    · cases h₂
      exact absurd hnumber (Nat.ne_of_lt (h.number a₁ b₁ h₁))
    · exact h.different a₁ a₂ b₁ b₂ h₁ h₂ hnumber

/-- What a request for a handle comes to while none is out for the interface: loading decides. -/
theorem acquire_of_none (h : r.Sound hs) (holder : String) {a : Abi}
    (hnone : ∀ k ∈ hs, k.asked ≠ a) (load : Abi → Loading) :
    r.acquire holder a load =
      match load a with
      | .failed f => (.error (.failure f), true, r)
      | .crashed why => (.error (.crashed why), true, r)
      | .backend abi version =>
          if abi = a then
            (.ok ⟨r.loadedCount, a, version⟩, true,
              ({ r with loadedCount := r.loadedCount + 1 }.remember a
                ⟨r.loadedCount, a, version⟩).hold holder ⟨r.loadedCount, a, version⟩)
          else
            (.error (.failure (.unavailable
              ("loader returned a " ++ abi.name ++ " backend for " ++ a.name))), true, r) := by
  rw [Registry.acquire, (h.current?_eq_none_iff a).2 hnone]
  cases load a with
  | failed f => rfl
  | crashed why => rfl
  | backend abi version =>
      by_cases habi : abi = a
      · simp [habi]
      · simp [habi]

/-- A request for a handle keeps the registry sound, whatever loading comes to. -/
theorem acquire (h : r.Sound hs) (holder : String) (a : Abi) (load : Abi → Loading) :
    (r.reply (.acquire holder a load)).2.Sound
      (Handle.enter hs (.acquire holder a load, (r.reply (.acquire holder a load)).1)) := by
  by_cases hsome : ∃ k ∈ hs, k.asked = a
  · rcases hsome with ⟨k, hk, rfl⟩
    have hcurrent := (h.current?_eq_some_iff k.asked k.backend).2 ⟨k, hk, rfl, rfl⟩
    rw [reply, acquire_of_alive r holder k.asked load hcurrent]
    exact h.hold holder (h.last k hk)
  · have hnone : ∀ k ∈ hs, k.asked ≠ a := fun k hk hasked => hsome ⟨k, hk, hasked⟩
    rw [reply, h.acquire_of_none holder hnone load]
    cases load a with
    | failed f => exact h
    | crashed why => exact h
    | backend abi version =>
        by_cases habi : abi = a
        · simp only [habi, if_pos]
          refine (h.remember hnone version).hold holder ?_
          rw [last_remember, if_pos rfl]
        · simp only [habi, if_neg, not_false_eq_true]
          exact h

/-- A request keeps the registry sound. -/
theorem reply (h : r.Sound hs) (q : Request) :
    (r.reply q).2.Sound (Handle.enter hs (q, (r.reply q).1)) := by
  cases q with
  | acquire holder a load => exact h.acquire holder a load
  | isLoaded a => exact h
  | drop holder => exact h.drop holder

/-- So does every list of requests. -/
theorem serve (h : r.Sound hs) (requests : List Request) :
    (r.serve requests).2.Sound ((r.serve requests).1.foldl Handle.enter hs) := by
  induction requests generalizing r hs with
  | nil => exact h
  | cons q rest ih => exact ih (h.reply q)

end Sound

end Registry

/-! ## Handles after every list of requests -/

/-- Let any requests have been made of an empty registry.  The handles that are out are those that
it holds.  Each is of a backend of the interface that it was acquired for; handles for one interface
are of one backend, and those for different ones are not.  An interface is loaded exactly while a
handle is out for it.  A further request for a handle loads a backend exactly while none is out, and
else gives the backend of the others.  If the backend that is loaded is of the interface it is given
out, under a number that none of the others has.  If loading fails, or gives a backend of another
interface, then the request fails, and the registry is exactly what it was. -/
theorem sharing_of_requests (requests : List Request) :
    let r := (Registry.empty.serve requests).2
    let out := Handle.out (Registry.empty.serve requests).1
    r.held = out.map (fun h => (h.holder, h.backend)) ∧
      (∀ h ∈ out, h.backend.abi = h.asked) ∧
      (∀ h ∈ out, ∀ k ∈ out, (h.backend = k.backend ↔ h.asked = k.asked) ∧
        (h.backend.number = k.backend.number ↔ h.asked = k.asked)) ∧
      (∀ a, r.isLoaded a = true ↔ ∃ h ∈ out, h.asked = a) ∧
      ∀ holder a load,
        ((r.acquire holder a load).2.1 = true ↔ ∀ h ∈ out, h.asked ≠ a) ∧
        (∀ h ∈ out, h.asked = a → (r.acquire holder a load).1 = .ok h.backend) ∧
        ((∀ h ∈ out, h.asked ≠ a) →
          (∀ version, load a = .backend a version →
            ∃ b, (r.acquire holder a load).1 = .ok b ∧ b.abi = a ∧ b.version = version ∧
              ∀ h ∈ out, h.backend.number ≠ b.number) ∧
          (∀ abi version, load a = .backend abi version → abi ≠ a →
            r.acquire holder a load =
              (.error (.failure (.unavailable
                ("loader returned a " ++ abi.name ++ " backend for " ++ a.name))), true, r)) ∧
          (∀ f, load a = .failed f →
            r.acquire holder a load = (.error (.failure f), true, r)) ∧
          (∀ why, load a = .crashed why →
            r.acquire holder a load = (.error (.crashed why), true, r))) := by
  intro r out
  have h : r.Sound out := Registry.sound_empty.serve requests
  refine ⟨h.held, fun k hk => h.abi _ _ (h.last k hk), ?_, h.isLoaded_iff_out, ?_⟩
  · intro k hk k' hk'
    refine ⟨h.backend_eq_iff hk hk', ?_, ?_⟩
    · exact h.different _ _ _ _ (h.last k hk) (h.last k' hk')
    · intro heq
      rw [(h.backend_eq_iff hk hk').2 heq]
  · intro holder a load
    by_cases hsome : ∃ k ∈ out, k.asked = a
    · rcases hsome with ⟨k, hk, rfl⟩
      have hacquire := Registry.acquire_of_alive r holder k.asked load
        ((h.current?_eq_some_iff k.asked k.backend).2 ⟨k, hk, rfl, rfl⟩)
      have hsome : ¬∀ k' ∈ out, k'.asked ≠ k.asked := fun hnone => hnone k hk rfl
      refine ⟨iff_of_false (by simp [hacquire]) hsome, ?_, fun hnone => absurd hnone hsome⟩
      intro k' hk' hasked
      rw [hacquire, (h.backend_eq_iff hk' hk).2 hasked]
    · have hnone : ∀ k ∈ out, k.asked ≠ a := fun k hk hasked => hsome ⟨k, hk, hasked⟩
      have hacquire := h.acquire_of_none holder hnone load
      refine ⟨iff_of_true ?_ hnone, fun k hk hasked => absurd hasked (hnone k hk), fun _ => ?_⟩
      · rw [hacquire]
        cases load a with
        | failed f => rfl
        | crashed why => rfl
        | backend abi version => by_cases habi : abi = a <;> simp [habi]
      · refine ⟨?_, ?_, ?_, ?_⟩
        · intro version hload
          refine ⟨⟨r.loadedCount, a, version⟩, by simp [hacquire, hload], rfl, rfl, ?_⟩
          intro k hk
          exact Nat.ne_of_lt (h.number _ _ (h.last k hk))
        · intro abi version hload habi
          simp [hacquire, hload, habi]
        · intro f hload
          simp [hacquire, hload]
        · intro why hload
          simp [hacquire, hload]

end CoverageWindows
