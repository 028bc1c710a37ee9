import CoverageWindows.Files.Tree

/-!
# Files that are written

A file that is written is put at the place that its path leads to, which was free or held a file.
From then on the path leads to the new file, also when it is looked at.  Nothing else changes: what
stood in the way of a path still does, so every path that led to another place still leads there.

The ways that a path can go are told apart once, in `Leads`; what a written file does to paths is
then shown along them.

Main results:

- Theorem `follow_eq_ok_iff`: where a path leads, by the pieces of the path and what they name.
- Theorem `write_eq_ok_iff`: writing puts a file at the place that the path leads to.
- Theorem `read_of_write`: what is written is read back.
- Theorem `read_put_vacant`: what could be read before a new file was made is still read.
- Theorem `HasFolder.write`: writing takes no folder away.
-/

namespace CoverageWindows
namespace FileTree

/-! ## Ways -/

/-- A piece that is looked up as a name in a folder. -/
structure Names (purpose : Purpose) (slashed : Bool) (at' : Place) (piece : Bytes)
    (rest : List Bytes) : Prop where
  ne_dot : piece ≠ [Path.dot]
  ne_dots : piece ≠ [Path.dot, Path.dot]
  unslashed : rest = [] → slashed = true → purpose ≠ .write
  attached : at'.getLast? ≠ some []
  short : ¬255 < piece.length

/-- The ways on which pieces lead from a folder to a target. -/
inductive Leads (t : FileTree) (purpose : Purpose) :
    Nat → Bool → Bool → Place → List Bytes → Target → Prop
  | here {links folder slashed at'} :
      Leads t purpose links folder slashed at' [] (.there at' .folder)
  | stay {links folder slashed at' rest target} :
      Leads t purpose links folder slashed at' rest target →
      Leads t purpose links folder slashed at' ([Path.dot] :: rest) target
  | up {links folder slashed at' rest target} :
      Leads t purpose links folder slashed at'.dropLast rest target →
      Leads t purpose links folder slashed at' ([Path.dot, Path.dot] :: rest) target
  | vacant {links folder slashed at' piece} :
      Names purpose slashed at' piece [] → t.node? (at' ++ [piece]) = none →
      Leads t purpose links folder slashed at' [piece] (.vacant (at' ++ [piece]))
  | into {links folder slashed at' piece rest target} :
      Names purpose slashed at' piece rest → t.node? (at' ++ [piece]) = some .folder →
      Leads t purpose links folder slashed (at' ++ [piece]) rest target →
      Leads t purpose links folder slashed at' (piece :: rest) target
  | file {links folder slashed at' piece c} :
      Names purpose slashed at' piece [] → t.node? (at' ++ [piece]) = some (.file c) →
      purpose = .make ∨ folder = false ∧ slashed = false →
      Leads t purpose links folder slashed at' [piece] (.there (at' ++ [piece]) (.file c))
  | link {links folder slashed at' piece l} :
      Names purpose slashed at' piece [] → t.node? (at' ++ [piece]) = some (.link l) →
      purpose = .make →
      Leads t purpose links folder slashed at' [piece] (.there (at' ++ [piece]) (.link l))
  | behindLast {links folder slashed at' piece l target} :
      Names purpose slashed at' piece [] → t.node? (at' ++ [piece]) = some (.link l) →
      purpose ≠ .make → l ≠ [] →
      Leads t purpose links (folder || slashed) (endsInSlash l)
        (if Path.isAbsolute l then [] else at') (pieces l) target →
      Leads t purpose (links + 1) folder slashed at' [piece] target
  | behind {links folder slashed at' piece rest l target} :
      Names purpose slashed at' piece rest → t.node? (at' ++ [piece]) = some (.link l) →
      rest ≠ [] → l ≠ [] →
      Leads t purpose links folder slashed (if Path.isAbsolute l then [] else at')
        (pieces l ++ rest) target →
      Leads t purpose (links + 1) folder slashed at' (piece :: rest) target

section Ways

variable {t : FileTree} {purpose : Purpose} {links : Nat} {folder slashed : Bool} {at' : Place}
  {ps : List Bytes} {target : Target} {p : Place}

/-- What a path is followed to is what it leads to. -/
theorem leads_of_follow (h : t.follow purpose links folder slashed at' ps = .ok target) :
    Leads t purpose links folder slashed at' ps target := by
  -- The cases are the branches of `follow` in their order; those left out below are its faults.
  fun_induction follow t purpose links folder slashed at' ps with
  | case1 => cases h; exact .here
  | case2 _ _ _ _ _ ih => exact .stay (ih h)
  | case3 _ _ _ _ _ _ ih => exact .up (ih h)
  | case7 _ _ _ _ _ rest hdot hdots hslash hat hlen _ hp hrest =>
      obtain rfl : rest = [] := List.isEmpty_iff.1 hrest
      cases h
      exact .vacant ⟨hdot, hdots, by grind, hat, hlen⟩ hp
  | case9 _ _ _ _ _ _ hdot hdots hslash hat hlen _ hp ih =>
      exact .into ⟨hdot, hdots, by grind, hat, hlen⟩ hp (ih h)
  | case10 _ _ _ _ _ rest hdot hdots hslash hat hlen _ _ hp hend =>
      simp only [Bool.and_eq_true, List.isEmpty_iff] at hend
      obtain ⟨rfl, hend⟩ := hend
      cases h
      exact .file ⟨hdot, hdots, by grind, hat, hlen⟩ hp (by simpa using hend)
  | case12 _ _ _ _ _ rest hdot hdots hslash hat hlen _ _ hp hend =>
      simp only [Bool.and_eq_true, List.isEmpty_iff] at hend
      obtain ⟨rfl, hend⟩ := hend
      cases h
      exact .link ⟨hdot, hdots, by grind, hat, hlen⟩ hp (by simpa using hend)
  | case15 _ _ _ _ rest hdot hdots hslash hat hlen _ _ hp hend _ _ hl hrest ih =>
      obtain rfl : rest = [] := List.isEmpty_iff.1 hrest
      exact .behindLast ⟨hdot, hdots, by grind, hat, hlen⟩ hp (by simpa using hend)
        (by simpa using hl) (ih h)
  | case16 _ _ _ _ rest hdot hdots hslash hat hlen _ _ hp hend _ _ hl hrest ih =>
      exact .behind ⟨hdot, hdots, by grind, hat, hlen⟩ hp (by simpa using hrest)
        (by simpa using hl) (ih h)
  | _ => cases h

/-- A name passes what is checked before it is looked up. -/
theorem Names.checks {piece : Bytes} {rest : List Bytes}
    (h : Names purpose slashed at' piece rest) :
    piece ≠ [Path.dot] ∧ piece ≠ [Path.dot, Path.dot] ∧ at'.getLast? ≠ some [] ∧
      ¬255 < piece.length :=
  ⟨h.ne_dot, h.ne_dots, h.attached, h.short⟩

/-- No slash ends a path on which a file is written. -/
theorem Names.slashed_eq {piece : Bytes} (h : Names .write slashed at' piece []) :
    slashed = false := by
  simpa using h.unslashed rfl

/-- What a path leads to is what it is followed to. -/
theorem Leads.follow_eq (h : Leads t purpose links folder slashed at' ps target) :
    t.follow purpose links folder slashed at' ps = .ok target := by
  induction h with
  | here => rw [follow]
  | stay _ ih => rw [follow, if_pos rfl, ih]
  | up _ ih => rw [follow, if_neg (by decide), if_pos rfl, ih]
  | vacant hname hp => simpa [follow, hname.checks, hp] using hname.unslashed rfl
  | into hname hp _ ih => simpa [follow, hname.checks, hp, ih] using hname.unslashed
  | file hname hp hend => simpa [follow, hname.checks, hp, hend] using hname.unslashed rfl
  | link hname hp hmake => simp [follow, hname.checks, hp, hmake]
  | behindLast hname hp hmake hl _ ih =>
      simpa [follow, hname.checks, hp, hmake, hl, ih] using hname.unslashed rfl
  | behind hname hp hrest hl _ ih => simp [follow, hname.checks, hp, hrest, hl, ih]

/-- Where a path leads, by the pieces of the path and what they name. -/
theorem follow_eq_ok_iff :
    t.follow purpose links folder slashed at' ps = .ok target ↔
      Leads t purpose links folder slashed at' ps target :=
  ⟨leads_of_follow, Leads.follow_eq⟩

/-- A path on which a file can be written is looked at on the same way. -/
theorem Leads.look (h : Leads t .write links folder slashed at' ps target) :
    Leads t .look links folder slashed at' ps target := by
  have hlook : ∀ {slashed at' piece rest}, Names .write slashed at' piece rest →
      Names .look slashed at' piece rest :=
    fun h => { h with unslashed := fun _ _ => by decide }
  induction h with
  | here => exact .here
  | stay _ ih => exact .stay ih
  | up _ ih => exact .up ih
  | vacant hname hp => exact .vacant (hlook hname) hp
  | into hname hp _ ih => exact .into (hlook hname) hp ih
  | file hname hp hend => exact .file (hlook hname) hp (.inr (hend.resolve_left (by decide)))
  | link _ _ hmake => cases hmake
  | behindLast hname hp _ hl _ ih => exact .behindLast (hlook hname) hp (by decide) hl ih
  | behind hname hp hrest hl _ ih => exact .behind (hlook hname) hp hrest hl ih

/-! ## Places of files -/

/-- The place of a file that is written on a path that leads to a target. -/
def Target.filePlace? : Target → Option Place
  | .vacant p => some p
  | .there p (.file _) => some p
  | .there _ _ => none

/-- What is where a path leads. -/
def Target.node? : Target → Option Node
  | .vacant _ => none
  | .there _ n => some n

/-- A file can be put at a place: it is free, or a file is there already. -/
def TakesFile (t : FileTree) (p : Place) : Prop :=
  t.node? p = none ∨ ∃ c, t.node? p = some (.file c)

theorem TakesFile.ne_nil (h : t.TakesFile p) : p ≠ [] := by
  rintro rfl
  simp [TakesFile, node?] at h

/-- The tree has at the place of a file what the path that leads there shows. -/
theorem Leads.node?_eq (h : Leads t purpose links folder slashed at' ps target)
    (hfile : target.filePlace? = some p) : t.node? p = target.node? := by
  induction h with
  | here | link => cases hfile
  | vacant _ hp | file _ hp _ => cases hfile; exact hp
  | stay _ ih | up _ ih | into _ _ _ ih | behindLast _ _ _ _ _ ih | behind _ _ _ _ _ ih =>
      exact ih hfile

/-- Where a path leads, a file may stand. -/
theorem Leads.takesFile (h : Leads t purpose links folder slashed at' ps target)
    (hfile : target.filePlace? = some p) : t.TakesFile p := by
  have hnode := h.node?_eq hfile
  match target, hfile with
  | .vacant _, rfl => exact .inl hnode
  | .there _ (.file _), rfl => exact .inr ⟨_, hnode⟩

/-! ## A file is put at a place -/

/-- A node that is put at a place changes that place only. -/
theorem node?_put (t : FileTree) (hp : p ≠ []) (n : Node) (q : Place) :
    (t.put p n).node? q = if q = p then some n else t.node? q := by
  have hlookup : ∀ es : List (Place × Node), q ≠ p →
      (es.filter fun e => e.1 != p).lookup q = es.lookup q := by
    intro es hqp
    induction es with
    | nil => rfl
    | cons e es ih =>
        rcases e with ⟨r, m⟩
        by_cases hr : r = p
        · subst hr
          simp [List.lookup_cons, ih, beq_false_of_ne hqp]
        · simp [List.lookup_cons, hr, ih]
  by_cases hq : q = []
  · rw [node?, node?, if_pos hq, if_pos hq, if_neg (hq ▸ hp.symm)]
  · rw [node?, node?, if_neg hq, if_neg hq, put]
    by_cases hqp : q = p
    · simp [hqp]
    · simp [List.lookup_cons, hqp, beq_false_of_ne hqp, hlookup]

/-- Folders and links are not where a file can be put. -/
theorem TakesFile.node?_put (hp : t.TakesFile p) (x : Bytes) {q : Place} {n : Node}
    (hq : t.node? q = some n) (hn : ∀ c, n ≠ .file c) : (t.put p (.file x)).node? q = some n := by
  have hqp : q ≠ p := by
    rintro rfl
    rcases hp with hfree | ⟨c, hc⟩
    · simp [hq] at hfree
    · exact hn c (Option.some.inj (hq.symm.trans hc))
  rw [FileTree.node?_put t hp.ne_nil, if_neg hqp, hq]

/-- A file that is put at a place does not change what paths to other places lead to. -/
theorem Leads.put_ne (h : Leads t purpose links folder slashed at' ps target)
    (hp : t.TakesFile p) (hne : target.filePlace? ≠ some p) (x : Bytes) :
    Leads (t.put p (.file x)) purpose links folder slashed at' ps target := by
  have hstay : ∀ {q n}, t.node? q = n → some q ≠ some p → (t.put p (.file x)).node? q = n :=
    fun hq hqp => by rw [FileTree.node?_put t hp.ne_nil, if_neg fun h => hqp (by rw [h]), hq]
  induction h with
  | here => exact .here
  | stay _ ih => exact .stay (ih hne)
  | up _ ih => exact .up (ih hne)
  | vacant hname hq => exact .vacant hname (hstay hq hne)
  | into hname hq _ ih => exact .into hname (hp.node?_put x hq nofun) (ih hne)
  | file hname hq hend => exact .file hname (hstay hq hne) hend
  | link hname hq hmake => exact .link hname (hp.node?_put x hq nofun) hmake
  | behindLast hname hq hmake hl _ ih =>
      exact .behindLast hname (hp.node?_put x hq nofun) hmake hl (ih hne)
  | behind hname hq hrest hl _ ih => exact .behind hname (hp.node?_put x hq nofun) hrest hl (ih hne)

/-- A path on which a file is written leads to that file. -/
theorem Leads.put_self (h : Leads t .write links folder slashed at' ps target)
    (hfile : target.filePlace? = some p) (hfolder : folder = false) (x : Bytes) :
    Leads (t.put p (.file x)) .write links folder slashed at' ps (.there p (.file x)) := by
  have hp := h.takesFile hfile
  have hput : (t.put p (.file x)).node? p = some (.file x) := by
    rw [FileTree.node?_put t hp.ne_nil, if_pos rfl]
  induction h with
  | here => cases hfile
  | stay _ ih => exact .stay (ih hfile hfolder)
  | up _ ih => exact .up (ih hfile hfolder)
  | vacant hname =>
      cases hfile
      exact .file hname hput (.inr ⟨hfolder, hname.slashed_eq⟩)
  | into hname hq _ ih => exact .into hname (hp.node?_put x hq nofun) (ih hfile hfolder)
  | file hname =>
      cases hfile
      exact .file hname hput (.inr ⟨hfolder, hname.slashed_eq⟩)
  | link => cases hfile
  | behindLast hname hq hmake hl _ ih =>
      -- No slash ends the path, so that the link may lead to a file.
      have hplain := hname.slashed_eq
      exact .behindLast hname (hp.node?_put x hq nofun) hmake hl
        (ih hfile (by simp [hfolder, hplain]))
  | behind hname hq hrest hl _ ih =>
      exact .behind hname (hp.node?_put x hq nofun) hrest hl (ih hfile hfolder)

end Ways

/-! ## Reading and writing -/

section Access

variable {t t' : FileTree} {purpose : Purpose} {path content : Bytes} {target : Target} {p : Place}

/-- A path that can be located is followed from where it begins. -/
theorem locate_eq_ok_iff :
    t.locate purpose path = .ok target ↔
      0 ∉ path ∧ path ≠ [] ∧ path.length ≤ 4095 ∧
        Leads t purpose 40 false (endsInSlash path)
          (if Path.isAbsolute path then [] else t.workingFolder) (pieces path) target := by
  rw [← follow_eq_ok_iff, locate]
  by_cases hzero : 0 ∈ path
  · simp [hzero]
  · by_cases hne : path = []
    · simp [hne]
    · by_cases hlen : 4095 < path.length
      · simp [hzero, hne, hlen, Nat.not_le_of_lt hlen]
      · simp [hzero, hne, hlen, Nat.le_of_not_lt hlen]

/-- Writing puts a file at the place that the path leads to. -/
theorem write_eq_ok_iff :
    t.write path content = .ok t' ↔
      ∃ target p, t.locate .write path = .ok target ∧ target.filePlace? = some p ∧
        t' = t.put p (.file content) := by
  rw [write, change]
  cases h : t.locate .write path with
  | error e => simp [bind, Except.bind]
  | ok target =>
      rcases target with ⟨p, n⟩ | p
      · cases n <;> simp [bind, Except.bind, Target.filePlace?, eq_comm]
      · simp [bind, Except.bind, Target.filePlace?, eq_comm]

/-- A path is read where it leads to a file. -/
theorem read_eq_ok_iff :
    t.read path = .ok content ↔ ∃ p, t.locate .look path = .ok (.there p (.file content)) := by
  rw [read]
  cases h : t.locate .look path with
  | error e => simp [bind, Except.bind]
  | ok target =>
      rcases target with ⟨p, n⟩ | p
      · cases n <;> simp [bind, Except.bind]
      · simp [bind, Except.bind]

/-- A file that is put at a place leaves alone where paths to other places lead. -/
theorem locate_put_ne (h : t.locate purpose path = .ok target) (hp : t.TakesFile p)
    (hne : target.filePlace? ≠ some p) (x : Bytes) :
    (t.put p (.file x)).locate purpose path = .ok target := by
  obtain ⟨hzero, hpath, hlen, hleads⟩ := locate_eq_ok_iff.1 h
  exact locate_eq_ok_iff.2 ⟨hzero, hpath, hlen, hleads.put_ne hp hne x⟩

/-- A path on which a file is written leads to that file. -/
theorem locate_put_self (h : t.locate .write path = .ok target)
    (hfile : target.filePlace? = some p) (x : Bytes) :
    (t.put p (.file x)).locate .write path = .ok (.there p (.file x)) := by
  obtain ⟨hzero, hpath, hlen, hleads⟩ := locate_eq_ok_iff.1 h
  exact locate_eq_ok_iff.2 ⟨hzero, hpath, hlen, hleads.put_self hfile rfl x⟩

/-- A path on which a file can be written is looked at on the same way. -/
theorem locate_look (h : t.locate .write path = .ok target) :
    t.locate .look path = .ok target := by
  obtain ⟨hzero, hpath, hlen, hleads⟩ := locate_eq_ok_iff.1 h
  exact locate_eq_ok_iff.2 ⟨hzero, hpath, hlen, hleads.look⟩

theorem node?_of_locate (h : t.locate purpose path = .ok target)
    (hfile : target.filePlace? = some p) : t.node? p = target.node? :=
  (locate_eq_ok_iff.1 h).2.2.2.node?_eq hfile

theorem takesFile_of_locate (h : t.locate purpose path = .ok target)
    (hfile : target.filePlace? = some p) : t.TakesFile p :=
  (locate_eq_ok_iff.1 h).2.2.2.takesFile hfile

/-- A file can be written on a path. -/
def Writable (t : FileTree) (path : Bytes) : Prop :=
  ∃ target p, t.locate .write path = .ok target ∧ target.filePlace? = some p

/-- A path that is writable can be written. -/
theorem Writable.exists_write (h : t.Writable path) (content : Bytes) :
    ∃ t', t.write path content = .ok t' := by
  obtain ⟨target, p, hloc, hfile⟩ := h
  exact ⟨_, write_eq_ok_iff.2 ⟨target, p, hloc, hfile, rfl⟩⟩

/-- A file that is put at a place takes no path away on which a file can be written. -/
theorem Writable.put (h : t.Writable path) (hp : t.TakesFile p) (x : Bytes) :
    (t.put p (.file x)).Writable path := by
  obtain ⟨target, q, hloc, hfile⟩ := h
  by_cases hqp : q = p
  · exact ⟨_, p, locate_put_self hloc (hqp ▸ hfile) x, rfl⟩
  · have hne : target.filePlace? ≠ some p := by simpa [hfile] using hqp
    exact ⟨target, q, locate_put_ne hloc hp hne x, hfile⟩

/-- What is written is read back. -/
theorem read_of_write (h : t.write path content = .ok t') : t'.read path = .ok content := by
  obtain ⟨target, p, hloc, hfile, rfl⟩ := write_eq_ok_iff.1 h
  exact read_eq_ok_iff.2 ⟨p, locate_look (locate_put_self hloc hfile content)⟩

/-- What could be read before a file was made at a free place is still read. -/
theorem read_put_vacant {other : Bytes} (hp : t.node? p = none) (h : t.read other = .ok content)
    (x : Bytes) : (t.put p (.file x)).read other = .ok content := by
  obtain ⟨q, hloc⟩ := read_eq_ok_iff.1 h
  have hqp : some q ≠ some p := by
    rintro ⟨⟩
    have hthere := node?_of_locate hloc rfl
    simp [hp, Target.node?] at hthere
  exact read_eq_ok_iff.2 ⟨q, locate_put_ne hloc (.inl hp) hqp x⟩

/-! ## Folders -/

/-- A path leads to a folder, whether it is looked at or something is to be made there. -/
def HasFolder (t : FileTree) (path : Bytes) : Prop :=
  ∃ p, t.locate .look path = .ok (.there p .folder) ∧ t.locate .make path = .ok (.there p .folder)

/-- Writing a file takes no folder away. -/
theorem HasFolder.write {other : Bytes} (h : t.HasFolder other)
    (hwrite : t.write path content = .ok t') : t'.HasFolder other := by
  obtain ⟨target, p, hloc, hfile, rfl⟩ := write_eq_ok_iff.1 hwrite
  obtain ⟨q, hlook, hmake⟩ := h
  have hp := takesFile_of_locate hloc hfile
  exact ⟨q, locate_put_ne hlook hp nofun content, locate_put_ne hmake hp nofun content⟩

/-- A folder that is there already is kept where it is asked for. -/
theorem HasFolder.makeFolders (h : t.HasFolder path) : t.makeFolders path = (.ok (), t) := by
  obtain ⟨p, hlook, hmake⟩ := h
  have hne : path ≠ [] := (locate_eq_ok_iff.1 hlook).2.1
  have hrefused : t.makeFolder path = .error .alreadyThere := by
    simp [makeFolder, hmake, bind, Except.bind]
  have hthere : t.isFolder path = true := by
    simp [isFolder, find?, hlook]
  rw [FileTree.makeFolders, makeFoldersUpTo, if_neg (by simpa using hne), hrefused]
  simp [hthere]

end Access
end FileTree
end CoverageWindows
