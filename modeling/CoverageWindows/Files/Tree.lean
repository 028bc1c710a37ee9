import CoverageWindows.Files.Path

/-!
# Trees of files

A tree holds folders, files and symbolic links by their places below the root, and a folder that
relative paths begin in.  A path is followed piece by piece; links are followed as they are met, at
most forty of them.

The working folder may be taken away.  It is then a folder without content and without a name: dots
still lead to it and out of it, but nothing can be made in it, and a folder that is made later where
it was is another one.
-/

namespace CoverageWindows

/-! ## Faults of file operations -/

/-- Why an operation on files fails. -/
inductive FileFault where
  | notFound
  | alreadyThere
  | notFolder
  | isFolder
  | nameTooLong
  | tooManyLinks
  | zeroByte
  | notText
  | noFirstFolder
  | other (text : String)
  deriving DecidableEq, Repr

/-- A fault of a file operation in words, with its number where the system has one. -/
def FileFault.message : FileFault → String
  | notFound => "No such file or directory (os error 2)"
  | alreadyThere => "File exists (os error 17)"
  | notFolder => "Not a directory (os error 20)"
  | isFolder => "Is a directory (os error 21)"
  | nameTooLong => "File name too long (os error 36)"
  | tooManyLinks => "Too many levels of symbolic links (os error 40)"
  | zeroByte => "file name contained an unexpected NUL byte"
  | notText => "stream did not contain valid UTF-8"
  | noFirstFolder => "failed to create whole tree"
  | other text => text

/-! ## Places -/

/-- The names of folders from the root on, and of what is in the last of them.  A folder that was
taken away has an empty name, which no piece of a path is. -/
abbrev Place := List Bytes

/-- What is at a place. -/
inductive Node where
  | file (content : Bytes)
  | folder
  | link (target : Bytes)
  deriving DecidableEq, Repr

/-- The files that a process sees. -/
structure FileTree where
  entries : List (Place × Node)
  workingFolder : Place
  deriving DecidableEq, Repr

namespace FileTree

/-- What is at a place; the root is always a folder. -/
def node? (t : FileTree) (p : Place) : Option Node :=
  if p = [] then some .folder else t.entries.lookup p

/-- The tree with something at a place. -/
def put (t : FileTree) (p : Place) (n : Node) : FileTree :=
  { t with entries := (p, n) :: t.entries.filter fun e => e.1 != p }

/-- A place of which folders are taken away behind the first `kept` names. -/
def nameless (kept : Nat) (p : Place) : Place :=
  p.take kept ++ List.replicate (p.length - kept) []

/-- The tree without what is below a place. -/
def clear (t : FileTree) (p : Place) : FileTree where
  entries := t.entries.filter fun e => e.1 == p || !p.isPrefixOf e.1
  workingFolder :=
    if p.isPrefixOf t.workingFolder then nameless p.length t.workingFolder else t.workingFolder

/-- The tree without a place and all that is below it. -/
def erase (t : FileTree) (p : Place) : FileTree where
  entries := t.entries.filter fun e => !p.isPrefixOf e.1
  workingFolder :=
    if p.isPrefixOf t.workingFolder then nameless (p.length - 1) t.workingFolder
    else t.workingFolder

/-! ## Following paths -/

/-- Where a path leads: to something that is there, or to a free place in a folder. -/
inductive Target where
  | there (p : Place) (n : Node)
  | vacant (p : Place)
  deriving DecidableEq, Repr

/-- What a path is followed for: to look at what is there, to write a file that is made if there is
none, or to make a name of its own, for which a link at its end is not followed. -/
inductive Purpose where
  | look
  | write
  | make
  deriving DecidableEq, Repr

/-- The pieces of a path; slashes side by side are one. -/
def pieces (path : Bytes) : List Bytes :=
  (Path.split path).filter fun p => !p.isEmpty

/-- Whether a slash ends a path. -/
def endsInSlash (path : Bytes) : Bool :=
  path.getLast? == some Path.slash

/-- Follows pieces from a folder on.  `slashed` says whether a slash follows the last piece and
`folder` whether the end has to be a folder; `links` bounds the links that are met.  A file cannot
be written where a slash follows its name, whatever is there. -/
def follow (t : FileTree) (purpose : Purpose) (links : Nat) (folder slashed : Bool) (at' : Place)
    (ps : List Bytes) : Except FileFault Target :=
  match ps with
  | [] => .ok (.there at' .folder)
  | piece :: rest =>
      if piece = [Path.dot] then t.follow purpose links folder slashed at' rest
      else if piece = [Path.dot, Path.dot] then
        t.follow purpose links folder slashed at'.dropLast rest
      else if rest.isEmpty && slashed && purpose == .write then .error .isFolder
      else if at'.getLast? = some [] then .error .notFound
      else if 255 < piece.length then .error .nameTooLong
      else
        let p := at' ++ [piece]
        match t.node? p with
        | none => if rest.isEmpty then .ok (.vacant p) else .error .notFound
        | some .folder => t.follow purpose links folder slashed p rest
        | some (.file c) =>
            if rest.isEmpty && (purpose == .make || !(folder || slashed)) then
              .ok (.there p (.file c))
            else .error .notFolder
        | some (.link target) =>
            if rest.isEmpty && purpose == .make then .ok (.there p (.link target))
            else
              match links with
              | 0 => .error .tooManyLinks
              | links + 1 =>
                  let start := if Path.isAbsolute target then [] else at'
                  if target.isEmpty then .error .notFound
                  else if rest.isEmpty then
                    t.follow purpose links (folder || slashed) (endsInSlash target) start
                      (pieces target)
                  else t.follow purpose links folder slashed start (pieces target ++ rest)
termination_by (links, ps.length)

/-- Where a path leads. -/
def locate (t : FileTree) (purpose : Purpose) (path : Bytes) : Except FileFault Target :=
  if path.contains 0 then .error .zeroByte
  else if path.isEmpty then .error .notFound
  else if 4095 < path.length then .error .nameTooLong
  else
    t.follow purpose 40 false (endsInSlash path)
      (if Path.isAbsolute path then [] else t.workingFolder) (pieces path)

/-- What a path leads to, links followed. -/
def find? (t : FileTree) (path : Bytes) : Option Node :=
  match t.locate .look path with
  | .ok (.there _ n) => some n
  | _ => none

/-- Whether a path leads to a folder. -/
def isFolder (t : FileTree) (path : Bytes) : Bool :=
  t.find? path == some .folder

/-- Whether a path leads to a file. -/
def isFile (t : FileTree) (path : Bytes) : Bool :=
  match t.find? path with
  | some (.file _) => true
  | _ => false

/-! ## Reading -/

/-- The content of a file. -/
def read (t : FileTree) (path : Bytes) : Except FileFault Bytes := do
  match ← t.locate .look path with
  | .there _ (.file c) => .ok c
  | .there _ _ => .error .isFolder
  | .vacant _ => .error .notFound

/-- The content of a file that is text. -/
def readText (t : FileTree) (path : Bytes) : Except FileFault String := do
  match Text.ofBytes? (← t.read path) with
  | some s => .ok s
  | none => .error .notText

/-- The names in the folder of a place, with what they stand for. -/
def children (t : FileTree) (p : Place) : List (Bytes × Node) :=
  t.entries.filterMap fun e =>
    match e.1.getLast? with
    | some name => if e.1.dropLast = p then some (name, e.2) else none
    | none => none

/-- The names in a folder, with what they stand for; links are not followed. -/
def list (t : FileTree) (path : Bytes) : Except FileFault (List (Bytes × Node)) := do
  match ← t.locate .look path with
  | .there p .folder => .ok (t.children p)
  | .there _ _ => .error .notFolder
  | .vacant _ => .error .notFound

/-! ## Writing -/

/-- The tree in which a file has the content that a function gives for the one before; a file that
is not there is made, as if it had been empty. -/
def change (t : FileTree) (path : Bytes) (f : Bytes → Bytes) : Except FileFault FileTree := do
  match ← t.locate .write path with
  | .there p (.file c) => .ok (t.put p (.file (f c)))
  | .there _ _ => .error .isFolder
  | .vacant p => .ok (t.put p (.file (f [])))

/-- The tree in which a file has the given content; the file is made if it is not there. -/
def write (t : FileTree) (path content : Bytes) : Except FileFault FileTree :=
  t.change path fun _ => content

/-- The tree in which a file goes on with the given content; the file is made if it is not there. -/
def append (t : FileTree) (path content : Bytes) : Except FileFault FileTree :=
  t.change path fun c => c ++ content

/-- The tree with one more folder. -/
def makeFolder (t : FileTree) (path : Bytes) : Except FileFault FileTree := do
  match ← t.locate .make path with
  | .there _ _ => .error .alreadyThere
  | .vacant p => .ok (t.put p .folder)

/-- The tree with a symbolic link. -/
def makeLink (t : FileTree) (path target : Bytes) : Except FileFault FileTree := do
  match ← t.locate .make path with
  | .there _ _ => .error .alreadyThere
  | .vacant p =>
      if endsInSlash path || target.isEmpty then .error .notFound
      else .ok (t.put p (.link target))

/-- Whether a path ends in a name, slashes behind it aside. -/
def endsInName (path : Bytes) : Bool :=
  match (pieces path).getLast? with
  | some name => name != [Path.dot] && name != [Path.dot, Path.dot]
  | none => false

/-- The tree without what a path names, and without all that is in it if that is a folder.  A link
is taken away itself, but with a slash behind it the folder that it leads to is emptied.  A folder
whose path does not end in its name is emptied only. -/
def remove (t : FileTree) (path : Bytes) : FileTree :=
  match t.locate .make path with
  | .ok (.there p .folder) => if endsInName path then t.erase p else t.clear p
  | .ok (.there p (.file _)) => if endsInSlash path then t else t.erase p
  | .ok (.there p (.link _)) =>
      if endsInSlash path then
        match t.locate .look path with
        | .ok (.there target .folder) => t.clear target
        | _ => t
      else t.erase p
  | _ => t

/-- The tree with a folder and all folders above it; folders that are there already are kept.  The
bound `depth` is at least the number of components of the path. -/
def makeFoldersUpTo : Nat → FileTree → Bytes → Except FileFault Unit × FileTree
  | 0, t, _ => (.error .noFirstFolder, t)
  | depth + 1, t, path =>
      if path.isEmpty then (.ok (), t)
      else
        match t.makeFolder path with
        | .ok t => (.ok (), t)
        | .error .notFound =>
            match Path.parent? path with
            | none => (.error .noFirstFolder, t)
            | some above =>
                match makeFoldersUpTo depth t above with
                | (.error e, t) => (.error e, t)
                | (.ok _, t) =>
                    match t.makeFolder path with
                    | .ok t => (.ok (), t)
                    | .error e => (if t.isFolder path then .ok () else .error e, t)
        | .error e => (if t.isFolder path then .ok () else .error e, t)

/-- The tree with a folder and all folders above it. -/
def makeFolders (t : FileTree) (path : Bytes) : Except FileFault Unit × FileTree :=
  makeFoldersUpTo (path.length + 2) t path

/-- A folder that can be made at once needs no folder above it. -/
theorem makeFolders_of_makeFolder {t t' : FileTree} {path : Bytes} (hpath : path ≠ [])
    (h : t.makeFolder path = .ok t') : t.makeFolders path = (.ok (), t') := by
  rw [makeFolders, makeFoldersUpTo, if_neg (by simpa using hpath), h]

end FileTree
end CoverageWindows
