import DeskCalc.Files.Access
import DeskCalc.Text.Utf8

/-!
A file system in memory: a working directory with files and directories in it, and one more
directory that stands for everything outside. A path is walked name by name from one of the two.
Besides what the entries rule out, a volume may refuse any step for a reason of its own.
-/

namespace DeskCalc.Files

/-- Where something is: the names that lead to it from the working directory, or from the directory
outside. -/
structure Location where
  outside : Bool
  names : List String
  deriving Repr, DecidableEq

namespace Location

/-- The place of a name in the directory at a location. -/
def child (l : Location) (name : String) : Location :=
  { l with names := l.names ++ [name] }

def parent (l : Location) : Location :=
  if l.names.isEmpty then ⟨true, []⟩ else { l with names := l.names.dropLast }

end Location

/-- What a location holds. -/
inductive Entry where
  | file (bytes : ByteArray)
  | directory

instance : DecidableEq Entry
  | .directory, .directory => .isTrue rfl
  | .directory, .file _ => .isFalse nofun
  | .file _, .directory => .isFalse nofun
  | .file a, .file b =>
    match ByteArray.decEq a b with
    | .isTrue h => .isTrue (h ▸ rfl)
    | .isFalse h => .isFalse fun he => h (Entry.file.inj he)

/-- A file system: what is at which location, and which steps it refuses on which path. -/
structure Volume where
  entries : List (Location × Entry)
  refuses : AccessStep → String → Option Reason

namespace Volume

/-- What is at a location; the two directories that paths start from are always there. -/
def entry? (v : Volume) (l : Location) : Option Entry :=
  if l.names.isEmpty then some .directory else v.entries.lookup l

/-- The volume with an entry at a location, in place of any other. -/
def put (v : Volume) (l : Location) (e : Entry) : Volume :=
  { v with entries := v.entries.filter (·.1 ≠ l) ++ [(l, e)] }

def erase (v : Volume) (l : Location) : Volume :=
  { v with entries := v.entries.filter (·.1 ≠ l) }

/-! ### Walking a path -/

def maxNameBytes : Nat := 255

def maxPathBytes : Nat := 4095

/-- A path that may be walked. -/
def checkPath (path : String) : Except Reason Unit :=
  if path.toList.contains '\x00' then .error .nulInName
  else if path = "" then .error .notFound
  else if maxPathBytes < path.utf8ByteSize then .error .nameTooLong
  else .ok ()

/-- The location at the end of the pieces of a path that starts at `l`. Every piece, also one that
names nothing, needs a directory before it. -/
def walk (v : Volume) (l : Location) : List String → Except Reason Location
  | [] => .ok l
  | piece :: pieces =>
    if v.entry? l ≠ some .directory then .error .notADirectory
    else if Path.isTrivial piece then v.walk l pieces
    else if piece = ".." then v.walk l.parent pieces
    else if maxNameBytes < piece.utf8ByteSize then .error .nameTooLong
    else if (v.entry? (l.child piece)).isNone then .error .notFound
    else v.walk (l.child piece) pieces

def startOf (p : Path) : Location :=
  ⟨p.absolute, []⟩

def locate (v : Volume) (path : String) : Except Reason Location := do
  checkPath path
  v.walk (startOf (Path.ofText path)) (Path.ofText path).pieces

def locateDirectory (v : Volume) (path : String) : Except Reason Location := do
  let l ← v.locate path
  if v.entry? l = some .directory then return l else throw .notADirectory

/-- The location that a file may be renamed to: a name, with no slash behind it, in a directory that
is there, and no directory itself. -/
def destination (v : Volume) (path : String) : Except Reason Location := do
  checkPath path
  let p := Path.ofText path
  let significant := (p.pieces.reverse.dropWhile (· = "")).reverse
  match significant.getLast? with
  | none => throw .busy
  | some name =>
    let l ← v.walk (startOf p) significant.dropLast
    if v.entry? l ≠ some .directory then throw .notADirectory
    else if name = "." ∨ name = ".." then throw .busy
    else if maxNameBytes < name.utf8ByteSize then throw .nameTooLong
    else if significant.length < p.pieces.length then throw .notADirectory
    else if v.entry? (l.child name) = some .directory then throw .isADirectory
    else return l.child name

/-! ### Access -/

/-- The length of the longest name on the volume. -/
def longestName (v : Volume) : Nat :=
  (v.entries.flatMap fun (l, _) => l.names.map String.length).foldl max 0

/-- A name that nothing on the volume has, because it is longer than all others. -/
def freshName (v : Volume) : String :=
  ".tmp" ++ String.ofList (List.replicate v.longestName 'x')

/-- A step on a path, unless it is refused. -/
def unlessRefused (v : Volume) (step : AccessStep) (path : String) : Except Reason Unit :=
  match v.refuses step path with
  | some reason => .error reason
  | none => .ok ()

def read (v : Volume) (path : String) : Except Reason String := do
  v.unlessRefused .read path
  let l ← v.locate path
  match v.entry? l with
  | some (.file bytes) =>
    match String.fromUTF8? bytes with
    | some text => return text
    | none => throw .notText
  | some .directory => throw .isADirectory
  | none => throw .notFound

def pathOf (l : Location) : String :=
  Path.text ⟨l.outside, l.names⟩

/-- A new empty file in a directory. -/
def createTemporary (v : Volume) (path : String) : Except Reason (Location × Volume) := do
  v.unlessRefused .createTemporary path
  let l ← v.locateDirectory path
  let file := l.child v.freshName
  return (file, v.put file (.file .empty))

def write (v : Volume) (file : Location) (text : String) : Except Reason Volume := do
  v.unlessRefused .write (pathOf file)
  return v.put file (.file text.toUTF8)

def rename (v : Volume) (file : Location) (path : String) : Except Reason Volume := do
  v.unlessRefused .rename path
  let l ← v.destination path
  match v.entry? file with
  | some e => return (v.erase file).put l e
  | none => throw .notFound

/-- The volume after a step, or the same one if the step was refused. -/
def keep {α : Type} (v : Volume) (r : Except Reason (α × Volume)) : Except Reason α × Volume :=
  match r with
  | .ok (a, v) => (.ok a, v)
  | .error reason => (.error reason, v)

instance : FileAccess (StateM Volume) Location where
  read path := fun v => (v.read path, v)
  createTemporary path := fun v => v.keep (v.createTemporary path)
  path := pathOf
  write file text := fun v => v.keep ((v.write file text).map ((), ·))
  rename file path := fun v => v.keep ((v.rename file path).map ((), ·))
  remove file := fun v => ((), v.erase file)

/-- The entries of the working directory: names with the text of files. -/
def listing (v : Volume) : List (String × Option String) :=
  v.entries.filterMap fun (l, e) =>
    match l, e with
    | ⟨false, [name]⟩, .file bytes => some (name, some (Text.showBytes bytes))
    | ⟨false, [name]⟩, .directory => some (name, none)
    | _, _ => none

end Volume

end DeskCalc.Files
