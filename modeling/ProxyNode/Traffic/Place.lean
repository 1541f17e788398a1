import ProxyNode.Fault.Cause
import ProxyNode.Text.Pieces

/-!
# Traffic — Place

Where a spool keeps its table, by the path that it is given.  The directories on the way are made
where they are missing; a path that leads to one of them, or to one that was there before, leads to
no file.  No name holds the null character, and a file's name and its path leave room for those of the
files that are kept beside it.

* `of_memory`: the path that stands for no place on the disk.
-/

namespace ProxyNode

/-- What a path leads to: a file, memory that lasts no longer than one connection, or nothing that
could hold a table, and why. -/
inductive Place where
  | file
  | memory
  | nowhere (cause : SpoolCause)
  deriving DecidableEq, Repr

namespace Place

/-- One name of a path. -/
abbrev Part := List Char

/-- A way from the root, or from where the process runs, the last part first. -/
abbrev Location := List Part

/-- The parts of a path between its slashes. -/
def parts (path : String) : List Part := Text.pieces '/' path.toList

def here : Part := ['.']

def above : Part := ['.', '.']

def root : Part := ['/']

/-- The location that a part leads to from another. -/
def enter (l : Location) (p : Part) : Location :=
  if p = [] ∨ p = here then l
  else if p = above then
    match l with
    | [] => [above]
    | q :: rest => if q = above then above :: l else if q = root then l else rest
  else p :: l

/-- The location at which a path begins. -/
def base (ps : List Part) : Location := if ps.head? = some [] then [root] else []

/-- The locations on the way along some parts, the first one included. -/
def along (l : Location) : List Part → List Location
  | [] => [l]
  | p :: ps => l :: along (enter l p) ps

def locate (ps : List Part) : Location := ps.foldl enter (base ps)

/-- Whether a part can only name a directory. -/
def isDirectoryName (p : Part) : Bool := p = [] || p = here || p = above

/-- The most bytes that the name of a table's file can have: 255, less 8 for the longest ending of
the files beside it. -/
def maxName : Nat := 247

/-- The bytes of the path to a location. -/
def pathSize (l : Location) : Nat :=
  l.foldl (fun n p => if p = root then n else n + 1 + (String.ofList p).utf8ByteSize) 0

/-- The most bytes that the path to a table's file can have: 512, less 8 for the same endings. -/
def maxPath : Nat := 504

/-- The most bytes that the path to any location on the way can have. -/
def maxWay : Nat := 511

/-- Whether the path to the location that parts lead to, or to one on the way, is too long. -/
def isTooLong (ps : List Part) : Bool :=
  pathSize (locate ps) > maxPath || (along (base ps) ps).any fun l => pathSize l > maxWay

/-- What a path leads to, `known` being directories that are there before. -/
def of (known : List String) (path : String) : Place :=
  let ps := parts path
  let name := ps.getLast?.getD []
  let passed := along (base ps) ps.dropLast ++ known.map fun d => locate (parts d)
  if path = ":memory:" then .memory
  else if path.toList.contains '\x00' then .nowhere .nullCharacter
  else if isDirectoryName name || passed.contains (locate ps) then .nowhere .cannotOpen
  else if (String.ofList name).utf8ByteSize > maxName || isTooLong ps then .nowhere .cannotOpen
  else .file

theorem of_memory (known : List String) : of known ":memory:" = .memory := by
  simp [of]

end Place

end ProxyNode
