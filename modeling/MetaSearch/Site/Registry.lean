import MetaSearch.Site.Reader
import MetaSearch.Text.Quoted

/-!
# Registries

All definitions in the files below a directory. A file that holds no definition is reported and does no harm to the
others; of two definitions with one identifier the first counts, in the order of the paths. A registry is replaced
as a whole when it is loaded anew. `Registry.enrol_counts` says that each file counts once.
-/

namespace MetaSearch

/-- A file below the directory of definitions. -/
structure SourceFile where
  /-- The names that lead to the file, its own the last. -/
  path : List String
  bytes : List UInt8
  deriving DecidableEq, Repr, Inhabited

namespace SourceFile

/-- The part of a file's name from its last point on, where something is before and behind the point. -/
def suffix (name : String) : String :=
  let cs := name.toList
  let ending := (cs.reverse.takeWhile (· != '.')).reverse
  if ending.isEmpty || cs.length ≤ ending.length + 1 then "" else "." ++ String.ofList ending

/-- Whether a file is one of definitions. -/
def isDefinition (f : SourceFile) : Bool :=
  [".yml", ".yaml"].contains (Text.lower (suffix (f.path.getLastD "")))

/-- The files of definitions in the order of their paths. -/
def inOrder (files : List SourceFile) : List SourceFile :=
  (files.filter isDefinition).mergeSort fun a b => !List.lex b.path a.path fun s t => decide (s < t)

end SourceFile

/-- Why a file gave no definition. -/
structure LoadFailure where
  source : List String
  reasons : List String
  deriving DecidableEq, Repr, Inhabited

/-- The definitions that were loaded, and the files that gave none. -/
structure Registry where
  definitions : List Definition := []
  failures : List LoadFailure := []
  deriving Repr, Inhabited

/-- How many definitions there are of each kind, and what became of the files. -/
structure RegistryCounts where
  total : Nat
  everyone : Nat
  invited : Nat
  members : Nat
  loaded : Nat
  failed : Nat
  deriving DecidableEq, Repr, Inhabited

namespace Registry

/-- The definition with an identifier. -/
def find? (id : String) (r : Registry) : Option Definition :=
  r.definitions.find? (·.id == id)

/-- What is said of an identifier without a definition. -/
def missingMessage (id : String) : String :=
  "Definition '" ++ id ++ "' not found"

/-- A file reported. -/
def refuse (source reasons : List String) (r : Registry) : Registry :=
  { r with failures := r.failures ++ [⟨source, reasons⟩] }

/-- A file taken in. -/
def enrol (r : Registry) (file : SourceFile) : Except Fault Registry :=
  match Definition.ofFile file.bytes with
  | .error (.fault f) => .error f
  | .error (.invalid reasons) => .ok (r.refuse file.path reasons)
  | .error (.unreadable message) => .ok (r.refuse file.path [message])
  | .ok d =>
    if (r.find? d.id).isSome then .ok (r.refuse file.path ["duplicate definition id: " ++ Text.quoted d.id])
    else .ok { r with definitions := r.definitions ++ [d] }

/-- The registry of the files below a directory. -/
def ofFiles (files : List SourceFile) : Except Fault Registry :=
  (SourceFile.inOrder files).foldlM enrol {}

/-- The counts of a registry. -/
def counts (r : Registry) : RegistryCounts :=
  let among := fun p => r.definitions.countP (·.privacy == p)
  { total := r.definitions.length, everyone := among .everyone, invited := among .invited, members := among .members
    loaded := r.definitions.length, failed := r.failures.length }

/-- A file that is taken in counts once: as a definition or as a failure. -/
theorem enrol_counts {r r' : Registry} {file : SourceFile} (h : r.enrol file = .ok r') :
    r'.definitions.length + r'.failures.length = r.definitions.length + r.failures.length + 1 := by
  unfold enrol at h
  split at h
  · exact absurd h (by simp)
  · cases h; simp [refuse]; omega
  · cases h; simp [refuse]; omega
  · split at h <;> cases h <;> simp [refuse] <;> omega

end Registry

end MetaSearch
