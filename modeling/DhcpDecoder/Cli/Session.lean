/-!
Sessions: computations that ask their surroundings for files and standard input.
-/

namespace DhcpDecoder

inductive FileFault where
  | notFound
  | isDirectory
  | denied
  deriving DecidableEq, Repr, Inhabited

namespace FileFault

def reason : FileFault → String
  | .notFound => "no such file or directory"
  | .isDirectory => "is a directory"
  | .denied => "permission denied"

/-- The text of a fault reading `path`: opening fails unless the path is a directory, which opens
but does not read. -/
def readText (path : String) (f : FileFault) : String :=
  (if f == .isDirectory then "read " else "open ") ++ path ++ ": " ++ f.reason

def writeText (path : String) (f : FileFault) : String :=
  "open " ++ path ++ ": " ++ f.reason

end FileFault

inductive Session (α : Type) where
  | done (a : α)
  | read (path : String) (next : Except FileFault (List UInt8) → Session α)
  | stat (path : String) (next : Bool → Session α)
  | write (path : String) (bytes : List UInt8) (next : Option FileFault → Session α)
  | input (next : List UInt8 → Session α)

namespace Session

def bind {α β : Type} : Session α → (α → Session β) → Session β
  | .done a, f => f a
  | .read p k, f => .read p fun r => bind (k r) f
  | .stat p k, f => .stat p fun r => bind (k r) f
  | .write p bs k, f => .write p bs fun r => bind (k r) f
  | .input k, f => .input fun r => bind (k r) f

instance : Monad Session where
  pure := .done
  bind := Session.bind

def readFile (path : String) : Session (Except FileFault (List UInt8)) := .read path .done

def exists? (path : String) : Session Bool := .stat path .done

def writeFile (path : String) (bytes : List UInt8) : Session (Option FileFault) :=
  .write path bytes .done

def readInput : Session (List UInt8) := .input .done

abbrev Files := List (String × List UInt8)

def parentOf? (path : String) : Option String :=
  match path.toList.reverse.dropWhile (· != '/') with
  | [] => none
  | _ :: rest => some (String.ofList rest.reverse)

/-- Whether a path names a directory among files in memory: the current, parent or root directory,
or a directory some file lies in. -/
def isDirectory (fs : Files) (path : String) : Bool :=
  path == "." || path == ".." || path == "/" || path == "./" ||
    fs.any fun f => f.1.startsWith (path ++ "/")

/-- Whether a path lies in a directory that is missing: a relative directory that is neither the
current one nor one some file lies in. -/
def parentMissing (fs : Files) (path : String) : Bool :=
  match parentOf? path with
  | none => false
  | some dir => !dir.isEmpty && !dir.startsWith "/" && !isDirectory fs dir

def plainPath (path : String) : String :=
  String.ofList (go path.toList path.length)
where
  go : List Char → Nat → List Char
    | '.' :: '/' :: rest@(_ :: _), fuel + 1 => go rest fuel
    | cs, _ => cs

/-- Runs a session against files in memory and the given standard input: reads see the files, a path
exists when a file or directory has it, and writes add or replace files. -/
def runIn {α : Type} (stdin : List UInt8) (s : Session α) (fs : Files) : α × Files :=
  go s (fs.map fun f => (plainPath f.1, f.2))
where
  go : Session α → Files → α × Files
  | .done a, fs => (a, fs)
  | .read p0 k, fs =>
    let p := plainPath p0
    match fs.find? (·.1 == p) with
    | some (_, bs) => go (k (.ok bs)) fs
    | none => go (k (.error (if isDirectory fs p then .isDirectory else .notFound))) fs
  | .stat p0 k, fs =>
    let p := plainPath p0
    go (k (fs.any (·.1 == p) || isDirectory fs p)) fs
  | .write p0 bs k, fs =>
    let p := plainPath p0
    if isDirectory fs p then go (k (some .isDirectory)) fs
    else if parentMissing fs p then go (k (some .notFound)) fs
    else go (k none) ((p, bs) :: fs.filter (·.1 != p))
  | .input k, fs => go (k stdin) fs

end Session

end DhcpDecoder
