import FormulaOcr.Disk.Path
import FormulaOcr.Encoding.Utf8
import FormulaOcr.Json.Display
import FormulaOcr.Text.Line

/-! Directories and files, and the few operations that the service needs of them. -/

namespace FormulaOcr

inductive Node
  | directory
  | file (content : Bytes)
deriving DecidableEq, Repr

/-- The nodes below the root directory, each under the names that lead to it. -/
structure Disk where
  nodes : List (List String × Node)

namespace Disk

inductive Refusal
  | notFound
  | alreadyThere
  | notDirectory
  | isDirectory
  | nameTooLong
deriving DecidableEq, Repr

def Refusal.number : Refusal → Nat
  | .notFound => 2
  | .alreadyThere => 17
  | .notDirectory => 20
  | .isDirectory => 21
  | .nameTooLong => 36

def Refusal.text : Refusal → String
  | .notFound => "No such file or directory"
  | .alreadyThere => "File exists"
  | .notDirectory => "Not a directory"
  | .isDirectory => "Is a directory"
  | .nameTooLong => "File name too long"

/-- An operation that was refused, and the path that it was refused for. -/
structure Fault where
  refusal : Refusal
  path : Path
deriving DecidableEq, Repr

def Fault.message (f : Fault) : String :=
  s!"[Errno {f.refusal.number}] {f.refusal.text}: {Json.quotedString f.path.toString}"

/-- The node at a place; the root is a directory. -/
def at? (d : Disk) (place : List String) : Option Node :=
  if place.isEmpty then some .directory else d.nodes.lookup place

def put (d : Disk) (place : List String) (node : Node) : Disk :=
  if d.nodes.any (·.1 == place) then
    ⟨d.nodes.map fun entry => if entry.1 == place then (place, node) else entry⟩
  else ⟨d.nodes ++ [(place, node)]⟩

/-- Without the node at a place and everything below it. -/
def remove (d : Disk) (place : List String) : Disk :=
  ⟨d.nodes.filter fun entry => !place.isPrefixOf entry.1⟩

/-- How many bytes a step of a path may have. -/
def longestStep : Nat := 255

/-- How many bytes a whole path may have. -/
def longestPath : Nat := 4095

/-- The place that some steps lead to. Each step but the last must reach a directory, and a double
dot leads back out of one. -/
def walk (d : Disk) (place : List String) : List String → Except Refusal (List String)
  | [] => .ok place
  | step :: steps =>
    match d.at? place with
    | some .directory =>
      if longestStep < step.utf8ByteSize then .error .nameTooLong
      else d.walk (if step = ".." then place.dropLast else place ++ [step]) steps
    | some (.file _) => .error .notDirectory
    | none => .error .notFound

def locate (d : Disk) (p : Path) : Except Refusal (List String) :=
  if longestPath < p.toString.utf8ByteSize then .error .nameTooLong else d.walk [] p.steps

/-- The node that a path leads to. -/
def find? (d : Disk) (p : Path) : Option Node :=
  match d.locate p with
  | .ok place => d.at? place
  | .error _ => none

def isDirectory (d : Disk) (p : Path) : Bool :=
  d.find? p = some .directory

/-- Whether a path leads to a file. A name that is too long cannot be asked for. -/
def hasFile (d : Disk) (p : Path) : Except Fault Bool :=
  match d.locate p with
  | .ok place =>
    match d.at? place with
    | some (.file _) => .ok true
    | _ => .ok false
  | .error .nameTooLong => .error ⟨.nameTooLong, p⟩
  | .error _ => .ok false

def read (d : Disk) (p : Path) : Except Fault Bytes :=
  match d.locate p with
  | .error refusal => .error ⟨refusal, p⟩
  | .ok place =>
    match d.at? place with
    | some (.file content) => .ok content
    | some .directory => .error ⟨.isDirectory, p⟩
    | none => .error ⟨.notFound, p⟩

/-- Puts a file where there is none and replaces the one that is there. -/
def write (d : Disk) (p : Path) (content : Bytes) : Except Fault Disk :=
  match d.locate p with
  | .error refusal => .error ⟨refusal, p⟩
  | .ok place =>
    match d.at? place with
    | some .directory => .error ⟨.isDirectory, p⟩
    | _ => .ok (d.put place (.file content))

def makeDirectory (d : Disk) (p : Path) : Except Fault Disk :=
  match d.locate p with
  | .error refusal => .error ⟨refusal, p⟩
  | .ok place =>
    match d.at? place with
    | some _ => .error ⟨.alreadyThere, p⟩
    | none => .ok (d.put place .directory)

/-- Makes a directory unless it is there. -/
def settle (d : Disk) (p : Path) : Except Fault Unit × Disk :=
  match d.makeDirectory p with
  | .ok made => (.ok (), made)
  | .error fault => (if d.isDirectory p then .ok () else .error fault, d)

/-- Makes the directory at the end of the steps, given last step first, and those that lead to it,
unless they are there. -/
def makeDirectoriesFrom (root : String) : List String → Disk → Except Fault Unit × Disk
  | [], d => d.settle ⟨root, []⟩
  | step :: before, d =>
    let path : Path := ⟨root, (step :: before).reverse⟩
    match d.makeDirectory path with
    | .ok made => (.ok (), made)
    | .error ⟨.notFound, _⟩ =>
      match makeDirectoriesFrom root before d with
      | (.ok (), d) => d.settle path
      | (.error fault, d) => (.error fault, d)
    | .error fault => (if d.isDirectory path then .ok () else .error fault, d)

def makeDirectories (d : Disk) (p : Path) : Except Fault Unit × Disk :=
  makeDirectoriesFrom p.root p.steps.reverse d

/-- The names directly inside a directory, with their nodes. -/
def listing (d : Disk) (place : List String) : List (String × Node) :=
  d.nodes.filterMap fun (path, node) =>
    match path.getLast? with
    | some name => if path.dropLast == place then some (name, node) else none
    | none => none

inductive TextFault
  | disk (f : Fault)
  | encoding (f : Encoding.Fault)
deriving Repr

/-- The text of a UTF-8 file, with every line ended by a line feed. -/
def readText (d : Disk) (p : Path) : Except TextFault (List Char) :=
  match d.read p with
  | .error f => .error (.disk f)
  | .ok bytes =>
    match Encoding.Utf8.decode bytes with
    | .error f => .error (.encoding f)
    | .ok t => .ok (Text.withLineFeeds t)

end Disk

end FormulaOcr
