/-
Module: AffinityPool.Settings.File
Purpose: Settings from a file: paths, directories, and the text of a file.
Main exports:
  FilePath, unifyLineEnds, Settings.ofFile, FileTree, FileTree.contents
-/
import AffinityPool.Settings.Document
import AffinityPool.Text.Split

namespace AffinityPool

open Text (LooseText Letter)

/-- A path taken apart.  Empty and `.` components are gone; `..` stays, because
what it means depends on the directories there are. -/
structure FilePath where
  /-- The slashes a path starts with: none, one, or exactly two. -/
  root : List Letter
  components : List (List Letter)
deriving Repr, DecidableEq

namespace FilePath

/-- The slashes that count at the start of a path.  Two have a meaning of their
own; three or more count as one. -/
def rootOf (letters : List Letter) : List Letter :=
  match (letters.takeWhile (· = .char '/')).length with
  | 0 => []
  | 2 => [.char '/', .char '/']
  | _ => [.char '/']

/-- Take a text apart. -/
def parse (text : LooseText) : FilePath :=
  { root := rootOf text.letters
    components := (Text.pieces (.char '/') text.letters).filter fun part =>
      part ≠ [] && part ≠ [.char '.'] }

/-- The text of a path; the working directory itself is a dot. -/
def shown (path : FilePath) : LooseText :=
  let joined := path.root ++ Text.joined (.char '/') path.components
  if joined.isEmpty then ⟨[.char '.']⟩ else ⟨joined⟩

end FilePath

/-- The text of a file with every line end written as a line feed. -/
def unifyLineEnds : List Char → List Char
  | [] => []
  | '\r' :: '\n' :: rest => '\n' :: unifyLineEnds rest
  | c :: rest => (if c = '\r' then '\n' else c) :: unifyLineEnds rest

namespace Settings

/-- Settings from a file.  The operating system says what octets the file at a
path holds, or why it cannot be read, which is a failure of the settings.
Octets that are no UTF-8, a NUL in the path and halves in it that no name of a
file can have are failures of their own. -/
def ofFile (library : Library) (system : FilePath → Except SystemError (List UInt8))
    (text : LooseText) : Except Failure Settings :=
  let path := FilePath.parse text
  match Text.firstUnencodable? path.shown with
  | some run => .error (.unencodablePath run)
  | none =>
      if path.shown.letters.contains (.char '\x00') then .error .nulInPath
      else
        match system path with
        | .error error => .error (.unreadableSettings path.shown error)
        | .ok octets =>
            match Text.Utf8.decode? octets with
            | none => .error .undecodableText
            | some chars => library.ofChars (unifyLineEnds chars)

end Settings

/-! ### Files below a working directory -/

/-- Why a file cannot be read. -/
inductive FileFault where
  | notFound
  | notADirectory
  | isADirectory
  | nameTooLong
deriving Repr, DecidableEq

namespace FileFault

/-- The number of a fault. -/
def number : FileFault → Nat
  | .notFound => 2
  | .notADirectory => 20
  | .isADirectory => 21
  | .nameTooLong => 36

/-- The words of a fault. -/
def words : FileFault → String
  | .notFound => "No such file or directory"
  | .notADirectory => "Not a directory"
  | .isADirectory => "Is a directory"
  | .nameTooLong => "File name too long"

/-- The error that a fault at a path shows itself as. -/
def error (fault : FileFault) (path : FilePath) : SystemError :=
  let number := fault.number
  let words := fault.words
  let path := path.shown.quoted
  ⟨s!"[Errno {number}] {words}: {path}"⟩

end FileFault

/-- Files below a working directory, by the components of their paths.  Every
directory on the way to a file exists, and there is nothing outside. -/
structure FileTree where
  files : List (List (List Letter) × List UInt8)

namespace FileTree

/-- Where a walk through directories stands. -/
inductive Position where
  | directory (components : List (List Letter))
  | file (octets : List UInt8)
  | outside
deriving Repr, DecidableEq

/-- A tree of files from their paths. -/
def ofFiles (files : List (LooseText × List UInt8)) : FileTree :=
  ⟨files.map fun (name, octets) => ((FilePath.parse name).components, octets)⟩

/-- Whether files lie below the components of a path. -/
def hasDirectory (tree : FileTree) (components : List (List Letter)) : Bool :=
  tree.files.any fun file =>
    components.isPrefixOf file.1 && components.length < file.1.length

/-- The longest name of a file, in octets. -/
def maxNameLength : Nat := 255

/-- The longest path, in octets. -/
def maxPathLength : Nat := 4095

/-- The octets of a letter in the name of a file. -/
def octetsOf : Letter → Nat
  | .char c => c.utf8Size
  | .half _ => 1

/-- The octets of a name. -/
def lengthOf (letters : List Letter) : Nat :=
  letters.foldl (fun octets letter => octets + octetsOf letter) 0

/-- Enter one component from a position. -/
def enter (tree : FileTree) (position : Position) (component : List Letter) :
    Except FileFault Position :=
  let isUpward := component = [.char '.', .char '.']
  match position with
  | .file _ => .error .notADirectory
  | .outside =>
      if isUpward then .ok .outside
      else if maxNameLength < lengthOf component then .error .nameTooLong
      else .error .notFound
  | .directory components =>
      if isUpward then
        match components with
        | [] => .ok .outside
        | _ => .ok (.directory components.dropLast)
      else if maxNameLength < lengthOf component then .error .nameTooLong
      else
        let target := components ++ [component]
        match tree.files.lookup target with
        | some octets => .ok (.file octets)
        | none =>
            if tree.hasDirectory target then .ok (.directory target) else .error .notFound

/-- The octets of the file at a path. -/
def contents (tree : FileTree) (path : FilePath) : Except FileFault (List UInt8) := do
  if maxPathLength < lengthOf path.shown.letters then throw .nameTooLong
  let start := if path.root.isEmpty then Position.directory [] else .outside
  match ← path.components.foldlM tree.enter start with
  | .file octets => .ok octets
  | _ => .error .isADirectory

/-- An operating system that has these files and no others. -/
def system (tree : FileTree) (path : FilePath) : Except SystemError (List UInt8) :=
  (tree.contents path).mapError fun fault => fault.error path

end FileTree

end AffinityPool
