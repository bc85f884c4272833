import LeafSwitch.Site.Path
import LeafSwitch.Text.Quoted

/-!
# Files

A tree of directories and text files. What a path leads to is found by going from directory to
directory: each name but the last must be one, and two dots lead back. Nothing is known of the
directories above the working one but that they are there.
-/

namespace LeafSwitch.Site

/-- Why a path leads nowhere, or not to what is wanted. -/
inductive FileError where
  /-- There is nothing at a path. -/
  | missing (path : String)
  /-- There is a directory at a path. -/
  | isDirectory (path : String)
  /-- A path goes on where there is no directory. -/
  | notDirectory (path : String)
  /-- There is something at a path already. -/
  | taken (path : String)
  /-- A path or one of its names is too long. -/
  | tooLong (path : String)
  /-- A path holds the zero character. -/
  | zero
  deriving DecidableEq, Repr

/-- The wording of a failure. -/
def FileError.message : FileError → String
  | .missing path => "[Errno 2] No such file or directory: " ++ Text.quoted path
  | .isDirectory path => "[Errno 21] Is a directory: " ++ Text.quoted path
  | .notDirectory path => "[Errno 20] Not a directory: " ++ Text.quoted path
  | .taken path => "[Errno 17] File exists: " ++ Text.quoted path
  | .tooLong path => "[Errno 36] File name too long: " ++ Text.quoted path
  | .zero => "embedded null byte"

/-- The most bytes of a path. -/
def pathLimit : Nat := 4095

/-- The most bytes of a name. -/
def nameLimit : Nat := 255

/-- A place in the tree: the names that lead to it from the root. -/
abbrev Place := List String

/-- The place of the working directory. Its names are not known, and no path spells them. -/
def workingPlace : Place := ["", ""]

/-- Files and directories by their places. -/
structure Files where
  /-- The files with their texts; the directories that lead to them are there too. -/
  texts : List (Place × String)
  /-- Further directories. -/
  directories : List Place
  deriving DecidableEq, Repr

/-- What a path leads to. -/
inductive Spot where
  /-- A file with its text. -/
  | file (place : Place) (text : String)
  /-- A directory. -/
  | directory (place : Place)
  /-- Nothing, in a directory that is there. -/
  | vacant (place : Place)
  deriving DecidableEq, Repr

namespace Files

/-- Whether there is a directory at a place. -/
def isDirectory (files : Files) (place : Place) : Bool :=
  place.isPrefixOf workingPlace || files.directories.any (place.isPrefixOf ·) ||
    files.texts.any fun (file, _) => place.isPrefixOf file.dropLast

/-- Where the pieces of a path lead from a directory. -/
def walk (files : Files) (path : String) (here : Place) : List String → Except FileError Spot
  | [] => .ok (.directory here)
  | piece :: rest =>
    if piece = "" || piece = "." then files.walk path here rest
    else if piece = ".." then files.walk path here.dropLast rest
    else if (Text.sent piece).utf8ByteSize > nameLimit then .error (.tooLong path)
    else
      let place := here ++ [piece]
      if files.isDirectory place then files.walk path place rest
      else
        match files.texts.lookup place with
        | some text => if rest.isEmpty then .ok (.file place text) else .error (.notDirectory path)
        | none => if rest.all (· == "") then .ok (.vacant place) else .error (.missing path)

/-- Where a path leads. -/
def spot (files : Files) (path : String) : Except FileError Spot :=
  if path.toList.contains '\x00' then .error .zero
  else if path.isEmpty then .error (.missing path)
  else if (Text.sent path).utf8ByteSize > pathLimit then .error (.tooLong path)
  else
    let base := if path.toList.head? = some '/' then [] else workingPlace
    files.walk path base (Path.pieces path)

/-- Whether there is anything at a path; a path that leads nowhere holds nothing. -/
def holds (files : Files) (path : String) : Bool :=
  match files.spot path with
  | .ok (.vacant _) => false
  | .ok _ => true
  | .error _ => false

/-- Whether there is anything at a path, where it is a failure that the path is too long. -/
def checkHolds (files : Files) (path : String) : Except FileError Bool :=
  match files.spot path with
  | .error (.tooLong path) => .error (.tooLong path)
  | _ => .ok (files.holds path)

/-- Read a file. -/
def read (files : Files) (path : String) : Except FileError String := do
  match ← files.spot path with
  | .file _ text => .ok text
  | .directory _ => .error (.isDirectory path)
  | .vacant _ => .error (.missing path)

/-- The text of a file, which is empty if there is none. -/
def textAt (files : Files) (path : String) : String :=
  ((files.read path).toOption).getD ""

/-- Add to the end of a file, which is created if it is not there. -/
def append (files : Files) (path addition : String) : Except FileError Files := do
  match ← files.spot path with
  | .file place _ =>
    return { files with texts := files.texts.map fun (p, text) =>
      if p == place then (p, text ++ addition) else (p, text) }
  | .vacant place => return { files with texts := files.texts ++ [(place, addition)] }
  | .directory _ => .error (.isDirectory path)

/-- Make a directory. -/
def makeDirectory (files : Files) (path : String) : Except FileError Files := do
  match ← files.spot path with
  | .vacant place => return { files with directories := files.directories ++ [place] }
  | _ => .error (.taken path)

/-- Make a directory, where it is no failure that there is one. -/
def ensureDirectory (files : Files) (path : String) : Except FileError Files :=
  match files.makeDirectory path, files.spot path with
  | .error (.taken _), .ok (.directory _) => .ok files
  | made, _ => made

/-- Make a directory and those it lies in, as far as they are missing; its names are given from the
last. -/
def ensureAbove (files : Files) (root : String) : List String → Except FileError Files
  | [] => files.ensureDirectory (Path.text ⟨root, []⟩)
  | name :: above =>
    let path := Path.text ⟨root, (name :: above).reverse⟩
    match files.ensureDirectory path with
    | .error (.missing _) => do (← files.ensureAbove root above).ensureDirectory path
    | made => made

/-- Make a directory and those it lies in, as far as they are missing. -/
def ensureDirectories (files : Files) (p : Path) : Except FileError Files :=
  files.ensureAbove p.root p.names.reverse

/-- Files given by paths from the working directory. -/
def ofList (entries : List (String × String)) : Files :=
  { texts := entries.map fun (path, text) =>
      ((if Path.rootOf path = "" then workingPlace else []) ++ Path.namesOf path, text)
    directories := [] }

end Files

end LeafSwitch.Site
