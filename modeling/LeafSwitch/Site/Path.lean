import LeafSwitch.Text.Blank
import LeafSwitch.Text.Layout

/-!
# Paths

A path is a row of names with slashes between them, below a root or not. Empty names and single dots
mean nothing; two dots are kept. Of leading slashes, exactly two are a root of their own, and any
other number is the common one.
-/

namespace LeafSwitch.Site

/-- A path without the names that mean nothing. -/
structure Path where
  /-- The slashes at its start: none, one or two. -/
  root : String
  /-- Its names. -/
  names : List String
  deriving DecidableEq, Repr

namespace Path

/-- The pieces of a text between slashes. -/
def pieces (text : String) : List String :=
  (Text.pieces (· == '/') text.toList).map String.ofList

/-- The names of a text that mean something. -/
def namesOf (text : String) : List String :=
  (pieces text).filter fun s => s != "" && s != "."

/-- The root at the start of a text. -/
def rootOf (text : String) : String :=
  match (text.toList.takeWhile (· == '/')).length with
  | 0 => ""
  | 2 => "//"
  | _ => "/"

/-- The path that a text writes. -/
def ofText (text : String) : Path :=
  ⟨rootOf text, namesOf text⟩

/-- A path as text; without root and names it is the directory itself. -/
def text (p : Path) : String :=
  if p.root.isEmpty && p.names.isEmpty then "." else p.root ++ Text.join "/" p.names

/-- The path of something in a directory. -/
def child (p : Path) (name : String) : Path :=
  { p with names := p.names ++ namesOf name }

/-- The directory a path lies in. -/
def parent (p : Path) : Path :=
  { p with names := p.names.dropLast }

/-- A text with a name put behind it as part of one path. -/
def joined (text name : String) : String :=
  if text.isEmpty || text.toList.getLast? == some '/' then text ++ name else text ++ "/" ++ name

/-- A path with what stands between a leading tilde and the first slash taken for the home directory
of the user with this name. Nothing names the own user, and the path is left as it is where no home
directory is known. -/
def expandHome (homeOf : String → Option String) (path : String) : String :=
  match path.toList with
  | '~' :: rest =>
    let name := rest.takeWhile (· != '/')
    match homeOf (String.ofList name) with
    | none => path
    | some home =>
      let whole := Text.dropEndWhile (· == '/') home.toList ++ rest.drop name.length
      if whole.isEmpty then "/" else String.ofList whole
  | _ => path

end Path

end LeafSwitch.Site
