import EtcdLocator.Text.Bytes
import EtcdLocator.Text.Fields

namespace EtcdLocator

inductive ReadFault where
  | notFound
  | isDirectory
  /-- A file stands where the path needs a directory. -/
  | notDirectory
  | nameTooLong
  | nulInName
  /-- The octets are no text. -/
  | notText
  | other (text : String)
deriving DecidableEq, Repr

def ReadFault.text : ReadFault → String
  | notFound => "No such file or directory (os error 2)"
  | isDirectory => "Is a directory (os error 21)"
  | notDirectory => "Not a directory (os error 20)"
  | nameTooLong => "File name too long (os error 36)"
  | nulInName => "file name contained an unexpected NUL byte"
  | notText => "stream did not contain valid UTF-8"
  | other text => text

/-- What reading each path comes to. -/
abbrev Files := String → Except ReadFault (List UInt8)

namespace Files

def readText (files : Files) (path : String) : Except ReadFault String := do
  match Text.ofBytes? (← files path) with
  | some s => .ok s
  | none => .error .notText

def parts (path : String) : List String := Text.fieldsOf '/' path

def trimParts (l : List String) : List String :=
  (l.reverse.dropWhile fun part => part = "" || part = ".").reverse

/-- The directory that a path names a file in; the empty path is the present directory. -/
def directory (path : String) : String :=
  match parts path with
  | [] => ""
  | first :: more =>
    match (first :: trimParts more).dropLast with
    | [] => ""
    | [""] => "/"
    | first :: more => "/".intercalate (first :: trimParts more)

/-- A path as it is seen from a directory. A path that starts with a slash is the same from each. -/
def within (directory path : String) : String :=
  if path.toList.head? = some '/' || directory = "" then path
  else if directory.toList.getLast? = some '/' then directory ++ path
  else directory ++ "/" ++ path

/-- Files and directories by the names on the way to them; `none` is a directory. -/
structure Tree where
  entries : List (List String × Option (List UInt8)) := []

namespace Tree

def find? (tree : Tree) (way : List String) : Option (Option (List UInt8)) :=
  match tree.entries.find? (·.1 = way) with
  | some entry => some entry.2
  | none => if way.isEmpty || tree.entries.any (way.isPrefixOf ·.1) then some none else none

/-- Walks from the directory at the end of the reversed way `back`. An empty name or `.` stays, `..`
goes up. -/
def walk (tree : Tree) : List String → List String → Except ReadFault (Option (List UInt8))
  | back, [] =>
    match tree.find? back.reverse with
    | some entry => .ok entry
    | none => .error .notFound
  | back, name :: names =>
    match tree.find? back.reverse with
    | none => .error .notFound
    | some (some _) => .error .notDirectory
    | some none =>
      if name = "" || name = "." then walk tree back names
      else if name = ".." then
        match back with
        | [] => .error .notFound
        | _ :: above => walk tree above names
      else if name.utf8ByteSize > 255 then .error .nameTooLong
      else walk tree (name :: back) names

/-- The files of a directory that paths start from. Nothing is known beyond that directory. -/
def files (tree : Tree) : Files := fun path =>
  if path.toList.contains '\x00' then .error .nulInName
  else if path = "" then .error .notFound
  else if path.utf8ByteSize ≥ 4096 then .error .nameTooLong
  else if path = "/" then .error .isDirectory
  else if path.toList.head? = some '/' then .error .notFound
  else
    match tree.walk [] (parts path) with
    | .error fault => .error fault
    | .ok none => .error .isDirectory
    | .ok (some content) => .ok content

end Tree

end Files

end EtcdLocator
