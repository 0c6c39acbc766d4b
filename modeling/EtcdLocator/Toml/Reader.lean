import EtcdLocator.Toml.Scalar
import EtcdLocator.Toml.Table

namespace EtcdLocator.Toml

def readNumber (l : List Char) : Option (Toml × List Char) :=
  let literal (rest : List Char) := String.ofList (l.take (l.length - rest.length))
  match skipMoment l with
  | some rest => some (.moment (literal rest), rest)
  | none =>
    match skipFloat l with
    | some rest => some (.float (literal rest), rest)
    | none => (readInt l).map fun (i, l) => (.int i, l)

def readScalar : List Char → Option (Toml × List Char)
  | '\"' :: l => (readString .basic l).map fun (s, l) => (.str s, l)
  | '\'' :: l => (readString .literal l).map fun (s, l) => (.str s, l)
  | 't' :: 'r' :: 'u' :: 'e' :: l => some (.bool true, l)
  | 'f' :: 'a' :: 'l' :: 's' :: 'e' :: l => some (.bool false, l)
  | l => readNumber l

def splitKey (parts : List String) : Option (List String × String) :=
  parts.getLast?.map fun key => (parts.dropLast, key)

mutual

/-- A value that lies `depth` lists and tables deep. -/
def readValue : Nat → Nat → List Char → Option (Toml × List Char)
  | 0, _, _ => none
  | fuel + 1, depth, '[' :: l =>
    if depth + 1 < depthLimit then
      (readItems fuel (depth + 1) l).map fun (items, l) => (.arr items, l)
    else none
  | fuel + 1, depth, '\x7b' :: l =>
    if depth + 1 < depthLimit then
      match skipBlanks l with
      | '\x7d' :: l => some (.table [], l)
      | _ => (readFields fuel (depth + 1) [] l).map fun (e, l) => (.table (Node.fieldsOf e), l)
    else none
  | _ + 1, _, l => readScalar l

/-- The items up to the closing bracket. A comma may follow the last one. -/
def readItems : Nat → Nat → List Char → Option (List Toml × List Char)
  | 0, _, _ => none
  | fuel + 1, depth, l =>
    match skipSpace false l with
    | ']' :: l => some ([], l)
    | l => do
      let (v, l) ← readValue fuel depth l
      match skipSpace false l with
      | ',' :: l =>
        let (vs, l) ← readItems fuel depth l
        return (v :: vs, l)
      | ']' :: l => return ([v], l)
      | _ => none

/-- The fields up to the closing brace, which no comma may come before. -/
def readFields : Nat → Nat → Entries → List Char → Option (Entries × List Char)
  | 0, _, _, _ => none
  | fuel + 1, depth, e, l => do
    let (parts, l) ← readKey l
    let (path, key) ← splitKey parts
    match l with
    | '=' :: l =>
      let (v, l) ← readValue fuel depth (skipBlanks l)
      let e ← e.insert path key v
      match skipBlanks l with
      | ',' :: l => readFields fuel depth e l
      | '\x7d' :: l => some (e, l)
      | _ => none
    | _ => none

end

/-- A document as far as it was read, and the header that keys now belong to. -/
structure Draft where
  entries : Entries := []
  header : List String := []

def readSetting (d : Draft) (l : List Char) : Option (Draft × List Char) := do
  let (parts, l) ← readKey l
  let (path, key) ← splitKey parts
  match l with
  | '=' :: l =>
    let (v, l) ← readValue (2 * l.length) 0 (skipBlanks l)
    let entries ← d.entries.insertIn d.header path key v
    return ({ d with entries }, ← lineEnd? l)
  | _ => none

def readHeader (d : Draft) (l : List Char) : Option (Draft × List Char) :=
  match l with
  | '[' :: l => do
    let (parts, l) ← readKey l
    let (path, key) ← splitKey parts
    match l with
    | ']' :: ']' :: l => return (⟨← d.entries.append path key, parts⟩, ← lineEnd? l)
    | _ => none
  | l => do
    let (parts, l) ← readKey l
    let (path, key) ← splitKey parts
    match l with
    | ']' :: l => return (⟨← d.entries.define path key, parts⟩, ← lineEnd? l)
    | _ => none

/-- The lines of a document, of which there are fewer than `fuel`. -/
def readLines : Nat → Draft → List Char → Option Draft
  | 0, _, _ => none
  | fuel + 1, d, l =>
    match skipBlanks l with
    | [] => some d
    | '[' :: l => do
      let (d, l) ← readHeader d l
      readLines fuel d l
    | l =>
      match lineEnd? l with
      | some l => readLines fuel d l
      | none => do
        let (d, l) ← readSetting d l
        readLines fuel d l

/-- The table that a document spells. A byte order mark may come first. -/
def parse? (s : String) : Option (List (String × Toml)) := do
  let l := match s.toList with
    | '\ufeff' :: l => l
    | l => l
  let d ← readLines (l.length + 1) {} l
  return Node.fieldsOf d.entries

end EtcdLocator.Toml
