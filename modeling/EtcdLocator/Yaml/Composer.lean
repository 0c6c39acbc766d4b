import EtcdLocator.Yaml.Basic

namespace EtcdLocator.Yaml

structure Place where
  index : Nat
  line : Nat
deriving DecidableEq, Repr

/-- A colon makes a key of what starts on its line, a thousand and some characters before it at
most. -/
def Place.reaches (start colon : Place) : Bool :=
  start.line = colon.line && colon.index ≤ start.index + 1024

inductive Entries where
  | seq (items : List Yaml)
  | map (entries : List (Yaml × Yaml))

inductive Slot where
  | empty
  | node (v : Yaml) (start : Place)
  | key (k : Yaml)
  | pair (k v : Yaml)

structure Frame where
  start : Place
  entries : Entries
  slot : Slot := .empty

namespace Entries

/-- Adds what stands in a slot. A mapping holds each key once, and in a sequence a pair is a mapping
of its own. -/
def put : Entries → Slot → Option Entries
  | _, .empty => none
  | seq items, .node v _ => some (seq (v :: items))
  | seq items, .key k => some (seq (.map [(k, .null)] :: items))
  | seq items, .pair k v => some (seq (.map [(k, v)] :: items))
  | map entries, .node k _ | map entries, .key k => add entries k .null
  | map entries, .pair k v => add entries k v
where
  add (entries : List (Yaml × Yaml)) (k v : Yaml) : Option Entries :=
    if entries.any fun e => isSameKey e.1 k then none else some (map ((k, v) :: entries))

def value : Entries → Yaml
  | seq items => .seq items.reverse
  | map entries => .map entries.reverse

end Entries

inductive Phase where
  | start
  /-- Inside a document, whose root may be read already. -/
  | within (root : Option Yaml)
  /-- After the end of a document. The next one has to be announced. -/
  | ended

structure Composer where
  /-- The documents that ended, the last one first. -/
  documents : List Yaml := []
  phase : Phase := .start
  /-- The open collections, the innermost first. -/
  frames : List Frame := []

namespace Composer

def greatestDepth : Nat := 128

def node (v : Yaml) (start : Place) (c : Composer) : Option Composer :=
  match c.frames with
  | [] =>
    match c.phase with
    | .start | .within none => some { c with phase := .within (some v) }
    | _ => none
  | f :: frames =>
    match f.slot with
    | .empty => some { c with frames := { f with slot := .node v start } :: frames }
    | .key k => some { c with frames := { f with slot := .pair k v } :: frames }
    | _ => none

def enter (entries : Entries) (start : Place) (c : Composer) : Option Composer :=
  if c.frames.length < greatestDepth then
    some { c with frames := { start, entries } :: c.frames }
  else none

/-- Closes the innermost collection, which has to be of the kind that the bracket says. -/
def leave (ofPairs : Bool) (c : Composer) : Option Composer := do
  match c.frames with
  | [] => none
  | f :: frames =>
    let entries ← match f.slot with
      | .empty => some f.entries
      | slot => f.entries.put slot
    match ofPairs, entries with
    | true, .map _ | false, .seq _ => node entries.value f.start { c with frames }
    | _, _ => none

def comma (c : Composer) : Option Composer := do
  match c.frames with
  | [] => none
  | f :: frames =>
    let entries ← f.entries.put f.slot
    return { c with frames := { f with entries, slot := .empty } :: frames }

def colon (place : Place) (c : Composer) : Option Composer :=
  match c.frames with
  | [] => none
  | f :: frames =>
    match f.slot with
    | .node k start =>
      if start.reaches place then some { c with frames := { f with slot := .key k } :: frames }
      else none
    | _ => none

/-- The documents so far with the one that is being read. An announced document may be empty. -/
def closed (c : Composer) : List Yaml :=
  match c.phase with
  | .within root => root.getD .null :: c.documents
  | _ => c.documents

def announce (c : Composer) : Option Composer :=
  if c.frames.isEmpty then some { documents := c.closed, phase := .within none } else none

def conclude (c : Composer) : Option Composer :=
  match c.frames, c.phase with
  | [], .within _ | [], .ended => some { documents := c.closed, phase := .ended }
  | _, _ => none

def result (c : Composer) : Option (List Yaml) :=
  if c.frames.isEmpty then some c.closed.reverse else none

end Composer

end EtcdLocator.Yaml
