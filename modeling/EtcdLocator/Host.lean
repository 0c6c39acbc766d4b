import EtcdLocator.Text.Fields
import EtcdLocator.Text.Numeral

namespace EtcdLocator.Host

/-- Whether a text is one of the four parts of an address. No part starts with a needless zero. -/
def isOctet (l : List Char) : Bool :=
  match Text.natOfDigits? l with
  | none => false
  | some n => n < 256 && (l.length = 1 || l.head? ≠ some '0')

def isIpv4 (l : List Char) : Bool :=
  let parts := Text.fields '.' l
  parts.length = 4 && parts.all isOctet

def isGroup (l : List Char) : Bool :=
  0 < l.length && l.length ≤ 4 && l.all fun c => (Text.hexValue? c).isSome

/-- How many groups of sixteen bits stand between colons, where the last ones may be an IPv4
address. -/
def groups? : List (List Char) → Option Nat
  | [] => some 0
  | [part] => if isGroup part then some 1 else if isIpv4 part then some 2 else none
  | part :: parts => if isGroup part then (groups? parts).map (· + 1) else none

def groupsOf? (l : List Char) : Option Nat :=
  if l.isEmpty then some 0 else groups? (Text.fields ':' l)

def splitGap : List Char → Option (List Char × List Char)
  | ':' :: ':' :: l => some ([], l)
  | c :: l => (splitGap l).map fun (before, after) => (c :: before, after)
  | [] => none

/-- Two colons stand for one group of zeros or more. -/
def isIpv6 (l : List Char) : Bool :=
  match splitGap l with
  | none => groups? (Text.fields ':' l) = some 8
  | some (before, after) =>
    match groupsOf? before, groupsOf? after with
    | some n, some m => !before.contains '.' && n + m ≤ 7
    | _, _ => false

def isAddress (s : String) : Bool := isIpv4 s.toList || isIpv6 s.toList

def isLabelChar (c : Char) : Bool := c.isAlphanum || c = '_' || c = '-'

def isLabel (l : List Char) : Bool :=
  0 < l.length && l.length ≤ 63 && l.all isLabelChar && l.head? ≠ some '-' &&
    l.getLast? ≠ some '-'

/-- Whether a text is a name. A dot may end it, and its last part is no number. -/
def isName (s : String) : Bool :=
  let labels := Text.fields '.' s.toList
  let labels := if labels.getLast? = some [] then labels.dropLast else labels
  s.utf8ByteSize ≤ 253 && !labels.isEmpty && labels.all isLabel &&
    !(labels.getLast?.getD []).all Char.isDigit

end EtcdLocator.Host
