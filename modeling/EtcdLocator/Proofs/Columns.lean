import EtcdLocator.Proofs.Naming
import EtcdLocator.Proofs.Renderings
import EtcdLocator.Text.Fields

namespace EtcdLocator

namespace Text

theorem not_mem_append {c : Char} {s t : String} :
    c ∉ (s ++ t).toList ↔ c ∉ s.toList ∧ c ∉ t.toList := by
  rw [String.toList_append, List.mem_append, not_or]

theorem fields_of_not_mem {mark : Char} {l : List Char} (h : mark ∉ l) : fields mark l = [l] := by
  induction l with
  | nil => rfl
  | cons c l ih =>
    have hc : c ≠ mark := Ne.symm (List.ne_of_not_mem_cons h)
    rw [fields, if_neg hc, ih (List.not_mem_of_not_mem_cons h)]

theorem fields_append (mark : Char) (l more : List Char) :
    fields mark (l ++ mark :: more) = fields mark l ++ fields mark more := by
  induction l with
  | nil => simp [fields]
  | cons c l ih =>
    rw [List.cons_append, fields, fields, ih]
    obtain ⟨first, rest, hf⟩ := List.exists_cons_of_ne_nil (fields_ne_nil mark l)
    split
    · rfl
    · rw [hf]
      rfl

theorem getLast?_fieldsOf {s : String} (h : ' ' ∉ s.toList) (before : String) :
    (fieldsOf ' ' (before ++ " " ++ s)).getLast? = some s := by
  have hl : (before ++ " " ++ s).toList = before.toList ++ ' ' :: s.toList := by
    simp [String.toList_append]
  rw [fieldsOf, hl, fields_append, fields_of_not_mem h, List.map_append, List.getLast?_append]
  simp

/-- Lines that are each ended are the parts between the ends, with nothing after the last. -/
theorem fieldsOf_join {lines : List String} (h : ∀ s ∈ lines, '\n' ∉ s.toList) :
    fieldsOf '\n' (String.join (lines.map (· ++ "\n"))) = lines ++ [""] := by
  induction lines with
  | nil => rfl
  | cons s lines ih =>
    obtain ⟨hs, hlines⟩ := List.forall_mem_cons.1 h
    have hl : (s ++ "\n" ++ String.join (lines.map (· ++ "\n"))).toList =
        s.toList ++ '\n' :: (String.join (lines.map (· ++ "\n"))).toList := by
      simp [String.toList_append]
    have hrest := ih hlines
    rw [fieldsOf] at hrest
    rw [List.map_cons, String.join_cons, fieldsOf, hl, fields_append, fields_of_not_mem hs,
      List.map_append, hrest]
    simp

theorem length_hex_le (n : UInt64) : (hex n.toNat).length ≤ 16 := by
  have hlt : n.toNat < 16 ^ 16 := n.toNat_lt
  rw [hex, String.length_ofList]
  exact (Nat.length_toDigits_le_iff (by decide) (by decide)).2 hlt

theorem not_mem_hex {c : Char} (hd : c.isDigit = false) (ha : ¬ 'a' ≤ c) (n : Nat) :
    c ∉ (hex n).toList := by
  rw [hex, String.toList_ofList]
  intro hc
  rcases lowerHex_toDigits n c hc with h | ⟨h, -⟩
  · rw [hd] at h
    cases h
  · exact ha h

end Text

def Json.holds (name : String) (v : Json) : Bool :=
  match v.field? name with
  | some (.bool b) => b
  | _ => false

namespace Report

def blanks (n : Nat) : String := String.ofList (List.replicate n ' ')

@[simp] theorem length_blanks (n : Nat) : (blanks n).length = n := by simp [blanks]

theorem not_mem_blanks {c : Char} (h : c ≠ ' ') (n : Nat) : c ∉ (blanks n).toList := by
  rw [blanks, String.toList_ofList]
  exact fun hc => h (List.eq_of_mem_replicate hc)

theorem pad_append (width : Nat) (s more : String) :
    pad width s ++ (" " ++ more) = s ++ (blanks (width - s.length + 1) ++ more) := by
  rw [blanks, List.replicate_succ', String.ofList_append, pad]
  simp only [String.append_assoc]

/-- Four fields with blanks between them. The second starts at character 19, and the others at 52
and at 77 unless a field before them is too long for its column. -/
inductive Laid (id name node word : String) : String → Prop
  | intro {a b c : Nat} (ha : 0 < a) (hb : 0 < b) (hc : 0 < c)
      (hname : (id ++ blanks a).length = 19)
      (hnode : name.length ≤ 32 → (id ++ blanks a ++ name ++ blanks b).length = 52)
      (hword : name.length ≤ 32 → node.length ≤ 24 →
        (id ++ blanks a ++ name ++ blanks b ++ node ++ blanks c).length = 77) :
      Laid id name node word (id ++ blanks a ++ name ++ blanks b ++ node ++ blanks c ++ word)

def lastWord (line : String) : Option String := (Text.fieldsOf ' ' line).getLast?

def spread (id name node word : String) : String :=
  pad 18 id ++ " " ++ pad 32 name ++ " " ++ pad 24 node ++ " " ++ word

theorem Connection.line_eq (id name node word : String) :
    line id name node word = spread id name node word ++ "\n" := rfl

section Spread

variable {id name node word : String}

theorem spread_eq (id name node word : String) :
    spread id name node word = id ++ blanks (18 - id.length + 1) ++ name ++
      blanks (32 - name.length + 1) ++ node ++ blanks (24 - node.length + 1) ++ word := by
  simp only [spread, String.append_assoc, pad_append]

theorem laid_spread (h : id.length ≤ 18) : Laid id name node word (spread id name node word) := by
  rw [spread_eq]
  refine .intro (Nat.succ_pos _) (Nat.succ_pos _) (Nat.succ_pos _) ?_ ?_ ?_
  · rw [String.length_append, length_blanks]
    omega
  · intro hname
    simp only [String.length_append, length_blanks]
    omega
  · intro hname hnode
    simp only [String.length_append, length_blanks]
    omega

theorem lastWord_spread (h : ' ' ∉ word.toList) : lastWord (spread id name node word) = some word :=
  Text.getLast?_fieldsOf h _

theorem not_mem_spread {c : Char} (hc : c ≠ ' ') (hid : c ∉ id.toList) (hname : c ∉ name.toList)
    (hnode : c ∉ node.toList) (hword : c ∉ word.toList) :
    c ∉ (spread id name node word).toList := by
  rw [spread_eq]
  simp only [Text.not_mem_append, not_mem_blanks hc, hid, hname, hnode, hword, not_false_eq_true,
    and_self]

end Spread

def wordOf (entry : Json) : String :=
  if entry.holds "leader" then "leader" else if entry.holds "learner" then "learner" else "follower"

structure Shows (m : Member) (line : String) (entry : Json) : Prop where
  laid : Laid (Text.hex m.id.toNat) m.name m.nodeName (wordOf entry) line
  lastWord_eq : lastWord line = some (wordOf entry)

namespace MemberRow

theorem wordOf_toJson (r : MemberRow) : wordOf r.toJson = r.role.text := by
  have hleader : r.toJson.holds "leader" = r.isLeader := rfl
  have hlearner : r.toJson.holds "learner" = r.isLearner := rfl
  rw [wordOf, hleader, hlearner, role]
  cases r.isLeader <;> cases r.isLearner <;> rfl

def spread (r : MemberRow) : String := Report.spread r.id r.name r.node r.role.text

end MemberRow

namespace Connection

def lines (c : Connection) : List String :=
  ("pod:       " ++ c.pod) :: ("leader id: " ++ c.leaderId) :: spread "ID" "NAME" "NODE" "ROLE" ::
    c.members.map MemberRow.spread

theorem text_eq_join (c : Connection) : c.text = String.join (c.lines.map (· ++ "\n")) := by
  have hrows : (c.members.map MemberRow.spread).map (· ++ "\n") = c.members.map rowLine := by
    rw [List.map_map]
    rfl
  unfold text
  simp only [lines, List.map_cons, hrows, String.join_cons, line_eq, String.append_assoc]

variable {pod : String} {leaderId : UInt64} {members : List Member}

theorem unbroken_lines (hpod : '\n' ∉ pod.toList) (hnames : ∀ m ∈ members, '\n' ∉ m.name.toList) :
    ∀ s ∈ (ofMembers pod leaderId members).lines, '\n' ∉ s.toList := by
  have hid (n : Nat) : '\n' ∉ (Text.hex n).toList := Text.not_mem_hex (by decide) (by decide) n
  have hword (role : Role) : '\n' ∉ role.text.toList := by cases role <;> decide
  simp only [lines, List.forall_mem_cons]
  refine ⟨?_, ?_, by decide, ?_⟩
  · exact Text.not_mem_append.2 ⟨by decide, hpod⟩
  · exact Text.not_mem_append.2 ⟨by decide, hid _⟩
  · intro s hs
    obtain ⟨r, hr, rfl⟩ := List.mem_map.1 hs
    obtain ⟨m, hm, rfl⟩ := List.mem_map.1 hr
    have hname := hnames m hm
    exact not_mem_spread (by decide) (hid _) hname (not_mem_nodeOfMemberName hname) (hword _)

theorem shows_ofMember (m : Member) :
    Shows m (MemberRow.ofMember leaderId m).spread (MemberRow.ofMember leaderId m).toJson := by
  have hid : (Text.hex m.id.toNat).length ≤ 18 := Nat.le_trans (Text.length_hex_le m.id) (by decide)
  have hword (role : Role) : ' ' ∉ role.text.toList := by cases role <;> decide
  refine ⟨?_, ?_⟩ <;> rw [MemberRow.wordOf_toJson]
  · exact laid_spread hid
  · exact lastWord_spread (hword _)

/-- A report on `n` members is `3 + n` lines of text, each of them ended. Each of the last `n` is on
one member, with its id, name and node in full, in the columns of the header as far as these fields
leave room. Its last word is the one that fits the entry for the member in the JSON of the same
report. -/
theorem text_faithful (leaderId : UInt64) (hpod : '\n' ∉ pod.toList)
    (hnames : ∀ m ∈ members, '\n' ∉ m.name.toList) :
    let report := ofMembers pod leaderId members
    ∃ header rows document entries,
      Text.fieldsOf '\n' (report.render .text) = ("pod:       " ++ pod) ::
        ("leader id: " ++ Text.hex leaderId.toNat) :: header :: rows ++ [""] ∧
      rows.length = members.length ∧ Laid "ID" "NAME" "NODE" "ROLE" header ∧
      Json.parse? (report.render .json) = some document ∧
      document.field? "members" = some (.arr entries) ∧ entries.length = members.length ∧
      ∀ (i : Nat) m, members[i]? = some m →
        ∃ line entry, rows[i]? = some line ∧ entries[i]? = some entry ∧ Shows m line entry := by
  intro report
  have htext : Text.fieldsOf '\n' (report.render .text) = report.lines ++ [""] := by
    rw [render, text_eq_join]
    exact Text.fieldsOf_join (unbroken_lines hpod hnames)
  have hjson : Json.parse? (report.render .json) = some report.toJson :=
    (Json.conveys_pretty report.toJson).parse_eq
  refine ⟨_, report.members.map MemberRow.spread, _, report.members.map MemberRow.toJson, htext,
    ?_, laid_spread (by decide), hjson, rfl, ?_, ?_⟩
  · simp [report, ofMembers]
  · simp [report, ofMembers]
  -- row and entry come from one `MemberRow`, which `shows_ofMember` speaks of
  · intro i m hm
    have hrow : report.members[i]? = some (MemberRow.ofMember leaderId m) := by
      show (members.map _)[i]? = _
      rw [List.getElem?_map, hm, Option.map_some]
    have hshows : Shows m (MemberRow.ofMember leaderId m).spread
        (MemberRow.ofMember leaderId m).toJson := shows_ofMember m
    refine ⟨_, _, ?_, ?_, hshows⟩
    · rw [List.getElem?_map, hrow, Option.map_some]
    · rw [List.getElem?_map, hrow, Option.map_some]

/-- A leader that is a learner as well, with letters of several octets, and a member without a name
that has the longest id. -/
theorem text_faithful_wide :
    let members : List Member := [
      ⟨0x1a, "not a follower cp-ü-1a2b", [], [], true⟩, ⟨0xffffffffffffffff, "", [], [], false⟩]
    let report := ofMembers "etcd-ü" 0x1a members
    ∃ header rows document entries,
      Text.fieldsOf '\n' (report.render .text) =
        "pod:       etcd-ü" :: "leader id: 1a" :: header :: rows ++ [""] ∧
      rows.length = 2 ∧ Laid "ID" "NAME" "NODE" "ROLE" header ∧
      Json.parse? (report.render .json) = some document ∧
      document.field? "members" = some (.arr entries) ∧ entries.length = 2 ∧
      ∀ (i : Nat) m, members[i]? = some m →
        ∃ line entry, rows[i]? = some line ∧ entries[i]? = some entry ∧ Shows m line entry :=
  text_faithful 0x1a (by decide) (by decide)

end Connection

end Report

end EtcdLocator
