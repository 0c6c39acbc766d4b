import EtcdLocator.Json.Printer
import EtcdLocator.Proofs.Documents
import EtcdLocator.Report.Connection
import EtcdLocator.Report.Pods

namespace EtcdLocator

namespace Json

theorem hex4_of_lt {n : Nat} (h : n < 0x100) :
    Hex4 ['0', '0', Nat.digitChar (n / 16), Nat.digitChar (n % 16)] n := by
  have hhigh := Text.hexValue?_digitChar (n := n / 16) (by omega)
  have hlow := Text.hexValue?_digitChar (n := n % 16) (by omega)
  have hzero : Text.hexValue? '0' = some 0 := rfl
  refine ⟨rfl, ?_, ?_⟩
  · simp [hhigh, hlow, hzero]
  · simp only [Text.natOfHex, List.foldl_cons, List.foldl_nil, hhigh, hlow, hzero, Option.getD_some]
    omega

def marked : List Char := ['\"', '\\', '\x08', '\x0c', '\n', '\r', '\t']

theorem escape_of_mem {c : Char} (hc : c ∈ marked) :
    ∃ mark, (mark, c) ∈ shorthands ∧ escape c = ['\\', mark] := by
  have hall : (marked.all fun c =>
      shorthands.any fun p => p.2 = c ∧ escape c = ['\\', p.1]) = true := by decide
  obtain ⟨⟨mark, _⟩, hm, hp⟩ := List.any_eq_true.1 (List.all_eq_true.1 hall c hc)
  obtain ⟨rfl, he⟩ := of_decide_eq_true hp
  exact ⟨mark, hm, he⟩

theorem escape_of_not_mem {c : Char} (hc : c ∉ marked) :
    escape c = if c.toNat < 0x20 then
      ['\\', 'u', '0', '0', Nat.digitChar (c.toNat / 16), Nat.digitChar (c.toNat % 16)]
    else [c] := by
  simp only [marked, List.mem_cons, List.not_mem_nil, or_false, not_or] at hc
  simp only [escape, hc, if_false]

theorem Chars.escape {cs l : List Char} (c : Char) (h : Chars cs l) :
    Chars (c :: cs) (Json.escape c ++ l) := by
  by_cases hc : c ∈ marked
  · obtain ⟨mark, hm, he⟩ := escape_of_mem hc
    rw [he]
    exact .short hm h
  · rw [escape_of_not_mem hc]
    split
    · exact .unicode (hex4_of_lt (by omega)) h
    · have hq : c ≠ '\"' := by rintro rfl; exact hc (by decide)
      have hb : c ≠ '\\' := by rintro rfl; exact hc (by decide)
      exact .plain hq hb (by omega) h

theorem chars_flatMap_escape (cs : List Char) : Chars cs (cs.flatMap escape) := by
  induction cs with
  | nil => exact .nil
  | cons c cs ih => exact .escape c ih

theorem quoted_printString (s : String) : Quoted s (printString s) := by
  have h : Quoted (String.ofList s.toList) (printString s) := .intro (chars_flatMap_escape s.toList)
  rwa [String.ofList_toList] at h

theorem magnitude_toDigits {e : Int} {power : List Char} (h : Power e power) (n : Nat) :
    Magnitude n e (Nat.toDigits 10 n ++ power) := by
  have hm : Magnitude _ _ (Nat.toDigits 10 n ++ ([] ++ power)) :=
    .intro (Text.digits_toDigits n) Text.toDigits_of_head? .absent h
  simpa using hm

theorem numeral_printInt {e : Int} {power : List Char} (h : Power e power) (i : Int) :
    Numeral ⟨i, e⟩ (printInt i ++ power) := by
  have hm := magnitude_toDigits h i.natAbs
  unfold printInt
  split
  · have hi : -(i.natAbs : Int) = i := by omega
    have hn := Numeral.minus hm
    rwa [hi] at hn
  · have hi : (i.natAbs : Int) = i := by omega
    have hn := Numeral.plain hm
    rwa [hi] at hn

theorem power_printInt (e : Int) : Power e ('e' :: printInt e) := by
  have hd := Text.digits_toDigits e.natAbs
  unfold printInt
  split
  · have he : -(e.natAbs : Int) = e := by omega
    have hp := Power.minus (.inl rfl) hd
    rwa [Text.natOfDecimal_toDigits, he] at hp
  · have he : (e.natAbs : Int) = e := by omega
    have hp := Power.plain (.inl rfl) hd
    rwa [Text.natOfDecimal_toDigits, he] at hp

theorem numeral_printNumber (n : Number) : Numeral n (printNumber n) := by
  unfold printNumber
  split
  · rename_i he
    have h := numeral_printInt .absent n.mantissa
    rw [List.append_nil, ← he] at h
    exact h
  · exact numeral_printInt (power_printInt n.exponent) n.mantissa

theorem blanks_nil : Blanks [] := by simp [Blanks]

theorem Style.blanks_line (style : Style) (depth : Nat) : Blanks (style.line depth) := by
  cases style with
  | compact => exact blanks_nil
  | indented =>
    intro c hc
    rcases List.mem_cons.1 hc with rfl | hc
    · rfl
    · rw [List.eq_of_mem_replicate hc]
      rfl

section Line

variable (style : Style) (depth : Nat) {v : Json} {l after : List Char}

theorem Spells.element_line (h : Spells (.value v) l) (ha : Blanks after) :
    Spells (.element v) (style.line depth ++ (l ++ after)) :=
  .element (style.blanks_line depth) h ha

theorem Spells.member_line (name : String) (h : Spells (.value v) l) (ha : Blanks after) :
    Spells (.member name v)
      (style.line depth ++ (printString name ++ (style.colon ++ (l ++ after)))) := by
  have hblank : Blanks (style.colon.drop 1) := by
    cases style <;> simp [Style.colon, Blanks, isBlank]
  have hcolon : style.colon = ':' :: style.colon.drop 1 := by cases style <;> rfl
  have hm := Spells.member (style.blanks_line depth) (quoted_printString name) blanks_nil
    (.element hblank h ha)
  rw [hcolon]
  exact hm

end Line

mutual

/-- What is printed of a value spells it. -/
theorem spells_print (style : Style) (depth : Nat) : (v : Json) →
    Spells (.value v) (print style depth v)
  | .null => .nothing
  | .bool true => .yes
  | .bool false => .no
  | .num n => .number (numeral_printNumber n)
  | .str s => .string (quoted_printString s)
  | .arr [] => by
    have hl := Spells.noElements blanks_nil
    simpa [print] using hl
  | .arr (v :: items) => by
    have h := spells_printItems style (depth + 1) (style.blanks_line depth)
      (spells_print style (depth + 1) v) items
    have hl := Spells.list h
    simpa [print] using hl
  | .obj [] => by
    have hl := Spells.noMembers blanks_nil
    simpa [print] using hl
  | .obj ((name, v) :: fields) => by
    have h := spells_printFields style (depth + 1) (style.blanks_line depth) name
      (spells_print style (depth + 1) v) fields
    have hl := Spells.object h
    simpa [print] using hl

theorem spells_printItems (style : Style) (depth : Nat) {after : List Char} (ha : Blanks after)
    {v : Json} {l : List Char} (h : Spells (.value v) l) : (items : List Json) →
    Spells (.elements (v :: items))
      (style.line depth ++ (l ++ (printItems style depth items ++ after)))
  | [] => .lastElement (h.element_line style depth ha)
  | w :: items => by
    have hs := spells_printItems style depth ha (spells_print style depth w) items
    have hl := Spells.moreElements (h.element_line style depth blanks_nil) hs
    simpa [printItems] using hl

theorem spells_printFields (style : Style) (depth : Nat) {after : List Char} (ha : Blanks after)
    (name : String) {v : Json} {l : List Char} (h : Spells (.value v) l) :
    (fields : List (String × Json)) →
    Spells (.members ((name, v) :: fields))
      (style.line depth ++
        (printString name ++ (style.colon ++ (l ++ (printFields style depth fields ++ after)))))
  | [] => .lastMember (h.member_line style depth name ha)
  | (next, w) :: fields => by
    have hs := spells_printFields style depth ha next (spells_print style depth w) fields
    have hl := Spells.moreMembers (h.member_line style depth name blanks_nil) hs
    simpa [printFields] using hl

end

theorem document_ofList (style : Style) (v : Json) :
    Document v (String.ofList (print style 0 v)) := by
  have h : Spells (.element v) ([] ++ (print style 0 v ++ [])) :=
    .element blanks_nil (spells_print style 0 v) blanks_nil
  rw [Document, String.toList_ofList]
  simpa using h

theorem document_compact (v : Json) : Document v v.compact := document_ofList .compact v

theorem document_pretty (v : Json) : Document v v.pretty := document_ofList .indented v

theorem compact_injective {v w : Json} (h : v.compact = w.compact) : v = w :=
  (document_compact v).unique (h ▸ document_compact w)

theorem pretty_injective {v w : Json} (h : v.pretty = w.pretty) : v = w :=
  (document_pretty v).unique (h ▸ document_pretty w)

theorem strs_injective {l m : List String} (h : strs l = strs m) : l = m := by
  have hmap : l.map Json.str = m.map Json.str := by injection h
  exact (List.map_inj_right fun _ _ hs => Json.str.inj hs).1 hmap

structure Conveys (s : String) (v : Json) : Prop where
  document : Document v s
  parse_eq : parse? s = some v

theorem conveys_compact (v : Json) : Conveys v.compact v :=
  ⟨document_compact v, (document_compact v).parse_eq⟩

theorem conveys_pretty (v : Json) : Conveys v.pretty v :=
  ⟨document_pretty v, (document_pretty v).parse_eq⟩

end Json

theorem Member.toJson_injective {m n : Member} (h : m.toJson = n.toJson) : m = n := by
  simp only [toJson, Json.obj.injEq, List.cons.injEq, Prod.mk.injEq, true_and, and_true, Json.nat,
    Json.num.injEq, Json.Number.mk.injEq, Json.str.injEq, Json.bool.injEq] at h
  obtain ⟨hid, hname, hpeers, hclients, hlearner⟩ := h
  have hid : m.id = n.id := UInt64.toNat_inj.1 (Int.ofNat.inj hid)
  have hpeers := Json.strs_injective hpeers
  have hclients := Json.strs_injective hclients
  cases m
  cases n
  simp_all

namespace Report

theorem MemberRow.toJson_injective {r s : MemberRow} (h : r.toJson = s.toJson) : r = s := by
  simp only [toJson, Json.obj.injEq, List.cons.injEq, Prod.mk.injEq, true_and, and_true,
    Json.str.injEq, Json.bool.injEq] at h
  obtain ⟨hid, hname, hnode, hleader, hlearner, hurls⟩ := h
  have hurls := Json.strs_injective hurls
  cases r
  cases s
  simp_all

theorem Connection.toJson_injective {c d : Connection} (h : c.toJson = d.toJson) : c = d := by
  simp only [toJson, Json.obj.injEq, List.cons.injEq, Prod.mk.injEq, true_and, and_true,
    Json.str.injEq, Json.arr.injEq] at h
  obtain ⟨hpod, hleader, hmembers⟩ := h
  have hmembers := (List.map_inj_right fun _ _ => MemberRow.toJson_injective).1 hmembers
  cases c
  cases d
  simp_all

theorem Pods.podJson_injective {p q : ProxyPod} (h : podJson p = podJson q) : p = q := by
  cases p
  cases q
  simpa [podJson] using h

theorem Pods.toJson_injective {r s : Pods} (h : r.toJson = s.toJson) : r = s := by
  simp only [toJson, Json.obj.injEq, List.cons.injEq, Prod.mk.injEq, true_and, and_true,
    Json.arr.injEq] at h
  have hpods := (List.map_inj_right fun _ _ => podJson_injective).1 h
  cases r
  cases s
  simp_all

/-- The rows of a report are the members in their order. -/
theorem toJson_ofMembers (pod : String) (leaderId : UInt64) (members : List Member) :
    (Connection.ofMembers pod leaderId members).toJson = .obj [
      ("pod", .str pod),
      ("leader_id", .str (Text.hex leaderId.toNat)),
      ("members", .arr (members.map fun m => (MemberRow.ofMember leaderId m).toJson))] := by
  rw [Connection.toJson, Connection.ofMembers, List.map_map]
  rfl

/-- Members and reports can be read back from the JSON that is printed of them: all fields in their
order, with their texts and lists as they were and ids that are numbers again. -/
theorem json_lossless :
    (∀ m : Member, Json.Conveys m.toJson.compact (.obj [
      ("id", .num ⟨m.id.toNat, 0⟩),
      ("name", .str m.name),
      ("peer_urls", .arr (m.peerUrls.map .str)),
      ("client_urls", .arr (m.clientUrls.map .str)),
      ("is_learner", .bool m.isLearner)])) ∧
    (∀ (pod : String) (leaderId : UInt64) (members : List Member),
      Json.Conveys ((Connection.ofMembers pod leaderId members).render .json) (.obj [
        ("pod", .str pod),
        ("leader_id", .str (Text.hex leaderId.toNat)),
        ("members", .arr (members.map fun m => .obj [
          ("id", .str (Text.hex m.id.toNat)),
          ("name", .str m.name),
          ("node", .str m.nodeName),
          ("leader", .bool (m.id = leaderId)),
          ("learner", .bool m.isLearner),
          ("client_urls", .arr (m.clientUrls.map .str))]))])) ∧
    (∀ r : Pods, Json.Conveys (r.render .json) (.obj [
      ("pods", .arr (r.pods.map fun p => .obj [("node", .str p.node), ("pod", .str p.name)]))])) ∧
    (∀ id : UInt64, Text.natOfHex (Text.hex id.toNat).toList = id.toNat ∧
      Text.LowerHex (Text.hex id.toNat).toList) ∧
    (∀ m n : Member, m.toJson.compact = n.toJson.compact → m = n) ∧
    (∀ c d : Connection, c.render .json = d.render .json → c = d) ∧
    ∀ r s : Pods, r.render .json = s.render .json → r = s := by
  refine ⟨fun m => Json.conveys_compact _, fun pod leaderId members => ?_, fun r =>
    Json.conveys_pretty _, fun id => ?_, ?_, ?_, ?_⟩
  · rw [Connection.render, toJson_ofMembers]
    exact Json.conveys_pretty _
  · rw [Text.hex, String.toList_ofList]
    exact ⟨Text.natOfHex_toDigits _, Text.lowerHex_toDigits _⟩
  · intro m n h
    exact m.toJson_injective (Json.compact_injective h)
  · intro c d h
    exact Connection.toJson_injective (Json.pretty_injective h)
  · intro r s h
    exact Pods.toJson_injective (Json.pretty_injective h)

end Report

end EtcdLocator
