import EtcdLocator.CommandLine.Basic
import EtcdLocator.Proofs.Outcomes

namespace EtcdLocator.CommandLine

/-- A word that does not look like an option, and so may be the value of one. A single dash may. -/
def Plain (word : String) : Prop := ∀ c l, word.toList ≠ '-' :: c :: l

namespace Switch

/-- A word that names an option by its name or its letter, and the value that it brings along. -/
inductive Names (s : Switch) : List Char → Option String → Prop
  | long : Names s ('-' :: '-' :: s.name.toList) none
  | longValue (value : List Char) :
      Names s ('-' :: '-' :: (s.name.toList ++ '=' :: value)) (some (String.ofList value))
  | short {c} (hc : s.letter = some c) : Names s ['-', c] none
  | shortEquals {c} (hc : s.letter = some c) (value : List Char) :
      Names s ('-' :: c :: '=' :: value) (some (String.ofList value))
  | shortValue {c first} (hc : s.letter = some c) (hv : first ≠ '=') (value : List Char) :
      Names s ('-' :: c :: first :: value) (some (String.ofList (first :: value)))

/-- An option that may have the value, after the values that were given `earlier`. -/
def Takes (s : Switch) (earlier : List (String × String)) (value : String) : Prop :=
  ∃ accepts repeats, s.use = .option accepts repeats ∧ accepts value = true ∧
    (repeats = false → ∀ v, (s.name, v) ∉ earlier)

end Switch

/-- The one element with a property is found by it. -/
theorem find?_of_pairwise {α : Type} {p : α → Bool} {a : α} {l : List α} (ha : a ∈ l)
    (hp : p a = true) (hl : l.Pairwise fun x y => ¬(p x = true ∧ p y = true)) :
    l.find? p = some a := by
  induction l with
  | nil => cases ha
  | cons x l ih =>
    obtain ⟨hx, hl⟩ := List.pairwise_cons.1 hl
    rcases List.mem_cons.1 ha with rfl | ha
    · exact List.find?_cons_of_pos hp
    · rw [List.find?_cons_of_neg fun hpx => hx a ha ⟨hpx, hp⟩]
      exact ih ha hl

namespace Draft

variable {d d' e : Draft} {s : Switch} {value : String}

theorem any_values_iff {name : String} :
    d.values.any (·.1 = name) = true ↔ ∃ v, (name, v) ∈ d.values := by
  simp only [List.any_eq_true, decide_eq_true_iff]
  constructor
  · rintro ⟨⟨_, v⟩, hmem, rfl⟩
    exact ⟨v, hmem⟩
  · rintro ⟨v, hmem⟩
    exact ⟨_, hmem, rfl⟩

theorem enter_eq_ok_iff :
    d.enter s value = .ok e ↔
      s.Takes d.values value ∧ e = { d with values := d.values ++ [(s.name, value)] } := by
  unfold enter Switch.Takes
  cases s.use with
  | flag answer => simp
  | option accepts repeats =>
    have hagain : (!repeats && d.values.any (·.1 = s.name)) = true ↔
        repeats = false ∧ ∃ v, (s.name, v) ∈ d.values := by
      rw [Bool.and_eq_true, Bool.not_eq_true', any_values_iff]
    dsimp only
    constructor
    · intro h
      split at h
      · cases h
      · rename_i hnew
        split at h
        · rename_i ha
          cases h
          exact ⟨⟨accepts, repeats, rfl, ha, fun hr v hv => hnew (hagain.2 ⟨hr, v, hv⟩)⟩, rfl⟩
        · cases h
    · rintro ⟨⟨_, _, hu, ha, hnew⟩, rfl⟩
      cases hu
      rw [if_neg, if_pos ha]
      rw [hagain]
      rintro ⟨hr, v, hv⟩
      exact hnew hr v hv

theorem pending_of_settle (h : d.settle = .ok e) : e.pending = none := by
  unfold settle at h
  split at h
  · cases h
    assumption
  · cases h
  · rw [(enter_eq_ok_iff.1 h).2]

/-- A value that is still to come cannot be entered. -/
theorem awaiting_of_settle (h : d.settle = .ok e) : d.awaiting = none := by
  unfold settle at h
  unfold awaiting
  split at h <;> simp_all

/-- An option without its value waits for it. -/
theorem meet_none_eq_ok_iff :
    d.meet s none = .ok d' ↔
      ∃ e, d.settle = .ok e ∧ d' = { values := e.values, pending := some (s, none) } := by
  rw [meet, bind_eq_ok_iff]
  simp only [pure, Except.pure, Except.ok.injEq, eq_comm]

theorem meet_some_eq_ok_iff :
    d.meet s (some value) = .ok d' ↔
      ∃ e, d.settle = .ok e ∧ s.Takes e.values value ∧
        d' = { values := e.values ++ [(s.name, value)] } := by
  rw [meet, bind_eq_ok_iff]
  apply exists_congr
  intro e
  apply and_congr_right
  intro he
  dsimp only
  rw [enter_eq_ok_iff, pending_of_settle he]

end Draft

namespace Grammar

/-- What words spell after what was given `earlier`: the values with the names of their options, up
to the name of a command, which comes with the words after it. -/
inductive Spells (g : Grammar) : List (String × String) → List String →
    List (String × String) → Option (String × List String) → Prop
  | nil {earlier} : Spells g earlier [] [] none
  | dashes {earlier} : Spells g earlier ["--"] [] none
  | command {earlier name words} (h : name ∈ g.commands) :
      Spells g earlier (name :: words) [] (some (name, words))
  | joined {earlier s word value words given rest} (hs : s ∈ g.switches)
      (hw : s.Names word.toList (some value)) (hv : s.Takes earlier value)
      (h : Spells g (earlier ++ [(s.name, value)]) words given rest) :
      Spells g earlier (word :: words) ((s.name, value) :: given) rest
  | apart {earlier s word value words given rest} (hs : s ∈ g.switches)
      (hw : s.Names word.toList none) (hp : Plain value) (hv : s.Takes earlier value)
      (h : Spells g (earlier ++ [(s.name, value)]) words given rest) :
      Spells g earlier (word :: value :: words) ((s.name, value) :: given) rest

variable {g : Grammar} {d d' e : Draft} {words : List String}
  {rest : Option (String × List String)}

/-- The sides of the first equals sign are a name without one and a value. -/
theorem splitValue_cases (l : List Char) :
    splitValue l = (l, none) ∨
    ∃ name value, splitValue l = (name, some (String.ofList value)) ∧ l = name ++ '=' :: value := by
  unfold splitValue
  have hl := List.takeWhile_append_dropWhile (p := (· ≠ '=')) (l := l)
  have hc := List.head?_dropWhile_not (· ≠ '=') l
  split
  · exact .inl rfl
  · rename_i c value hd
    rw [hd] at hl hc
    obtain rfl : c = '=' := by simpa using hc
    exact .inr ⟨_, value, rfl, hl.symm⟩

theorem names_splitValue (s : Switch) {l : List Char} (h : s.name.toList = (splitValue l).1) :
    s.Names ('-' :: '-' :: l) (splitValue l).2 := by
  rcases splitValue_cases l with hs | ⟨name, value, hs, hl⟩ <;> rw [hs] at h ⊢ <;> dsimp only at h ⊢
  · rw [← h]
    exact .long
  · rw [hl, ← h]
    exact .longValue value

theorem names_of_long {l : List Char} (h : g.long d l = .ok d') :
    ∃ s ∈ g.switches, ∃ value, s.Names ('-' :: '-' :: l) value ∧ d.meet s value = .ok d' := by
  unfold long at h
  dsimp only at h
  split at h
  · cases h
  · rename_i s hs
    have hname : s.name.toList = (splitValue l).1 := by simpa using List.find?_some hs
    split at h
    · exact ⟨s, List.mem_of_find?_eq_some hs, _, names_splitValue s hname, h⟩
    · cases h
    · obtain ⟨_, _, h⟩ := bind_eq_ok_iff.1 h
      cases h

theorem names_of_short {c : Char} {l : List Char} (h : g.short d (c :: l) = .ok d') :
    ∃ s ∈ g.switches, ∃ value, s.Names ('-' :: c :: l) value ∧ d.meet s value = .ok d' := by
  unfold short at h
  dsimp only at h
  split at h
  · cases h
  · rename_i s hs
    have hletter : s.letter = some c := by simpa using List.find?_some hs
    have hmem := List.mem_of_find?_eq_some hs
    split at h
    · obtain ⟨_, _, h⟩ := bind_eq_ok_iff.1 h
      cases h
    · split at h
      · exact ⟨s, hmem, _, .short hletter, h⟩
      · exact ⟨s, hmem, _, .shortEquals hletter _, h⟩
      · rename_i hnil heq
        obtain ⟨first, value, rfl⟩ := List.exists_cons_of_ne_nil hnil
        exact ⟨s, hmem, _, .shortValue hletter (fun hf => heq value (by rw [hf])) value, h⟩

/-- What reading the first word comes to. -/
theorem read_cons_cases {word : String} (h : g.read d (word :: words) = .ok (d', rest)) :
    (d.awaiting = none ∧ word ∈ g.commands ∧ d' = d ∧ rest = some (word, words)) ∨
    (word = "--" ∧ words = [] ∧ d' = d ∧ rest = none) ∨
    (∃ s ∈ g.switches, ∃ value d₁, s.Names word.toList value ∧ d.meet s value = .ok d₁ ∧
      g.read d₁ words = .ok (d', rest)) ∨
    ∃ s, d.awaiting = some s ∧ Plain word ∧
      g.read { d with pending := some (s, some word) } words = .ok (d', rest) := by
  rw [read.eq_def] at h
  dsimp only at h
  -- in the order in which a word is looked at: command, end of options, option, value
  split at h
  · rename_i hc
    cases h
    simp only [Bool.and_eq_true, Option.isNone_iff_eq_none, List.contains_iff_mem] at hc
    exact .inl ⟨hc.1, hc.2, rfl, rfl⟩
  · split at h
    · rename_i hword
      split at h
      · cases h
        exact .inr (.inl ⟨String.toList_inj.1 hword, rfl, rfl, rfl⟩)
      · cases h
    · rename_i hword
      obtain ⟨d₁, hd, h⟩ := bind_eq_ok_iff.1 h
      obtain ⟨s, hs, value, hn, hm⟩ := names_of_long hd
      exact .inr (.inr (.inl ⟨s, hs, value, d₁, hword ▸ hn, hm, h⟩))
    · rename_i hword
      obtain ⟨d₁, hd, h⟩ := bind_eq_ok_iff.1 h
      obtain ⟨s, hs, value, hn, hm⟩ := names_of_short hd
      exact .inr (.inr (.inl ⟨s, hs, value, d₁, hword ▸ hn, hm, h⟩))
    · rename_i hplain
      split at h
      · rename_i s ha
        exact .inr (.inr (.inr ⟨s, ha, hplain, h⟩))
      · cases h

/-- The values that are read are those that the words spell. If a value is still to come, it is the
first word. -/
theorem spells_of_read (h : g.read d words = .ok (d', rest)) (he : d'.settle = .ok e) :
    (∀ s, d.awaiting = some s → ∃ value more given, words = value :: more ∧ Plain value ∧
      s.Takes d.values value ∧ g.Spells (d.values ++ [(s.name, value)]) more given rest ∧
      e.values = d.values ++ (s.name, value) :: given) ∧
    (d.awaiting = none → ∃ d₀ given, d.settle = .ok d₀ ∧ g.Spells d₀.values words given rest ∧
      e.values = d₀.values ++ given) := by
  -- a value is entered only when the next option is met, so that the values of the settled draft
  -- count and not those of the draft
  induction words generalizing d with
  | nil =>
    cases h
    refine ⟨fun s hs => ?_, fun _ => ⟨e, [], he, .nil, (List.append_nil _).symm⟩⟩
    cases (Draft.awaiting_of_settle he).symm.trans hs
  | cons word words ih =>
    rcases read_cons_cases h with ⟨ha, hc, rfl, rfl⟩ | ⟨rfl, rfl, rfl, rfl⟩ |
      ⟨s, hs, value, d₁, hn, hm, hread⟩ | ⟨s, ha, hp, hread⟩
    · refine ⟨fun s hs => ?_, fun _ => ⟨e, [], he, .command hc, (List.append_nil _).symm⟩⟩
      cases ha.symm.trans hs
    · refine ⟨fun s hs => ?_, fun _ => ⟨e, [], he, .dashes, (List.append_nil _).symm⟩⟩
      cases (Draft.awaiting_of_settle he).symm.trans hs
    · -- an option: its value comes with it, or is the first of the words that are left
      cases value with
      | none =>
        obtain ⟨d₀, hd, rfl⟩ := Draft.meet_none_eq_ok_iff.1 hm
        refine ⟨fun s' hs' => ?_, fun _ => ?_⟩
        · cases (Draft.awaiting_of_settle hd).symm.trans hs'
        · obtain ⟨value, more, given, rfl, hp, hv, hmore, hvalues⟩ := (ih hread).1 s rfl
          exact ⟨d₀, _, hd, .apart hs hn hp hv hmore, hvalues⟩
      | some value =>
        obtain ⟨d₀, hd, hv, rfl⟩ := Draft.meet_some_eq_ok_iff.1 hm
        refine ⟨fun s' hs' => ?_, fun _ => ?_⟩
        · cases (Draft.awaiting_of_settle hd).symm.trans hs'
        · obtain ⟨_, given, ⟨⟩, hmore, hvalues⟩ := (ih hread).2 rfl
          rw [List.append_assoc] at hvalues
          exact ⟨d₀, _, hd, .joined hs hn hv hmore, hvalues⟩
    · refine ⟨fun s' hs' => ?_, fun hnone => ?_⟩
      · obtain rfl : s = s' := Option.some.inj (ha.symm.trans hs')
        obtain ⟨d₂, given, hd₂, hmore, hvalues⟩ := (ih hread).2 rfl
        obtain ⟨hv, rfl⟩ := Draft.enter_eq_ok_iff.1 hd₂
        rw [List.append_assoc] at hvalues
        exact ⟨word, words, given, rfl, hp, hv, hmore, hvalues⟩
      · cases ha.symm.trans hnone

/-- Names and letters that tell the options apart, and cannot be taken for anything else. -/
structure Proper (g : Grammar) : Prop where
  distinct : g.switches.Pairwise fun s s' =>
    s.name ≠ s'.name ∧ (s.letter = none ∨ s.letter ≠ s'.letter)
  name_ne : ∀ s ∈ g.switches, s.name ≠ ""
  not_mem_name : ∀ s ∈ g.switches, '=' ∉ s.name.toList
  letter_ne : ∀ s ∈ g.switches, s.letter ≠ some '-'
  plain : ∀ name ∈ g.commands, Plain name

theorem Proper.find?_name (hg : g.Proper) {s : Switch} (hs : s ∈ g.switches) :
    g.switches.find? (·.name.toList = s.name.toList) = some s := by
  refine find?_of_pairwise hs (by simp) (hg.distinct.imp ?_)
  rintro x y ⟨hne, -⟩ ⟨hx, hy⟩
  simp only [decide_eq_true_iff, String.toList_inj] at hx hy
  exact hne (hx.trans hy.symm)

theorem Proper.find?_letter (hg : g.Proper) {s : Switch} (hs : s ∈ g.switches) {c : Char}
    (hc : s.letter = some c) : g.switches.find? (·.letter = some c) = some s := by
  refine find?_of_pairwise hs (by simp [hc]) (hg.distinct.imp ?_)
  rintro x y ⟨-, hnone | hne⟩ ⟨hx, hy⟩ <;> simp only [decide_eq_true_iff] at hx hy
  · cases hnone.symm.trans hx
  · exact hne (hx.trans hy.symm)

theorem splitValue_of_not_mem {name : List Char} (h : '=' ∉ name) :
    splitValue name = (name, none) := by
  rcases splitValue_cases name with hs | ⟨_, _, -, hl⟩
  · exact hs
  · exact absurd (by simp [hl]) h

theorem splitValue_append {name : List Char} (h : '=' ∉ name) (value : List Char) :
    splitValue (name ++ '=' :: value) = (name, some (String.ofList value)) := by
  have hall : ∀ c ∈ name, decide (c ≠ '=') = true := by
    intro c hc
    simpa using ne_of_mem_of_not_mem hc h
  have hd : (name ++ '=' :: value).dropWhile (· ≠ '=') = '=' :: value := by
    rw [List.dropWhile_append_of_pos hall]
    rfl
  have ht : (name ++ '=' :: value).takeWhile (· ≠ '=') = name := by
    rw [List.takeWhile_append_of_pos hall]
    simp
  rw [splitValue, hd, ht]

variable {s : Switch} {word : String} {value : Option String} {accepts : String → Bool}
  {repeats : Bool}

theorem Proper.long_eq (hg : g.Proper) (hs : s ∈ g.switches) (hu : s.use = .option accepts repeats)
    {l : List Char} (hl : splitValue l = (s.name.toList, value)) : g.long d l = d.meet s value := by
  rw [long, hl]
  dsimp only
  rw [hg.find?_name hs]
  dsimp only
  rw [hu]

theorem Proper.short_eq (hg : g.Proper) (hs : s ∈ g.switches)
    (hu : s.use = .option accepts repeats) {c : Char} (hc : s.letter = some c) {l : List Char}
    (hn : s.Names ('-' :: c :: l) value) (hne : c ≠ '-') : g.short d (c :: l) = d.meet s value := by
  rw [short, hg.find?_letter hs hc]
  dsimp only
  rw [hu]
  dsimp only
  cases hn with
  | long | longValue => exact absurd rfl hne
  | short => rfl
  | shortEquals => rfl
  | shortValue _ hv =>
    split
    · contradiction
    · rename_i heq
      exact absurd (List.cons.inj heq).1 hv
    · rfl

theorem read_of_long {l : List Char} (hc : word ∉ g.commands) (hw : word.toList = '-' :: '-' :: l)
    (hl : l ≠ []) : g.read d (word :: words) = g.long d l >>= fun d => g.read d words := by
  obtain ⟨first, more, rfl⟩ := List.exists_cons_of_ne_nil hl
  rw [read.eq_def]
  dsimp only
  rw [if_neg (by simp [hc]), hw]
  rfl

theorem read_of_short {c : Char} {l : List Char} (hc : word ∉ g.commands)
    (hw : word.toList = '-' :: c :: l) (hne : c ≠ '-') :
    g.read d (word :: words) = g.short d (c :: l) >>= fun d => g.read d words := by
  rw [read.eq_def]
  dsimp only
  rw [if_neg (by simp [hc])]
  split
  · rename_i heq
    rw [hw] at heq
    exact absurd (List.cons.inj (List.cons.inj heq).2).1 hne
  · rename_i heq
    rw [hw] at heq
    exact absurd (List.cons.inj (List.cons.inj heq).2).1 hne
  · rename_i heq
    rw [hw] at heq
    cases heq
    rfl
  · rename_i hplain
    exact absurd hw (hplain c l)

/-- A word that names an option is met as that option. -/
theorem Proper.read_of_names (hg : g.Proper) (hs : s ∈ g.switches)
    (hu : s.use = .option accepts repeats) (hn : s.Names word.toList value) :
    g.read d (word :: words) = d.meet s value >>= fun d => g.read d words := by
  have hc : word ∉ g.commands := by
    intro hc
    have hp := hg.plain word hc
    generalize hl : word.toList = l at hn
    cases hn <;> exact hp _ _ hl
  have hname : s.name.toList ≠ [] := by simpa using hg.name_ne s hs
  have hequals := hg.not_mem_name s hs
  have hne {c : Char} (hc : s.letter = some c) : c ≠ '-' := by
    rintro rfl
    exact hg.letter_ne s hs hc
  generalize hw : word.toList = l at hn
  have hn' := hn
  cases hn with
  | long => rw [read_of_long hc hw hname, hg.long_eq hs hu (splitValue_of_not_mem hequals)]
  | longValue v =>
    rw [read_of_long hc hw (by simp), hg.long_eq hs hu (splitValue_append hequals v)]
  | short hl => rw [read_of_short hc hw (hne hl), hg.short_eq hs hu hl hn' (hne hl)]
  | shortEquals hl => rw [read_of_short hc hw (hne hl), hg.short_eq hs hu hl hn' (hne hl)]
  | shortValue hl => rw [read_of_short hc hw (hne hl), hg.short_eq hs hu hl hn' (hne hl)]

/-- While an option waits for its value, a word that does not look like an option is that value. -/
theorem read_of_awaiting (ha : d.awaiting = some s) (hp : Plain word) :
    g.read d (word :: words) = g.read { d with pending := some (s, some word) } words := by
  rw [read.eq_def]
  dsimp only
  rw [ha, if_neg (by simp)]
  split
  · rename_i hw
    exact absurd hw (hp _ _)
  · rename_i hw
    exact absurd hw (hp _ _)
  · rename_i hw
    exact absurd hw (hp _ _)
  · rfl

/-- Words that spell values are read to the end, and give those values. -/
theorem read_of_spells (hg : g.Proper) {earlier given : List (String × String)}
    (h : g.Spells earlier words given rest) {d₀ : Draft} (hd : d.settle = .ok d₀)
    (hv : d₀.values = earlier) :
    ∃ d' e, g.read d words = .ok (d', rest) ∧ d'.settle = .ok e ∧ e.values = earlier ++ given := by
  -- a value that stood apart is entered only when the next option is met, so the induction goes
  -- over what the draft settles to and not over its values
  induction h generalizing d d₀ with
  | nil => exact ⟨d, d₀, rfl, hd, by rw [hv, List.append_nil]⟩
  | @dashes earlier =>
    refine ⟨d, d₀, ?_, hd, by rw [hv, List.append_nil]⟩
    have hc : "--" ∉ g.commands := fun hc => hg.plain _ hc '-' [] rfl
    rw [read.eq_def]
    dsimp only
    rw [if_neg (by simp [hc])]
    rfl
  | @command _ name more hc =>
    refine ⟨d, d₀, ?_, hd, by rw [hv, List.append_nil]⟩
    rw [read.eq_def]
    exact if_pos (by simp [hc, Draft.awaiting_of_settle hd])
  | @joined _ s word value words given rest hs hw htakes _ ih =>
    subst hv
    obtain ⟨accepts, repeats, hu, -⟩ := id htakes
    have hm : d.meet s (some value) = .ok { values := d₀.values ++ [(s.name, value)] } :=
      Draft.meet_some_eq_ok_iff.2 ⟨d₀, hd, htakes, rfl⟩
    obtain ⟨d', e, hread, he, hvalues⟩ :=
      @ih { values := d₀.values ++ [(s.name, value)] } _ rfl rfl
    refine ⟨d', e, ?_, he, by rw [hvalues, List.append_assoc]; rfl⟩
    rw [hg.read_of_names hs hu hw, hm]
    exact hread
  | @apart _ s word value words given rest hs hw hp htakes _ ih =>
    subst hv
    obtain ⟨accepts, repeats, hu, -⟩ := id htakes
    have hm : d.meet s none = .ok { values := d₀.values, pending := some (s, none) } :=
      Draft.meet_none_eq_ok_iff.2 ⟨d₀, hd, rfl⟩
    have hsettle : ({ values := d₀.values, pending := some (s, some value) } : Draft).settle =
        .ok { values := d₀.values ++ [(s.name, value)] } :=
      Draft.enter_eq_ok_iff.2 ⟨htakes, rfl⟩
    obtain ⟨d', e, hread, he, hvalues⟩ := ih hsettle rfl
    refine ⟨d', e, ?_, he, by rw [hvalues, List.append_assoc]; rfl⟩
    rw [hg.read_of_names hs hu hw, hm, ← hread]
    exact read_of_awaiting (d := { values := d₀.values, pending := some (s, none) }) rfl hp

theorem spells_iff (hg : g.Proper) {given : List (String × String)} :
    g.Spells [] words given rest ↔
      ∃ d e, g.read {} words = .ok (d, rest) ∧ d.settle = .ok e ∧ e.values = given := by
  constructor
  · intro h
    exact read_of_spells hg h rfl rfl
  · rintro ⟨d, e, hread, he, rfl⟩
    obtain ⟨_, given, ⟨⟩, h, hvalues⟩ := (spells_of_read hread he).2 rfl
    rw [hvalues]
    exact h

/-- Words spell one thing only. -/
theorem Spells.unique (hg : g.Proper) {given given' : List (String × String)}
    {rest' : Option (String × List String)} (h : g.Spells [] words given rest)
    (h' : g.Spells [] words given' rest') : given = given' ∧ rest = rest' := by
  obtain ⟨d, e, hread, he, rfl⟩ := (spells_iff hg).1 h
  obtain ⟨d', e', hread', he', rfl⟩ := (spells_iff hg).1 h'
  cases hread.symm.trans hread'
  cases he.symm.trans he'
  exact ⟨rfl, rfl⟩

/-- Every value that is given is that of an option. -/
theorem Spells.exists_switch {earlier given : List (String × String)}
    (h : g.Spells earlier words given rest) {o : String × String} (ho : o ∈ given) :
    ∃ s ∈ g.switches, ∃ accepts repeats, s.use = .option accepts repeats ∧ s.name = o.1 ∧
      accepts o.2 = true := by
  induction h with
  | nil | dashes | command => cases ho
  | joined hs _ hv _ ih | apart hs _ _ hv _ ih =>
    rcases List.mem_cons.1 ho with rfl | ho
    · obtain ⟨accepts, repeats, hu, ha, -⟩ := hv
      exact ⟨_, hs, accepts, repeats, hu, rfl, ha⟩
    · exact ih ho

/-- An option that takes one value is given at most once. -/
theorem Spells.nodup {earlier given : List (String × String)}
    (hg : ∀ s ∈ g.switches, ∀ accepts repeats, s.use = .option accepts repeats → repeats = false)
    (h : g.Spells earlier words given rest) (he : (earlier.map (·.1)).Nodup) :
    ((earlier ++ given).map (·.1)).Nodup := by
  induction h with
  | nil | dashes | command => rwa [List.append_nil]
  | @joined earlier s _ value _ given _ hs _ hv _ ih
  | @apart earlier s _ value _ given _ hs _ _ hv _ ih =>
    obtain ⟨accepts, repeats, hu, -, hnew⟩ := hv
    have hnot : s.name ∉ earlier.map (·.1) := by
      rintro hmem
      obtain ⟨o, ho, hname⟩ := List.mem_map.1 hmem
      exact hnew (hg s hs accepts repeats hu) o.2 (hname ▸ ho)
    have hnodup : ((earlier ++ [(s.name, value)]).map (·.1)).Nodup := by
      rw [List.map_append, List.nodup_append]
      refine ⟨he, by simp, ?_⟩
      rintro name hname _ hlast rfl
      obtain rfl : name = s.name := List.mem_singleton.1 hlast
      exact hnot hname
    have hnext := ih hnodup
    rwa [List.append_assoc] at hnext

end Grammar

theorem proper_grammar : grammar.Proper where
  distinct := by decide
  name_ne := by decide
  not_mem_name := by decide
  letter_ne := by decide
  plain := by
    intro name hn
    simp only [grammar, List.mem_cons, List.not_mem_nil, or_false] at hn
    rcases hn with rfl | rfl | rfl | rfl <;> exact fun c l => nofun

theorem proper_nodesGrammar : nodesGrammar.Proper where
  distinct := by decide
  name_ne := by decide
  not_mem_name := by decide
  letter_ne := by decide
  plain := nofun

end EtcdLocator.CommandLine
