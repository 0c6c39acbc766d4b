import EtcdLocator.Tls.Pem

namespace EtcdLocator.Tls.Pem

section Lines

variable {b : UInt8} {l line : List UInt8} {before after : List (List UInt8)}

theorem lines_cons_of_end (hb : isLineEnd b = true) (l : List UInt8) :
    lines (b :: l) = [b] :: lines l := by
  rw [lines, if_pos hb]

theorem lines_cons_of_nil (hb : ¬isLineEnd b = true) (hl : lines l = []) :
    lines (b :: l) = [[b]] := by
  rw [lines, if_neg hb, hl]

theorem lines_cons_of_cons (hb : ¬isLineEnd b = true) (hl : lines l = line :: after) :
    lines (b :: l) = (b :: line) :: after := by
  rw [lines, if_neg hb, hl]

theorem flatten_lines (l : List UInt8) : (lines l).flatten = l := by
  fun_induction lines l with
  | case1 => rfl
  | case2 b l hb ih => rw [List.flatten_cons, ih, List.singleton_append]
  | case3 b l hb hl ih =>
    rw [hl] at ih
    rw [← ih]
    rfl
  | case4 b l hb line more hl ih =>
    rw [hl] at ih
    rw [← ih]
    rfl

theorem eq_nil_of_lines (h : lines l = []) : l = [] := by
  rw [← flatten_lines l, h, List.flatten_nil]

/-- Cut off after a line, a file has its lines up to there. -/
theorem lines_flatten (h : lines l = before ++ after) : lines before.flatten = before := by
  fun_induction lines l generalizing before with
  | case1 =>
    rw [(List.append_eq_nil_iff.1 h.symm).1]
    rfl
  | case2 b l hb ih =>
    cases before with
    | nil => rfl
    | cons first before =>
      obtain ⟨rfl, hmore⟩ := List.cons.inj h
      rw [List.flatten_cons, List.singleton_append, lines_cons_of_end hb, ih hmore]
  | case3 b l hb hl ih =>
    cases before with
    | nil => rfl
    | cons first before =>
      obtain ⟨rfl, hmore⟩ := List.cons.inj h
      rw [(List.append_eq_nil_iff.1 hmore.symm).1]
      exact lines_cons_of_nil hb rfl
  | case4 b l hb line more hl ih =>
    cases before with
    | nil => rfl
    | cons first before =>
      obtain ⟨rfl, rfl⟩ := List.cons.inj h
      have hcut : lines (line :: before).flatten = line :: before := ih hl
      exact lines_cons_of_cons hb hcut

/-- What is appended to a file may go on with its last line, but leaves those before it. -/
theorem exists_lines_append (h : lines l = before ++ [line]) (rest : List UInt8) :
    ∃ added more, lines (l ++ rest) = before ++ (line ++ added) :: more := by
  fun_induction lines l generalizing before line with
  | case1 => cases (List.append_eq_nil_iff.1 h.symm).2
  | case2 b l hb ih =>
    rw [List.cons_append, lines_cons_of_end hb]
    cases before with
    | nil =>
      -- the file is the end of this one line
      obtain ⟨rfl, hl⟩ := List.cons.inj h
      rw [eq_nil_of_lines hl, List.nil_append]
      exact ⟨[], lines rest, rfl⟩
    | cons first before =>
      obtain ⟨rfl, hl⟩ := List.cons.inj h
      obtain ⟨added, more, hlines⟩ := ih hl
      exact ⟨added, more, by rw [hlines, List.cons_append]⟩
  | case3 b l hb hl ih =>
    obtain ⟨rfl, hline⟩ := List.append_inj' (h.symm.trans (List.nil_append _).symm) rfl
    obtain rfl := List.singleton_inj.1 hline
    rw [eq_nil_of_lines hl, List.cons_append, List.nil_append]
    cases hr : lines rest with
    | nil => exact ⟨[], [], lines_cons_of_nil hb hr⟩
    | cons next more => exact ⟨next, more, lines_cons_of_cons hb hr⟩
  | case4 b l hb start others hl ih =>
    rw [List.cons_append]
    cases before with
    | nil =>
      obtain ⟨rfl, rfl⟩ := List.cons.inj h
      have hl : lines l = [] ++ [start] := hl
      obtain ⟨added, more, hlines⟩ := ih hl
      exact ⟨added, more, lines_cons_of_cons hb hlines⟩
    | cons first before =>
      obtain ⟨rfl, rfl⟩ := List.cons.inj h
      have hl : lines l = (start :: before) ++ [line] := hl
      obtain ⟨added, more, hlines⟩ := ih hl
      exact ⟨added, more, lines_cons_of_cons hb hlines⟩

end Lines

def Closes (label line : List UInt8) : Prop := endMark ++ label ++ dashes <+: line

theorem Closes.append {label line : List UInt8} (h : Closes label line) (more : List UInt8) :
    Closes label (line ++ more) :=
  h.trans (List.prefix_append line more)

theorem Closes.not_begin {label line : List UInt8} (h : Closes label line) :
    beginMark.isPrefixOf line = false := by
  have hmarks : ¬endMark <+: beginMark := by decide
  have hend : endMark <+: line := by
    rw [Closes, List.append_assoc] at h
    exact (List.prefix_append _ _).trans h
  rw [← Bool.not_eq_true, List.isPrefixOf_iff_prefix]
  intro hbegin
  exact hmarks (List.prefix_of_prefix_length_le hend hbegin (by decide))

/-- All that a line can do: it ends the reading, or goes on without a section, or closes one, as any
other line that closes that section would. -/
theorem sections_cons_cases (label : Option (List UInt8)) (body line : List UInt8) :
    (∃ fault, ∀ more, sections label body (line :: more) = [.error fault]) ∨
    (∃ label' body', ∀ more, sections label body (line :: more) = sections label' body' more) ∨
    ∃ current content, label = some current ∧ Closes current line ∧
      Content.ofLabel? current = some content ∧
      ∀ other more, Closes current other →
        sections label body (other :: more) = .ok ⟨content, body⟩ :: sections none [] more := by
  -- a line that begins a section cannot close one, so that test comes first
  by_cases hbegin : beginMark.isPrefixOf line = true
  · cases hl : label? line with
    | none =>
      refine .inl ⟨.illegalStart line, fun more => ?_⟩
      simp only [sections, if_pos hbegin, hl]
    | some started =>
      refine .inr (.inl ⟨some started, body, fun more => ?_⟩)
      simp only [sections, if_pos hbegin, hl]
  · cases label with
    | none =>
      refine .inr (.inl ⟨none, body, fun more => ?_⟩)
      simp only [sections, if_neg hbegin]
    | some current =>
      by_cases hclose : (endMark ++ current ++ dashes).isPrefixOf line = true
      · cases hc : Content.ofLabel? current with
        | none =>
          refine .inr (.inl ⟨none, [], fun more => ?_⟩)
          simp only [sections, if_neg hbegin, if_pos hclose, hc]
        | some content =>
          cases hbody : Base64.check body with
          | error fault =>
            refine .inl ⟨.content fault, fun more => ?_⟩
            simp only [sections, if_neg hbegin, if_pos hclose, hc, hbody]
          | ok =>
            refine .inr (.inr ⟨current, content, rfl, List.isPrefixOf_iff_prefix.1 hclose, hc, ?_⟩)
            intro other more hother
            have hnot : ¬beginMark.isPrefixOf other = true := by simp [hother.not_begin]
            have hyes := List.isPrefixOf_iff_prefix.2 hother
            simp only [sections, if_neg hnot, if_pos hyes, hc, hbody]
      · refine .inr (.inl ⟨some current, body ++ line, fun more => ?_⟩)
        simp only [sections, if_neg hbegin, if_neg hclose]

/-- A file holds these sections in their order, and then perhaps a fault, at which reading ends. -/
def Stream (file : List UInt8) (found : List Section) (fault : Option Fault) : Prop :=
  read file = found.map .ok ++ fault.toList.map .error

theorem exists_sections_eq (label : Option (List UInt8)) (body : List UInt8)
    (ls : List (List UInt8)) : ∃ (found : List Section) (fault : Option Fault),
      sections label body ls = found.map .ok ++ fault.toList.map .error := by
  induction ls generalizing label body with
  | nil =>
    cases label with
    | none => exact ⟨[], none, rfl⟩
    | some label => exact ⟨[], some (.endMissing label), rfl⟩
  | cons line ls ih =>
    rcases sections_cons_cases label body line with ⟨fault, h⟩ | ⟨label', body', h⟩ |
      ⟨current, content, -, hclose, -, h⟩
    · exact ⟨[], some fault, h ls⟩
    · rw [h ls]
      exact ih label' body'
    · obtain ⟨found, fault, heq⟩ := ih none []
      exact ⟨⟨content, body⟩ :: found, fault, by rw [h line ls hclose, heq]; rfl⟩

theorem exists_stream (file : List UInt8) : ∃ found fault, Stream file found fault :=
  exists_sections_eq none [] (lines file)

/-- Each section is closed by some line, before which it is open, and after which nothing can change
what was read up to there. -/
theorem exists_closing {label : Option (List UInt8)} {body : List UInt8} {ls : List (List UInt8)}
    {found : List Section} {s : Section} {tail : List (Except Fault Section)}
    (h : sections label body ls = found.map .ok ++ .ok s :: tail) :
    ∃ before line after current, ls = before ++ line :: after ∧ Closes current line ∧
      Content.ofLabel? current = some s.content ∧
      sections label body before = found.map .ok ++ [.error (.endMissing current)] ∧
      ∀ other more, Closes current other →
        sections label body (before ++ other :: more) =
          found.map .ok ++ .ok s :: sections none [] more := by
  -- the section is closed by the first line that closes one after `found` are used up; a line
  -- before it either only changes what is open or closes one of `found`
  induction ls generalizing label body found with
  | nil =>
    have hmem : .ok s ∈ sections label body [] := by simp [h]
    cases label <;> simp [sections] at hmem
  | cons line ls ih =>
    rcases sections_cons_cases label body line with ⟨fault, hcons⟩ | ⟨label', body', hcons⟩ |
      ⟨current, content, hlabel, hclose, hcontent, hcons⟩
    · have hmem : .ok s ∈ sections label body (line :: ls) := by simp [h]
      simp [hcons] at hmem
    · rw [hcons] at h
      obtain ⟨before, closing, after, current, rfl, hclose, hcontent, hopen, hrest⟩ := ih h
      refine ⟨line :: before, closing, after, current, rfl, hclose, hcontent, ?_, ?_⟩
      · rw [hcons]
        exact hopen
      · intro other more hother
        rw [List.cons_append, hcons]
        exact hrest other more hother
    · rw [hcons line ls hclose] at h
      cases found with
      | nil =>
        have hs : s = ⟨content, body⟩ := by simpa using (List.cons.inj h).1.symm
        rw [hs]
        refine ⟨[], line, ls, current, rfl, hclose, hcontent, ?_, hcons⟩
        rw [hlabel]
        rfl
      | cons first found =>
        obtain ⟨hfirst, hmore⟩ := List.cons.inj h
        obtain ⟨before, closing, after, next, rfl, hclosing, hnext, hopen, hrest⟩ := ih hmore
        refine ⟨line :: before, closing, after, next, rfl, hclosing, hnext, ?_, ?_⟩
        · rw [hcons line before hclose, hopen, hfirst]
          rfl
        · intro other more hother
          rw [List.cons_append, hcons line _ hclose, hrest other more hother, hfirst]
          rfl

/-- The same of a file: what follows the line that closes a section cannot change what was read up
to there, be it the rest of that line. -/
theorem exists_end_of_section {file : List UInt8} {found others : List Section} {s : Section}
    {fault : Option Fault} (h : Stream file (found ++ s :: others) fault) :
    ∃ before line after label, lines file = before ++ line :: after ∧ Closes label line ∧
      Content.ofLabel? label = some s.content ∧
      Stream before.flatten found (some (.endMissing label)) ∧
      Stream (before.flatten ++ line) (found ++ [s]) none ∧
      ∀ rest, ∃ more last, Stream (before.flatten ++ line ++ rest) (found ++ s :: more) last := by
  have hread : sections none [] (lines file) =
      found.map .ok ++ .ok s :: (others.map .ok ++ fault.toList.map .error) := by
    rw [Stream, List.map_append, List.append_assoc] at h
    exact h
  obtain ⟨before, line, after, label, hls, hclose, hcontent, hopen, hrest⟩ := exists_closing hread
  have hbefore : lines before.flatten = before := lines_flatten hls
  have hline : lines (before.flatten ++ line) = before ++ [line] := by
    have hsplit : lines file = (before ++ [line]) ++ after := by
      rw [hls, List.append_assoc, List.singleton_append]
    have hflat := lines_flatten hsplit
    rwa [List.flatten_append, List.flatten_singleton] at hflat
  refine ⟨before, line, after, label, hls, hclose, hcontent, ?_, ?_, ?_⟩
  · rw [Stream, read, hbefore, hopen]
    rfl
  · rw [Stream, read, hline, hrest line [] hclose, List.map_append, List.append_assoc]
    rfl
  -- of `rest` the first part may still belong to the line, which closes the section all the same
  · intro rest
    obtain ⟨added, more, hlines⟩ := exists_lines_append hline rest
    obtain ⟨later, last, hlater⟩ := exists_sections_eq none [] more
    refine ⟨later, last, ?_⟩
    rw [Stream, read, hlines, hrest _ more (hclose.append added), hlater, List.map_append,
      List.append_assoc]
    rfl

end EtcdLocator.Tls.Pem
