import SensorHost.Lib.Text

/-!
# Lines

The lines of a text that is put together at a line break: apart from empty lines they are those of
its parts (`fullLines_break`). Where the break comes between CR and LF the parts have one line more,
and that one is empty.

The line splitter is a recursion with the line under way, and its equations for CR LF, CR, another
break and any other character come first. A text that is written line by line has these lines
(`fullLines_line`), and texts without white space are kept by `strip`.
-/

namespace SensorHost.Lib

/-- The lines that are not empty. -/
def fullLines (lines : List Text) : List Text := lines.filter fun line => !line.isEmpty

/-- Full lines are collected from both parts. -/
lemma fullLines_append (lines more : List Text) :
    fullLines (lines ++ more) = fullLines lines ++ fullLines more := List.filter_append lines more

/-- A line in front of both sides changes nothing. -/
lemma fullLines_cons_congr (line : Text) {lines more rest : List Text}
    (h : fullLines lines = fullLines more ++ rest) :
    fullLines (line :: lines) = fullLines (line :: more) ++ rest := by
  calc fullLines (line :: lines)
      = fullLines [line] ++ fullLines lines := fullLines_append [line] lines
    _ = fullLines [line] ++ fullLines more ++ rest := by rw [h, List.append_assoc]
    _ = fullLines (line :: more) ++ rest := by rw [← fullLines_append, List.singleton_append]

/-- CR LF ends a line. -/
lemma splitLinesAux_cr_lf (line rest : Text) :
    splitLinesAux line ('\r' :: '\n' :: rest) = line.reverse :: splitLinesAux [] rest := rfl

/-- CR without LF ends a line. -/
lemma splitLinesAux_cr (line : Text) {rest : Text} (h : rest.head? ≠ some '\n') :
    splitLinesAux line ('\r' :: rest) = line.reverse :: splitLinesAux [] rest := by
  rw [splitLinesAux, if_pos rfl]
  · intro more heq
    rw [heq] at h
    exact h rfl

/-- The line under way at the end of a text. -/
lemma fullLines_end (line : Text) (lines : List Text) :
    fullLines (line.reverse :: lines) = fullLines (splitLinesAux line []) ++ fullLines lines := by
  cases line with
  | nil => rfl
  | cons c line =>
    rw [splitLinesAux, List.isEmpty_cons, if_neg Bool.false_ne_true, ← fullLines_append]
    rfl

/-- Every other break ends a line. -/
lemma splitLinesAux_break (line : Text) {c : Char} (hc : isLineBreak c = true) (hcr : c ≠ '\r')
    (rest : Text) : splitLinesAux line (c :: rest) = line.reverse :: splitLinesAux [] rest := by
  rw [splitLinesAux.eq_def]
  dsimp only
  rw [if_neg hcr, if_pos hc]

/-- Any other character joins the line under way. -/
lemma splitLinesAux_other (line : Text) {c : Char} (hc : isLineBreak c = false) (rest : Text) :
    splitLinesAux line (c :: rest) = splitLinesAux (c :: line) rest := by
  have hcr : c ≠ '\r' := by
    rintro rfl
    exact absurd hc (by decide)
  rw [splitLinesAux.eq_def]
  dsimp only
  rw [if_neg hcr, hc, if_neg Bool.false_ne_true]

/-- At a break the line under way ends, up to an empty line. -/
lemma fullLines_break_nil (line : Text) {c : Char} (hc : isLineBreak c = true) (rest : Text) :
    fullLines (splitLinesAux line (c :: rest)) =
      fullLines (splitLinesAux line []) ++ fullLines (splitLines rest) := by
  rw [← fullLines_end]
  by_cases hcr : c = '\r'
  · subst hcr
    by_cases hlf : rest.head? = some '\n'
    · obtain ⟨more, rfl⟩ : ∃ more, rest = '\n' :: more := by
        cases rest with
        | nil => cases hlf
        | cons d more => exact ⟨more, congrArg (· :: more) (Option.some.inj hlf)⟩
      have hlf : isLineBreak '\n' = true := by decide
      rw [splitLinesAux_cr_lf, splitLines, splitLinesAux_break [] hlf (by decide)]
      exact (fullLines_append [line.reverse] (splitLines more)).trans
        (fullLines_append [line.reverse, []] (splitLines more)).symm
    · rw [splitLinesAux_cr line hlf]
      rfl
  · rw [splitLinesAux_break line hc hcr]
    rfl

/-- The lines of a text up to a break, and those after it. -/
lemma fullLines_splitLinesAux (line text : Text) {c : Char} (hc : isLineBreak c = true)
    (rest : Text) :
    fullLines (splitLinesAux line (text ++ c :: rest)) =
      fullLines (splitLinesAux line text) ++ fullLines (splitLines rest) := by
  fun_induction splitLinesAux line text with
  | case1 line hempty =>
    have hnil := fullLines_break_nil line hc rest
    rwa [splitLinesAux, if_pos hempty] at hnil
  | case2 line hempty =>
    have hnil := fullLines_break_nil line hc rest
    rwa [splitLinesAux, if_neg hempty] at hnil
  | case3 line more ih => exact fullLines_cons_congr line.reverse ih
  | case4 line more hlf ih =>
    -- the break of the text may end in the LF that comes next
    by_cases hnext : (more ++ c :: rest).head? = some '\n'
    · cases more with
      | nil =>
        obtain rfl : c = '\n' := Option.some.inj hnext
        exact fullLines_append [line.reverse] (splitLines rest)
      | cons d more => exact (hlf more (congrArg (· :: more) (Option.some.inj hnext))).elim
    · rw [List.cons_append, splitLinesAux_cr line hnext]
      exact fullLines_cons_congr line.reverse ih
  | case5 line d more hcr hd ih =>
    rw [List.cons_append, splitLinesAux_break line hd hcr]
    exact fullLines_cons_congr line.reverse ih
  | case6 line d more hcr hd ih =>
    rw [List.cons_append, splitLinesAux_other line (Bool.not_eq_true _ ▸ hd)]
    exact ih

/-- The lines of a text and of the text after its last break make up those of both. -/
theorem fullLines_break (text : Text) {c : Char} (hc : isLineBreak c = true) (rest : Text) :
    fullLines (splitLines (text ++ c :: rest)) =
      fullLines (splitLines (text ++ [c])) ++ fullLines (splitLines rest) := by
  unfold splitLines
  rw [fullLines_splitLinesAux [] text hc rest, fullLines_splitLinesAux [] text hc []]
  rw [show fullLines (splitLines []) = [] from rfl, List.append_nil]
  rfl

/-- A run of breaks has no lines of its own. -/
lemma fullLines_breaks {breaks : Text} (h : ∀ c ∈ breaks, isLineBreak c = true) (rest : Text) :
    fullLines (splitLines (breaks ++ rest)) = fullLines (splitLines rest) := by
  induction breaks with
  | nil => rfl
  | cons c breaks ih =>
    have hnil := fullLines_break_nil [] (h c List.mem_cons_self) (breaks ++ rest)
    exact hnil.trans (ih fun d hd => h d (List.mem_cons_of_mem c hd))

/-- A text without breaks joins the line under way as a whole. -/
lemma splitLinesAux_line {text : Text} (h : ∀ c ∈ text, isLineBreak c = false) (line : Text) :
    splitLinesAux line text = splitLinesAux (text.reverse ++ line) [] := by
  induction text generalizing line with
  | nil => rfl
  | cons c text ih =>
    rw [splitLinesAux_other line (h c List.mem_cons_self),
      ih fun d hd => h d (List.mem_cons_of_mem c hd)]
    rw [List.reverse_cons, List.append_assoc, List.singleton_append]

/-- A text without breaks is one line. -/
lemma splitLines_line {text : Text} (hne : text ≠ []) (h : ∀ c ∈ text, isLineBreak c = false) :
    splitLines text = [text] := by
  have hrev : (text.reverse ++ []).isEmpty ≠ true := by simpa using hne
  rw [splitLines, splitLinesAux_line h, splitLinesAux, if_neg hrev, List.append_nil,
    List.reverse_reverse]

/-- A line, its breaks, and what comes after them. -/
lemma fullLines_line {text breaks : Text} (hne : text ≠ [])
    (htext : ∀ c ∈ text, isLineBreak c = false) (hbreaks : ∀ c ∈ breaks, isLineBreak c = true)
    (rest : Text) (h : breaks = [] → rest = []) :
    fullLines (splitLines (text ++ breaks ++ rest)) = text :: fullLines (splitLines rest) := by
  have hline : fullLines (splitLines text) = [text] := by
    rw [splitLines_line hne htext]
    exact List.filter_cons_of_pos (by simpa using hne)
  cases breaks with
  | nil =>
    rw [h rfl, List.append_nil, List.append_nil, hline]
    rfl
  | cons c breaks =>
    have hc := hbreaks c List.mem_cons_self
    have hmore := fullLines_breaks (fun d hd => hbreaks d (List.mem_cons_of_mem c hd)) rest
    rw [List.append_assoc, List.cons_append]
    refine (fullLines_splitLinesAux [] text hc (breaks ++ rest)).trans ?_
    rw [hmore]
    exact congrArg (· ++ fullLines (splitLines rest)) hline

/-- Every line break is white space. -/
lemma isSpaceChar_of_isLineBreak {c : Char} (h : isLineBreak c = true) : isSpaceChar c = true := by
  unfold isLineBreak at h
  unfold isSpaceChar
  simp only [Bool.or_eq_true, Bool.and_eq_true, decide_eq_true_eq, beq_iff_eq] at h ⊢
  rcases h with (((h | h) | h) | h) | h
  all_goals omega

/-- Nothing is stripped where there is nothing to strip. -/
lemma stripBy_eq_self {p : Char → Bool} {text : Text} (h : ∀ c ∈ text, p c = false) :
    stripBy p text = text := by
  have hself : ∀ cs : Text, (∀ c ∈ cs, p c = false) → cs.dropWhile p = cs := by
    intro cs hcs
    cases cs with
    | nil => rfl
    | cons c cs => exact List.dropWhile_cons_of_neg (by rw [hcs c List.mem_cons_self]; decide)
  rw [stripBy, hself text h, hself _ fun c hc => h c (List.mem_reverse.mp hc),
    List.reverse_reverse]

/-- A text without white space is its own strip. -/
lemma strip_eq_self {text : Text} (h : ∀ c ∈ text, isSpaceChar c = false) : strip text = text :=
  stripBy_eq_self h

/-- The characters of joined parts are those of the parts and the separator. -/
lemma mem_intercalate {sep c : Char} {parts : List Text} (h : c ∈ [sep].intercalate parts) :
    c = sep ∨ ∃ part ∈ parts, c ∈ part := by
  induction parts with
  | nil => cases h
  | cons part parts ih =>
    cases parts with
    | nil =>
      rw [List.intercalate_singleton] at h
      exact .inr ⟨part, List.mem_cons_self, h⟩
    | cons next parts =>
      rw [List.intercalate_cons_cons, List.append_assoc, List.mem_append, List.singleton_append,
        List.mem_cons] at h
      obtain hpart | hsep | hrest := h
      · exact .inr ⟨part, List.mem_cons_self, hpart⟩
      · exact .inl hsep
      · exact (ih hrest).imp_right fun ⟨p, hp, hc⟩ => ⟨p, List.mem_cons_of_mem part hp, hc⟩

end SensorHost.Lib
