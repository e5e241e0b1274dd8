import GridSketch.Proofs.Command.Line
import GridSketch.Proofs.Scene.Success
import GridSketch.Scene.Basic

/-!
# Which lines are executed

The grammar has four forms of command, and a line is of a form if it is the tokens of the form with
white space between them, up to a colour, which is any text (`Sentence.Written`). Not only such lines
are executed. A line is cut at its first marks, and in the parts cells, sizes and positions are
looked for: what strays in front of the first one, and behind it, is passed over. This is what
`Sentence.FoundIn` says of a line, together with the texts that stray in it.

`executed_iff` is both halves. A line is executed exactly where a sentence is found in it that can be
done, and it is that sentence that is done. And the line is what the grammar asks of that sentence
exactly if nothing but white space strays in it. So a third index, or a cell in front of another,
redirects a command to a cell that the line as a whole does not spell: `executed_unwritten` is a
line that is executed and is of no form.
-/

set_option autoImplicit false

namespace GridSketch

/-! ## 1. White space and tokens -/

/-- A text is its trimmed text with white space around it. -/
theorem Text.exists_trim (cs : List Char) :
    ∃ g g', AllBlank g ∧ AllBlank g' ∧ cs = g ++ (trim cs ++ g') := by
  obtain ⟨g, hg, hcs⟩ := exists_blank_skipBlanks cs
  have hend : ∃ g', AllBlank g' ∧ skipBlanks cs = trim cs ++ g' := by
    obtain ⟨g', hg', hrev⟩ := exists_blank_skipBlanks (skipBlanks cs).reverse
    refine ⟨g'.reverse, ?_, ?_⟩
    · intro c hc
      exact hg' c (List.mem_reverse.mp hc)
    · rw [← List.reverse_inj, hrev]
      simp [trim, strip, dropEnd, skipBlanks]
  obtain ⟨g', hg', hskip⟩ := hend
  exact ⟨g, g', hg, hg', by rw [← hskip, ← hcs]⟩

namespace Command

open Text (AllBlank isBlank isDigit)

theorem spaced_trim (cs : List Char) : Spaced [Text.trim cs] cs := by
  obtain ⟨g, g', hg, hg', hcs⟩ := Text.exists_trim cs
  have hspaced : Spaced [Text.trim cs] (g ++ (Text.trim cs ++ g')) := .cons hg (.nil hg')
  rwa [← hcs] at hspaced

namespace Spaced

variable {ts us : List (List Char)} {cs cs' : List Char}

theorem blank_append {g : List Char} (hg : AllBlank g) (h : Spaced ts cs) : Spaced ts (g ++ cs) := by
  cases h with
  | nil hg' =>
    apply nil
    intro c hc
    rcases List.mem_append.mp hc with hc | hc
    · exact hg c hc
    · exact hg' c hc
  | @cons g' _ _ _ hg' h =>
    rw [← List.append_assoc]
    apply cons _ h
    intro c hc
    rcases List.mem_append.mp hc with hc | hc
    · exact hg c hc
    · exact hg' c hc

theorem append (h : Spaced ts cs) (h' : Spaced us cs') : Spaced (ts ++ us) (cs ++ cs') := by
  induction h with
  | nil hg => exact h'.blank_append hg
  | cons hg _ ih =>
    simp only [List.append_assoc, List.cons_append]
    exact cons hg ih

theorem token (t : List Char) : Spaced [t] t := by
  simpa using flatten [t]

/-- A character that is no white space stands in a text as often as in its tokens. -/
theorem count (h : Spaced ts cs) {c : Char} (hc : isBlank c = false) :
    cs.count c = ts.flatten.count c := by
  have hblank : ∀ g : List Char, AllBlank g → g.count c = 0 := by
    intro g hg
    rw [List.count_eq_zero]
    intro hmem
    exact nomatch (hg c hmem).symm.trans hc
  induction h with
  | nil hg => rw [hblank _ hg, List.flatten_nil, List.count_nil]
  | cons hg _ ih =>
    rw [List.count_append, List.count_append, hblank _ hg, ih, List.flatten_cons, List.count_append,
      Nat.zero_add]

end Spaced

/-! ## 2. The grammar -/

/-- A line is of the form of a sentence: it is the tokens of the sentence, all of them and nothing
else, and then the colour, which may be any text. An arrow need not have a colour. -/
inductive Sentence.Written : Sentence → List Char → Prop where
  | definition {name : String} {rows cols : Nat} {x y : Literal} {rs cs xs ys line : List Char}
      (hname : Name.WellFormed name) (hrows : IsNumeral rs rows) (hcols : IsNumeral cs cols)
      (hx : x.Spells xs) (hy : y.Spells ys)
      (h : Spaced (definitionTokens name.toList rs cs xs ys) line) :
      Written (.definition name rows cols x y) line
  | plainArrow {source target : Place} {ts us : List (List Char)} {line : List Char}
      (hsource : source.Tokens ts) (htarget : target.Tokens us)
      (h : Spaced (ts ++ ['-', '>'] :: us) line) : Written (.arrow source target "") line
  | arrow {source target : Place} {ts us : List (List Char)} {head : List Char} {colour : String}
      (hsource : source.Tokens ts) (htarget : target.Tokens us)
      (h : Spaced (arrowTokens ts us) head) :
      Written (.arrow source target colour) (head ++ colour.toList)
  | colour {p : Place} {ts : List (List Char)} {head : List Char} {colour : String}
      (hp : p.Tokens ts) (h : Spaced (ts ++ [[':']]) head) :
      Written (.colour p colour) (head ++ colour.toList)
  | value {p : Place} {ts : List (List Char)} {head t : List Char} {l : Literal} {value : String}
      (hp : p.Tokens ts) (h : Spaced (ts ++ [['=']]) head) (hl : l.Spells t)
      (hvalue : Spaced [t] value.toList) : Written (.value p value) (head ++ value.toList)

/-! ## 3. What is found in a line -/

/-- The first cell in a part of a line, with what stands in front of it and behind it. -/
def Place.FirstIn (p : Place) (part front behind : List Char) : Prop :=
  ∃ row col, Command.FirstIn CellText.Tokens ⟨p.name.toList, row, col⟩ part front behind ∧
    IsNumeral row p.row ∧ IsNumeral col p.col

namespace Place

variable {p q : Place} {part front behind : List Char} {ts : List (List Char)}

theorem Tokens.text (h : p.Tokens ts) : ∃ row col,
    CellText.Tokens ⟨p.name.toList, row, col⟩ ts := by
  obtain ⟨row, col, hrow, hcol, rfl⟩ := h.tokens
  exact ⟨row, col, h.isName, hrow.isDigits, hcol.isDigits, rfl⟩

theorem FirstIn.cell (h : p.FirstIn part front behind) (role : String) :
    Command.cell part role = .ok p.ref := by
  obtain ⟨row, col, hfirst, hrow, hcol⟩ := h
  exact cell_eq_ok.mpr ⟨_, front, behind, p.row, p.col, hfirst, hrow, hcol, by
    rw [String.ofList_toList]
    rfl⟩

theorem exists_firstIn {role : String} {r : CellRef} (h : Command.cell part role = .ok r) :
    ∃ p front behind, Place.FirstIn p part front behind ∧ r = p.ref := by
  obtain ⟨c, front, behind, i, j, hfirst, hrow, hcol, rfl⟩ := cell_eq_ok.mp h
  refine ⟨⟨String.ofList c.name, i, j⟩, front, behind, ⟨c.row, c.col, ?_, hrow, hcol⟩, rfl⟩
  rw [String.toList_ofList]
  exact hfirst

theorem FirstIn.blank (h : p.FirstIn part front behind) (hq : q.Tokens ts) (hts : Spaced ts part) :
    AllBlank front ∧ AllBlank behind := by
  obtain ⟨_, _, hfirst, _⟩ := h
  obtain ⟨_, _, htext⟩ := hq.text
  exact hfirst.blank scans_cell htext hts

theorem FirstIn.spaced (h : p.FirstIn part front behind) (hfront : AllBlank front)
    (hbehind : AllBlank behind) : ∃ ts, p.Tokens ts ∧ Spaced ts part := by
  obtain ⟨row, col, hfirst, hrow, hcol⟩ := h
  obtain ⟨ts, ⟨hname, _, _, rfl⟩, hts⟩ := hfirst.spaced hfront hbehind
  exact ⟨_, ⟨hname, row, col, hrow, hcol, rfl⟩, hts⟩

end Place

/-- A sentence is found in a line: the marks of the line are those of its form, and in the parts
that the first of each mark leaves, its cells, its size and its position are the first ones. With it
goes what strays in those parts, in front of what is found and behind it. -/
inductive Sentence.FoundIn (line : List Char) : Sentence → List (List Char) → Prop where
  | definition {name : String} {rows cols : Nat} {x y : Literal} {rs cs f b f' b' : List Char}
      (hform : classify line = some .definition) (hname : Name.WellFormed name)
      (hbefore : Spaced [name.toList] (namePart line))
      (hsize : FirstIn SizeTokens (rs, cs) (sizePart line) f b) (hrows : IsNumeral rs rows)
      (hcols : IsNumeral cs cols)
      (hposition : FirstIn PositionTokens (x, y) (positionPart line) f' b') :
      FoundIn line (.definition name rows cols x y) [f, b, f', b']
  | arrow {source target : Place} {f b f' b' : List Char} (hform : classify line = some .arrow)
      (hsource : source.FirstIn (sourcePart line) f b)
      (htarget : target.FirstIn (targetPart line) f' b') :
      FoundIn line (.arrow source target (String.ofList (arrowColour line))) [f, b, f', b']
  | colour {p : Place} {f b : List Char} (hform : classify line = some .cellColour)
      (hp : p.FirstIn (cellPart Form.colon line) f b) :
      FoundIn line (.colour p (String.ofList (cellColour line))) [f, b]
  | value {p : Place} {f b : List Char} (hform : classify line = some .cellValue)
      (hp : p.FirstIn (cellPart Form.equals line) f b) :
      FoundIn line (.value p (String.ofList (valuePart line))) [f, b]

section

variable {d : Drawing} {line : List Char} {effect : Effect} {s : Sentence}
  {strays : List (List Char)}

/-- What is found in a line is what the line does. -/
theorem execute_found (d : Drawing) (h : s.FoundIn line strays) : execute d line = s.run d := by
  cases h with
  | definition hform hname hbefore hsize hrows hcols hposition =>
    have hvalid := name_spaced hbefore hname
    have hsize := size_eq_ok.mpr ⟨_, _, _, _, hsize, hrows, hcols⟩
    have hposition := position_eq_ok.mpr ⟨_, _, _, _, hposition, rfl⟩
    rw [namePart] at hvalid
    rw [sizePart] at hsize
    rw [positionPart] at hposition
    simp [execute, hform, define, hvalid, hsize, hposition, bind, Except.bind, Sentence.run]
  | arrow hform hsource htarget =>
    have hsource := hsource.cell "Source"
    have htarget := htarget.cell "Target"
    rw [sourcePart] at hsource
    rw [targetPart] at htarget
    simp [execute, hform, addArrow, hsource, htarget, bind, Except.bind, Sentence.run, arrowColour]
  | colour hform hp =>
    have hp := hp.cell "Cell"
    rw [cellPart] at hp
    simp [execute, hform, colourCell, hp, bind, Except.bind, Sentence.run, cellColour]
  | value hform hp =>
    have hp := hp.cell "Cell"
    rw [cellPart] at hp
    simp [execute, hform, setValue, hp, bind, Except.bind, Sentence.run, valuePart]

/-- What a line does is found in it. -/
theorem found_of_execute (h : execute d line = .ok effect) :
    ∃ s strays, Sentence.FoundIn line s strays ∧ s.run d = .ok effect := by
  have hfound : ∃ s strays, Sentence.FoundIn line s strays := by
    unfold execute at h
    split at h
    · exact nomatch h
    · rename_i hform
      simp only [define, bind_eq_ok] at h
      obtain ⟨name, hname, ⟨rows, cols⟩, hsize, corner, hposition, _⟩ := h
      obtain ⟨rs, cs, f, b, hsize, hrows, hcols⟩ := size_eq_ok.mp hsize
      obtain ⟨x, y, f', b', hposition, _⟩ := position_eq_ok.mp hposition
      obtain ⟨hname, hwell⟩ := Name.validate_trim hname
      have hbefore : Spaced [name.toList] (namePart line) := by
        rw [hname, String.toList_ofList]
        exact spaced_trim _
      exact ⟨_, _, .definition hform hwell hbefore hsize hrows hcols hposition⟩
    · rename_i hform
      simp only [addArrow, bind_eq_ok] at h
      obtain ⟨r, hsource, q, htarget, _⟩ := h
      obtain ⟨source, f, b, hsource, _⟩ := Place.exists_firstIn hsource
      obtain ⟨target, f', b', htarget, _⟩ := Place.exists_firstIn htarget
      exact ⟨_, _, .arrow hform hsource htarget⟩
    · rename_i hform
      simp only [colourCell, bind_eq_ok] at h
      obtain ⟨r, hp, _⟩ := h
      obtain ⟨p, f, b, hp, _⟩ := Place.exists_firstIn hp
      exact ⟨_, _, .colour hform hp⟩
    · rename_i hform
      simp only [setValue, bind_eq_ok] at h
      obtain ⟨r, hp, _⟩ := h
      obtain ⟨p, f, b, hp, _⟩ := Place.exists_firstIn hp
      exact ⟨_, _, .value hform hp⟩
  obtain ⟨s, strays, hfound⟩ := hfound
  exact ⟨s, strays, hfound, (execute_found d hfound).symm.trans h⟩

end

/-! ## 4. Lines in which nothing strays -/

/-- A line has the marks of its form. -/
theorem matched_of_classify {line : List Char} {form : Form} (h : classify line = some form) :
    form.matchedBy (fun mark => Text.contains mark line) = true :=
  List.find?_some h

/-- Tokens on both sides of a mark are the tokens of a line that has the mark. -/
theorem spaced_of_cut {mark line : List Char} {ts us : List (List Char)}
    (hmark : Text.contains mark line = true) (hts : Spaced ts (Text.cut mark line).1)
    (hus : Spaced us (Text.cut mark line).2) : Spaced (ts ++ mark :: us) line := by
  have hline : Spaced (ts ++ ([mark] ++ us))
      ((Text.cut mark line).1 ++ (mark ++ (Text.cut mark line).2)) :=
    hts.append ((Spaced.token mark).append hus)
  rwa [← List.append_assoc (Text.cut mark line).1, Text.cut_append hmark] at hline

/-- Tokens in front of a mark, and the mark, are the tokens of what is in front of the rest. -/
theorem spaced_front_of_cut {mark line : List Char} {ts : List (List Char)}
    (hmark : Text.contains mark line = true) (hts : Spaced ts (Text.cut mark line).1) :
    ∃ head, Spaced (ts ++ [mark]) head ∧ line = head ++ (Text.cut mark line).2 :=
  ⟨_, hts.append (Spaced.token mark), (Text.cut_append hmark).symm⟩

section

variable {d : Drawing} {line : List Char} {effect : Effect} {s : Sentence}
  {strays : List (List Char)}

/-- Without a colour the line goes on with the target to its end. -/
theorem parts_plainArrow {source target : Place} {ts us : List (List Char)}
    (hsource : source.Tokens ts) (htarget : target.Tokens us)
    (h : Spaced (ts ++ ['-', '>'] :: us) line) :
    Spaced ts (sourcePart line) ∧ Spaced us (targetPart line) := by
  obtain ⟨_, front, rest, hfront, hrest, hcut⟩ :=
    cut_spaced h (by decide) (hsource.not_mem (by decide)) []
  simp only [List.append_nil] at hcut
  have hcolon : ':' ∉ rest := hrest.not_mem (by decide) (htarget.not_mem (by decide))
  have hcut' : Text.cut Form.colon rest = (rest, []) := by
    apply Text.cut_of_not_contains
    rw [Form.colon, Text.contains_of_not_mem hcolon]
    exact Bool.false_ne_true
  rw [sourcePart, targetPart, Form.pointsTo, hcut, hcut']
  exact ⟨hfront, hrest⟩

theorem blank_of_arrow {source target p q : Place} {colour : String} {ts us : List (List Char)}
    (hfound : Sentence.FoundIn line (.arrow source target colour) strays) (hp : p.Tokens ts)
    (hq : q.Tokens us) (hfront : Spaced ts (sourcePart line))
    (hbehind : Spaced us (targetPart line)) : ∀ t ∈ strays, AllBlank t := by
  cases hfound with
  | arrow _ hfirst hfirst' =>
    have hblank := hfirst.blank hp hfront
    have hblank' := hfirst'.blank hq hbehind
    simpa [and_assoc] using And.intro hblank hblank'

/-- In a line that is of the form of the sentence found in it, nothing but white space strays. -/
theorem blank_of_written (hfound : s.FoundIn line strays) (h : s.Written line) :
    ∀ t ∈ strays, AllBlank t := by
  cases h with
  | definition hname hrows hcols hx hy h =>
    obtain ⟨_, _, hsize, hposition⟩ :=
      parts_definition (isName_of_wellFormed hname) hrows.isDigits hcols.isDigits h
    cases hfound with
    | definition _ _ _ hfirst _ _ hfirst' =>
      have hblank := hfirst.blank scans_size (sizeTokens hrows.isDigits hcols.isDigits) hsize
      have hblank' := hfirst'.blank scans_position (positionTokens hx hy) hposition
      simpa [and_assoc] using And.intro hblank hblank'
  | plainArrow hsource htarget h =>
    obtain ⟨hfront, hbehind⟩ := parts_plainArrow hsource htarget h
    exact blank_of_arrow hfound hsource htarget hfront hbehind
  | @arrow source target ts us head colour hsource htarget h =>
    obtain ⟨_, hfront, hbehind, _⟩ := parts_arrow hsource htarget h colour.toList
    exact blank_of_arrow hfound hsource htarget hfront hbehind
  | @colour p ts head colour hp h =>
    obtain ⟨_, hfront, _⟩ := parts_cell hp h (by decide) colour.toList
    generalize head ++ colour.toList = line at hfound hfront
    cases hfound with
    | colour _ hfirst => simpa using hfirst.blank hp hfront
  | @value p ts head t l value hp h hl hvalue =>
    obtain ⟨_, hfront, _⟩ := parts_cell hp h (by decide) value.toList
    generalize head ++ value.toList = line at hfound hfront
    cases hfound with
    | value _ hfirst => simpa using hfirst.blank hp hfront

/-- What stands for a number is a literal with white space around it. -/
theorem spaced_of_number {cs : List Char} {v : Number} (h : number cs = .ok v) :
    ∃ l t, Literal.Spells l t ∧ Spaced [t] cs := by
  unfold number literal? at h
  dsimp only at h
  split at h
  · rename_i l hl
    split at hl
    · rename_i l' hread
      obtain ⟨t, ht, htrim⟩ := Literal.readLiteral_sound hread
      rw [List.append_nil] at htrim
      exact ⟨l', t, ht, htrim ▸ spaced_trim cs⟩
    · exact nomatch hl
  · exact nomatch h

theorem written_definition {name : String} {rows cols : Nat} {x y : Literal}
    {rs cs f b f' b' : List Char} (hform : classify line = some .definition)
    (hname : Name.WellFormed name) (hbefore : Spaced [name.toList] (namePart line))
    (hsize : FirstIn SizeTokens (rs, cs) (sizePart line) f b) (hrows : IsNumeral rs rows)
    (hcols : IsNumeral cs cols) (hposition : FirstIn PositionTokens (x, y) (positionPart line) f' b')
    (hblank : AllBlank f ∧ AllBlank b) (hblank' : AllBlank f' ∧ AllBlank b') :
    Sentence.Written (.definition name rows cols x y) line := by
  obtain ⟨_, ⟨_, _, ⟨rfl, _⟩, ⟨rfl, _⟩, rfl⟩, hsizeTokens⟩ := hsize.spaced hblank.1 hblank.2
  obtain ⟨_, ⟨xs, ys, hx, hy, rfl⟩, hpositionTokens⟩ := hposition.spaced hblank'.1 hblank'.2
  have hmarks := matched_of_classify hform
  simp only [Form.matchedBy, Bool.and_eq_true] at hmarks
  -- the sign may stand in front of the other mark, but then there is no position
  have hat : Text.contains Form.atSign (Text.cut Form.defines line).2 = true := by
    refine Classical.byContradiction fun hnone => hposition.ne_nil scans_position ?_
    rw [positionPart, Text.cut_of_not_contains hnone]
  have hrest := spaced_of_cut hat hsizeTokens hpositionTokens
  exact .definition hname hrows hcols hx hy (spaced_of_cut hmarks.1 hbefore hrest)

theorem written_arrow {source target : Place} {f b f' b' : List Char}
    (hform : classify line = some .arrow) (hsource : source.FirstIn (sourcePart line) f b)
    (htarget : target.FirstIn (targetPart line) f' b') (hblank : AllBlank f ∧ AllBlank b)
    (hblank' : AllBlank f' ∧ AllBlank b') :
    Sentence.Written (.arrow source target (String.ofList (arrowColour line))) line := by
  obtain ⟨ts, hts, hfront⟩ := hsource.spaced hblank.1 hblank.2
  obtain ⟨us, hus, hbehind⟩ := htarget.spaced hblank'.1 hblank'.2
  have hmarks := matched_of_classify hform
  simp only [Form.matchedBy, Bool.and_eq_true] at hmarks
  rw [sourcePart] at hfront
  rw [targetPart] at hbehind
  by_cases hcolon : Text.contains Form.colon (Text.cut Form.pointsTo line).2 = true
  · obtain ⟨head, hhead, hrest⟩ := spaced_front_of_cut hcolon hbehind
    have hline : (Text.cut Form.pointsTo line).1 ++ (Form.pointsTo ++ head) ++ arrowColour line =
        line := by
      rw [List.append_assoc, List.append_assoc, arrowColour, ← hrest, ← List.append_assoc,
        Text.cut_append hmarks.1]
    have hwritten : Sentence.Written (.arrow source target (String.ofList (arrowColour line)))
        ((Text.cut Form.pointsTo line).1 ++ (Form.pointsTo ++ head) ++
          (String.ofList (arrowColour line)).toList) :=
      .arrow hts hus (hfront.append ((Spaced.token Form.pointsTo).append hhead))
    rwa [String.toList_ofList, hline] at hwritten
  · rw [Text.cut_of_not_contains hcolon] at hbehind
    have hnone : arrowColour line = [] := by
      rw [arrowColour, Text.cut_of_not_contains hcolon]
    rw [hnone]
    exact .plainArrow hts hus (spaced_of_cut hmarks.1 hfront hbehind)

theorem front_of_cell {p : Place} {mark f b : List Char} (hmark : Text.contains mark line = true)
    (hp : p.FirstIn (cellPart mark line) f b) (hblank : AllBlank f ∧ AllBlank b) :
    ∃ ts head, p.Tokens ts ∧ Spaced (ts ++ [mark]) head ∧
      line = head ++ (Text.cut mark line).2 := by
  obtain ⟨ts, hts, hfront⟩ := hp.spaced hblank.1 hblank.2
  obtain ⟨head, hhead, hline⟩ := spaced_front_of_cut hmark hfront
  exact ⟨ts, head, hts, hhead, hline⟩

/-- And where nothing but white space strays in a line, it is of the form of the sentence. -/
theorem written_of_blank (hfound : s.FoundIn line strays) (hrun : s.run d = .ok effect)
    (hblank : ∀ t ∈ strays, AllBlank t) : s.Written line := by
  cases hfound with
  | definition hform hname hbefore hsize hrows hcols hposition =>
    simp only [List.forall_mem_cons] at hblank
    obtain ⟨hf, hb, hf', hb', _⟩ := hblank
    exact written_definition hform hname hbefore hsize hrows hcols hposition ⟨hf, hb⟩ ⟨hf', hb'⟩
  | arrow hform hsource htarget =>
    simp only [List.forall_mem_cons] at hblank
    obtain ⟨hf, hb, hf', hb', _⟩ := hblank
    exact written_arrow hform hsource htarget ⟨hf, hb⟩ ⟨hf', hb'⟩
  | @colour p f b hform hp =>
    simp only [List.forall_mem_cons] at hblank
    obtain ⟨hf, hb, _⟩ := hblank
    have hmarks := matched_of_classify hform
    simp only [Form.matchedBy, Bool.and_eq_true] at hmarks
    obtain ⟨ts, head, hts, hhead, hline⟩ := front_of_cell hmarks.1.1 hp ⟨hf, hb⟩
    have hwritten : Sentence.Written (.colour p (String.ofList (cellColour line)))
        (head ++ (String.ofList (cellColour line)).toList) := .colour hts hhead
    rwa [String.toList_ofList, cellColour, ← hline] at hwritten
  | @value p f b hform hp =>
    simp only [List.forall_mem_cons] at hblank
    obtain ⟨hf, hb, _⟩ := hblank
    have hmarks := matched_of_classify hform
    simp only [Form.matchedBy, Bool.and_eq_true] at hmarks
    obtain ⟨ts, head, hts, hhead, hline⟩ := front_of_cell hmarks.1.1 hp ⟨hf, hb⟩
    -- what is not a number cannot be put into a cell
    obtain ⟨_, _, hvalue⟩ := bind_eq_ok.mp hrun
    obtain ⟨v, hnumber, _⟩ := bind_eq_ok.mp hvalue
    obtain ⟨l, t, hl, ht⟩ := spaced_of_number hnumber
    have hwritten : Sentence.Written (.value p (String.ofList (valuePart line)))
        (head ++ (String.ofList (valuePart line)).toList) := .value hts hhead hl ht
    rwa [String.toList_ofList, valuePart, ← hline] at hwritten

end

/-! ## 5. What is executed -/

/-- **A line is executed exactly where a sentence is found in it that can be done, and it is that
sentence that is done.** The line is of the form of the sentence, all of it, exactly if nothing but
white space strays in it: then the cells that the command speaks of are those that the line spells,
and otherwise they are the first that could be found. -/
theorem executed_iff (d : Drawing) (line : List Char) (effect : Effect) :
    (execute d line = .ok effect ↔
      ∃ s strays, Sentence.FoundIn line s strays ∧ s.run d = .ok effect) ∧
    ∀ s strays, Sentence.FoundIn line s strays → s.run d = .ok effect →
      (s.Written line ↔ ∀ t ∈ strays, AllBlank t) := by
  constructor
  · constructor
    · exact found_of_execute
    · rintro ⟨s, strays, hfound, hrun⟩
      exact (execute_found d hfound).trans hrun
  · intro s strays hfound hrun
    exact ⟨blank_of_written hfound, written_of_blank hfound hrun⟩

/-! ### A third index -/

/-- A cell has an opening bracket for each of its indices. -/
theorem Place.Tokens.count {p : Place} {ts : List (List Char)} (h : p.Tokens ts) :
    ts.flatten.count '[' = 2 := by
  obtain ⟨row, col, hrow, hcol, rfl⟩ := h.tokens
  have hname : p.name.toList.count '[' = 0 :=
    List.count_eq_zero.mpr fun hmem => absurd (h.isName.chars _ hmem) (by decide)
  have hdigits : ∀ {ds : List Char} {n : Nat}, IsNumeral ds n → ds.count '[' = 0 :=
    fun hds => List.count_eq_zero.mpr fun hmem => absurd (hds.digits _ hmem) (by decide)
  simp [cellTokens, hname, hdigits hrow, hdigits hcol]

theorem Literal.Spells.count {l : Literal} {t : List Char} (h : l.Spells t) :
    t.count '[' = 0 := by
  have hwhole : '[' ∉ l.whole := fun hmem => absurd (h.whole _ hmem) (by decide)
  have hplaces : '[' ∉ l.places.getD [] := fun hmem => absurd (h.places _ hmem) (by decide)
  have hpointed : '[' ∉ l.pointed := by
    unfold Literal.pointed
    cases hp : l.places with
    | none => simp
    | some ds => simpa [hp] using hplaces
  obtain ⟨sign, hsign, rfl⟩ := h.text
  have hsign : '[' ∉ sign := by
    rcases hsign with ⟨_, rfl⟩ | ⟨_, hsign⟩
    · decide
    · rcases List.mem_cons.mp hsign with rfl | hsign
      · decide
      · obtain rfl := List.mem_singleton.mp hsign
        decide
  simp [List.count_eq_zero, hsign, hwhole, hpointed]

/-- A line that is of a form and has neither a colon nor an arrow is that of a value, and has the
brackets of one cell. -/
theorem brackets_of_written {s : Sentence} {line : List Char} (h : s.Written line)
    (hcolon : ':' ∉ line) (hto : '>' ∉ line) : line.count '[' = 2 := by
  cases h with
  | definition _ _ _ _ _ h =>
    exact absurd (h.mem_of_token (t := [':', '=']) (by simp [definitionTokens]) (by simp)) hcolon
  | plainArrow _ _ h =>
    exact absurd (h.mem_of_token (t := ['-', '>']) (by simp) (by simp)) hto
  | arrow _ _ h =>
    have hhead := h.mem_of_token (t := ['-', '>']) (c := '>') (by simp [arrowTokens]) (by simp)
    exact absurd (List.mem_append_left _ hhead) hto
  | colour _ h =>
    have hhead := h.mem_of_token (t := [':']) (c := ':') (by simp) (by simp)
    exact absurd (List.mem_append_left _ hhead) hcolon
  | value hp h hl hvalue =>
    rw [List.count_append, h.count (by decide), hvalue.count (by decide)]
    simp [hp.count, hl.count]

/-- A command with an index too many. -/
def thirdIndex : List Char :=
  "A[0][0][1] = 5".toList

theorem executed_thirdIndex : ∃ effect, execute Scene.initial thirdIndex = .ok effect := by
  have hform : classify thirdIndex = some .cellValue := rfl
  have href : cell (Text.cut Form.equals thirdIndex).1 "Cell" = .ok (.ofText "A" 0 0) := rfl
  have hvalue : number (Text.cut Form.equals thirdIndex).2 = .ok (.int 5) := rfl
  have hfind : Scene.initial.matrices.find? (.str "A") = some
      (.sized 3 3 (Grid.ofInts (Grid.filled .sequential 3 3)) ⟨0.0, 0.0⟩) := by
    simp [Scene.initial]
  have hcell := Drawing.requireCell_of_find? (r := .ofText "A" 0 0) rfl hfind
    (Matrix.contains_sized 3 3 _ _ 0 0) "Cell"
  rw [execute, hform]
  simp only [setValue, href, assign, hcell, hvalue, bind, Except.bind]
  exact ⟨_, rfl⟩

/-- It is executed, and it is of no form. -/
theorem executed_unwritten :
    ¬ ∀ d line effect, execute d line = .ok effect → ∃ s : Sentence, s.Written line := by
  intro h
  obtain ⟨effect, heffect⟩ := executed_thirdIndex
  obtain ⟨s, hs⟩ := h Scene.initial thirdIndex effect heffect
  have hcount := brackets_of_written hs (by decide) (by decide)
  exact absurd hcount (by decide)

end Command

end GridSketch
