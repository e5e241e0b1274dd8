import GridSketch.Proofs.Command.Reading

/-!
# What a well-spelled line does

A command says something (`Sentence`), and a line spells it (`Sentence.SpelledBy`). What a sentence
says is done by the operations of `Command.Line` that know nothing of lines (`Sentence.run`).

A line is told apart by marks that may stand anywhere in it, and its colour or its value may be any
text. So that a line is taken for what it looks like needs a word on that text: a colour must not
hold the sign or the arrow that would make the line a definition or an arrow, and a value must not
hold a colon. With that, a line does what the sentence says that it spells (`execute_spelled`), and
no other module has to do with parsing.
-/

set_option autoImplicit false

namespace GridSketch.Command

open Text (isBlank isDigit)

/-! ## 1. Forms -/

theorem classify_definition {cs : List Char} (hd : Text.contains [':', '='] cs = true)
    (hat : Text.contains ['@'] cs = true) : classify cs = some .definition := by
  simp [classify, Form.ofMarks?, Form.all, Form.matchedBy, Form.defines, Form.atSign, hd, hat]

theorem classify_arrow {cs : List Char} (hat : '@' ∉ cs)
    (hto : Text.contains ['-', '>'] cs = true) (ho : '[' ∈ cs) (hc : ']' ∈ cs) :
    classify cs = some .arrow := by
  simp [classify, Form.ofMarks?, Form.all, Form.matchedBy, Form.defines, Form.atSign,
    Form.pointsTo, Form.hasBrackets, Text.contains_singleton, hat, hto, ho, hc]

theorem classify_cellColour {cs : List Char} (hat : '@' ∉ cs)
    (hto : Text.contains ['-', '>'] cs = false) (hcolon : ':' ∈ cs) (ho : '[' ∈ cs)
    (hc : ']' ∈ cs) : classify cs = some .cellColour := by
  simp [classify, Form.ofMarks?, Form.all, Form.matchedBy, Form.defines, Form.atSign,
    Form.pointsTo, Form.colon, Form.hasBrackets, Text.contains_singleton, hat, hto, hcolon, ho, hc]

theorem classify_cellValue {cs : List Char} (hcolon : ':' ∉ cs)
    (hto : Text.contains ['-', '>'] cs = false) (heq : '=' ∈ cs) (ho : '[' ∈ cs)
    (hc : ']' ∈ cs) : classify cs = some .cellValue := by
  have hdefines : Text.contains [':', '='] cs = false := Text.contains_of_not_mem hcolon
  simp [classify, Form.ofMarks?, Form.all, Form.matchedBy, Form.defines, Form.atSign,
    Form.pointsTo, Form.colon, Form.equals, Form.hasBrackets, Text.contains_singleton, hdefines,
    hcolon, hto, heq, ho, hc]

/-! ### The parts of a line -/

/-- The parts of a definition: what the matrix is called, its size and where it stands. -/
def namePart (line : List Char) : List Char :=
  (Text.cut Form.defines line).1
def sizePart (line : List Char) : List Char :=
  (Text.cut Form.atSign (Text.cut Form.defines line).2).1
def positionPart (line : List Char) : List Char :=
  (Text.cut Form.atSign (Text.cut Form.defines line).2).2

/-- The parts of a line for an arrow: its two ends and its colour. -/
def sourcePart (line : List Char) : List Char :=
  (Text.cut Form.pointsTo line).1
def targetPart (line : List Char) : List Char :=
  (Text.cut Form.colon (Text.cut Form.pointsTo line).2).1

/-- What stands before and after the mark of a line for a cell. -/
def cellPart (mark line : List Char) : List Char :=
  (Text.cut mark line).1
def valuePart (line : List Char) : List Char :=
  (Text.cut Form.equals line).2

/-- The colour of an arrow, and that of a cell. -/
def arrowColour (line : List Char) : List Char :=
  (Text.cut Form.colon (Text.cut Form.pointsTo line).2).2
def cellColour (line : List Char) : List Char :=
  (Text.cut Form.colon line).2

/-! ## 2. Sentences -/

/-- A cell as a command speaks of it. -/
structure Place where
  name : String
  row : Nat
  col : Nat

def Place.ref (p : Place) : CellRef :=
  .ofText p.name p.row p.col

/-- What a command says. A colour or a value is the text that stands behind its mark. -/
inductive Sentence where
  | definition (name : String) (rows cols : Nat) (x y : Literal)
  | arrow (source target : Place) (colour : String)
  | colour (cell : Place) (colour : String)
  | value (cell : Place) (value : String)

/-- Does what a sentence says. -/
def Sentence.run (d : Drawing) : Sentence → Except Fault Effect
  | .definition name rows cols x y => create d name rows cols ⟨x.toFloat, y.toFloat⟩
  | .arrow source target text => join d source.ref target.ref text.toList
  | .colour cell text => tint d cell.ref text.toList
  | .value cell text => assign d cell.ref text.toList

/-- Tokens spell a cell: a name, and two numerals in brackets. -/
structure Place.SpelledBy (p : Place) (ts : List (List Char)) : Prop where
  wellFormed : Name.WellFormed p.name
  tokens : ∃ row col, IsNumeral row p.row ∧ IsNumeral col p.col ∧
    ts = cellTokens p.name.toList row col

def definitionTokens (name rows cols x y : List Char) : List (List Char) :=
  [name] ++ [':', '='] :: (pairTokens '[' ']' rows cols ++ ['@'] :: pairTokens '(' ')' x y)

/-- The tokens of an arrow, up to its colour. -/
def arrowTokens (source target : List (List Char)) : List (List Char) :=
  source ++ ['-', '>'] :: (target ++ [[':']])

/-- A line spells a sentence: it is the tokens of the sentence, and then the colour or the value. -/
inductive Sentence.SpelledBy : Sentence → List Char → Prop where
  | definition {name : String} {rows cols : Nat} {x y : Literal} {rs cs xs ys line : List Char}
      (hname : Name.WellFormed name) (hrows : IsNumeral rs rows) (hcols : IsNumeral cs cols)
      (hx : x.Spells xs) (hy : y.Spells ys)
      (h : Spaced (definitionTokens name.toList rs cs xs ys) line) :
      SpelledBy (.definition name rows cols x y) line
  | arrow {source target : Place} {ts us : List (List Char)} {head : List Char} {text : String}
      (hsource : source.SpelledBy ts) (htarget : target.SpelledBy us)
      (h : Spaced (arrowTokens ts us) head) (hat : '@' ∉ text.toList) :
      SpelledBy (.arrow source target text) (head ++ text.toList)
  | colour {p : Place} {ts : List (List Char)} {head : List Char} {text : String}
      (hp : p.SpelledBy ts) (h : Spaced (ts ++ [[':']]) head) (hat : '@' ∉ text.toList)
      (hto : Text.contains ['-', '>'] text.toList = false) :
      SpelledBy (.colour p text) (head ++ text.toList)
  | value {p : Place} {ts : List (List Char)} {head : List Char} {text : String}
      (hp : p.SpelledBy ts) (h : Spaced (ts ++ [['=']]) head) (hcolon : ':' ∉ text.toList)
      (hto : Text.contains ['-', '>'] text.toList = false) :
      SpelledBy (.value p text) (head ++ text.toList)

/-! ## 3. Cells and names -/

/-- The characters of cells, and white space. -/
def isCellChar (x : Char) : Bool :=
  isBlank x || Name.isNameChar x || isDigit x || x == '[' || x == ']'

theorem isBlank_of_isCellChar {x : Char} (h : isCellChar x = false) : isBlank x = false := by
  simp only [isCellChar, Bool.or_eq_false_iff] at h
  exact h.1.1.1.1

/-- The tokens of a cell, be its name a reserved word or not. -/
structure Place.Tokens (p : Place) (ts : List (List Char)) : Prop where
  isName : IsName p.name.toList
  tokens : ∃ row col, IsNumeral row p.row ∧ IsNumeral col p.col ∧
    ts = cellTokens p.name.toList row col

theorem Place.SpelledBy.toTokens {p : Place} {ts : List (List Char)} (h : p.SpelledBy ts) :
    p.Tokens ts :=
  ⟨isName_of_wellFormed h.wellFormed, h.tokens⟩

namespace Place.Tokens

variable {p : Place} {ts : List (List Char)}

theorem cell (h : p.Tokens ts) {cs : List Char} (hcs : Spaced ts cs) (role : String) :
    Command.cell cs role = .ok p.ref := by
  obtain ⟨row, col, hrow, hcol, rfl⟩ := h.tokens
  exact cell_spaced hcs h.isName hrow hcol role

theorem not_mem (h : p.Tokens ts) {x : Char} (hx : isCellChar x = false) :
    ∀ t ∈ ts, x ∉ t := by
  obtain ⟨row, col, hrow, hcol, rfl⟩ := h.tokens
  simp only [isCellChar, Bool.or_eq_false_iff, beq_eq_false_iff_ne] at hx
  obtain ⟨⟨⟨⟨_, hn⟩, hd⟩, ho⟩, hc⟩ := hx
  have hnumeral : ∀ {ds : List Char} {n : Nat}, IsNumeral ds n → x ∉ ds := by
    intro ds n h hx
    rw [h.digits x hx] at hd
    exact nomatch hd
  have hname : x ∉ p.name.toList := by
    intro hx
    rw [h.isName.chars x hx] at hn
    exact nomatch hn
  simp [cellTokens, hname, ho, hc, hnumeral hrow, hnumeral hcol]

theorem brackets (h : p.Tokens ts) {us : List (List Char)} {cs : List Char}
    (hcs : Spaced (ts ++ us) cs) : '[' ∈ cs ∧ ']' ∈ cs := by
  obtain ⟨row, col, _, _, rfl⟩ := h.tokens
  have hopen : ['['] ∈ cellTokens p.name.toList row col ++ us := by simp [cellTokens]
  have hclose : [']'] ∈ cellTokens p.name.toList row col ++ us := by simp [cellTokens]
  exact ⟨hcs.mem_of_token hopen List.mem_cons_self, hcs.mem_of_token hclose List.mem_cons_self⟩

/-- A cell with a mark behind it has no other characters than those of cells. -/
theorem not_mem_marked (h : p.Tokens ts) {mark x : Char} {cs : List Char}
    (hcs : Spaced (ts ++ [[mark]]) cs) (hx : isCellChar x = false) (hmark : x ≠ mark) :
    x ∉ cs := by
  apply hcs.not_mem (isBlank_of_isCellChar hx)
  intro t ht
  rcases List.mem_append.mp ht with ht | ht
  · exact h.not_mem hx t ht
  · obtain rfl := List.mem_singleton.mp ht
    simpa using hmark

end Place.Tokens

theorem trim_name {name : String} (h : Name.WellFormed name) :
    Text.trim name.toList = name.toList :=
  Text.trim_of_not_blank fun c hc => Text.isBlank_of_isNameChar (h.chars c hc)

theorem name_spaced {name : String} {cs : List Char} (h : Spaced [name.toList] cs)
    (hname : Name.WellFormed name) :
    Name.validate (.str (String.ofList (Text.trim cs))) = .ok name := by
  have htrim : Text.trim cs = name.toList := by
    cases h with
    | cons hg hrest =>
      rw [Text.trim_append hg, Text.trim_append_blank hrest.allBlank, trim_name hname]
  rw [htrim, String.ofList_toList, hname.validate]

theorem clean_name {name : String} (h : Name.WellFormed name) :
    Name.clean (.str name) = .ok name := by
  have htyped : (Json.str name).typed = pure name := rfl
  have htrim : Text.trimmed name = name := by
    rw [Text.trimmed, trim_name h, String.ofList_toList]
  have hne : name ≠ "" := by
    intro hempty
    exact h.ne_nil (by rw [hempty]; rfl)
  rw [Name.clean, htyped, pure_bind, htrim, if_neg hne, h.validate]

/-! ## 4. Lines -/

section

variable {d : Drawing} {g cs : List Char}

/-- White space behind the last mark does not matter. -/
theorem join_blank {source target : CellRef} (hg : Text.AllBlank g) :
    join d source target (g ++ cs) = join d source target cs := by
  rw [join, join, plainArrow, plainArrow, colourOr, colourOr, Text.trim_append hg]

theorem tint_blank {r : CellRef} (hg : Text.AllBlank g) : tint d r (g ++ cs) = tint d r cs := by
  rw [tint, tint, Text.trim_append hg]

theorem assign_blank {r : CellRef} (hg : Text.AllBlank g) :
    assign d r (g ++ cs) = assign d r cs := by
  rw [assign, assign, number, number, Text.trim_append hg]

end

variable {d : Drawing}

/-- The parts of a line that is the tokens of a definition are the tokens of its parts. -/
theorem parts_definition {name rs cs xs ys line : List Char} (hname : IsName name)
    (hrows : IsDigits rs) (hcols : IsDigits cs) (h : Spaced (definitionTokens name rs cs xs ys) line) :
    Text.contains [':', '='] line = true ∧ Spaced [name] (namePart line) ∧
      Spaced (pairTokens '[' ']' rs cs) (sizePart line) ∧
      Spaced (pairTokens '(' ')' xs ys) (positionPart line) := by
  have hcolon : ∀ t ∈ [name], ':' ∉ t := by
    intro t ht hmem
    obtain rfl := List.mem_singleton.mp ht
    exact absurd (hname.chars _ hmem) (by decide)
  have hat : ∀ t ∈ pairTokens '[' ']' rs cs, '@' ∉ t := by
    have hdigits : ∀ {ds : List Char}, IsDigits ds → '@' ∉ ds :=
      fun hds hmem => absurd (hds.digits _ hmem) (by decide)
    simp [pairTokens, hdigits hrows, hdigits hcols]
  obtain ⟨hdefines, front, rest, hfront, hrest, hcut⟩ := cut_spaced h (by decide) hcolon []
  obtain ⟨_, size, position, hsize, hposition, hcut'⟩ := cut_spaced hrest (by decide) hat []
  simp only [List.append_nil] at hdefines hcut hcut'
  rw [namePart, sizePart, positionPart, Form.defines, Form.atSign, hcut, hcut']
  exact ⟨hdefines, hfront, hsize, hposition⟩

/-- In front of a colour, the parts of a line that is the tokens of an arrow are its ends. -/
theorem parts_arrow {source target : Place} {ts us : List (List Char)} {head : List Char}
    (hsource : source.Tokens ts) (htarget : target.Tokens us) (h : Spaced (arrowTokens ts us) head)
    (colour : List Char) :
    Text.contains ['-', '>'] (head ++ colour) = true ∧
      Spaced ts (sourcePart (head ++ colour)) ∧ Spaced us (targetPart (head ++ colour)) ∧
      ∃ gap, Text.AllBlank gap ∧ arrowColour (head ++ colour) = gap ++ colour := by
  obtain ⟨hto, front, rest, hfront, hrest, hcut⟩ :=
    cut_spaced h (by decide) (hsource.not_mem (by decide)) colour
  obtain ⟨_, behind, gap, hbehind, hgap, hcut'⟩ :=
    cut_spaced hrest (by decide) (htarget.not_mem (by decide)) colour
  rw [sourcePart, targetPart, arrowColour, Form.pointsTo, Form.colon, hcut, hcut']
  exact ⟨hto, hfront, hbehind, gap, hgap.allBlank, rfl⟩

/-- In front of a text, a line that is the tokens of a cell and a mark is cut at the mark. -/
theorem parts_cell {p : Place} {ts : List (List Char)} {mark : Char} {head : List Char}
    (hp : p.Tokens ts) (h : Spaced (ts ++ [[mark]]) head) (hmark : isCellChar mark = false)
    (text : List Char) :
    Text.contains [mark] (head ++ text) = true ∧ Spaced ts (cellPart [mark] (head ++ text)) ∧
      ∃ gap, Text.AllBlank gap ∧ (Text.cut [mark] (head ++ text)).2 = gap ++ text := by
  obtain ⟨hcontains, front, gap, hfront, hgap, hcut⟩ :=
    cut_spaced h (isBlank_of_isCellChar hmark) (hp.not_mem hmark) text
  rw [cellPart, hcut]
  exact ⟨hcontains, hfront, gap, hgap.allBlank, rfl⟩

theorem execute_definition {name : String} {rows cols : Nat} {x y : Literal}
    {rs cs xs ys line : List Char} (hname : Name.WellFormed name) (hrows : IsNumeral rs rows)
    (hcols : IsNumeral cs cols) (hx : x.Spells xs) (hy : y.Spells ys)
    (h : Spaced (definitionTokens name.toList rs cs xs ys) line) :
    execute d line = create d name rows cols ⟨x.toFloat, y.toFloat⟩ := by
  obtain ⟨hdefines, hfront, hsize, hposition⟩ :=
    parts_definition (isName_of_wellFormed hname) hrows.isDigits hcols.isDigits h
  have hvalid := name_spaced hfront hname
  have hsize := size_spaced hsize hrows hcols
  have hposition := position_spaced hposition hx hy
  rw [namePart] at hvalid
  rw [sizePart] at hsize
  rw [positionPart] at hposition
  have htoken : ['@'] ∈ definitionTokens name.toList rs cs xs ys := by simp [definitionTokens]
  have hsign : '@' ∈ line := h.mem_of_token htoken List.mem_cons_self
  have hform : classify line = some .definition :=
    classify_definition hdefines (by simp [Text.contains_singleton, hsign])
  simp [execute, hform, define, hvalid, hsize, hposition, bind, Except.bind]

theorem execute_arrow {source target : Place} {ts us : List (List Char)} {head colour : List Char}
    (hsource : source.Tokens ts) (htarget : target.Tokens us)
    (h : Spaced (arrowTokens ts us) head) (hat : '@' ∉ colour) :
    execute d (head ++ colour) = join d source.ref target.ref colour := by
  obtain ⟨hto, hfront, hbehind, gap, hgap, hcolour⟩ := parts_arrow hsource htarget h colour
  have hfront := hsource.cell hfront "Source"
  have hbehind := htarget.cell hbehind "Target"
  rw [sourcePart] at hfront
  rw [targetPart] at hbehind
  rw [arrowColour] at hcolour
  have hhead : '@' ∉ head := by
    apply h.not_mem (by decide)
    intro t ht
    simp only [arrowTokens, List.mem_append, List.mem_cons, List.not_mem_nil, or_false] at ht
    rcases ht with ht | rfl | ht | rfl
    · exact hsource.not_mem (by decide) t ht
    · decide
    · exact htarget.not_mem (by decide) t ht
    · decide
  obtain ⟨hopen, hclose⟩ := hsource.brackets h
  have hform : classify (head ++ colour) = some .arrow :=
    classify_arrow (by simp [hhead, hat]) hto (List.mem_append_left _ hopen)
      (List.mem_append_left _ hclose)
  simp [execute, hform, addArrow, hfront, hbehind, hcolour, join_blank hgap, bind, Except.bind]

theorem execute_colour {p : Place} {ts : List (List Char)} {head colour : List Char}
    (hp : p.Tokens ts) (h : Spaced (ts ++ [[':']]) head) (hat : '@' ∉ colour)
    (hto : Text.contains ['-', '>'] colour = false) :
    execute d (head ++ colour) = tint d p.ref colour := by
  obtain ⟨hcolon, hfront, gap, hgap, hbehind⟩ := parts_cell hp h (by decide) colour
  have hfront := hp.cell hfront "Cell"
  rw [cellPart] at hfront
  have hat' : '@' ∉ head ++ colour := by
    simp [hp.not_mem_marked h (x := '@') (by decide) (by decide), hat]
  have hto' : Text.contains ['-', '>'] (head ++ colour) = false := by
    rw [Text.contains_append (hp.not_mem_marked h (by decide) (by decide)), hto]
  obtain ⟨hopen, hclose⟩ := hp.brackets h
  have hform : classify (head ++ colour) = some .cellColour :=
    classify_cellColour hat' hto' (by simpa [Text.contains_singleton] using hcolon)
      (List.mem_append_left _ hopen) (List.mem_append_left _ hclose)
  simp [execute, hform, colourCell, Form.colon, hfront, hbehind, tint_blank hgap, bind, Except.bind]

theorem execute_value {p : Place} {ts : List (List Char)} {head value : List Char}
    (hp : p.Tokens ts) (h : Spaced (ts ++ [['=']]) head) (hcolon : ':' ∉ value)
    (hto : Text.contains ['-', '>'] value = false) :
    execute d (head ++ value) = assign d p.ref value := by
  obtain ⟨hequals, hfront, gap, hgap, hbehind⟩ := parts_cell hp h (by decide) value
  have hfront := hp.cell hfront "Cell"
  rw [cellPart] at hfront
  have hcolon' : ':' ∉ head ++ value := by
    simp [hp.not_mem_marked h (x := ':') (by decide) (by decide), hcolon]
  have hto' : Text.contains ['-', '>'] (head ++ value) = false := by
    rw [Text.contains_append (hp.not_mem_marked h (by decide) (by decide)), hto]
  obtain ⟨hopen, hclose⟩ := hp.brackets h
  have hform : classify (head ++ value) = some .cellValue :=
    classify_cellValue hcolon' hto' (by simpa [Text.contains_singleton] using hequals)
      (List.mem_append_left _ hopen) (List.mem_append_left _ hclose)
  simp [execute, hform, setValue, Form.equals, hfront, hbehind, assign_blank hgap, bind,
    Except.bind]

/-- A line does what the sentence says that it spells. -/
theorem execute_spelled {s : Sentence} {line : List Char} (h : s.SpelledBy line) :
    execute d line = s.run d := by
  cases h with
  | definition hname hrows hcols hx hy h => exact execute_definition hname hrows hcols hx hy h
  | arrow hsource htarget h hat => exact execute_arrow hsource.toTokens htarget.toTokens h hat
  | colour hp h hat hto => exact execute_colour hp.toTokens h hat hto
  | value hp h hcolon hto => exact execute_value hp.toTokens h hcolon hto

end GridSketch.Command
