import BrickFormula.Proofs.Formula.Renaming

/-!
# Rows of tokens

The brackets of a row match, whatever the shape of the formula.  Operands that stand where an element
shows none are left out of the row; where there are no such operands every element is in it with a
token of its own, so the row tells which kinds and names there are.

    WellNested kinds       brackets are closed in turn
    isOrdinary             brackets have no left operand and leaves no operands
    marks t                the elements in display order, with their paths and own tokens
    marks_filter           every element is there once
    filter_isMark_tokens   the row without the punctuation of calls
    tokens_complete        what a row of tokens tells
-/

namespace BrickFormula

/-! ## Brackets -/

namespace TokenKind

/-- Closing brackets stand where they are awaited, and in the end none is. -/
def fits : (awaited kinds : List TokenKind) → Bool
  | awaited, [] => awaited.isEmpty
  | awaited, .bracketOpen :: kinds => fits (.bracketClose :: awaited) kinds
  | awaited, .functionParametersBracketOpen :: kinds =>
    fits (.functionParametersBracketClose :: awaited) kinds
  | a :: awaited, .bracketClose :: kinds => a = .bracketClose && fits awaited kinds
  | a :: awaited, .functionParametersBracketClose :: kinds =>
    a = .functionParametersBracketClose && fits awaited kinds
  | [], .bracketClose :: _ | [], .functionParametersBracketClose :: _ => false
  | awaited, _ :: kinds => fits awaited kinds

/-- Every bracket is closed by one of its kind, after all brackets within. -/
def WellNested (kinds : List TokenKind) : Prop := fits [] kinds = true

instance (kinds : List TokenKind) : Decidable (WellNested kinds) :=
  inferInstanceAs (Decidable (_ = true))

/-- A row that closes what it opens, in the middle of any other. -/
def Closed (kinds : List TokenKind) : Prop :=
  ∀ awaited rest, fits awaited (kinds ++ rest) = fits awaited rest

theorem closed_nil : Closed [] := fun _ _ => rfl

theorem Closed.append {kinds kinds' : List TokenKind} (h : Closed kinds) (h' : Closed kinds') :
    Closed (kinds ++ kinds') := by
  intro awaited rest
  rw [List.append_assoc, h, h']

/-- Kinds of tokens that are no brackets. -/
def isPlain : TokenKind → Bool
  | .bracketOpen | .bracketClose | .functionParametersBracketOpen
  | .functionParametersBracketClose => false
  | _ => true

theorem closed_plain {kind : TokenKind} (h : kind.isPlain = true) : Closed [kind] := by
  intro awaited rest
  cases kind with
  | bracketOpen | bracketClose | functionParametersBracketOpen
  | functionParametersBracketClose => cases h
  | _ => cases awaited <;> rfl

theorem Closed.bracket {kinds : List TokenKind} (h : Closed kinds) :
    Closed (.bracketOpen :: kinds ++ [.bracketClose]) := by
  intro awaited rest
  rw [List.append_assoc, List.cons_append, fits, h]
  rfl

theorem Closed.parameters {kinds : List TokenKind} (h : Closed kinds) :
    Closed (.functionParametersBracketOpen :: kinds ++ [.functionParametersBracketClose]) := by
  intro awaited rest
  rw [List.append_assoc, List.cons_append, fits, h]
  rfl

theorem Closed.wellNested {kinds : List TokenKind} (h : Closed kinds) : WellNested kinds := by
  have hkinds := h [] []
  rw [List.append_nil] at hkinds
  exact hkinds

end TokenKind

namespace Formula
open TokenKind

/-- The kinds of a row of tokens. -/
def kindsOf (tokens : List Token) : List TokenKind := tokens.map Token.kind

section
variable {left right : Option (List Token)}

theorem closed_getD (h : ∀ tokens ∈ left, Closed (kindsOf tokens)) :
    Closed (kindsOf (left.getD [])) := by
  cases left with
  | none => exact closed_nil
  | some tokens => exact h tokens rfl

theorem closed_callTokens (text : String) (hl : ∀ tokens ∈ left, Closed (kindsOf tokens))
    (hr : ∀ tokens ∈ right, Closed (kindsOf tokens)) :
    Closed (kindsOf (callTokens text left right)) := by
  have hname : Closed [.functionName] := closed_plain rfl
  have hdelimited : Closed (kindsOf
      (right.elim [] fun tokens => ⟨.functionParameterDelimiter, ""⟩ :: tokens)) := by
    cases right with
    | none => exact closed_nil
    | some tokens => exact .append (closed_plain rfl) (hr tokens rfl)
  cases left with
  | none =>
    have hrow := hname.append hdelimited
    simpa [callTokens, kindsOf] using hrow
  | some tokens =>
    have hrow := hname.append ((hl tokens rfl).append hdelimited).parameters
    simpa [callTokens, kindsOf] using hrow

/-- An element closes what it opens if its operands do. -/
theorem closed_nodeTokens (kind : Kind) (text : String)
    (hl : ∀ tokens ∈ left, Closed (kindsOf tokens))
    (hr : ∀ tokens ∈ right, Closed (kindsOf tokens)) :
    Closed (kindsOf (nodeTokens kind text left right)) := by
  cases kind with
  | bracket => simpa [nodeTokens, kindsOf] using (closed_getD hr).bracket
  | operator =>
    have hoperator : Closed [.operator] := closed_plain rfl
    simpa [nodeTokens, operatorTokens, kindsOf] using
      ((closed_getD hl).append hoperator).append (closed_getD hr)
  | function => exact closed_callTokens text hl hr
  | _ => exact closed_plain rfl

end

theorem closed_tokens? (t : Formula) : ∀ tokens ∈ t.tokens?, Closed (kindsOf tokens) := by
  induction t with
  | empty => exact nofun
  | node kind text left right ihl ihr =>
    rintro _ ⟨⟩
    exact closed_nodeTokens kind (text.getD "") ihl ihr

theorem wellNested_tokens (t : Formula) : WellNested (kindsOf t.tokens) :=
  (closed_getD t.closed_tokens?).wellNested

/-! ## Elements on display -/

/-- Brackets have no left operand, and elements of leaf kinds have no operands. -/
def isOrdinary : Formula → Bool
  | .empty => true
  | .node kind _ left right =>
    (kind ≠ .bracket || left.isEmpty) && (!kind.isLeaf || left.isEmpty && right.isEmpty) &&
      left.isOrdinary && right.isOrdinary

end Formula

/-- The kind of the token of an element; a bracket has two of them, of which this is the first. -/
def Kind.tokenKind : Kind → TokenKind
  | .operator => .operator
  | .function => .functionName
  | .number => .number
  | .sensor => .sensor
  | .userVariable => .userVariable
  | .userList => .userList
  | .bracket => .bracketOpen
  | .string => .string
  | .collisionFormula => .collisionFormula

theorem Kind.tokenKind_injective : Function.Injective Kind.tokenKind := by
  intro kind kind' h
  cases kind <;> cases kind' <;> simp [tokenKind] at h ⊢

namespace Formula
open TokenKind

/-- The token of an element that is no bracket. -/
def ownToken (kind : Kind) (text : Option String) : Token :=
  ⟨kind.tokenKind,
    if kind = .number then Numeral.stripTrailingZero (text.getD "") else text.getD ""⟩

/-- The tokens of an element itself: a bracket has its pair, and the others have one of their kind. -/
def ownTokens (kind : Kind) (text : Option String) : List Token :=
  if kind = .bracket then [⟨.bracketOpen, ""⟩, ⟨.bracketClose, ""⟩] else [ownToken kind text]

/-- Tokens with the paths of their elements, seen from one element further up. -/
def under (side : Side) (marks : List (List Side × Token)) : List (List Side × Token) :=
  marks.map fun mark => (side :: mark.1, mark.2)

/-- The tokens of an element itself with those of its operands: those of a bracket stand around the
latter, that of a function before them, and that of any other element in between. -/
def nodeMarks (kind : Kind) (text : Option String) (left right : List (List Side × Token)) :
    List (List Side × Token) :=
  match kind with
  | .bracket => ([], ⟨.bracketOpen, ""⟩) :: left ++ right ++ [([], ⟨.bracketClose, ""⟩)]
  | .function => ([], ownToken kind text) :: left ++ right
  | _ => left ++ ([], ownToken kind text) :: right

/-- The tokens of all elements themselves in display order, with the paths of the elements. -/
def marks : Formula → List (List Side × Token)
  | .empty => []
  | .node kind text left right =>
    nodeMarks kind text (under .left left.marks) (under .right right.marks)

/-- What stands at a path. -/
def marksAt (path : List Side) (marks : List (List Side × Token)) : List Token :=
  (marks.filter (·.1 = path)).map Prod.snd

section
variable (path : List Side) (side : Side) (xs ys : List (List Side × Token))

theorem marksAt_nil : marksAt path [] = [] := rfl

theorem marksAt_append : marksAt path (xs ++ ys) = marksAt path xs ++ marksAt path ys := by
  simp [marksAt]

theorem marksAt_cons (token : Token) : marksAt path (([], token) :: xs) =
    if path = [] then token :: marksAt path xs else marksAt path xs := by
  cases path <;> simp [marksAt]

theorem marksAt_nil_under : marksAt [] (under side xs) = [] := by
  simp [marksAt, under, List.filter_map, Function.comp_def]

theorem marksAt_cons_under (other : Side) :
    marksAt (side :: path) (under other xs) = if other = side then marksAt path xs else [] := by
  by_cases h : other = side <;> simp [marksAt, under, List.filter_map, Function.comp_def, h]

end

/-- At the root stand the tokens of the root element. -/
theorem marksAt_nil_nodeMarks (kind : Kind) (text : Option String)
    (left right : List (List Side × Token)) :
    marksAt [] (nodeMarks kind text (under .left left) (under .right right)) =
      ownTokens kind text := by
  unfold nodeMarks ownTokens
  cases kind <;> simp [marksAt_append, marksAt_cons, marksAt_nil_under, marksAt_nil]

/-- Below stand those of the operands. -/
theorem marksAt_cons_nodeMarks (side : Side) (path : List Side) (kind : Kind) (text : Option String)
    (left right : List (List Side × Token)) :
    marksAt (side :: path) (nodeMarks kind text (under .left left) (under .right right)) =
      marksAt path (match side with | .left => left | .right => right) := by
  have hoperands : marksAt (side :: path) (under .left left) ++
      marksAt (side :: path) (under .right right) =
        marksAt path (match side with | .left => left | .right => right) := by
    rw [marksAt_cons_under, marksAt_cons_under]
    cases side <;> simp
  rw [← hoperands]
  unfold nodeMarks
  cases kind <;> simp [marksAt_append, marksAt_cons, marksAt_nil]

/-- **Every element is on display once**, with its own tokens. -/
theorem marksAt_marks (t : Formula) (path : List Side) :
    marksAt path t.marks =
      (contentAt? path t).elim [] fun content => ownTokens content.1 content.2 := by
  induction path generalizing t with
  | nil =>
    cases t with
    | empty => rfl
    | node kind text left right => exact marksAt_nil_nodeMarks kind text left.marks right.marks
  | cons side path ih =>
    cases t with
    | empty => rfl
    | node kind text left right =>
      rw [marks, marksAt_cons_nodeMarks]
      cases side
      · exact ih left
      · exact ih right

/-! ## Rows -/

/-- Tokens that stand for elements; the others are the punctuation of calls. -/
def isMark (token : Token) : Bool :=
  token.kind ∉ [.functionParametersBracketOpen, .functionParameterDelimiter,
    .functionParametersBracketClose]

theorem under_nil (side : Side) : under side [] = [] := rfl

theorem map_snd_under (side : Side) (marks : List (List Side × Token)) :
    (under side marks).map Prod.snd = marks.map Prod.snd := by
  simp [under, Function.comp_def]

theorem eq_empty_of_isEmpty {t : Formula} (h : t.isEmpty = true) : t = .empty := by
  cases t with
  | empty => rfl
  | node => cases h

theorem filter_isMark_callTokens (text : String) (left right : Option (List Token)) :
    (callTokens text left right).filter isMark =
      ⟨.functionName, text⟩ :: (left.getD []).filter isMark ++ (right.getD []).filter isMark := by
  cases left <;> cases right <;> simp [callTokens, isMark]

/-- **A row shows the elements in their order**, with the punctuation of calls in between. -/
theorem filter_isMark_tokens {t : Formula} (h : t.isOrdinary = true) :
    t.tokens.filter isMark = t.marks.map Prod.snd := by
  induction t with
  | empty => rfl
  | node kind text left right ihl ihr =>
    simp only [isOrdinary, Bool.and_eq_true, Bool.or_eq_true, Bool.not_eq_true'] at h
    obtain ⟨⟨⟨hbracket, hleaf⟩, hl⟩, hr⟩ := h
    have ihl := ihl hl
    have ihr := ihr hr
    show (nodeTokens kind (text.getD "") left.tokens? right.tokens?).filter isMark = _
    cases kind with
    | bracket =>
      obtain rfl := eq_empty_of_isEmpty (hbracket.resolve_left (by decide))
      have hopen : isMark ⟨.bracketOpen, ""⟩ = true := by decide
      have hclose : isMark ⟨.bracketClose, ""⟩ = true := by decide
      rw [nodeTokens, List.filter_append, List.filter_cons_of_pos hopen,
        List.filter_cons_of_pos hclose]
      simpa [marks, nodeMarks, map_snd_under, under_nil, tokens] using ihr
    | operator =>
      have hown : isMark ⟨.operator, text.getD ""⟩ = true := rfl
      rw [nodeTokens, operatorTokens, List.filter_append, List.filter_cons_of_pos hown]
      simp [marks, nodeMarks, map_snd_under, ← ihl, ← ihr, tokens, ownToken, Kind.tokenKind]
    | function =>
      rw [nodeTokens, filter_isMark_callTokens]
      simp [marks, nodeMarks, map_snd_under, ← ihl, ← ihr, tokens, ownToken, Kind.tokenKind]
    | _ =>
      obtain ⟨hleft, hright⟩ := hleaf.resolve_left (by decide)
      obtain rfl := eq_empty_of_isEmpty hleft
      obtain rfl := eq_empty_of_isEmpty hright
      rfl

/-! ## What a row tells -/

theorem mem_nodeMarks {kind : Kind} {text : Option String} {left right : List (List Side × Token)}
    {token : Token} : token ∈ (nodeMarks kind text left right).map Prod.snd ↔
      token ∈ left.map Prod.snd ∨ token ∈ right.map Prod.snd ∨ token ∈ ownTokens kind text := by
  unfold nodeMarks ownTokens
  cases kind <;> simp <;> tauto

theorem mem_marks {t : Formula} {token : Token} : token ∈ t.marks.map Prod.snd ↔
    ∃ kind text, (kind, text) ∈ t.elements ∧ token ∈ ownTokens kind text := by
  induction t with
  | empty => simp [marks, elements]
  | node kind text left right ihl ihr =>
    rw [marks, mem_nodeMarks, map_snd_under, map_snd_under, ihl, ihr]
    simp only [mem_elements_node, or_and_right, exists_or]
    simp

theorem hasKind_iff {kind : Kind} {t : Formula} :
    t.hasKind kind = true ↔ ∃ text, (kind, text) ∈ t.elements := by
  induction t with
  | empty => simp [hasKind, elements]
  | node kind' text left right ihl ihr =>
    simp only [hasKind, Bool.or_eq_true, decide_eq_true_eq, ihl, ihr, mem_elements_node, exists_or]
    constructor
    · rintro ((rfl | h) | h)
      · exact .inr (.inr ⟨text, rfl, rfl⟩)
      · exact .inl h
      · exact .inr (.inl h)
    · rintro (h | h | ⟨_, rfl, -⟩)
      · exact .inl (.inr h)
      · exact .inr h
      · exact .inl (.inl rfl)

/-- The token of a leaf belongs to no other kind. -/
theorem mem_ownTokens_iff {kind kind' : Kind} {text : Option String} {token : Token}
    (hleaf : kind.isLeaf = true) (hkind : token.kind = kind.tokenKind) :
    token ∈ ownTokens kind' text ↔ kind' = kind ∧ token = ownToken kind text := by
  unfold ownTokens
  split
  · next hbracket =>
    subst hbracket
    constructor
    · intro hmem
      simp only [List.mem_cons, List.not_mem_nil, or_false] at hmem
      rcases hmem with rfl | rfl
      · cases kind <;> cases hkind
        cases hleaf
      · cases kind <;> cases hkind
    · rintro ⟨rfl, -⟩
      cases hleaf
  · rw [List.mem_singleton]
    constructor
    · rintro rfl
      obtain rfl : kind' = kind := Kind.tokenKind_injective hkind
      exact ⟨rfl, rfl⟩
    · rintro ⟨rfl, rfl⟩
      rfl

section
variable {t : Formula} (h : t.isOrdinary = true)
include h

/-- The tokens of a leaf kind are those of the elements of the kind. -/
theorem mem_tokens_leaf {kind : Kind} {token : Token} (hleaf : kind.isLeaf = true)
    (hkind : token.kind = kind.tokenKind) :
    token ∈ t.tokens ↔ ∃ text, (kind, text) ∈ t.elements ∧ token = ownToken kind text := by
  have hmark : isMark token = true := by
    unfold isMark
    rw [hkind]
    cases kind <;> rfl
  have hmem : token ∈ t.tokens ↔ token ∈ t.tokens.filter isMark := by
    rw [List.mem_filter, and_iff_left hmark]
  rw [hmem, filter_isMark_tokens h, mem_marks]
  constructor
  · rintro ⟨kind', text, helement, htoken⟩
    obtain ⟨rfl, rfl⟩ := (mem_ownTokens_iff hleaf hkind).mp htoken
    exact ⟨text, helement, rfl⟩
  · rintro ⟨text, helement, rfl⟩
    exact ⟨kind, text, helement, (mem_ownTokens_iff hleaf hkind).mpr ⟨rfl, rfl⟩⟩

theorem name_mem_tokens (kind : Kind) (hleaf : kind.isLeaf = true) (hne : kind ≠ .number)
    (name : String) : ⟨kind.tokenKind, name⟩ ∈ t.tokens ↔ name ∈ t.collect kind [] := by
  rw [mem_tokens_leaf h hleaf rfl, mem_collect]
  simp [ownToken, hne]

theorem hasKind_iff_tokens {kind : Kind} (hleaf : kind.isLeaf = true) :
    t.hasKind kind = true ↔ ∃ token ∈ t.tokens, token.kind = kind.tokenKind := by
  rw [hasKind_iff]
  constructor
  · rintro ⟨text, helement⟩
    exact ⟨ownToken kind text, (mem_tokens_leaf h hleaf rfl).mpr ⟨text, helement, rfl⟩, rfl⟩
  · rintro ⟨token, hmem, hkind⟩
    obtain ⟨text, helement, -⟩ := (mem_tokens_leaf h hleaf hkind).mp hmem
    exact ⟨text, helement⟩

end

/-- What the row of a formula shows and tells. -/
structure Complete (t : Formula) : Prop where
  shown : t.tokens.filter isMark = t.marks.map Prod.snd
  once : ∀ path, marksAt path t.marks =
    (contentAt? path t).elim [] fun content => ownTokens content.1 content.2
  variableNames : ∀ name, ⟨.userVariable, name⟩ ∈ t.tokens ↔ name ∈ t.variableNames
  listNames : ∀ name, ⟨.userList, name⟩ ∈ t.tokens ↔ name ∈ t.listNames
  kinds : ∀ kind : Kind, kind.isLeaf = true →
    (t.hasKind kind = true ↔ ∃ token ∈ t.tokens, token.kind = kind.tokenKind)

/-- **Rows of tokens are well nested and complete.**  The brackets of any formula match.  Where no
bracket has a left operand and no leaf has operands, the row is that of the elements in display order,
each with its own tokens, up to the punctuation of calls, and it tells the names of variables and lists
and the leaf kinds that there are. -/
theorem tokens_complete (t : Formula) :
    WellNested (kindsOf t.tokens) ∧ (t.isOrdinary = true → Complete t) :=
  ⟨wellNested_tokens t, fun h =>
    { shown := filter_isMark_tokens h
      once := marksAt_marks t
      variableNames := name_mem_tokens h .userVariable rfl nofun
      listNames := name_mem_tokens h .userList rfl nofun
      kinds := fun _ hleaf => hasKind_iff_tokens h hleaf }⟩

/-- A list behind a sum in brackets. -/
def sumAndList : Formula :=
  .node .function (some "JOIN")
    (.node .bracket none .empty
      (.node .operator (some "PLUS") (.leaf .userVariable "v") (.leaf .number "1.0")))
    (.leaf .userList "xs")

theorem tokens_complete_sumAndList : sumAndList.isOrdinary = true ∧
    WellNested (kindsOf sumAndList.tokens) ∧ Complete sumAndList :=
  have hordinary : sumAndList.isOrdinary = true := by decide
  ⟨hordinary, (tokens_complete sumAndList).1, (tokens_complete sumAndList).2 hordinary⟩

example : sumAndList.marks = [
    ([], ⟨.functionName, "JOIN"⟩), ([.left], ⟨.bracketOpen, ""⟩),
    ([.left, .right, .left], ⟨.userVariable, "v"⟩), ([.left, .right], ⟨.operator, "PLUS"⟩),
    ([.left, .right, .right], ⟨.number, "1"⟩), ([.left], ⟨.bracketClose, ""⟩),
    ([.right], ⟨.userList, "xs"⟩)] := by decide

/-- Crossing brackets are not well nested. -/
example : ¬ WellNested [.bracketOpen, .functionParametersBracketOpen, .bracketClose,
    .functionParametersBracketClose] := by decide

end Formula

end BrickFormula
