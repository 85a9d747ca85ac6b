import BrickFormula.Pattern.Parser

/-!
# Faults of pattern texts

Reading a pattern reports what is wrong with it as a flaw, and stops with a fault in four cases
only: a repetition count that is too large or has too many digits, a code point that is too large,
and flags that ask for ASCII and for Unicode.

    Fault.isOfPattern              the four faults
    PatternReader.Tame r           `r` stops with no other one, whatever was read before
    SearchPattern.fault_of_ofText? so does the reading of a whole pattern
-/

namespace BrickFormula

/-- The faults that a pattern text can stop an evaluation with. -/
def Fault.isOfPattern : Fault → Bool
  | .repetitionTooLarge | .numeralTooLong _ | .codePointTooLarge | .conflictingPatternFlags => true
  | _ => false

namespace PatternReader

/-- The reader stops with no fault but those of patterns. -/
def Tame {α : Type} (r : PatternReader α) : Prop :=
  ∀ s f, r.run s = .error (.fault f) → f.isOfPattern = true

/-! ## Steps of a reader -/

section
variable {α β : Type}

/-- A reader that always goes on. -/
theorem tame_of_ok {r : PatternReader α} (h : ∀ s, ∃ result, r.run s = .ok result) : Tame r := by
  intro s f hrun
  obtain ⟨result, hok⟩ := h s
  rw [hok] at hrun
  cases hrun

theorem tame_pure (a : α) : Tame (pure a) := tame_of_ok fun s => ⟨(a, s), rfl⟩

theorem tame_get : Tame get := tame_of_ok fun s => ⟨(s, s), rfl⟩

theorem tame_set (s : Progress) : Tame (set s) := tame_of_ok fun _ => ⟨((), s), rfl⟩

theorem tame_modify (f : Progress → Progress) : Tame (modify f) :=
  tame_of_ok fun s => ⟨((), f s), rfl⟩

theorem Tame.bind {r : PatternReader α} {f : α → PatternReader β} (hr : Tame r)
    (hf : ∀ a, Tame (f a)) : Tame (r >>= f) := by
  intro s fault h
  rw [StateT.run_bind] at h
  cases hrun : r.run s with
  | error e =>
    rw [hrun] at h
    cases h
    exact hr s fault hrun
  | ok result =>
    rw [hrun] at h
    exact hf result.1 result.2 fault h

theorem Tame.ite {c : Prop} [Decidable c] {r r' : PatternReader α} (h : Tame r) (h' : Tame r') :
    Tame (if c then r else r') := by
  split
  · exact h
  · exact h'

/-- Two ways to go on with the rest. -/
theorem Tame.join {c : Prop} [Decidable c] {r r' : PatternReader α} {f : α → PatternReader β}
    (h : Tame r) (h' : Tame r') (hf : ∀ a, Tame (f a)) :
    Tame (if c then r >>= f else r' >>= f) :=
  .ite (h.bind hf) (h'.bind hf)

/-- A reader that always stops with a flaw. -/
theorem tame_of_flaw {r : PatternReader α} {flaw : PatternFlaw} {position : Option Nat}
    (h : ∀ s, r.run s = .error (.flaw flaw position)) : Tame r := by
  intro s f hrun
  rw [h s] at hrun
  cases hrun

theorem tame_failAt (flaw : PatternFlaw) (position : Nat) :
    Tame (failAt flaw position : PatternReader α) := tame_of_flaw fun _ => rfl

theorem tame_fail (flaw : PatternFlaw) (back : Nat) : Tame (fail flaw back : PatternReader α) :=
  .bind tame_get fun _ => tame_failAt _ _

theorem tame_fault {f : Fault} (h : f.isOfPattern = true) :
    Tame (throw (.fault f) : PatternReader α) := by
  intro s f' hrun
  cases hrun
  exact h

end

/-! ## Tokens -/

theorem tame_peek : Tame peek := .bind tame_get fun _ => tame_pure _

theorem tame_checkAhead : Tame checkAhead :=
  .bind tame_get fun _ => .ite (tame_fail _ _) (tame_pure _)

theorem tame_take : Tame take :=
  .bind tame_peek fun _ => .bind (tame_modify _) fun _ => .bind tame_checkAhead fun _ => tame_pure _

theorem tame_accept (c : Char) : Tame (accept c) :=
  .bind tame_peek fun _ => .ite (.bind tame_take fun _ => tame_pure _) (tame_pure _)

theorem tame_takeWhile (test : Char → Bool) (most : Nat) : Tame (takeWhile test most) := by
  induction most with
  | zero => exact tame_pure _
  | succ most ih =>
    refine .bind tame_peek fun ahead => ?_
    split
    · exact .ite (.bind tame_take fun _ => .bind ih fun _ => tame_pure _) (tame_pure _)
    · exact tame_pure _

theorem tame_takeDigits : Tame takeDigits := .bind tame_get fun _ => tame_takeWhile _ _

theorem tame_takeName (mark : Char) (what : String) (fuel : Nat) (before : List Char) :
    Tame (takeName mark what fuel before) := by
  induction fuel generalizing before with
  | zero => exact tame_fail _ _
  | succ fuel ih =>
    refine .bind tame_take fun token => ?_
    split
    · exact .ite (tame_fail _ _) (tame_fail _ _)
    · exact .ite (.ite (tame_fail _ _) (tame_pure _)) (ih _)

theorem tame_takeUntil (mark : Char) (what : String) : Tame (takeUntil mark what) :=
  .bind tame_get fun _ => tame_takeName _ _ _ _

theorem tame_skipLine (fuel : Nat) : Tame (skipLine fuel) := by
  induction fuel with
  | zero => exact tame_pure _
  | succ fuel ih =>
    refine .bind tame_take fun token => ?_
    split
    · exact tame_pure _
    · exact tame_pure _
    · exact ih

theorem tame_skipComment (start fuel : Nat) : Tame (skipComment start fuel) := by
  induction fuel with
  | zero => exact tame_failAt _ _
  | succ fuel ih =>
    exact .bind tame_peek fun _ =>
      .ite (tame_failAt _ _) (.bind tame_take fun _ => .ite (tame_pure _) ih)

/-! ## Escapes -/

/-- A code point of more than 31 bits is a fault. -/
theorem tame_hexEscape (letter : Char) (size : Nat) : Tame (hexEscape letter size) :=
  .bind (tame_takeWhile _ _) fun _ =>
    .ite (tame_fail _ _) (.ite (tame_fault rfl) (.ite (tame_fail _ _) (tame_pure _)))

theorem tame_octalEscape (digits : List Char) : Tame (octalEscape digits) :=
  .ite (tame_fail _ _) (tame_pure _)

theorem tame_badEscape {α : Type} (c : Char) : Tame (badEscape c : PatternReader α) := tame_fail _ _

theorem tame_codeEscape (c : Char) : Tame (codeEscape c) := by
  unfold codeEscape
  split
  · exact tame_hexEscape _ _
  · exact tame_hexEscape _ _
  · exact tame_hexEscape _ _
  · refine .bind (tame_accept _) fun _ => .ite (.bind (tame_takeUntil _ _) fun name => ?_) (tame_fail _ _)
    refine .bind tame_get fun s => ?_
    split
    · exact tame_pure _
    · exact tame_fail _ _
  · exact .ite (tame_badEscape _) (tame_pure _)

theorem tame_setEscape (c : Char) : Tame (setEscape c) := by
  unfold setEscape
  split
  · exact tame_pure _
  · exact tame_pure _
  · exact .ite (.bind (tame_takeWhile _ _) fun _ => .bind (tame_octalEscape _) fun _ => tame_pure _)
      (.bind (tame_codeEscape _) fun _ => tame_pure _)

/-! ## Groups -/

theorem tame_checkLookbehind (index : Nat) : Tame (checkLookbehind index) := by
  refine .bind tame_get fun s => ?_
  split
  · exact tame_pure _
  · exact .ite (tame_fail _ _) (.ite (tame_fail _ _) (tame_pure _))

theorem tame_referTo (index size : Nat) : Tame (referTo index size) :=
  .bind tame_get fun _ =>
    .ite (tame_fail _ _) (.bind (tame_checkLookbehind _) fun _ => tame_pure _)

theorem tame_numberEscape (c : Char) : Tame (numberEscape c) := by
  refine .bind (tame_takeWhile _ _) fun more => ?_
  refine .join (tame_takeWhile _ _) (tame_pure _) fun last => ?_
  refine .ite (.bind (tame_octalEscape _) fun _ => tame_pure _) ?_
  exact .bind tame_get fun _ => .ite (tame_referTo _ _) (tame_fail _ _)

theorem tame_escape (c : Char) : Tame (escape c) := by
  unfold escape
  split
  · exact tame_pure _
  · exact tame_pure _
  · exact tame_pure _
  · exact .ite (.bind (tame_takeWhile _ _) fun _ => tame_pure _)
      (.ite (tame_numberEscape _) (.bind (tame_codeEscape _) fun _ => tame_pure _))

theorem tame_openGroup (name : Option String) : Tame (openGroup name) := by
  refine .bind tame_get fun s => .bind (tame_modify _) fun _ => ?_
  split
  · exact tame_pure _
  · refine .bind tame_get fun s => ?_
    split
    · exact tame_fail _ _
    · exact .bind (tame_modify _) fun _ => tame_pure _

theorem tame_closeGroup (index : Nat) (body : Pattern) : Tame (closeGroup index body) :=
  tame_modify _

theorem tame_groupName (mark : Char) : Tame (groupName mark) :=
  .bind (tame_takeUntil _ _) fun _ => .ite (tame_pure _) (tame_fail _ _)

/-! ## Character sets -/

theorem tame_setMember (token : Token) : Tame (setMember token) := by
  unfold setMember
  split
  · exact tame_setEscape _
  · exact tame_pure _
  · exact tame_pure _

theorem tame_setRange (first last : Token) (low high : SetItem) :
    Tame (setRange first last low high) := by
  unfold setRange
  simp only
  split
  · exact .ite (tame_fail _ _) (tame_pure _)
  · exact tame_fail _ _

theorem tame_setItems (start fuel : Nat) (items : List SetItem) :
    Tame (setItems start fuel items) := by
  induction fuel generalizing items with
  | zero => exact tame_failAt _ _
  | succ fuel ih =>
    refine .bind tame_take fun token => ?_
    split
    · exact tame_failAt _ _
    · refine .ite (tame_pure _) (.bind (tame_setMember _) fun item =>
        .bind (tame_accept _) fun range => .ite (.bind tame_take fun last => ?_) (ih _))
      split
      · exact tame_failAt _ _
      · exact tame_pure _
      · exact .bind (tame_setMember _) fun _ => .bind (tame_setRange _ _ _ _) fun _ => ih _

theorem tame_charSet : Tame charSet :=
  .bind tame_get fun _ => .bind (tame_accept _) fun _ => .bind tame_get fun _ =>
    .bind (tame_setItems _ _ _) fun _ => tame_pure _

/-! ## Repetitions -/

/-- A count that is too large or has too many digits is a fault. -/
theorem tame_repetitions (digits : List Char) : Tame (repetitions digits) :=
  .ite (tame_fault rfl) (.ite (tame_fault rfl) (tame_pure _))

theorem tame_bounds? : Tame bounds? := by
  refine .bind tame_get fun here => .bind tame_peek fun ahead => .ite (tame_pure _) ?_
  refine .bind tame_takeDigits fun low => .bind (tame_accept _) fun comma => ?_
  refine .join tame_takeDigits (tame_pure _) fun high => ?_
  refine .bind (tame_accept _) fun closed => .ite (.bind (tame_set _) fun _ => tame_pure _) ?_
  refine .join (tame_pure _) (tame_repetitions _) fun least => .ite (tame_pure _) ?_
  exact .bind (tame_repetitions _) fun most => .ite (tame_failAt _ _) (tame_pure _)

theorem tame_repetitionMode : Tame repetitionMode :=
  .bind (tame_accept _) fun _ => .ite (tame_pure _)
    (.bind (tame_accept _) fun _ => .ite (tame_pure _) (tame_pure _))

theorem tame_repeatLast (start least : Nat) (most : Option Nat) (items : List Pattern) :
    Tame (repeatLast start least most items) := by
  unfold repeatLast
  split
  · exact tame_failAt _ _
  · exact .ite (tame_failAt _ _) (.ite (tame_failAt _ _)
      (.bind tame_repetitionMode fun _ => tame_pure _))

theorem tame_repetition (sign : Char) (items : List Pattern) : Tame (repetition sign items) := by
  refine .bind tame_get fun s => ?_
  split
  · exact tame_repeatLast _ _ _ _
  · exact tame_repeatLast _ _ _ _
  · exact tame_repeatLast _ _ _ _
  · refine .bind tame_bounds? fun bounds => ?_
    split
    · exact tame_pure _
    · exact tame_repeatLast _ _ _ _

/-! ## Flags -/

theorem tame_refuseFlag {α : Type} (token : Token) (missing : String) :
    Tame (refuseFlag token missing : PatternReader α) := tame_fail _ _

theorem tame_flagsOn (fuel : Nat) (before : PatternFlags) (token : Token) :
    Tame (flagsOn fuel before token) := by
  induction fuel generalizing before token with
  | zero => exact tame_fail _ _
  | succ fuel ih =>
    unfold flagsOn
    split
    · exact tame_fail _ _
    · refine .ite (tame_fail _ _) (.bind tame_take fun next => ?_)
      split
      · exact tame_fail _ _
      · exact .ite (tame_pure _) (.ite (ih _ _) (tame_refuseFlag _ _))

theorem tame_flagsOff (fuel : Nat) (before : PatternFlags) (token : Token) :
    Tame (flagsOff fuel before token) := by
  induction fuel generalizing before token with
  | zero => exact tame_fail _ _
  | succ fuel ih =>
    unfold flagsOff
    split
    · exact tame_fail _ _
    · refine .ite (tame_fail _ _) (.bind tame_take fun next => ?_)
      split
      · exact tame_fail _ _
      · exact .ite (tame_pure _) (.ite (ih _ _) (tame_refuseFlag _ _))

theorem tame_flagsAfter (mark : Token) : Tame (flagsAfter mark) := by
  refine .ite (.bind tame_take fun token => ?_) (tame_pure _)
  split
  · exact tame_fail _ _
  · exact .ite (.bind tame_get fun _ => tame_flagsOff _ _ _) (tame_refuseFlag _ _)

theorem tame_inlineFlags (token : Token) : Tame (inlineFlags token) := by
  refine .ite (.bind (tame_pure _) ?_) (.bind tame_get fun _ => .bind (tame_flagsOn _ _ _) ?_)
  all_goals
    refine fun flags => .ite (.bind (tame_modify _) fun _ => tame_pure _) (.ite (tame_fail _ _) ?_)
    exact .bind (tame_flagsAfter _) fun _ =>
      .ite (tame_fail _ _) (.ite (tame_fail _ _) (tame_pure _))

/-! ## Conditions -/

theorem tame_conditionGroup : Tame conditionGroup := by
  refine .bind (tame_takeUntil _ _) fun name => .ite (.bind tame_get fun s => ?_) ?_
  · split
    · exact tame_pure _
    · exact tame_fail _ _
  · split
    · exact tame_fail _ _
    · exact tame_fail _ _
    · refine .ite (tame_fail _ _) (.bind tame_get fun s => ?_)
      exact .join (tame_set _) (tame_pure ()) fun _ => tame_pure _

/-! ## Sequences and alternatives -/

/-- The readers of whole patterns and of groups, with the same fuel. -/
structure TameAt (fuel : Nat) : Prop where
  alternatives : ∀ verbose whole, Tame (alternatives fuel verbose whole)
  moreAlternatives : ∀ verbose whole first, Tame (moreAlternatives fuel verbose whole first)
  sequence : ∀ verbose start items, Tame (sequence fuel verbose start items)
  element : ∀ verbose start items token, Tame (element fuel verbose start items token)
  group : ∀ verbose start items, Tame (group fuel verbose start items)
  enclosed : ∀ verbose place, Tame (enclosed fuel verbose place)
  captured : ∀ verbose place name, Tame (captured fuel verbose place name)
  namedGroup : ∀ verbose place, Tame (namedGroup fuel verbose place)
  lookbehind : ∀ verbose place, Tame (lookbehind fuel verbose place)
  conditional : ∀ verbose place, Tame (conditional fuel verbose place)

theorem tameAt_zero : TameAt 0 := by
  constructor
  all_goals
    intros
    exact tame_fail _ _

section
variable {fuel : Nat} (h : TameAt fuel)
include h

theorem tame_moreAlternatives (verbose whole : Bool) (first : Pattern) :
    Tame (moreAlternatives (fuel + 1) verbose whole first) := by
  refine .bind (tame_accept _) fun more => .ite (.bind tame_get fun s => ?_) (tame_pure _)
  exact .bind (h.sequence _ _ _) fun next => .bind (h.moreAlternatives _ _ _) fun _ => tame_pure _

theorem tame_sequence (verbose start : Bool) (items : List Pattern) :
    Tame (sequence (fuel + 1) verbose start items) := by
  refine .bind tame_peek fun ahead => .ite (tame_pure _) (.bind tame_take fun token => ?_)
  exact .bind (h.element _ _ _ _) fun result => h.sequence _ _ _

theorem tame_element (verbose start : Bool) (items : List Pattern) (token : Token) :
    Tame (element (fuel + 1) verbose start items token) := by
  unfold element
  split
  · split
    · exact .bind tame_charSet fun _ => tame_pure _
    · exact tame_pure _
    · exact tame_pure _
    · exact tame_pure _
    · exact h.group _ _ _
    · refine .ite (tame_pure _) (.ite (.bind tame_get fun _ => ?_) (.ite ?_ (tame_pure _)))
      · exact .bind (tame_skipLine _) fun _ => tame_pure _
      · exact .bind (tame_repetition _ _) fun _ => tame_pure _
  · exact .bind (tame_escape _) fun _ => tame_pure _
  · exact tame_pure _

theorem tame_group (verbose start : Bool) (items : List Pattern) :
    Tame (group (fuel + 1) verbose start items) := by
  refine .bind tame_get fun s => .bind (tame_accept _) fun extension => .ite ?_ ?_
  · exact .bind (h.captured _ _ _) fun _ => tame_pure _
  refine .bind tame_take fun token => ?_
  split
  · exact tame_fail _ _
  · exact .bind (h.namedGroup _ _) fun _ => tame_pure _
  · exact .bind (h.enclosed _ _) fun _ => tame_pure _
  · exact .bind tame_get fun _ => .bind (tame_skipComment _ _) fun _ => tame_pure _
  · exact .bind (h.enclosed _ _) fun _ => tame_pure _
  · exact .bind (h.enclosed _ _) fun _ => tame_pure _
  · exact .bind (h.lookbehind _ _) fun _ => tame_pure _
  · exact .bind (h.conditional _ _) fun _ => tame_pure _
  · exact .bind (h.enclosed _ _) fun _ => tame_pure _
  · refine .ite (.bind (tame_inlineFlags _) fun flags => ?_) (tame_fail _ _)
    split
    · exact .bind (h.enclosed _ _) fun _ => tame_pure _
    · exact .ite (tame_failAt _ _) (.bind tame_get fun _ => tame_pure _)

theorem tame_enclosed (verbose : Bool) (place : Nat) : Tame (enclosed (fuel + 1) verbose place) :=
  .bind (h.alternatives _ _) fun _ => .bind (tame_accept _) fun _ =>
    .ite (tame_pure _) (tame_failAt _ _)

theorem tame_captured (verbose : Bool) (place : Nat) (name : Option String) :
    Tame (captured (fuel + 1) verbose place name) :=
  .bind (tame_openGroup _) fun _ => .bind (h.enclosed _ _) fun _ =>
    .bind (tame_closeGroup _ _) fun _ => tame_pure _

theorem tame_namedGroup (verbose : Bool) (place : Nat) :
    Tame (namedGroup (fuel + 1) verbose place) := by
  refine .bind (tame_accept _) fun _ => .ite ?_ (.bind (tame_accept _) fun _ => .ite ?_ ?_)
  · exact .bind (tame_groupName _) fun _ => h.captured _ _ _
  · refine .bind (tame_groupName _) fun name => .bind tame_get fun s => ?_
    split
    · exact tame_fail _ _
    · exact tame_referTo _ _
  · refine .bind tame_take fun token => ?_
    split
    · exact tame_fail _ _
    · exact tame_fail _ _

theorem tame_lookbehind (verbose : Bool) (place : Nat) :
    Tame (lookbehind (fuel + 1) verbose place) := by
  refine .bind tame_take fun token => ?_
  split
  · exact tame_fail _ _
  · refine .ite (tame_fail _ _) (.bind tame_get fun s => .bind (tame_modify _) fun _ => ?_)
    refine .bind (h.alternatives _ _) fun body => .bind (tame_modify _) fun _ => ?_
    exact .bind (tame_accept _) fun _ => .ite (tame_pure _) (tame_failAt _ _)

theorem tame_conditional (verbose : Bool) (place : Nat) :
    Tame (conditional (fuel + 1) verbose place) := by
  refine .bind tame_conditionGroup fun index => .bind (tame_checkLookbehind _) fun _ => ?_
  refine .bind (h.sequence _ _ _) fun yes => .bind (tame_accept _) fun more => ?_
  refine .join (h.sequence _ _ _) (tame_pure _) fun no => .bind tame_peek fun ahead => ?_
  exact .ite (tame_fail _ _)
    (.bind (tame_accept _) fun _ => .ite (tame_pure _) (tame_failAt _ _))

theorem tameAt_succ : TameAt (fuel + 1) where
  alternatives _ _ := .bind (h.sequence _ _ _) fun _ => h.moreAlternatives _ _ _
  moreAlternatives := tame_moreAlternatives h
  sequence := tame_sequence h
  element := tame_element h
  group := tame_group h
  enclosed := tame_enclosed h
  captured := tame_captured h
  namedGroup := tame_namedGroup h
  lookbehind := tame_lookbehind h
  conditional := tame_conditional h

end

theorem tameAt (fuel : Nat) : TameAt fuel := by
  induction fuel with
  | zero => exact tameAt_zero
  | succ fuel ih => exact tameAt_succ ih

end PatternReader

/-! ## Whole patterns -/

namespace SearchPattern

open PatternReader

theorem tame_checkReferences (opened : Nat) (references : List (Nat × Nat)) :
    Tame (checkReferences opened references) := by
  induction references with
  | nil => exact tame_pure _
  | cons reference rest ih => exact .ite (tame_failAt _ _) ih

theorem tame_reader (text : List Char) : Tame (reader text) := by
  refine .bind tame_checkAhead fun _ => .bind ((tameAt _).alternatives _ _) fun pattern => ?_
  refine .bind tame_get fun s => .join (tame_fault rfl) (tame_pure ()) fun _ => ?_
  refine .ite (.bind (tame_fail _ _) fun _ => ?_) ?_
  all_goals
    refine .bind (tame_checkReferences _ _) fun _ => ?_
    split
    · exact tame_of_flaw fun _ => rfl
    · exact tame_pure _

/-- **Reading a pattern stops with no other fault.** -/
theorem fault_of_ofText? {characters : CharacterNames} {text : List Char} {f : Fault}
    (h : ofText? characters text = .error (.fault f)) : f.isOfPattern = true := by
  unfold ofText? at h
  cases hrun : (reader text).run { characters, rest := text, flags := initialFlags } with
  | error e =>
    rw [hrun] at h
    cases h
    exact tame_reader text _ f hrun
  | ok result =>
    rw [hrun] at h
    cases h

end SearchPattern

end BrickFormula
