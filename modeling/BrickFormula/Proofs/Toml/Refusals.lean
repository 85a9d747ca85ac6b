import BrickFormula.Toml.Reader

/-!
# Refused documents

A text that is no document is malformed, except that an integer with too many digits is refused in its
own way.  There is one place where integers are read, and every reader passes its refusal on, so the
refused integer does have more than 4300 digits.

    Reader.Lenient r           `r` refuses no integer of 4300 digits or less
    lenient_scalar             the place where integers are read
    lenient_values             values, by induction on their depth
    ofText?_integerTooLong     so does the reading of a whole document
-/

namespace BrickFormula.Toml

namespace Reader

/-- The reader refuses integers for having more than 4300 digits only. -/
def Lenient {α : Type} (r : Reader α) : Prop :=
  ∀ text digits, r.run text = .error (.integerTooLong digits) → maxDigits < digits

/-! ## Steps of a reader -/

section
variable {α β : Type}

/-- A reader that always goes on. -/
theorem lenient_of_ok {r : Reader α} (h : ∀ text, ∃ result, r.run text = .ok result) : Lenient r := by
  intro text digits hrun
  obtain ⟨result, hok⟩ := h text
  rw [hok] at hrun
  cases hrun

theorem lenient_pure (a : α) : Lenient (pure a) := lenient_of_ok fun text => ⟨(a, text), rfl⟩

theorem lenient_get : Lenient get := lenient_of_ok fun text => ⟨(text, text), rfl⟩

theorem lenient_set (text : List Char) : Lenient (set text) := lenient_of_ok fun _ => ⟨((), text), rfl⟩

theorem lenient_skip (test : Char → Bool) : Lenient (skip test) :=
  lenient_of_ok fun text => ⟨((), text.dropWhile test), rfl⟩

theorem lenient_malformed : Lenient (malformed : Reader α) := fun _ _ hrun => nomatch hrun

theorem Lenient.bind {r : Reader α} {f : α → Reader β} (hr : Lenient r) (hf : ∀ a, Lenient (f a)) :
    Lenient (r >>= f) := by
  intro text digits h
  rw [StateT.run_bind] at h
  cases hrun : r.run text with
  | error e =>
    rw [hrun] at h
    cases h
    exact hr text digits hrun
  | ok result =>
    rw [hrun] at h
    exact hf result.1 result.2 digits h

theorem Lenient.ite {c : Prop} [Decidable c] {r r' : Reader α} (h : Lenient r) (h' : Lenient r') :
    Lenient (if c then r else r') := by
  split
  · exact h
  · exact h'

/-- Two ways to go on with the rest. -/
theorem Lenient.join {c : Prop} [Decidable c] {r r' : Reader α} {f : α → Reader β}
    (h : Lenient r) (h' : Lenient r') (hf : ∀ a, Lenient (f a)) :
    Lenient (if c then r >>= f else r' >>= f) :=
  .ite (h.bind hf) (h'.bind hf)

theorem lenient_need (result : Option α) : Lenient (need result) := by
  cases result with
  | none => exact lenient_malformed
  | some a => exact lenient_pure a

end

theorem lenient_accept (word : List Char) : Lenient (accept word) :=
  .bind lenient_get fun _ => .ite (.bind (lenient_set _) fun _ => lenient_pure _) (lenient_pure _)

theorem lenient_expect (word : List Char) : Lenient (expect word) :=
  .bind (lenient_accept _) fun _ => .ite lenient_malformed (lenient_pure _)

theorem lenient_take : Lenient take := by
  refine .bind lenient_get fun text => ?_
  split
  · exact lenient_malformed
  · exact .bind (lenient_set _) fun _ => lenient_pure _

theorem lenient_takeWhile (test : Char → Bool) : Lenient (takeWhile test) :=
  .bind lenient_get fun _ => .bind (lenient_set _) fun _ => lenient_pure _

theorem lenient_fuelAhead : Lenient fuelAhead := .bind lenient_get fun _ => lenient_pure _

theorem lenient_skipComment : Lenient skipComment :=
  .bind (lenient_accept _) fun _ =>
    .ite (.bind (lenient_takeWhile _) fun _ => .ite lenient_malformed (lenient_pure _)) (lenient_pure _)

theorem lenient_skipLines (fuel : Nat) : Lenient (skipLines fuel) := by
  induction fuel with
  | zero => exact lenient_pure _
  | succ fuel ih =>
    exact .bind (lenient_skip _) fun _ => .bind lenient_get fun _ =>
      .ite (.bind lenient_skipComment fun _ => ih) (lenient_pure _)

/-! ## Strings and keys -/

theorem lenient_hexChar (size : Nat) : Lenient (hexChar size) :=
  .bind lenient_get fun _ => .ite lenient_malformed
    (.bind (lenient_set _) fun _ => .ite (lenient_pure _) lenient_malformed)

theorem lenient_escape : Lenient escape := by
  refine .bind lenient_take fun c => ?_
  split
  iterate 7 exact lenient_pure _
  · exact lenient_hexChar _
  · exact lenient_hexChar _
  · exact lenient_malformed

theorem lenient_skipLineEnd : Lenient skipLineEnd := by
  refine .bind (lenient_skip _) fun _ => .bind lenient_get fun text => ?_
  split
  · exact lenient_pure _
  · exact lenient_skip _
  · exact lenient_malformed

theorem lenient_basicString (fuel : Nat) (before : List Char) : Lenient (basicString fuel before) := by
  induction fuel generalizing before with
  | zero => exact lenient_malformed
  | succ fuel ih =>
    refine .bind lenient_take fun c => ?_
    split
    · exact lenient_pure _
    · exact .bind lenient_escape fun _ => ih _
    · exact .ite lenient_malformed (ih _)

theorem lenient_extraQuotes (quote : Char) (before : List Char) : Lenient (extraQuotes quote before) :=
  .bind (lenient_accept _) fun _ =>
    .join (lenient_accept _) (lenient_pure _) fun _ => lenient_pure _

theorem lenient_basicLines (fuel : Nat) (before : List Char) : Lenient (basicLines fuel before) := by
  induction fuel generalizing before with
  | zero => exact lenient_malformed
  | succ fuel ih =>
    refine .bind (lenient_accept _) fun _ => .ite (lenient_extraQuotes _ _) ?_
    refine .bind lenient_take fun c => ?_
    split
    · exact .bind lenient_get fun _ => .ite (.bind lenient_skipLineEnd fun _ => ih _)
        (.bind lenient_escape fun _ => ih _)
    · exact .ite lenient_malformed (ih _)

theorem lenient_literalString : Lenient literalString :=
  .bind (lenient_takeWhile _) fun _ => .bind (lenient_expect _) fun _ =>
    .ite lenient_malformed (lenient_pure _)

theorem lenient_literalLines (fuel : Nat) (before : List Char) : Lenient (literalLines fuel before) := by
  induction fuel generalizing before with
  | zero => exact lenient_malformed
  | succ fuel ih =>
    exact .bind (lenient_accept _) fun _ => .ite (lenient_extraQuotes _ _)
      (.bind lenient_take fun _ => .ite lenient_malformed (ih _))

theorem lenient_doubleQuoted : Lenient doubleQuoted :=
  .bind (lenient_accept _) fun _ => .ite
    (.bind (lenient_accept _) fun _ => .bind lenient_fuelAhead fun _ => lenient_basicLines _ _)
    (.bind (lenient_expect _) fun _ => .bind lenient_fuelAhead fun _ => lenient_basicString _ _)

theorem lenient_singleQuoted : Lenient singleQuoted :=
  .bind (lenient_accept _) fun _ => .ite
    (.bind (lenient_accept _) fun _ => .bind lenient_fuelAhead fun _ => lenient_literalLines _ _)
    (.bind (lenient_expect _) fun _ => lenient_literalString)

theorem lenient_keyPart : Lenient keyPart := by
  refine .bind lenient_get fun text => ?_
  split
  · exact .bind (lenient_expect _) fun _ => .bind lenient_fuelAhead fun _ => lenient_basicString _ _
  · exact .bind (lenient_expect _) fun _ => lenient_literalString
  · exact .bind (lenient_takeWhile _) fun _ => .ite lenient_malformed (lenient_pure _)

theorem lenient_keyParts (fuel : Nat) : Lenient (keyParts fuel) := by
  induction fuel with
  | zero => exact lenient_malformed
  | succ fuel ih =>
    refine .bind (lenient_skip _) fun _ => .bind (lenient_accept _) fun _ => .ite ?_ (lenient_pure _)
    exact .bind (lenient_skip _) fun _ => .bind lenient_keyPart fun _ => .bind ih fun _ => lenient_pure _

theorem lenient_key : Lenient key :=
  .bind lenient_keyPart fun _ => .bind lenient_fuelAhead fun _ =>
    .bind (lenient_keyParts _) fun _ => lenient_pure _

/-! ## Numbers -/

/-- The one refusal of an integer comes after its digits have been counted. -/
theorem decimal_integerTooLong {text : List Char} {count : Nat}
    (h : decimal text = .error (.integerTooLong count)) : maxDigits < count := by
  simp only [decimal] at h
  split at h
  · cases h
  · split at h
    · cases h
    · split at h
      · cases h
      · split at h
        · next hmany =>
          cases h
          exact hmany
        · cases h

theorem lenient_decimal (text : List Char) :
    Lenient (decimal text : Except ReadError (Option (Toml × List Char))) := by
  intro rest count h
  cases hdecimal : decimal text with
  | error e =>
    rw [hdecimal] at h
    cases h
    exact decimal_integerTooLong hdecimal
  | ok result =>
    rw [hdecimal] at h
    cases h

theorem lenient_scalar : Lenient scalar := by
  refine .bind lenient_get fun text => ?_
  split
  · exact .bind (lenient_set _) fun _ => .ite (lenient_pure _) lenient_malformed
  · split
    · exact .bind (lenient_set _) fun _ => lenient_pure _
    · refine .bind (lenient_decimal _) fun result => ?_
      split
      · exact .bind (lenient_set _) fun _ => lenient_pure _
      · split
        · exact .bind (lenient_set _) fun _ => lenient_pure _
        · exact lenient_malformed

/-! ## Values -/

/-- Values, what stands in arrays and tables, and entries: by induction on the depth. -/
theorem lenient_values (fuel : Nat) :
    Lenient (value fuel) ∧ (∀ before, Lenient (arrayItems fuel before)) ∧
      (∀ ledger before, Lenient (inlineEntries fuel ledger before)) ∧ Lenient (entry fuel) := by
  induction fuel with
  | zero =>
    exact ⟨lenient_malformed, fun _ => lenient_malformed, fun _ _ => lenient_malformed,
      lenient_malformed⟩
  | succ fuel ih =>
    obtain ⟨hvalue, harray, htable, hentry⟩ := ih
    refine ⟨?_, fun before => ?_, fun ledger before => ?_, ?_⟩
    · refine .bind lenient_get fun text => ?_
      split
      · exact .bind lenient_doubleQuoted fun _ => lenient_pure _
      · exact .bind lenient_singleQuoted fun _ => lenient_pure _
      · exact .bind (lenient_expect _) fun _ => .bind lenient_fuelAhead fun _ =>
          .bind (lenient_skipLines _) fun _ => harray _
      · exact .bind (lenient_expect _) fun _ => .bind (lenient_skip _) fun _ =>
          .bind (lenient_accept _) fun _ => .ite (lenient_pure _) (htable _ _)
      · exact .bind (lenient_accept _) fun _ => .ite (lenient_pure _)
          (.bind (lenient_accept _) fun _ => .ite (lenient_pure _) lenient_scalar)
    · refine .bind (lenient_accept _) fun _ => .ite (lenient_pure _) ?_
      refine .bind hvalue fun _ => .bind lenient_fuelAhead fun _ =>
        .bind (lenient_skipLines _) fun _ => .bind (lenient_accept _) fun _ => .ite ?_ ?_
      · exact .bind lenient_fuelAhead fun _ => .bind (lenient_skipLines _) fun _ => harray _
      · exact .bind (lenient_expect _) fun _ => lenient_pure _
    · refine .bind hentry fun _ => .ite lenient_malformed ?_
      refine .bind (lenient_need _) fun _ => .bind (lenient_skip _) fun _ =>
        .bind (lenient_accept _) fun _ => .ite (lenient_pure _) ?_
      exact .bind (lenient_expect _) fun _ => .bind (lenient_skip _) fun _ => htable _ _
    · exact .bind lenient_key fun _ => .bind (lenient_expect _) fun _ =>
        .bind (lenient_skip _) fun _ => .bind hvalue fun _ => lenient_pure _

/-! ## Documents -/

theorem lenient_addLine (draft : Draft) : Lenient (addLine draft) :=
  .bind lenient_fuelAhead fun _ => .bind (lenient_values _).2.2.2 fun _ =>
    .ite lenient_malformed (.bind (lenient_need _) fun _ => lenient_pure _)

theorem lenient_openTable (draft : Draft) : Lenient (openTable draft) :=
  .bind (lenient_skip _) fun _ => .bind lenient_key fun _ => .ite lenient_malformed
    (.bind (lenient_need _) fun _ => .bind (lenient_expect _) fun _ => lenient_pure _)

theorem lenient_openArrayTable (draft : Draft) : Lenient (openArrayTable draft) :=
  .bind (lenient_skip _) fun _ => .bind lenient_key fun _ => .ite lenient_malformed
    (.bind (lenient_need _) fun _ => .bind (lenient_expect _) fun _ => lenient_pure _)

theorem lenient_statement (draft : Draft) : Lenient (statement draft) := by
  refine .bind (lenient_accept _) fun _ => .ite (lenient_openArrayTable _) ?_
  refine .bind (lenient_accept _) fun _ => .ite (lenient_openTable _) ?_
  refine .bind lenient_get fun text => ?_
  split
  iterate 3 exact lenient_pure _
  exact lenient_addLine _

theorem lenient_lines (fuel : Nat) (draft : Draft) : Lenient (lines fuel draft) := by
  induction fuel generalizing draft with
  | zero => exact lenient_malformed
  | succ fuel ih =>
    refine .bind (lenient_skip _) fun _ => .bind (lenient_statement _) fun _ =>
      .bind (lenient_skip _) fun _ => .bind lenient_skipComment fun _ => .bind lenient_get fun _ => ?_
    exact .ite (lenient_pure _) (.bind (lenient_expect _) fun _ => ih _)

end Reader

/-- **A document is refused for an integer only if that has more than 4300 digits.** -/
theorem ofText?_integerTooLong {text : String} {digits : Nat}
    (h : ofText? text = .error (.integerTooLong digits)) : 4300 < digits := by
  unfold ofText? at h
  simp only at h
  generalize unifyLineEnds text.toList = chars at h
  refine Reader.lenient_lines (chars.length + 1) {} chars digits ?_
  cases hrun : (Reader.lines (chars.length + 1) {}).run chars with
  | error e =>
    rw [hrun] at h
    cases h
    rfl
  | ok result =>
    rw [hrun] at h
    cases h

end BrickFormula.Toml
