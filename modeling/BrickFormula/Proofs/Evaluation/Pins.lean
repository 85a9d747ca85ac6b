import BrickFormula.Proofs.Binary64.WholeParts
import BrickFormula.Proofs.Evaluation.Operands
import BrickFormula.Scenario

/-!
# Pins of a board

A pin function turns its argument into a pin and gives the reading of that pin: the pins are those from
zero to a last one, a fraction is cut off, and numbers outside the range ask for no pin.  The range is
tested from below and from above, and not-a-number passes both tests; so it asks for pin zero.  That a
pin is queried shows when the board fails there: the failure is the answer.

    AsksPin last argument n    the value of an argument asks for the pin `n`
    QueriesPin answer n        a failure at the pin `n` is the answer
    DependsOnPin answer n      an answer is not the same for all readings of the pin `n`
    pinReading_of_asksPin      the pin that is asked for gives the answer
    pinReading_of_not_asksPin  all other arguments give zero, also on a board that always fails
    dependsOnPin_iff           so an answer depends on the pin that is asked for, and on no other
    queriesPin_iff             and no other is queried
    evaluate_pin               a pin function of a connected board
    arduino_asks_pin           both of them
-/

namespace BrickFormula

namespace Call
open Binary64

/-- What a pin function makes of the value of its argument. -/
def pinReading (read : Int → Except Fault Binary64) (last : Int) (argument : Option Value) :
    Except Fault Binary64 :=
  (Value.toNumber? argument).elim (.ok .zero) (pin read last)

/-- **The pin that an argument asks for**: the whole part of a number from zero to the last pin, and
zero for not-a-number. -/
def AsksPin (last : Int) (argument : Option Value) (n : Int) : Prop :=
  (∃ x v, Value.toNumber? argument = some x ∧ x.Denotes v ∧ 0 ≤ v ∧ v ≤ last ∧ n ≤ v ∧ v < n + 1) ∨
    Value.toNumber? argument = some .nan ∧ n = 0

/-- On every board that fails at the pin, the answer is this failure. -/
def QueriesPin (answer : (Int → Except Fault Binary64) → Except Fault Binary64) (n : Int) : Prop :=
  ∀ read fault, read n = .error fault → answer read = .error fault

/-- Two boards that differ in one pin only are told apart. -/
def DependsOnPin (answer : (Int → Except Fault Binary64) → Except Fault Binary64) (n : Int) : Prop :=
  ∃ read read', (∀ m ≠ n, read m = read' m) ∧ answer read ≠ answer read'

/-- What is queried makes a difference: there is more than one failure. -/
theorem QueriesPin.dependsOnPin {answer : (Int → Except Fault Binary64) → Except Fault Binary64}
    {n : Int} (h : QueriesPin answer n) : DependsOnPin answer n := by
  let failing (fault : Fault) (m : Int) : Except Fault Binary64 :=
    if m = n then .error fault else .ok zero
  have hfails (fault : Fault) : answer (failing fault) = .error fault := h _ _ (if_pos rfl)
  refine ⟨failing .integerTooLarge, failing .wholePartOfNaN, fun m hm => ?_, ?_⟩
  · exact (if_neg hm).trans (if_neg hm).symm
  · rw [hfails, hfails]
    exact nofun

section
variable {read : Int → Except Fault Binary64} {last n : Int} {argument : Option Value} {x : Binary64}
  {v : ℚ}

theorem pin_nan (read : Int → Except Fault Binary64) (last : Int) : pin read last .nan = read 0 := by
  have hlast (y : Binary64) : y.lt .nan = false := by cases y <;> rfl
  unfold pin
  rw [hlast]
  rfl

/-- **A number in the range gives the reading of its whole part.** -/
theorem pin_of_between (hlast : last.natAbs < 2 ^ 31) (h : x.Denotes v) (hlow : 0 ≤ v)
    (hhigh : v ≤ last) (hn : n ≤ v ∧ v < n + 1) : 0 ≤ n ∧ n ≤ last ∧ pin read last x = read n := by
  obtain ⟨p, hx, hv⟩ := h
  have hplace : p / unitsPerOne = n := (floor_iff_place hv n).mp hn
  have hnonneg : ¬ p < 0 := by
    have hless := lt_whole_iff_place hv 0
    rw [Int.zero_mul, Int.cast_zero] at hless
    exact mt hless.mpr (not_lt.mpr hlow)
  have hmost : ¬ last * unitsPerOne < p := mt (whole_lt_iff_place hv last).mpr (not_lt.mpr hhigh)
  have hzero : 0 ≤ n := hplace ▸ Int.ediv_nonneg (Int.not_lt.mp hnonneg) (Int.natCast_nonneg _)
  have hle : n ≤ last := Int.cast_le.mp (hn.1.trans hhigh)
  have hgreatest : greatestInt32 = 2147483647 := rfl
  refine ⟨hzero, hle, ?_⟩
  unfold pin
  rw [if_neg, hx.toInt32_eq (Int.not_lt.mp hnonneg) (by omega), hplace]
  rw [Bool.or_eq_true, hx.lt_iff liesAt_zero, (liesAt_ofInt (by omega)).lt_iff hx]
  exact not_or.mpr ⟨hnonneg, hmost⟩

/-- **A number outside the range gives zero.** -/
theorem pin_of_outside (hlast : last.natAbs < 2 ^ 31) (hnan : x ≠ .nan)
    (h : ∀ v, x.Denotes v → v < 0 ∨ last < v) : pin read last x = .ok zero := by
  have hbound := liesAt_ofInt (n := last) (by omega)
  unfold pin
  refine if_pos ?_
  rw [Bool.or_eq_true]
  cases x with
  | nan => exact absurd rfl hnan
  | infinity negative =>
    cases negative with
    | false => exact .inr hbound.lt_infinity
    | true => exact .inl liesAt_zero.infinity_lt
  | finite negative units hr =>
    have hx := liesAt_finite negative hr
    have hv : (signed negative units / unitsPerOne : ℚ) * unitsPerOne = signed negative units :=
      div_mul_cancel₀ _ (ne_of_gt unitsPerOne_cast_pos)
    rw [hx.lt_iff liesAt_zero, hbound.lt_iff hx]
    refine (h _ ⟨_, hx, hv⟩).imp (fun hless => ?_) (whole_lt_iff_place hv last).mp
    have hzero := lt_whole_iff_place hv 0
    rw [Int.zero_mul, Int.cast_zero] at hzero
    exact hzero.mp hless

/-- The pin that is asked for is one of the pins, and its reading is the answer. -/
theorem pinReading_of_asksPin (hzero : 0 ≤ last) (hlast : last.natAbs < 2 ^ 31)
    (h : AsksPin last argument n) (read : Int → Except Fault Binary64) :
    0 ≤ n ∧ n ≤ last ∧ pinReading read last argument = read n := by
  unfold pinReading
  rcases h with ⟨x, v, hx, hv, hlow, hhigh, hn⟩ | ⟨hx, rfl⟩
  · rw [hx, Option.elim_some]
    exact pin_of_between hlast hv hlow hhigh hn
  · rw [hx, Option.elim_some]
    exact ⟨Int.le_refl 0, hzero, pin_nan read last⟩

/-- If no pin is asked for, the answer is zero. -/
theorem pinReading_of_not_asksPin (hlast : last.natAbs < 2 ^ 31) (h : ∀ n, ¬ AsksPin last argument n)
    (read : Int → Except Fault Binary64) : pinReading read last argument = .ok zero := by
  unfold pinReading
  cases hx : Value.toNumber? argument with
  | none => rfl
  | some x =>
    refine pin_of_outside hlast ?_ fun v hv => ?_
    · rintro rfl
      exact h 0 (.inr ⟨hx, rfl⟩)
    · obtain ⟨p, hp, hplace⟩ := id hv
      by_contra hout
      rw [not_or, not_lt, not_lt] at hout
      exact h (p / unitsPerOne)
        (.inl ⟨x, v, hx, hv, hout.1, hout.2, (floor_iff_place hplace _).mpr rfl⟩)

/-- **An answer depends on the pin that is asked for, and on no other.** -/
theorem dependsOnPin_iff (hzero : 0 ≤ last) (hlast : last.natAbs < 2 ^ 31) (n : Int) :
    DependsOnPin (fun read => pinReading read last argument) n ↔ AsksPin last argument n := by
  constructor
  · rintro ⟨read, read', hsame, hdiffer⟩
    by_contra hnot
    refine hdiffer ?_
    by_cases hasks : ∃ m, AsksPin last argument m
    · obtain ⟨m, hm⟩ := hasks
      have hne : m ≠ n := fun heq => hnot (heq ▸ hm)
      show pinReading read last argument = pinReading read' last argument
      rw [(pinReading_of_asksPin hzero hlast hm read).2.2,
        (pinReading_of_asksPin hzero hlast hm read').2.2, hsame m hne]
    · have hnone := not_exists.mp hasks
      exact (pinReading_of_not_asksPin hlast hnone read).trans
        (pinReading_of_not_asksPin hlast hnone read').symm
  · intro h
    refine QueriesPin.dependsOnPin fun read fault hfault => ?_
    rw [(pinReading_of_asksPin hzero hlast h read).2.2, hfault]

/-- **The pin that is asked for is queried, and no other.** -/
theorem queriesPin_iff (hzero : 0 ≤ last) (hlast : last.natAbs < 2 ^ 31) (n : Int) :
    QueriesPin (fun read => pinReading read last argument) n ↔ AsksPin last argument n := by
  constructor
  · intro h
    exact (dependsOnPin_iff hzero hlast n).mp h.dependsOnPin
  · intro h read fault hfault
    show pinReading read last argument = .error fault
    rw [(pinReading_of_asksPin hzero hlast h read).2.2, hfault]

end
end Call

namespace Formula
open Binary64 Call

/-- A pin function, by the readings and the last pin of its board. -/
theorem evaluate_pin (env : Environment) {text : Option String} {f : BuiltIn}
    {read : Int → Except Fault Binary64} {last : Int} (hname : text.bind BuiltIn.ofName? = some f)
    (hf : f ∈ [BuiltIn.arduinoDigital, .arduinoAnalog])
    (hdevice : ∀ x, device env f x = (pin read last x).map .number) (left right : Formula) :
    (node .function text left right).evaluate env = do
      let x ← left.operand env
      let _ ← right.operand env
      let reading ← .ofExcept (pinReading read last x)
      return .number (Datum.clamp reading) := by
  rw [evaluate_call env hname]
  refine bind_congr fun x => bind_congr fun y => ?_
  have happly : Call.apply env f ⟨left, x⟩ ⟨right, y⟩ =
      .ofExcept ((Value.toNumber? x).elim (.ok .zero) (device env f) |>.map .ofValue) := by
    rcases List.mem_pair.mp hf with rfl | rfl <;> rfl
  rw [happly]
  unfold pinReading
  cases Value.toNumber? x with
  | none => rfl
  | some x =>
    rw [Option.elim_some, Option.elim_some, hdevice]
    cases pin read last x <;> rfl

/-- **A board is asked for the pin of the argument and for nothing else.**  The answer is the reading
of that pin, or its failure, whatever the board is; and zero if the argument is a number outside the
range, an infinity, no numeral or absent, even on a board that fails at every pin. -/
theorem arduino_asks_pin (env : Environment) (board : ArduinoBoard) (h : env.arduino = some board)
    (left right : Formula) :
    ((node .function (some "ARDUINODIGITAL") left right).evaluate env = do
      let x ← left.operand env
      let _ ← right.operand env
      let reading ← .ofExcept (pinReading board.digitalPin 13 x)
      return .number (Datum.clamp reading)) ∧
    ((node .function (some "ARDUINOANALOG") left right).evaluate env = do
      let x ← left.operand env
      let _ ← right.operand env
      let reading ← .ofExcept (pinReading board.analogPin 5 x)
      return .number (Datum.clamp reading)) ∧
    ∀ last ∈ [(13 : Int), 5], ∀ argument : Option Value,
      (∀ n, AsksPin last argument n →
        0 ≤ n ∧ n ≤ last ∧ ∀ read, pinReading read last argument = read n) ∧
      ((∀ n, ¬ AsksPin last argument n) → ∀ read, pinReading read last argument = .ok zero) ∧
      ∀ n, (QueriesPin (fun read => pinReading read last argument) n ↔ AsksPin last argument n) ∧
        (DependsOnPin (fun read => pinReading read last argument) n ↔ AsksPin last argument n) := by
  have hdigital (x : Binary64) :
      device env .arduinoDigital x = (pin board.digitalPin 13 x).map .number := by
    simp only [device, h, Option.elim_some, lastDigitalPin]
  have hanalog (x : Binary64) :
      device env .arduinoAnalog x = (pin board.analogPin 5 x).map .number := by
    simp only [device, h, Option.elim_some, lastAnalogPin]
  refine ⟨evaluate_pin env (by decide) (by decide) hdigital left right,
    evaluate_pin env (by decide) (by decide) hanalog left right, fun last hmem argument => ?_⟩
  have hzero : 0 ≤ last := by
    revert last
    decide
  have hlast : last.natAbs < 2 ^ 31 := by
    revert last
    decide
  refine ⟨fun n hn => ?_, pinReading_of_not_asksPin hlast,
    fun n => ⟨queriesPin_iff hzero hlast n, dependsOnPin_iff hzero hlast n⟩⟩
  have hreading := pinReading_of_asksPin hzero hlast hn
  exact ⟨(hreading fun _ => .ok zero).1, (hreading fun _ => .ok zero).2.1,
    fun read => (hreading read).2.2⟩

/-- A board whose first pin alone is high. -/
def firstPinHigh : Scenario := { arduino := some { digital := [(0, one)] } }

def firstPinEnvironment : Environment := firstPinHigh.environment {} fun _ => .zero

/-- The digital pin that a text asks for. -/
def digitalPinOf (text : String) : Formula :=
  node .function (some "ARDUINODIGITAL") (node .string (some text) .empty .empty) .empty

/-- A fraction below one asks for the first pin. -/
theorem arduino_asks_pin_fraction :
    firstPinEnvironment.arduino = some (Scenario.ofArduinoPins { digital := [(0, one)] }) ∧
      (((digitalPinOf "0.9").evaluate firstPinEnvironment).run.run 0).1 = .ok (.number one) := by
  refine ⟨rfl, ?_⟩
  unfold digitalPinOf
  rw [(arduino_asks_pin firstPinEnvironment _ rfl _ _).1]
  decide +kernel

/-- But not-a-number, which is outside the range, has the reading of the first pin too. -/
theorem digitalPinOf_notANumber :
    (((digitalPinOf "NaN").evaluate firstPinEnvironment).run.run 0).1 = .ok (.number one) := by
  decide +kernel

end Formula

end BrickFormula
