import BrickFormula.Evaluation.Functions
import BrickFormula.Proofs.Binary64.Rounding
import BrickFormula.Proofs.Pattern.Faults

/-!
# Results of the functions

A computation of an evaluation ends with a result or with a fault, and draws random numbers on the
way.  Where the environment answers with texts and numbers, every function has such a result too: no
argument stops it, bad or absent or infinite.  Only the pattern of a search does.

    Evaluation.Yields P F    every outcome is a result in `P` or a fault in `F`
    Environment.Answers      the environment answers with texts and numbers
    Answers.readSensor       so do the sensors, except for the layer of a sprite
    Call.yields_random       random numbers have bounds between which they can be drawn
    Call.yields_apply        the functions
-/

namespace BrickFormula

/-! ## Values -/

/-- A text, a finite number or not-a-number. -/
def Value.IsSettled (v : Value) : Prop := ∀ x, v = .number x → x.isInfinite = false

/-- Not a whole number of any size. -/
def Datum.IsPlain (d : Datum) : Prop := ∀ n, d ≠ .integer n

theorem Value.isSettled_text (s : String) : (Value.text s).IsSettled := by
  rintro x ⟨⟩

theorem Value.isSettled_number {x : Binary64} (h : x.isInfinite = false) :
    (Value.number x).IsSettled := by
  rintro _ ⟨⟩
  exact h

theorem Value.isSettled_zero : Value.zero.IsSettled := isSettled_number (by decide)

namespace Datum

theorem isPlain_text (s : String) : (text s).IsPlain := nofun

theorem isPlain_number (x : Binary64) : (number x).IsPlain := nofun

theorem isPlain_absent : absent.IsPlain := nofun

theorem isPlain_ofValue (v : Value) : (ofValue v).IsPlain := by
  cases v with
  | text s => exact isPlain_text s
  | number x => exact isPlain_number x

theorem isPlain_ofOption (v : Option Value) : (ofOption v).IsPlain := by
  cases v with
  | none => exact isPlain_absent
  | some v => exact isPlain_ofValue v

theorem isInfinite_clamp (x : Binary64) : (clamp x).isInfinite = false := by
  cases x with
  | infinity negative => cases negative <;> decide +kernel
  | _ => rfl

variable {d : Datum}

theorem IsPlain.toValue? (h : d.IsPlain) : ∃ v, d.toValue? = .ok v := by
  cases d with
  | integer n => exact absurd rfl (h n)
  | _ => exact ⟨_, rfl⟩

/-- The final value of a datum. -/
theorem IsPlain.normalize (h : d.IsPlain) : ∃ v, d.normalize = .ok v ∧ v.IsSettled := by
  obtain ⟨v, hv⟩ := h.toValue?
  unfold Datum.normalize
  rw [hv]
  rcases v with _ | s | x
  · exact ⟨.zero, rfl, Value.isSettled_zero⟩
  · exact ⟨.text s, rfl, Value.isSettled_text s⟩
  · exact ⟨.number (clamp x), rfl, Value.isSettled_number (isInfinite_clamp x)⟩

end Datum

/-! ## Evaluations -/

/-- From any count of random numbers on, the outcome is a result in `P` or a fault in `F`. -/
def Evaluation.Yields {α : Type} (P : α → Prop) (F : Fault → Prop) (m : Evaluation α) : Prop :=
  ∀ n, (∃ a, (m.run.run n).1 = .ok a ∧ P a) ∨ ∃ f, (m.run.run n).1 = .error f ∧ F f

namespace Evaluation
variable {α β : Type} {P : α → Prop} {Q : β → Prop} {F G : Fault → Prop}

theorem yields_pure {a : α} (h : P a) : Yields P F (pure a) := fun _ => .inl ⟨a, rfl, h⟩

theorem Yields.bind {m : Evaluation α} {k : α → Evaluation β} (hm : Yields P F m)
    (hk : ∀ a, P a → Yields Q F (k a)) : Yields Q F (m >>= k) := by
  intro n
  have hrun := hm n
  rw [ExceptT.run_bind, StateT.run_bind]
  generalize m.run.run n = outcome at hrun ⊢
  obtain ⟨result, drawn⟩ := outcome
  rcases hrun with ⟨a, ha, hP⟩ | ⟨f, hf, hF⟩
  · cases ha
    exact hk a hP drawn
  · cases hf
    exact .inr ⟨f, rfl, hF⟩

theorem Yields.mono {m : Evaluation α} (h : Yields P F m) (hF : ∀ f, F f → G f) : Yields P G m :=
  fun n => (h n).imp_right fun ⟨f, hf, hFf⟩ => ⟨f, hf, hF f hFf⟩

theorem yields_ofExcept {r : Except Fault α} {a : α} (h : r = .ok a) (ha : P a) :
    Yields P F (ofExcept r) := by
  subst h
  exact fun _ => .inl ⟨a, rfl, ha⟩

/-- The last step of every element. -/
theorem yields_normalize {d : Datum} (h : d.IsPlain) :
    Yields (fun o => ∀ v ∈ o, v.IsSettled) F (do return some (← ofExcept d.normalize)) := by
  obtain ⟨v, hd, hv⟩ := h.normalize
  refine .bind (yields_ofExcept hd hv) fun v hv => yields_pure ?_
  intro w hw
  cases hw
  exact hv

end Evaluation

/-! ## Environments -/

/-- Variables and list items are texts, numbers, truth values or absent; the edge and the fingers
can be tested; no reading of a board fails; nothing that is far from a whole number counts as whole;
and random numbers lie between minus one and one. -/
structure Environment.Answers (env : Environment) : Prop where
  get : ∀ name, (env.get name).IsPlain
  getList? : ∀ name items, env.getList? name = some items → ∀ d ∈ items, d.IsPlain
  touchesEdge : ∃ b, env.touchesEdge = .ok b
  collidesWithFinger : ∃ b, env.collisions.collidesWithFinger env.sprite = .ok b
  arduino : ∀ board, env.arduino = some board →
    ∀ n, (∃ x, board.digitalPin n = .ok x) ∧ ∃ x, board.analogPin n = .ok x
  epsilon : env.settings.integerEpsilon.le .one = true
  draw : ∀ n, (env.draw n).Within 0

namespace Environment
variable {env : Environment}

theorem Answers.readVariable (h : env.Answers) (name : String) :
    (env.readVariable name).IsPlain := by
  have hget := h.get name
  unfold Environment.readVariable
  split
  · exact Datum.isPlain_number _
  · exact hget

theorem itemText?_ok {item : Datum} (h : item.IsPlain) : ∃ s, itemText? item = .ok s := by
  obtain ⟨v, hv⟩ := h.toValue?
  unfold itemText?
  rw [hv]
  exact ⟨_, rfl⟩

theorem filterMapM_itemText?_ok {items : List Datum} (h : ∀ d ∈ items, d.IsPlain) :
    ∃ texts, items.filterMapM itemText? = .ok texts := by
  suffices hloop : ∀ collected, ∃ texts, List.filterMapM.loop itemText? items collected = .ok texts
    from hloop []
  induction items with
  | nil => exact fun collected => ⟨collected.reverse, rfl⟩
  | cons item items ih =>
    intro collected
    obtain ⟨text, htext⟩ := itemText?_ok (h item List.mem_cons_self)
    have hrest := ih fun d hd => h d (List.mem_cons_of_mem item hd)
    unfold List.filterMapM.loop
    rw [htext]
    cases text with
    | none => exact hrest collected
    | some s => exact hrest (s :: collected)

theorem joinItems_ok {items : List Datum} (h : ∀ d ∈ items, d.IsPlain) :
    ∃ s, joinItems items = .ok s := by
  obtain ⟨texts, htexts⟩ := filterMapM_itemText?_ok h
  unfold joinItems
  rw [htexts]
  exact ⟨_, rfl⟩

theorem readList_ok {name : String}
    (h : ∀ items, env.getList? name = some items → ∀ d ∈ items, d.IsPlain) :
    ∃ d, env.readList name = .ok d ∧ d.IsPlain := by
  unfold Environment.readList
  rcases hitems : env.getList? name with _ | _ | ⟨item, _ | ⟨second, rest⟩⟩
  · exact ⟨_, rfl, Datum.isPlain_number _⟩
  · exact ⟨_, rfl, Datum.isPlain_text _⟩
  · exact ⟨item, rfl, h _ hitems item List.mem_cons_self⟩
  · obtain ⟨s, hs⟩ := joinItems_ok (h _ hitems)
    refine ⟨.text s, ?_, Datum.isPlain_text s⟩
    simp only [hs]
    rfl

theorem Answers.readList (h : env.Answers) (name : String) :
    ∃ d, env.readList name = .ok d ∧ d.IsPlain := readList_ok (h.getList? name)

theorem truth_ok {test : Except Fault Bool} (h : ∃ b, test = .ok b) :
    ∃ d, truth test = .ok d ∧ d.IsPlain := by
  obtain ⟨b, rfl⟩ := h
  exact ⟨_, rfl, Datum.isPlain_ofValue _⟩

/-- Of all sensors, only the layer of a sprite reads as a whole number of any size. -/
theorem Answers.readSensor (h : env.Answers) {sensor : Sensor} (hlayer : sensor ≠ .objectLayer) :
    ∃ d, env.readSensor sensor = .ok d ∧ d.IsPlain := by
  unfold Environment.readSensor
  split
  · unfold readObjectSensor
    split
    case h_12 => exact absurd rfl hlayer
    case h_19 => exact truth_ok h.touchesEdge
    case h_20 => exact truth_ok h.collidesWithFinger
    all_goals first
      | exact ⟨_, rfl, Datum.isPlain_number _⟩
      | exact ⟨_, rfl, Datum.isPlain_text _⟩
  · exact ⟨_, rfl, Datum.isPlain_ofValue _⟩

end Environment

/-! ## Functions -/

namespace Call
variable {env : Environment} {F : Fault → Prop}

theorem yields_draw (h : env.Answers) : (Evaluation.draw env).Yields (·.Within 0) F :=
  fun n => .inl ⟨env.draw n, rfl, h.draw n⟩

theorem wholePart_ok {x : Binary64} {k : Nat} (h : x.Within k) : ∃ n, wholePart x = .ok n := by
  obtain ⟨negative, units, hr, rfl, -⟩ := h
  exact ⟨_, rfl⟩

/-- Whole bounds lie within 33 bits, so that the number of steps between them is finite. -/
theorem yields_random (h : env.Answers) (left right : Argument) (x y : Binary64) :
    (random env left right x y).Yields (fun _ => True) F := by
  unfold random
  generalize (if x.le y then (x, y) else (y, x)) = bounds
  obtain ⟨low, high⟩ := bounds
  simp only
  split
  · exact Evaluation.yields_pure trivial
  · refine .bind (yields_draw h) fun r hr => ?_
    split
    case isTrue hwhole =>
      simp only [Bool.and_eq_true] at hwhole
      obtain ⟨⟨⟨hlow, hhigh⟩, -⟩, -⟩ := hwhole
      have hlow := Binary64.Within.of_isNearInteger h.epsilon hlow
      have hhigh := Binary64.Within.of_isNearInteger h.epsilon hhigh
      have hsum : (high + .one).Within 33 :=
        hhigh.add (Binary64.within_one.mono (by omega)) (by omega)
      have hspan : (high + .one - low).Within 34 := hsum.sub (hlow.mono (by omega)) (by omega)
      obtain ⟨steps, hsteps⟩ := wholePart_ok (hr.mul hspan (by omega))
      exact .bind (Evaluation.yields_ofExcept (P := fun _ => True) hsteps trivial)
        fun _ _ => Evaluation.yields_pure trivial
    case isFalse => exact Evaluation.yields_pure trivial

theorem yields_direction (h : env.Answers) (x y : Binary64) :
    (direction env x y).Yields (fun _ => True) F := by
  unfold direction
  split
  · exact .bind (yields_draw h) fun _ _ => Evaluation.yields_pure trivial
  · exact Evaluation.yields_pure trivial

theorem yields_applyNumbers (h : env.Answers) (f : BuiltIn) (left right : Argument) :
    (applyNumbers env f left right).Yields (fun _ => True) F := by
  unfold applyNumbers
  split
  · exact yields_random h _ _ _ _
  · exact yields_direction h _ _
  all_goals exact Evaluation.yields_pure trivial

theorem variableLength_ok (h : env.Answers) (name : String) :
    ∃ n, variableLength env name = .ok n := by
  obtain ⟨v, hv⟩ := (h.get name).toValue?
  unfold variableLength
  rw [hv]
  exact ⟨_, rfl⟩

theorem length_ok (h : env.Answers) (a : Argument) : ∃ n, length env a = .ok n := by
  unfold length
  split
  case h_4 => exact variableLength_ok h _
  all_goals exact ⟨_, rfl⟩

theorem itemCount_ok (h : env.Answers) (a : Argument) : ∃ n, itemCount env a = .ok n := by
  unfold itemCount
  split
  · exact ⟨_, rfl⟩
  · exact length_ok h a

theorem isPlain_of_list? (h : env.Answers) {a : Argument} {items : List Datum}
    (hitems : a.list? env = some items) : ∀ d ∈ items, d.IsPlain := by
  unfold Argument.list? at hitems
  split at hitems
  · exact h.getList? _ _ hitems
  · cases hitems

theorem holdsItem_ok (value : Option Value) {items : List Datum} (h : ∀ d ∈ items, d.IsPlain) :
    ∃ b, holdsItem value items = .ok b := by
  induction items with
  | nil => exact ⟨false, rfl⟩
  | cons item items ih =>
    obtain ⟨v, hv⟩ := (h item List.mem_cons_self).toValue?
    unfold holdsItem
    rw [hv]
    change ∃ b, (if Value.equals v value then pure true else holdsItem value items) = .ok b
    split
    · exact ⟨true, rfl⟩
    · exact ih fun d hd => h d (List.mem_cons_of_mem item hd)

theorem isPlain_listItem (h : env.Answers) (left right : Argument) :
    (listItem env left right).IsPlain := by
  unfold listItem
  split
  case h_1 items n hitems _ =>
    cases hitem : items[n]? with
    | none => exact Datum.isPlain_text _
    | some item => exact isPlain_of_list? h hitems item (List.mem_of_getElem? hitem)
  case h_2 => exact Datum.isPlain_text _

theorem yields_regex (characters : CharacterNames) (pattern text : String) :
    (Evaluation.ofExcept (regex characters pattern text)).Yields Datum.IsPlain fun f => f.isOfPattern := by
  unfold regex
  split
  case h_1 fault hfault => exact fun _ => .inr ⟨fault, rfl, SearchPattern.fault_of_ofText? hfault⟩
  case h_2 => exact fun _ => .inl ⟨_, rfl, Datum.isPlain_text _⟩
  case h_3 =>
    split
    · exact fun _ => .inl ⟨_, rfl, Datum.isPlain_text _⟩
    · exact fun _ => .inl ⟨_, rfl, Datum.isPlain_absent⟩
    · exact fun _ => .inl ⟨_, rfl, Datum.isPlain_text _⟩

theorem yields_applyText (h : env.Answers) (f : BuiltIn) (left right : Argument) :
    (Evaluation.ofExcept (applyText env f left right)).Yields Datum.IsPlain fun fault =>
      fault.isOfPattern ∧ f = .regex := by
  have hcount (r : Except Fault Nat) (hr : ∃ n, r = .ok n) :
      (Evaluation.ofExcept (r.map fun n => Datum.number (.ofInt n))).Yields Datum.IsPlain
        fun fault => fault.isOfPattern ∧ f = .regex := by
    obtain ⟨n, rfl⟩ := hr
    exact Evaluation.yields_ofExcept rfl (Datum.isPlain_number _)
  unfold applyText
  simp only
  split
  · exact Evaluation.yields_ofExcept rfl (Datum.isPlain_text _)
  · exact hcount _ (length_ok h left)
  · exact Evaluation.yields_ofExcept rfl (Datum.isPlain_text _)
  · exact (yields_regex _ _ _).mono fun fault hfault => ⟨hfault, rfl⟩
  · exact Evaluation.yields_ofExcept rfl (isPlain_listItem h left right)
  · have hitems : ∀ d ∈ (left.list? env).getD [], d.IsPlain := by
      cases hlist : left.list? env with
      | none => exact fun d hd => absurd hd List.not_mem_nil
      | some items => exact isPlain_of_list? h hlist
    obtain ⟨b, hb⟩ := holdsItem_ok right.value hitems
    rw [hb]
    exact Evaluation.yields_ofExcept rfl (Datum.isPlain_ofValue _)
  · exact hcount _ (itemCount_ok h left)
  · exact Evaluation.yields_ofExcept rfl (Datum.isPlain_number _)

/-- No device stops a function. -/
theorem device_ok (h : env.Answers) (f : BuiltIn) (x : Binary64) : ∃ v, device env f x = .ok v := by
  have hpin {read : Int → Except Fault Binary64} (hread : ∀ n, ∃ y, read n = .ok y) (last : Int) :
      ∃ v, (pin read last x).map Value.number = .ok v := by
    unfold pin
    split
    · exact ⟨_, rfl⟩
    · obtain ⟨y, hy⟩ := hread x.toInt32
      rw [hy]
      exact ⟨_, rfl⟩
  unfold device
  split
  case h_1 =>
    cases hboard : env.arduino with
    | none => exact ⟨_, rfl⟩
    | some board => exact hpin (fun n => (h.arduino board hboard n).1) _
  case h_2 =>
    cases hboard : env.arduino with
    | none => exact ⟨_, rfl⟩
    | some board => exact hpin (fun n => (h.arduino board hboard n).2) _
  all_goals exact ⟨_, rfl⟩

theorem yields_device (h : env.Answers) (f : BuiltIn) (x : Option Binary64) :
    (Evaluation.ofExcept ((x.elim (.ok .zero) (device env f)).map .ofValue)).Yields Datum.IsPlain F := by
  obtain ⟨v, hv⟩ : ∃ v, x.elim (.ok .zero) (device env f) = .ok v := by
    cases x with
    | none => exact ⟨_, rfl⟩
    | some x => exact device_ok h f x
  rw [hv]
  exact Evaluation.yields_ofExcept rfl (Datum.isPlain_ofValue v)

/-- Only the pattern of a search can stop a function. -/
theorem yields_apply (h : env.Answers) (f : BuiltIn) (left right : Argument) :
    (apply env f left right).Yields Datum.IsPlain fun fault =>
      fault.isOfPattern ∧ f = .regex := by
  unfold apply
  split
  case h_17 =>
    exact .bind (yields_applyNumbers h _ left right) fun _ _ =>
      Evaluation.yields_pure (Datum.isPlain_number _)
  all_goals first
    | exact Evaluation.yields_pure (Datum.isPlain_number _)
    | exact yields_applyText h _ left right
    | exact yields_device h _ _

end Call

end BrickFormula
