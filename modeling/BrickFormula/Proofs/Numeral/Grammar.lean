import BrickFormula.Proofs.Binary64.Nearest
import BrickFormula.Proofs.Numeral.Spelling

/-!
# The grammar of numerals

Reading takes exactly the numerals, with any blanks around them, and gives the number nearest to what
they say.  The grammar is stated part by part, each part with its meaning; reading cuts a text into
these parts, so what it takes is in the grammar, and what is in the grammar is cut where the parts
meet, as no part goes on with a character that the next one starts with.

    IsNumeral text negative meaning    the text is a numeral between blanks, and what it says
    Meaning.Denotes                    the number that has the meaning
    parseChars?_sound                  what is read is a numeral
    parseChars?_complete               and numerals are read
    parse?_grammar                     reading is the grammar
-/

namespace BrickFormula.Numeral

open Binary64 Digits

/-! ## Grammar -/

/-- A plus, a minus or nothing, and whether it is a minus. -/
inductive IsSign : List Char → Bool → Prop
  | none : IsSign [] false
  | plus : IsSign ['+'] false
  | minus : IsSign ['-'] true

/-- Digits that a point and more digits may follow, or a point with digits behind it; and the digits
on both sides. -/
inductive IsPointed : List Char → List Char → List Char → Prop
  | digits {whole : List Char} : Only whole → whole ≠ [] → IsPointed whole whole []
  | point {whole decimals : List Char} : Only whole → whole ≠ [] → Only decimals →
    IsPointed (whole ++ '.' :: decimals) whole decimals
  | fraction {decimals : List Char} : Only decimals → decimals ≠ [] →
    IsPointed ('.' :: decimals) [] decimals

/-- An `e` or `E` with a sign and digits behind it, or nothing; and its value. -/
inductive IsExponent : List Char → Int → Prop
  | none : IsExponent [] 0
  | marked {mark : Char} {sign digits : List Char} {negative : Bool} : mark = 'e' ∨ mark = 'E' →
    IsSign sign negative → Only digits → digits ≠ [] →
    IsExponent (mark :: (sign ++ digits))
      (if negative then -(Nat.ofDigitChars 10 digits 0) else Nat.ofDigitChars 10 digits 0)

/-- The letters that may end a decimal. -/
def endings : List (List Char) := [[], ['f'], ['F'], ['d'], ['D']]

def IsEnding (text : List Char) : Prop := text ∈ endings

/-- What a numeral says apart from its sign. -/
inductive Meaning where
  | nan
  | infinity
  | value (v : ℚ)

/-- A numeral without its sign. -/
inductive IsUnsigned : List Char → Meaning → Prop
  | nan : IsUnsigned "NaN".toList .nan
  | infinity : IsUnsigned "Infinity".toList .infinity
  | decimal {pointed whole decimals exponent ending : List Char} {e : Int} :
    IsPointed pointed whole decimals → IsExponent exponent e → IsEnding ending →
    IsUnsigned (pointed ++ (exponent ++ ending))
      (.value ((Nat.ofDigitChars 10 whole 0 +
        Nat.ofDigitChars 10 decimals 0 / 10 ^ decimals.length) * 10 ^ e))

/-- A sign and a numeral, between characters up to the space. -/
inductive IsNumeral : List Char → Bool → Meaning → Prop
  | mk {before sign unsigned after : List Char} {negative : Bool} {meaning : Meaning} :
    (∀ c ∈ before, c.toNat ≤ 0x20) → (∀ c ∈ after, c.toNat ≤ 0x20) →
    IsSign sign negative → IsUnsigned unsigned meaning →
    IsNumeral (before ++ (sign ++ unsigned) ++ after) negative meaning

/-- The number with the sign that has the meaning; the number nearest to a value. -/
def Meaning.Denotes (negative : Bool) (x : Binary64) : Meaning → Prop
  | nan => x = .nan
  | infinity => x = .infinity negative
  | value v => IsNearest negative v x

theorem Meaning.Denotes.unique {negative : Bool} {x y : Binary64} {meaning : Meaning}
    (hx : meaning.Denotes negative x) (hy : meaning.Denotes negative y) : x = y := by
  cases meaning with
  | nan => exact Eq.trans hx (Eq.symm hy)
  | infinity => exact Eq.trans hx (Eq.symm hy)
  | value v => exact IsNearest.unique hx hy

/-! ## Decimals -/

section
variable {text rest digits whole decimals pointed exponent ending : List Char} {negative : Bool}
  {e : Int}

instance : Decidable (IsEnding text) := inferInstanceAs (Decidable (text ∈ _))

theorem isEnding_singleton {c : Char} : IsEnding [c] ↔ isSuffix c = true := by
  simp [IsEnding, endings, isSuffix, or_assoc]

/-- What is read from the parts that reading cuts the text into. -/
theorem parseDecimal?_eq (hpoint : splitPoint text = (whole, decimals, rest))
    (hexponent : (exponent? rest).getD (0, rest) = (e, ending)) :
    parseDecimal? negative text =
      if (whole.isEmpty && decimals.isEmpty) = false ∧ IsEnding ending then
        some (ofDecimal negative (toNat 10 (whole ++ decimals)) (e - decimals.length))
      else none := by
  unfold parseDecimal?
  simp only [hpoint, hexponent]
  cases hempty : whole.isEmpty && decimals.isEmpty with
  | true => rfl
  | false =>
    match ending with
    | [] => rfl
    | [c] => simp only [isEnding_singleton, Bool.false_eq_true, if_false, true_and]
    | c :: d :: more => simp [IsEnding, endings]

/-- The digits on both sides of a point have the value of all digits, with a smaller exponent. -/
theorem value_pointed (hw : Only whole) (hd : Only decimals) (e : Int) :
    (Nat.ofDigitChars 10 whole 0 + Nat.ofDigitChars 10 decimals 0 / 10 ^ decimals.length) * 10 ^ e =
      (toNat 10 (whole ++ decimals) * 10 ^ (e - decimals.length) : ℚ) := by
  have hten : (10 : ℚ) ≠ 0 := by norm_num
  have hall : toNat 10 (whole ++ decimals) =
      10 ^ decimals.length * Nat.ofDigitChars 10 whole 0 + Nat.ofDigitChars 10 decimals 0 := by
    rw [toNat_eq_ofDigitChars (hw.append hd), Nat.ofDigitChars_append]
    exact Nat.ofDigitChars_eq_ofDigitChars_zero
  rw [hall, zpow_sub₀ hten, zpow_natCast]
  push_cast
  field_simp

theorem IsPointed.only (h : IsPointed pointed whole decimals) : Only whole ∧ Only decimals := by
  cases h with
  | digits hw => exact ⟨hw, nofun⟩
  | point hw _ hd => exact ⟨hw, hd⟩
  | fraction hd => exact ⟨nofun, hd⟩

/-- **A decimal has the number nearest to its value.** -/
theorem IsPointed.isNearest (h : IsPointed pointed whole decimals) (negative : Bool) (e : Int) :
    IsNearest negative ((Nat.ofDigitChars 10 whole 0 +
        Nat.ofDigitChars 10 decimals 0 / 10 ^ decimals.length) * 10 ^ e)
      (ofDecimal negative (toNat 10 (whole ++ decimals)) (e - decimals.length)) := by
  rw [value_pointed h.only.1 h.only.2]
  exact isNearest_ofDecimal negative _ _

/-! ## What is read is a numeral -/

theorem split_sound (h : split text = (digits, rest)) : Only digits ∧ text = digits ++ rest := by
  obtain ⟨rfl, rfl⟩ := h
  exact ⟨fun _ hc => List.all_eq_true.mp List.all_takeWhile _ hc,
    List.takeWhile_append_dropWhile.symm⟩

theorem splitSign_sound (h : splitSign text = (negative, rest)) :
    ∃ sign, IsSign sign negative ∧ text = sign ++ rest := by
  unfold splitSign at h
  split at h
  all_goals obtain ⟨rfl, rfl⟩ := h
  · exact ⟨['-'], .minus, rfl⟩
  · exact ⟨['+'], .plus, rfl⟩
  · exact ⟨[], .none, rfl⟩

theorem splitPoint_sound (h : splitPoint text = (whole, decimals, rest))
    (hne : (whole.isEmpty && decimals.isEmpty) = false) :
    ∃ pointed, IsPointed pointed whole decimals ∧ text = pointed ++ rest := by
  unfold splitPoint at h
  rcases hsplit : split text with ⟨digits, tail⟩
  obtain ⟨hdigits, rfl⟩ := split_sound hsplit
  rw [hsplit] at h
  simp only at h
  split at h
  · next behind =>
    rcases hbehind : split behind with ⟨more, tail⟩
    obtain ⟨hmore, rfl⟩ := split_sound hbehind
    rw [hbehind] at h
    obtain ⟨rfl, rfl, rfl⟩ := h
    cases whole with
    | nil => exact ⟨_, .fraction hmore (List.isEmpty_eq_false_iff.mp hne), rfl⟩
    | cons d whole =>
      refine ⟨_, .point hdigits (List.cons_ne_nil d whole) hmore, ?_⟩
      exact (List.append_assoc (d :: whole) ('.' :: more) tail).symm
  · obtain ⟨rfl, rfl, rfl⟩ := h
    rw [List.isEmpty_nil, Bool.and_true] at hne
    exact ⟨_, .digits hdigits (List.isEmpty_eq_false_iff.mp hne), rfl⟩

theorem signedValue_eq (h : Only digits) :
    signedValue negative digits =
      if negative then -(Nat.ofDigitChars 10 digits 0 : Int) else Nat.ofDigitChars 10 digits 0 := by
  unfold signedValue
  rw [toNat_eq_ofDigitChars h]

theorem exponent?_sound (h : exponent? text = some (e, rest)) :
    ∃ exponent, IsExponent exponent e ∧ text = exponent ++ rest := by
  unfold exponent? at h
  split at h
  case h_2 => cases h
  case h_1 mark behind =>
    split at h
    case isFalse => cases h
    case isTrue hmark =>
      rcases hbehind : splitSign behind with ⟨negative, unsigned⟩
      rcases hunsigned : split unsigned with ⟨digits, tail⟩
      obtain ⟨sign, hsign, rfl⟩ := splitSign_sound hbehind
      obtain ⟨hdigits, rfl⟩ := split_sound hunsigned
      simp only [hbehind, hunsigned] at h
      split at h
      case isTrue => cases h
      case isFalse hne =>
        obtain ⟨rfl, rfl⟩ := Prod.mk.inj (Option.some.inj h)
        refine ⟨mark :: (sign ++ digits), ?_, ?_⟩
        · rw [signedValue_eq hdigits]
          exact .marked hmark hsign hdigits (mt List.isEmpty_iff.mpr hne)
        · rw [List.cons_append, List.append_assoc]

theorem exponent?_getD_sound (h : (exponent? text).getD (0, text) = (e, rest)) :
    ∃ exponent, IsExponent exponent e ∧ text = exponent ++ rest := by
  cases hexponent : exponent? text with
  | some r =>
    rw [hexponent] at h
    exact exponent?_sound (hexponent.trans (congrArg some h))
  | none =>
    rw [hexponent] at h
    obtain ⟨rfl, rfl⟩ := h
    exact ⟨[], .none, rfl⟩

theorem parseDecimal?_sound {x : Binary64} (h : parseDecimal? negative text = some x) :
    ∃ meaning, IsUnsigned text meaning ∧ meaning.Denotes negative x := by
  rcases hpoint : splitPoint text with ⟨whole, decimals, rest⟩
  rcases hexponent : (exponent? rest).getD (0, rest) with ⟨e, ending⟩
  rw [parseDecimal?_eq hpoint hexponent] at h
  split at h
  case isFalse => cases h
  case isTrue hparts =>
    obtain ⟨pointed, hpointed, rfl⟩ := splitPoint_sound hpoint hparts.1
    obtain ⟨exponent, hmarked, rfl⟩ := exponent?_getD_sound hexponent
    obtain rfl := Option.some.inj h
    exact ⟨_, .decimal hpointed hmarked hparts.2, hpointed.isNearest negative e⟩

/-- **What is read is a numeral of its number.** -/
theorem parseChars?_sound {x : Binary64} (h : parseChars? text = some x) :
    ∃ sign unsigned negative meaning, text = sign ++ unsigned ∧ IsSign sign negative ∧
      IsUnsigned unsigned meaning ∧ meaning.Denotes negative x := by
  rcases hsplit : splitSign text with ⟨negative, rest⟩
  unfold parseChars? at h
  rw [hsplit] at h
  obtain ⟨sign, hsign, rfl⟩ := splitSign_sound hsplit
  suffices hrest : ∃ meaning, IsUnsigned rest meaning ∧ meaning.Denotes negative x from
    have ⟨meaning, hunsigned, hdenotes⟩ := hrest
    ⟨sign, rest, negative, meaning, rfl, hsign, hunsigned, hdenotes⟩
  simp only at h
  split at h
  · next hword =>
    subst hword
    exact ⟨.nan, .nan, (Option.some.inj h).symm⟩
  split at h
  · next hword =>
    subst hword
    exact ⟨.infinity, .infinity, (Option.some.inj h).symm⟩
  · exact parseDecimal?_sound h

/-! ## Numerals are read -/

theorem splitSign_append (h : IsSign sign negative)
    (hrest : ∀ c ∈ rest.head?, c ≠ '+' ∧ c ≠ '-') : splitSign (sign ++ rest) = (negative, rest) := by
  cases h with
  | plus => rfl
  | minus => rfl
  | none =>
    rw [List.nil_append]
    unfold splitSign
    split
    · exact absurd rfl (hrest '-' rfl).2
    · exact absurd rfl (hrest '+' rfl).1
    · rfl

theorem splitPoint_append (h : IsPointed pointed whole decimals)
    (hrest : ∀ c ∈ rest.head?, c.isDigit = false ∧ c ≠ '.') :
    splitPoint (pointed ++ rest) = (whole, decimals, rest) := by
  have hdigit : ∀ c ∈ rest.head?, c.isDigit = false := fun c hc => (hrest c hc).1
  have hpoint : ∀ {decimals : List Char}, ∀ c ∈ ('.' :: (decimals ++ rest)).head?,
      c.isDigit = false := by
    rintro _ c ⟨⟩
    rfl
  unfold splitPoint
  cases h with
  | digits hw =>
    rw [split_append hw hdigit]
    simp only
    split
    · exact absurd rfl (hrest '.' rfl).2
    · rfl
  | point hw _ hd =>
    rw [List.append_assoc, List.cons_append, split_append hw hpoint]
    simp only [split_append hd hdigit]
  | fraction hd =>
    have hempty : Only [] := nofun
    have hnone : split ('.' :: (decimals ++ rest)) = ([], '.' :: (decimals ++ rest)) :=
      split_append hempty hpoint
    rw [List.cons_append, hnone]
    simp only [split_append hd hdigit]

theorem IsEnding.head (h : IsEnding ending) :
    ∀ c ∈ ending.head?, c.isDigit = false ∧ c ≠ '.' := by
  have hheads : ∀ ending ∈ endings, ending.head?.all (fun c => !c.isDigit && c != '.') = true := by
    decide
  intro c hc
  have hhead := hheads ending h
  rw [Option.mem_def.mp hc] at hhead
  simpa using hhead

/-- Behind the digits there is neither a digit nor a point. -/
theorem head_exponent_append (h : IsExponent exponent e) (hending : IsEnding ending) :
    ∀ c ∈ (exponent ++ ending).head?, c.isDigit = false ∧ c ≠ '.' := by
  cases h with
  | none => exact hending.head
  | marked hmark =>
    rintro c ⟨⟩
    rcases hmark with rfl | rfl <;> exact ⟨rfl, by decide⟩

theorem exponent?_append (h : IsExponent exponent e) (hending : IsEnding ending) :
    (exponent? (exponent ++ ending)).getD (0, exponent ++ ending) = (e, ending) := by
  cases h with
  | none =>
    have hnone : exponent? ending = none :=
      (by decide : ∀ ending ∈ endings, exponent? ending = none) ending hending
    rw [List.nil_append, hnone]
    rfl
  | @marked mark sign digits negative hmark hsign hdigits hne =>
    have hsplit : split (digits ++ ending) = (digits, ending) :=
      split_append hdigits fun c hc => (hending.head c hc).1
    have hstart : ∀ c ∈ (digits ++ ending).head?, c ≠ '+' ∧ c ≠ '-' := by
      intro c hc
      rw [List.head?_append_of_ne_nil _ hne] at hc
      have hdigit := hdigits c (List.mem_of_mem_head? hc)
      constructor <;> rintro rfl <;> cases hdigit
    unfold exponent?
    simp only [List.cons_append, List.append_assoc, if_pos hmark, splitSign_append hsign hstart, hsplit,
      List.isEmpty_iff, if_neg hne, signedValue_eq hdigits]
    rfl

/-- A decimal starts with a digit or a point. -/
theorem IsPointed.exists_cons (h : IsPointed pointed whole decimals) :
    ∃ c more, pointed = c :: more ∧ (c.isDigit = true ∨ c = '.') := by
  have hstart : ∀ {whole : List Char}, Only whole → whole ≠ [] →
      ∃ c more, whole = c :: more ∧ (c.isDigit = true ∨ c = '.') := by
    intro whole hw hne
    obtain ⟨c, more, rfl⟩ := List.exists_cons_of_ne_nil hne
    exact ⟨c, more, rfl, .inl (hw c List.mem_cons_self)⟩
  cases h with
  | digits hw hne => exact hstart hw hne
  | fraction => exact ⟨'.', _, rfl, .inr rfl⟩
  | point hw hne =>
    obtain ⟨c, more, rfl, hc⟩ := hstart hw hne
    exact ⟨c, _, List.cons_append, hc⟩

theorem IsPointed.isEmpty (h : IsPointed pointed whole decimals) :
    (whole.isEmpty && decimals.isEmpty) = false := by
  cases h with
  | digits _ hne => rw [List.isEmpty_eq_false_iff.mpr hne, Bool.false_and]
  | point _ hne => rw [List.isEmpty_eq_false_iff.mpr hne, Bool.false_and]
  | fraction _ hne => rw [List.isEmpty_eq_false_iff.mpr hne, Bool.and_false]

/-- **Numerals are read as their numbers.** -/
theorem parseChars?_complete {sign unsigned : List Char} {meaning : Meaning} (h : IsSign sign negative)
    (hunsigned : IsUnsigned unsigned meaning) :
    ∃ x, parseChars? (sign ++ unsigned) = some x ∧ meaning.Denotes negative x := by
  unfold parseChars?
  cases hunsigned with
  | nan =>
    have hstart : ∀ c ∈ "NaN".toList.head?, c ≠ '+' ∧ c ≠ '-' := by
      rintro _ ⟨⟩
      decide
    rw [splitSign_append h hstart]
    exact ⟨.nan, rfl, rfl⟩
  | infinity =>
    have hstart : ∀ c ∈ "Infinity".toList.head?, c ≠ '+' ∧ c ≠ '-' := by
      rintro _ ⟨⟩
      decide
    rw [splitSign_append h hstart]
    exact ⟨.infinity negative, rfl, rfl⟩
  | @decimal pointed whole decimals exponent ending e hpointed hexponent hending =>
    -- the first character is a digit or a point, so nothing is cut off as a sign, and it is no word
    obtain ⟨c, more, rfl, hc⟩ := hpointed.exists_cons
    have hother : ∀ d : Char, d.isDigit = false → d ≠ '.' → c ≠ d := by
      rintro d hdigit hpoint rfl
      rcases hc with hc | hc
      · rw [hc] at hdigit
        cases hdigit
      · exact hpoint hc
    have hstart : ∀ d ∈ (c :: more ++ (exponent ++ ending)).head?, d ≠ '+' ∧ d ≠ '-' := by
      rintro _ ⟨⟩
      exact ⟨hother '+' rfl (by decide), hother '-' rfl (by decide)⟩
    have hword : ∀ (d : Char) (word : List Char), d.isDigit = false → d ≠ '.' →
        c :: more ++ (exponent ++ ending) ≠ d :: word :=
      fun d word hdigit hpoint heq => hother d hdigit hpoint (List.cons.inj heq).1
    have hnan : c :: more ++ (exponent ++ ending) ≠ "NaN".toList :=
      hword 'N' ['a', 'N'] rfl (by decide)
    have hinfinity : c :: more ++ (exponent ++ ending) ≠ "Infinity".toList :=
      hword 'I' ['n', 'f', 'i', 'n', 'i', 't', 'y'] rfl (by decide)
    have hpoint := splitPoint_append hpointed (head_exponent_append hexponent hending)
    rw [splitSign_append h hstart]
    simp only
    rw [if_neg hnan, if_neg hinfinity,
      parseDecimal?_eq hpoint (exponent?_append hexponent hending),
      if_pos ⟨hpointed.isEmpty, hending⟩]
    exact ⟨_, rfl, hpointed.isNearest negative e⟩

/-! ## Blanks -/

theorem isBlank_iff {c : Char} : isBlank c = true ↔ c.toNat ≤ 0x20 := decide_eq_true_iff

/-- What is trimmed off both ends. -/
theorem exists_trimChars (text : List Char) :
    ∃ before after, text = before ++ trimChars text ++ after ∧
      (∀ c ∈ before, c.toNat ≤ 0x20) ∧ ∀ c ∈ after, c.toNat ≤ 0x20 := by
  have hblank : ∀ l : List Char, ∀ c ∈ l.takeWhile isBlank, c.toNat ≤ 0x20 := fun l c hc =>
    isBlank_iff.mp (List.all_eq_true.mp List.all_takeWhile c hc)
  refine ⟨text.takeWhile isBlank, ((text.dropWhile isBlank).reverse.takeWhile isBlank).reverse, ?_,
    hblank text, fun c hc => hblank _ c (List.mem_reverse.mp hc)⟩
  unfold trimChars
  rw [List.append_assoc, ← List.reverse_append, List.takeWhile_append_dropWhile, List.reverse_reverse,
    List.takeWhile_append_dropWhile]

theorem dropWhile_isBlank {blanks core : List Char} (hblanks : ∀ c ∈ blanks, c.toNat ≤ 0x20)
    (hcore : ∀ c ∈ core.head?, isBlank c = false) :
    (blanks ++ core).dropWhile isBlank = core := by
  rw [List.dropWhile_append_of_pos fun c hc => isBlank_iff.mpr (hblanks c hc)]
  cases core with
  | nil => rfl
  | cons c core => exact List.dropWhile_cons_of_neg (Bool.eq_false_iff.mp (hcore c rfl))

/-- Blanks around a text without blanks. -/
theorem trimChars_append {before core after : List Char} (hbefore : ∀ c ∈ before, c.toNat ≤ 0x20)
    (hafter : ∀ c ∈ after, c.toNat ≤ 0x20) (hne : core ≠ [])
    (hcore : ∀ c ∈ core, isBlank c = false) : trimChars (before ++ core ++ after) = core := by
  unfold trimChars
  rw [List.append_assoc, dropWhile_isBlank hbefore, List.reverse_append, dropWhile_isBlank,
    List.reverse_reverse]
  · exact fun c hc => hafter c (List.mem_reverse.mp hc)
  · exact fun c hc => hcore c (List.mem_reverse.mp (List.mem_of_mem_head? hc))
  · rw [List.head?_append_of_ne_nil _ hne]
    exact fun c hc => hcore c (List.mem_of_mem_head? hc)

/-! ## Characters -/

/-- The characters of numerals: digits, signs, points and some letters. -/
def isMark (c : Char) : Bool := c.isDigit || "+-.eEfFdDNaInity".toList.contains c

theorem not_isBlank_of_isMark {c : Char} (h : isMark c = true) : isBlank c = false := by
  have hothers : "+-.eEfFdDNaInity".toList.all (fun c => !isBlank c) = true := by decide
  rcases Bool.or_eq_true_iff.mp h with hdigit | hother
  · exact isBlank_of_isDigit hdigit
  · simpa using List.all_eq_true.mp hothers c (List.contains_iff_mem.mp hother)

theorem isMark_of_all (h : text.all isMark = true) : ∀ c ∈ text, isMark c = true :=
  List.all_eq_true.mp h

theorem isMark_only (h : Only digits) : ∀ c ∈ digits, isMark c = true := fun c hc =>
  Bool.or_eq_true_iff.mpr (.inl (h c hc))

theorem IsSign.isMark {sign : List Char} (h : IsSign sign negative) : ∀ c ∈ sign, isMark c = true := by
  cases h <;> exact isMark_of_all (by decide)

theorem IsPointed.isMark (h : IsPointed pointed whole decimals) : ∀ c ∈ pointed, isMark c = true := by
  cases h with
  | digits hw => exact isMark_only hw
  | point hw _ hd =>
    exact List.forall_mem_append.mpr
      ⟨isMark_only hw, List.forall_mem_cons.mpr ⟨by decide, isMark_only hd⟩⟩
  | fraction hd => exact List.forall_mem_cons.mpr ⟨by decide, isMark_only hd⟩

theorem IsExponent.isMark (h : IsExponent exponent e) : ∀ c ∈ exponent, isMark c = true := by
  cases h with
  | none => exact nofun
  | marked hmark hsign hdigits =>
    refine List.forall_mem_cons.mpr
      ⟨?_, List.forall_mem_append.mpr ⟨hsign.isMark, isMark_only hdigits⟩⟩
    rcases hmark with rfl | rfl <;> decide

theorem IsEnding.isMark (h : IsEnding ending) : ∀ c ∈ ending, isMark c = true :=
  isMark_of_all ((by decide : ∀ ending ∈ endings, ending.all Numeral.isMark = true) ending h)

theorem IsUnsigned.isMark {meaning : Meaning} (h : IsUnsigned text meaning) :
    ∀ c ∈ text, isMark c = true := by
  cases h with
  | nan => exact isMark_of_all (by decide)
  | infinity => exact isMark_of_all (by decide)
  | decimal hpointed hexponent hending =>
    exact List.forall_mem_append.mpr ⟨hpointed.isMark,
      List.forall_mem_append.mpr ⟨hexponent.isMark, hending.isMark⟩⟩

/-- A numeral has no bracket. -/
theorem IsNumeral.bracket_notMem {meaning : Meaning} (h : IsNumeral text negative meaning) :
    '[' ∉ text := by
  cases h with
  | mk hbefore hafter hsign hunsigned =>
    intro hmem
    simp only [List.mem_append] at hmem
    rcases hmem with (hmem | hmem | hmem) | hmem
    · exact absurd (hbefore _ hmem) (by decide)
    · exact absurd (hsign.isMark _ hmem) (by decide)
    · exact absurd (hunsigned.isMark _ hmem) (by decide)
    · exact absurd (hafter _ hmem) (by decide)

theorem IsUnsigned.ne_nil {meaning : Meaning} (h : IsUnsigned text meaning) : text ≠ [] := by
  cases h with
  | nan => exact nofun
  | infinity => exact nofun
  | decimal hpointed =>
    obtain ⟨c, more, rfl, -⟩ := hpointed.exists_cons
    exact List.cons_ne_nil c _

/-! ## Reading -/

/-- What is read is a numeral between blanks. -/
theorem parse?_sound {text : String} {x : Binary64} (h : parse? text = some x) :
    ∃ negative meaning, IsNumeral text.toList negative meaning ∧ meaning.Denotes negative x := by
  obtain ⟨before, after, htext, hbefore, hafter⟩ := exists_trimChars text.toList
  obtain ⟨sign, unsigned, negative, meaning, htrim, hsign, hunsigned, hdenotes⟩ :=
    parseChars?_sound h
  refine ⟨negative, meaning, ?_, hdenotes⟩
  rw [htext, htrim]
  exact .mk hbefore hafter hsign hunsigned

theorem bracket_notMem_of_parse? {text : String} {x : Binary64} (h : parse? text = some x) :
    '[' ∉ text.toList := by
  obtain ⟨_, _, hnumeral, -⟩ := parse?_sound h
  exact hnumeral.bracket_notMem

/-- Numerals are read, whatever blanks are around them. -/
theorem parse?_complete {text : String} {meaning : Meaning}
    (h : IsNumeral text.toList negative meaning) :
    ∃ x, parse? text = some x ∧ meaning.Denotes negative x := by
  unfold parse?
  generalize text.toList = chars at h
  cases h with
  | mk hbefore hafter hsign hunsigned =>
    rw [trimChars_append hbefore hafter (List.append_ne_nil_of_right_ne_nil _ hunsigned.ne_nil)
      fun c hc => not_isBlank_of_isMark
        (List.forall_mem_append.mpr ⟨hsign.isMark, hunsigned.isMark⟩ c hc)]
    exact parseChars?_complete hsign hunsigned

end

/-- **Reading is the grammar**: a text gives a number exactly when it is a numeral of the number, and
none when it is no numeral. -/
theorem parse?_grammar (text : String) :
    (∀ x, parse? text = some x ↔
      ∃ negative meaning, IsNumeral text.toList negative meaning ∧ meaning.Denotes negative x) ∧
    (parse? text = none ↔ ∀ negative meaning, ¬ IsNumeral text.toList negative meaning) := by
  refine ⟨fun x => ⟨parse?_sound, ?_⟩, fun hnone negative meaning h => ?_, fun h => ?_⟩
  · rintro ⟨negative, meaning, h, hdenotes⟩
    obtain ⟨y, hread, hy⟩ := parse?_complete h
    rw [hread, hdenotes.unique hy]
  · obtain ⟨x, hread, -⟩ := parse?_complete h
    rw [hnone] at hread
    cases hread
  · by_contra hsome
    obtain ⟨x, hread⟩ := Option.ne_none_iff_exists'.mp hsome
    obtain ⟨negative, meaning, hnumeral, -⟩ := parse?_sound hread
    exact h negative meaning hnumeral

end BrickFormula.Numeral
