import BrickFormula.Json.Reader
import BrickFormula.Json.Writer
import Mathlib.Data.List.Nodup

/-!
# Reading back what was written

A value of which all scalars are null, truth values and text is read back from its compact text, the
rest of the text left alone.  Each character of a string, each item and each field takes one step of
the reader and at least one character of the text, so the length of the text bounds the steps.

    Worded j                          a value without numbers, names of fields all different
    readChars_flatMap_escapeChar      strings
    Worded.readValue_chars            values, before any rest
    Worded.read?_write                whole documents
-/

namespace BrickFormula.Json

/-- A value without numbers and broken strings; the fields of an object have different names. -/
inductive Worded : Json → Prop
  | null : Worded .null
  | bool (b : Bool) : Worded (.bool b)
  | string (s : String) : Worded (.string s)
  | array (items : List Json) (h : ∀ item ∈ items, Worded item) : Worded (.array items)
  | object (fields : List (String × Json)) (names : (fields.map Prod.fst).Nodup)
      (h : ∀ field ∈ fields, Worded field.2) : Worded (.object fields)

/-! ## Strings -/

theorem readHex4_below_space : ∀ n, n < 0x20 → ∀ rest,
    readHex4 ('0' :: '0' :: hexDigit (n / 16) :: hexDigit (n % 16) :: rest) = some (n, rest) := by
  have hdigits : ∀ n, n < 0x20 →
      (['0', '0', hexDigit (n / 16), hexDigit (n % 16)].all Digits.isHex = true ∧
        Digits.toNat 16 ['0', '0', hexDigit (n / 16), hexDigit (n % 16)] = n) := by decide
  intro n hn rest
  obtain ⟨hhex, hval⟩ := hdigits n hn
  rw [readHex4, if_pos hhex, hval]

/-- A one-letter escape is one step of the reader. -/
theorem readChars_simpleEscape (fuel : Nat) {mark c : Char} (rest : List Char)
    (h : simpleEscape? mark = some c) :
    readChars (fuel + 1) ('\\' :: mark :: rest) =
      (readChars fuel rest).map fun (xs, rest) => (some c :: xs, rest) := by
  have hu : mark ≠ 'u' := by
    rintro rfl
    cases h
  simp [readChars, hu, h]

/-- So is the escape of a control character. -/
theorem readChars_control (fuel : Nat) {c : Char} (rest : List Char) (hc : c.toNat < 0x20) :
    readChars (fuel + 1)
        ('\\' :: 'u' :: '0' :: '0' :: hexDigit (c.toNat / 16) :: hexDigit (c.toNat % 16) :: rest) =
      (readChars fuel rest).map fun (xs, rest) => (some c :: xs, rest) := by
  have hread : readUnicode
      ('0' :: '0' :: hexDigit (c.toNat / 16) :: hexDigit (c.toNat % 16) :: rest) =
        some (some c, rest) := by
    unfold readUnicode
    rw [readHex4_below_space c.toNat hc rest]
    simp only
    rw [if_neg (by omega), if_neg (by omega), Char.ofNat_toNat]
  simp [readChars, hread]

/-- So is a character that stands for itself. -/
theorem readChars_plain (fuel : Nat) {c : Char} (rest : List Char) (hquote : c ≠ '"')
    (hback : c ≠ '\\') (hc : ¬ c.toNat < 0x20) :
    readChars (fuel + 1) (c :: rest) =
      (readChars fuel rest).map fun (xs, rest) => (some c :: xs, rest) := by
  rw [readChars, if_neg (not_or_intro hback hc)]
  · exact hquote
  · exact fun _ _ h => absurd h hback

/-- The three forms of a written character. -/
theorem escapeChar_cases (c : Char) :
    (∃ mark, escapeChar c = ['\\', mark] ∧ simpleEscape? mark = some c) ∨
    (escapeChar c = ['\\', 'u', '0', '0', hexDigit (c.toNat / 16), hexDigit (c.toNat % 16)] ∧
      c.toNat < 0x20) ∨
    (escapeChar c = [c] ∧ c ≠ '"' ∧ c ≠ '\\' ∧ ¬ c.toNat < 0x20) := by
  unfold escapeChar
  repeat' split
  · next h => exact .inl ⟨'"', rfl, by rw [h]; rfl⟩
  · next h => exact .inl ⟨'\\', rfl, by rw [h]; rfl⟩
  · next h => exact .inl ⟨'b', rfl, h ▸ rfl⟩
  · next h => exact .inl ⟨'f', rfl, h ▸ rfl⟩
  · next h => exact .inl ⟨'n', rfl, h ▸ rfl⟩
  · next h => exact .inl ⟨'r', rfl, h ▸ rfl⟩
  · next h => exact .inl ⟨'t', rfl, h ▸ rfl⟩
  · next h => exact .inr (.inl ⟨rfl, h⟩)
  · next hquote hback _ _ _ _ _ hc => exact .inr (.inr ⟨rfl, hquote, hback, hc⟩)

/-- A written character is one step of the reader. -/
theorem readChars_escapeChar (fuel : Nat) (c : Char) (rest : List Char) :
    readChars (fuel + 1) (escapeChar c ++ rest) =
      (readChars fuel rest).map fun (xs, rest) => (some c :: xs, rest) := by
  rcases escapeChar_cases c with ⟨mark, he, h⟩ | ⟨he, h⟩ | ⟨he, hquote, hback, hc⟩
  · rw [he]
    exact readChars_simpleEscape fuel rest h
  · rw [he]
    exact readChars_control fuel rest h
  · rw [he]
    exact readChars_plain fuel rest hquote hback hc

/-- The characters of a string are read up to its closing quote. -/
theorem readChars_flatMap_escapeChar (cs rest : List Char) (fuel : Nat) (h : cs.length < fuel) :
    readChars fuel (cs.flatMap escapeChar ++ '"' :: rest) = some (cs.map some, rest) := by
  induction cs generalizing fuel with
  | nil =>
    cases fuel with
    | zero => cases h
    | succ fuel => rfl
  | cons c cs ih =>
    cases fuel with
    | zero => cases h
    | succ fuel =>
      rw [List.flatMap_cons, List.append_assoc, readChars_escapeChar,
        ih fuel (Nat.lt_of_succ_lt_succ h)]
      rfl

theorem length_le_flatMap_escapeChar (cs : List Char) :
    cs.length ≤ (cs.flatMap escapeChar).length := by
  induction cs with
  | nil => exact Nat.le_refl _
  | cons c cs ih =>
    have hc : 0 < (escapeChar c).length := by
      rcases escapeChar_cases c with ⟨mark, he, -⟩ | ⟨he, -⟩ | ⟨he, -⟩
      all_goals
        rw [he]
        exact Nat.succ_pos _
    rw [List.flatMap_cons, List.length_append, List.length_cons]
    omega

theorem readString_quote (lenient : Bool) (fuel : Nat) (s : String) (rest : List Char)
    (h : (quote s).length ≤ fuel) :
    readString lenient fuel (s.toList.flatMap escapeChar ++ '"' :: rest) =
      .ok (s.toList.map some, rest) := by
  have hlen := length_le_flatMap_escapeChar s.toList
  simp only [quote, List.length_append, List.length_cons, List.length_nil] at h
  unfold readString
  rw [readChars_flatMap_escapeChar _ _ _ (by omega)]
  simp

theorem textOf_map_some (s : String) : textOf (s.toList.map some) = s := by
  unfold textOf
  rw [List.map_map]
  exact (congrArg String.ofList (List.map_id _)).trans (String.ofList_toList)

theorem stringOf_map_some (s : String) : stringOf (s.toList.map some) = .string s := by
  unfold stringOf
  rw [if_pos (by simp), textOf_map_some]

/-! ## Values -/

/-- The value is read back, whatever follows. -/
def ReadsBack (lenient : Bool) (j : Json) : Prop :=
  ∀ fuel rest, (chars j).length ≤ fuel → readValue lenient fuel (chars j ++ rest) = .ok (j, rest)

/-- A written value does not start with space, and not with a closing bracket. -/
theorem Worded.exists_head {j : Json} (h : Worded j) :
    ∃ c tail, chars j = c :: tail ∧ isSpace c = false ∧ c ≠ ']' := by
  cases h with
  | null => exact ⟨'n', _, rfl, rfl, by decide⟩
  | bool b =>
    cases b
    · exact ⟨'f', _, rfl, rfl, by decide⟩
    · exact ⟨'t', _, rfl, rfl, by decide⟩
  | string s => exact ⟨'"', _, rfl, rfl, by decide⟩
  | array items => exact ⟨'[', _, by rw [chars]; rfl, rfl, by decide⟩
  | object fields => exact ⟨'{', _, by rw [chars]; rfl, rfl, by decide⟩

theorem Worded.skipSpace_chars {j : Json} (h : Worded j) (rest : List Char) :
    skipSpace (chars j ++ rest) = chars j ++ rest := by
  obtain ⟨c, tail, hj, hspace, -⟩ := h.exists_head
  unfold skipSpace
  rw [hj, List.cons_append, List.dropWhile_cons, hspace]
  rfl

section
variable {lenient : Bool}

theorem readsBack_null : ReadsBack lenient .null := by
  intro fuel rest h
  cases fuel with
  | zero => cases h
  | succ fuel => rfl

theorem readsBack_bool (b : Bool) : ReadsBack lenient (.bool b) := by
  intro fuel rest h
  cases fuel with
  | zero => cases b <;> cases h
  | succ fuel => cases b <;> rfl

theorem readsBack_string (s : String) : ReadsBack lenient (.string s) := by
  intro fuel rest h
  cases fuel with
  | zero => cases h
  | succ fuel =>
    rw [chars] at h ⊢
    rw [quote, List.append_assoc]
    show (readString lenient (fuel + 1) (s.toList.flatMap escapeChar ++ '"' :: rest)).map _ = _
    rw [readString_quote lenient (fuel + 1) s rest h]
    show Except.ok (stringOf _, rest) = _
    rw [stringOf_map_some]

/-! ## Items -/

theorem itemChars_cons (item next : Json) (rest : List Json) :
    itemChars (item :: next :: rest) = chars item ++ ',' :: itemChars (next :: rest) := by
  rw [itemChars]
  exact nofun

theorem exists_itemChars (item : Json) (items : List Json) :
    ∃ more, itemChars (item :: items) = chars item ++ more := by
  cases items with
  | nil => exact ⟨[], by rw [itemChars, List.append_nil]⟩
  | cons next items => exact ⟨_, itemChars_cons item next items⟩

theorem Worded.skipSpace_itemChars {item : Json} (h : Worded item) (items : List Json)
    (rest : List Char) :
    skipSpace (itemChars (item :: items) ++ rest) = itemChars (item :: items) ++ rest := by
  obtain ⟨more, hmore⟩ := exists_itemChars item items
  rw [hmore, List.append_assoc]
  exact h.skipSpace_chars _

theorem readItems_itemChars (items : List Json) (hne : items ≠ [])
    (hworded : ∀ item ∈ items, Worded item) (h : ∀ item ∈ items, ReadsBack lenient item)
    (fuel : Nat) (rest : List Char) (hfuel : (itemChars items).length < fuel) :
    readItems lenient fuel (itemChars items ++ ']' :: rest) = .ok (items, rest) := by
  induction items generalizing fuel with
  | nil => exact absurd rfl hne
  | cons item items ih =>
    cases fuel with
    | zero => cases hfuel
    | succ fuel =>
      have hitem := h item List.mem_cons_self
      rw [readItems]
      cases items with
      | nil =>
        rw [itemChars] at hfuel ⊢
        rw [hitem fuel _ (Nat.le_of_lt_succ hfuel)]
        rfl
      | cons next items =>
        rw [itemChars_cons] at hfuel ⊢
        simp only [List.length_append, List.length_cons] at hfuel
        rw [List.append_assoc, List.cons_append, hitem fuel _ (by omega)]
        show (readItems lenient fuel (skipSpace (itemChars (next :: items) ++ ']' :: rest)) >>= _) = _
        rw [(hworded next (by simp)).skipSpace_itemChars,
          ih (List.cons_ne_nil _ _) (fun x hx => hworded x (List.mem_cons_of_mem _ hx))
            (fun x hx => h x (List.mem_cons_of_mem _ hx)) fuel (by omega)]
        rfl

theorem readsBack_array (items : List Json) (hworded : ∀ item ∈ items, Worded item)
    (h : ∀ item ∈ items, ReadsBack lenient item) : ReadsBack lenient (.array items) := by
  intro fuel rest hfuel
  rw [chars] at hfuel ⊢
  cases fuel with
  | zero => cases hfuel
  | succ fuel =>
    cases items with
    | nil => rfl
    | cons item items =>
      obtain ⟨c, tail, hitem, -, hclose⟩ := (hworded item List.mem_cons_self).exists_head
      obtain ⟨more, hmore⟩ := exists_itemChars item items
      simp only [List.length_append, List.length_cons, List.length_nil] at hfuel
      rw [List.cons_append, List.cons_append, List.append_assoc, readValue,
        (hworded item List.mem_cons_self).skipSpace_itemChars]
      split
      · next hhead =>
        rw [hmore, hitem] at hhead
        exact absurd (List.cons.inj hhead).1 hclose
      · show (readItems lenient fuel (itemChars (item :: items) ++ ']' :: rest)).map _ = _
        rw [readItems_itemChars (item :: items) (List.cons_ne_nil _ _) hworded h fuel rest
          (by omega)]
        rfl

/-! ## Fields -/

theorem setField_of_notMem {fields : List (String × Json)} {name : String} {value : Json}
    (h : name ∉ fields.map Prod.fst) : setField fields name value = fields ++ [(name, value)] := by
  induction fields with
  | nil => rfl
  | cons field fields ih =>
    rw [List.map_cons, List.mem_cons, not_or] at h
    rw [setField, if_neg (Ne.symm h.1), ih h.2]
    rfl

theorem fieldChars_cons (name : String) (value : Json) (next : String × Json)
    (rest : List (String × Json)) :
    fieldChars ((name, value) :: next :: rest) =
      quote name ++ ':' :: chars value ++ ',' :: fieldChars (next :: rest) := by
  rw [fieldChars]
  exact nofun

/-- One field is read, and then the closing brace or further fields. -/
theorem readFields_field (fuel : Nat) (before : List (String × Json)) (name : String) {value : Json}
    (more : List Char) (hname : (quote name).length ≤ fuel + 1)
    (hvalue : (chars value).length ≤ fuel) (hworded : Worded value) (h : ReadsBack lenient value)
    (hnew : name ∉ before.map Prod.fst) :
    readFields lenient (fuel + 1) before (quote name ++ ':' :: (chars value ++ more)) =
      match skipSpace more with
      | '}' :: rest => .ok (before ++ [(name, value)], rest)
      | ',' :: rest => readFields lenient fuel (before ++ [(name, value)]) (skipSpace rest)
      | _ => .error .malformed := by
  have hquote : quote name ++ ':' :: (chars value ++ more) =
      '"' :: (name.toList.flatMap escapeChar ++ '"' :: ':' :: (chars value ++ more)) := by
    simp [quote]
  rw [hquote, readFields, readString_quote lenient (fuel + 1) name _ hname]
  show (readValue lenient fuel (skipSpace (chars value ++ more)) >>= _) = _
  rw [hworded.skipSpace_chars, h fuel more hvalue]
  show (match skipSpace more with
    | '}' :: rest => pure (setField before (textOf (name.toList.map some)) value, rest)
    | ',' :: rest => readFields lenient fuel
        (setField before (textOf (name.toList.map some)) value) (skipSpace rest)
    | _ => .error .malformed) = _
  rw [textOf_map_some, setField_of_notMem hnew]
  rfl

theorem exists_fieldChars (name : String) (value : Json) (fields : List (String × Json)) :
    ∃ more, fieldChars ((name, value) :: fields) = '"' :: more := by
  cases fields with
  | nil => exact ⟨_, by rw [fieldChars]; rfl⟩
  | cons next fields => exact ⟨_, by rw [fieldChars_cons]; rfl⟩

theorem readFields_fieldChars (fields before : List (String × Json)) (hne : fields ≠ [])
    (hnames : ((before ++ fields).map Prod.fst).Nodup)
    (hworded : ∀ field ∈ fields, Worded field.2)
    (h : ∀ field ∈ fields, ReadsBack lenient field.2) (fuel : Nat) (rest : List Char)
    (hfuel : (fieldChars fields).length < fuel) :
    readFields lenient fuel before (fieldChars fields ++ '}' :: rest) =
      .ok (before ++ fields, rest) := by
  induction fields generalizing before fuel with
  | nil => exact absurd rfl hne
  | cons field fields ih =>
    obtain ⟨name, value⟩ := field
    have hnew : name ∉ before.map Prod.fst := by
      rw [List.map_append, List.nodup_append] at hnames
      exact fun hmem => hnames.2.2 name hmem name (by simp) rfl
    have hvalue : ReadsBack lenient value := h (name, value) List.mem_cons_self
    have hword : Worded value := hworded (name, value) List.mem_cons_self
    cases fuel with
    | zero => cases hfuel
    | succ fuel =>
      cases fields with
      | nil =>
        rw [fieldChars] at hfuel ⊢
        simp only [List.length_append, List.length_cons] at hfuel
        rw [List.append_assoc, List.cons_append, readFields_field fuel before name _ (by omega)
          (by omega) hword hvalue hnew]
        rfl
      | cons next fields =>
        rw [fieldChars_cons] at hfuel ⊢
        simp only [List.length_append, List.length_cons] at hfuel
        rw [List.append_assoc, List.append_assoc, List.cons_append, List.cons_append,
          readFields_field fuel before name _ (by omega) (by omega) hword hvalue hnew]
        obtain ⟨more, hmore⟩ := exists_fieldChars next.1 next.2 fields
        have hskip : skipSpace (fieldChars (next :: fields) ++ '}' :: rest) =
            fieldChars (next :: fields) ++ '}' :: rest := by
          rw [hmore]
          rfl
        show readFields lenient fuel (before ++ [(name, value)])
          (skipSpace (fieldChars (next :: fields) ++ '}' :: rest)) = _
        rw [hskip, ih (before ++ [(name, value)]) (List.cons_ne_nil _ _) (by simpa using hnames)
            (fun x hx => hworded x (List.mem_cons_of_mem _ hx))
            (fun x hx => h x (List.mem_cons_of_mem _ hx)) fuel (by omega), List.append_assoc]
        rfl

theorem readsBack_object (fields : List (String × Json)) (hnames : (fields.map Prod.fst).Nodup)
    (hworded : ∀ field ∈ fields, Worded field.2)
    (h : ∀ field ∈ fields, ReadsBack lenient field.2) : ReadsBack lenient (.object fields) := by
  intro fuel rest hfuel
  rw [chars] at hfuel ⊢
  cases fuel with
  | zero => cases hfuel
  | succ fuel =>
    cases fields with
    | nil => rfl
    | cons field fields =>
      simp only [List.length_append, List.length_cons, List.length_nil] at hfuel
      obtain ⟨more, hmore⟩ := exists_fieldChars field.1 field.2 fields
      have hread : readFields lenient fuel [] (fieldChars (field :: fields) ++ '}' :: rest) = _ :=
        readFields_fieldChars (field :: fields) [] (List.cons_ne_nil _ _) hnames hworded h fuel rest
          (by omega)
      rw [List.cons_append, List.cons_append, List.append_assoc, List.singleton_append]
      rw [hmore] at hread ⊢
      show (readFields lenient fuel [] ('"' :: more ++ '}' :: rest)).map _ = _
      rw [hread]
      rfl

/-! ## Documents -/

/-- **Values are read back**, whatever follows them. -/
theorem Worded.readValue_chars {j : Json} (h : Worded j) : ReadsBack lenient j := by
  induction h with
  | null => exact readsBack_null
  | bool b => exact readsBack_bool b
  | string s => exact readsBack_string s
  | array items hworded ih => exact readsBack_array items hworded ih
  | object fields names hworded ih => exact readsBack_object fields names hworded ih

/-- Either reader reads back a document. -/
theorem Worded.readDocument_chars {j : Json} (h : Worded j) :
    readDocument lenient (chars j) = .ok j := by
  have hskip := h.skipSpace_chars []
  have hback : ReadsBack lenient j := h.readValue_chars
  have hread := hback (2 * (chars j).length + 2) [] (by omega)
  rw [List.append_nil] at hskip hread
  unfold readDocument
  rw [hskip, hread]
  rfl

theorem Worded.read?_write {j : Json} (h : Worded j) : read? j.write = .ok j := by
  unfold read? write
  rw [String.toList_ofList]
  exact h.readDocument_chars

example : (Json.string "\"\\\x00\x1f\n/\u2028😀").write =
    "\"\\\"\\\\\\u0000\\u001f\\n/\u2028😀\"" := by decide

end

end BrickFormula.Json
