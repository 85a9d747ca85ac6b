import BrickFormula.Proofs.Formula.Elements
import Mathlib.Data.List.Induction
import Mathlib.Data.List.Nodup

/-!
# The order of collected names

Names are collected in a walk over the formula, operands first.  A name is added where the walk meets
it for the first time, unless it is there already.  An element without text goes by the empty name,
which is added at every such element, whether it is there or not: so a list of names without duplicates
stays one exactly when no walk meets the empty name before an element without text.

    walk k t              the texts of the elements of a kind, in the order of the walk
    FirstMet old met new  `new` are the names met beside the old ones, in the order of first occurrence
    Adds old texts n      the element at the place `n` of a walk adds its name
    collect_eq_append     what is collected, element by element
    names_collected       the names collected from a formula, and their duplicates
-/

namespace BrickFormula.Formula

/-! ## Walks -/

/-- The texts of the elements of a kind, operands first, the left one before the right one. -/
def walk (k : Kind) (t : Formula) : List (Option String) :=
  (t.elements.filter fun element => element.1 = k).map Prod.snd

/-- The names met in a walk; an element without text goes by the empty name. -/
def namesMet (texts : List (Option String)) : List String := texts.map (·.getD "")

/-- The names met that are not among the old ones, each once, in the order of first occurrence. -/
structure FirstMet (old met new : List String) : Prop where
  mem_iff : ∀ name, name ∈ new ↔ name ∈ met ∧ name ∉ old
  nodup : new.Nodup
  sorted : new.Pairwise fun a b => met.idxOf a < met.idxOf b

/-- The name at a place of a walk. -/
def nameAt (texts : List (Option String)) (n : Nat) : String := (namesMet texts)[n]?.getD ""

/-- The element at a place of a walk adds its name: it has no text, or it is the first one of a name
that is not among the old ones. -/
def Adds (old : List String) (texts : List (Option String)) (n : Nat) : Prop :=
  texts[n]? = some none ∨ nameAt texts n ∉ old ∧ nameAt texts n ∉ namesMet (texts.take n)

instance (old : List String) (texts : List (Option String)) (n : Nat) :
    Decidable (Adds old texts n) := inferInstanceAs (Decidable (_ ∨ _))

/-- The names that a walk adds to the old ones. -/
def added (old : List String) (texts : List (Option String)) : List String :=
  ((List.range texts.length).filter fun n => Adds old texts n).map (nameAt texts)

/-- No element without text stands behind another one of the empty name, or beside an old one. -/
def NamelessFirst (old : List String) (texts : List (Option String)) : Prop :=
  ∀ n : Nat, texts[n]? = some none → "" ∉ old ∧ "" ∉ namesMet (texts.take n)

/-! ## One element after the other -/

section
variable {old : List String} {texts : List (Option String)} {text : Option String} {n : Nat}

theorem collect_eq_foldl (k : Kind) (t : Formula) (old : List String) :
    t.collect k old = (t.walk k).foldl addName old := by
  induction t generalizing old with
  | empty => rfl
  | node kind text left right ihl ihr =>
    have hwalk : (node kind text left right).walk k =
        left.walk k ++ right.walk k ++ if kind = k then [text] else [] := by
      simp only [walk, elements, List.filter_append, List.map_append, List.filter_singleton]
      by_cases hk : kind = k <;> simp [hk]
    rw [collect, ihl, ihr, hwalk, List.foldl_append, List.foldl_append]
    split <;> rfl

theorem mem_foldl_addName (texts : List (Option String)) (old : List String) (name : String) :
    name ∈ texts.foldl addName old ↔ name ∈ old ∨ name ∈ namesMet texts := by
  induction texts generalizing old with
  | nil => simp [namesMet]
  | cons text texts ih => simp [ih, mem_addName, namesMet, or_assoc]

theorem nameAt_append (h : n < texts.length) : nameAt (texts ++ [text]) n = nameAt texts n := by
  unfold nameAt namesMet
  rw [List.map_append, List.getElem?_append_left (by rwa [List.length_map])]

theorem nameAt_length : nameAt (texts ++ [text]) texts.length = text.getD "" := by
  simp [nameAt, namesMet]

theorem adds_append (h : n < texts.length) : Adds old (texts ++ [text]) n ↔ Adds old texts n := by
  unfold Adds
  rw [nameAt_append h, List.getElem?_append_left h, List.take_append_of_le_length (Nat.le_of_lt h)]

theorem adds_length : Adds old (texts ++ [text]) texts.length ↔
    text = none ∨ text.getD "" ∉ old ∧ text.getD "" ∉ namesMet texts := by
  unfold Adds
  rw [nameAt_length]
  simp

/-- One more element adds its name, or nothing. -/
theorem added_append (old : List String) (texts : List (Option String)) (text : Option String) :
    added old (texts ++ [text]) =
      added old texts ++ if Adds old (texts ++ [text]) texts.length then [text.getD ""] else [] := by
  have hbefore : (List.range texts.length).filter (fun n => Adds old (texts ++ [text]) n) =
      (List.range texts.length).filter fun n => Adds old texts n := by
    apply List.filter_congr
    intro n hn
    exact decide_eq_decide.mpr (adds_append (List.mem_range.mp hn))
  have hnames : ((List.range texts.length).filter fun n => Adds old texts n).map
      (nameAt (texts ++ [text])) = added old texts := by
    apply List.map_congr_left
    intro n hn
    exact nameAt_append (List.mem_range.mp (List.mem_of_mem_filter hn))
  unfold added
  rw [List.length_append, List.length_singleton, List.range_succ, List.filter_append, hbefore,
    List.map_append, hnames, List.filter_singleton]
  by_cases hadds : Adds old (texts ++ [text]) texts.length
  · simp [hadds, nameAt_length, added]
  · simp [hadds, added]

theorem foldl_addName (old : List String) (texts : List (Option String)) :
    texts.foldl addName old = old ++ added old texts := by
  induction texts using List.reverseRecOn with
  | nil => exact (List.append_nil old).symm
  | append_singleton texts text ih =>
    have hmem := mem_foldl_addName texts old (text.getD "")
    rw [List.foldl_append, List.foldl_cons, List.foldl_nil, added_append, ← List.append_assoc, ← ih]
    cases text with
    | none => rw [if_pos (adds_length.mpr (.inl rfl))]; rfl
    | some s =>
      rw [Option.getD_some] at hmem
      simp only [addName, hmem, adds_length, Option.getD_some, reduceCtorEq, false_or]
      by_cases hknown : s ∈ old ∨ s ∈ namesMet texts
      · rw [if_pos hknown, if_neg (by tauto), List.append_nil]
      · rw [if_neg hknown, if_pos (by tauto)]

/-- **What is collected, element by element.** -/
theorem collect_eq_append (k : Kind) (t : Formula) (old : List String) :
    t.collect k old = old ++ added old (t.walk k) := by
  rw [collect_eq_foldl, foldl_addName]

/-! ## First occurrences -/

theorem mem_added {name : String} :
    name ∈ added old texts ↔ ∃ n < texts.length, Adds old texts n ∧ nameAt texts n = name := by
  simp [added, and_assoc]

theorem mem_namesMet {name : String} :
    name ∈ namesMet texts ↔ ∃ n < texts.length, nameAt texts n = name := by
  have hlength : (namesMet texts).length = texts.length := List.length_map _
  rw [List.mem_iff_getElem]
  constructor
  · rintro ⟨n, hn, rfl⟩
    exact ⟨n, hlength ▸ hn, by rw [nameAt, List.getElem?_eq_getElem hn, Option.getD_some]⟩
  · rintro ⟨n, hn, rfl⟩
    have hn' : n < (namesMet texts).length := hlength.symm ▸ hn
    exact ⟨n, hn', by rw [nameAt, List.getElem?_eq_getElem hn', Option.getD_some]⟩

/-- The place of the first element of a name. -/
theorem idxOf_namesMet_lt {name : String} (h : name ∈ namesMet texts) :
    (namesMet texts).idxOf name < texts.length :=
  Nat.lt_of_lt_of_eq (List.idxOf_lt_length_of_mem h) (List.length_map _)

theorem nameAt_idxOf {name : String} (h : name ∈ namesMet texts) :
    nameAt texts ((namesMet texts).idxOf name) = name := by
  unfold nameAt
  rw [List.getElem?_idxOf h, Option.getD_some]

/-- A name is met before all places behind its first element. -/
theorem mem_take_namesMet {name : String} (h : name ∈ namesMet texts) :
    name ∈ namesMet (texts.take n) ↔ (namesMet texts).idxOf name < n := by
  unfold namesMet at *
  rw [List.map_take]
  exact List.mem_take_iff_idxOf_lt h

theorem nameAt_mem (hn : n < texts.length) : nameAt texts n ∈ namesMet texts :=
  mem_namesMet.mpr ⟨n, hn, rfl⟩

/-- An element is the first of its name when this name is not met before. -/
theorem idxOf_nameAt (hn : n < texts.length) (h : nameAt texts n ∉ namesMet (texts.take n)) :
    (namesMet texts).idxOf (nameAt texts n) = n := by
  have hmem := nameAt_mem hn
  have hle : ¬ (namesMet texts).idxOf (nameAt texts n) < n := mt (mem_take_namesMet hmem).mpr h
  have hlt : (namesMet texts).idxOf (nameAt texts n) < n + 1 := by
    refine (mem_take_namesMet hmem).mp (mem_namesMet.mpr ⟨n, ?_, ?_⟩)
    · rw [List.length_take]
      omega
    · unfold nameAt namesMet
      rw [List.map_take, List.getElem?_take_of_lt (Nat.lt_succ_self n)]
  omega

theorem nameAt_of_nameless (h : texts[n]? = some none) : nameAt texts n = "" := by
  simp [nameAt, namesMet, h]

/-- Where nameless elements come first, only the first element of a new name adds it. -/
theorem NamelessFirst.adds_iff (h : NamelessFirst old texts) :
    Adds old texts n ↔ nameAt texts n ∉ old ∧ nameAt texts n ∉ namesMet (texts.take n) := by
  refine or_iff_right_of_imp fun hnone => ?_
  rw [nameAt_of_nameless hnone]
  exact h n hnone

/-- **Every new name is added at its first element**, where nameless elements come first. -/
theorem NamelessFirst.firstMet (h : NamelessFirst old texts) :
    FirstMet old (namesMet texts) (added old texts) := by
  have hplace : ∀ n ∈ (List.range texts.length).filter fun n => Adds old texts n,
      (namesMet texts).idxOf (nameAt texts n) = n := by
    intro n hn
    obtain ⟨hrange, hadds⟩ := List.mem_filter.mp hn
    exact idxOf_nameAt (List.mem_range.mp hrange) (h.adds_iff.mp (of_decide_eq_true hadds)).2
  have hsorted : (added old texts).Pairwise fun a b =>
      (namesMet texts).idxOf a < (namesMet texts).idxOf b := by
    refine List.pairwise_map.mpr ((List.pairwise_lt_range.filter _).imp_of_mem ?_)
    intro n m hn hm hlt
    rwa [hplace n hn, hplace m hm]
  refine ⟨fun name => ?_, hsorted.imp fun hlt => ?_, hsorted⟩
  · rw [mem_added]
    constructor
    · rintro ⟨n, hn, hadds, rfl⟩
      exact ⟨nameAt_mem hn, (h.adds_iff.mp hadds).1⟩
    · rintro ⟨hmet, hold⟩
      have hname := nameAt_idxOf hmet
      refine ⟨_, idxOf_namesMet_lt hmet, h.adds_iff.mpr ?_, hname⟩
      rw [hname, mem_take_namesMet hmet]
      exact ⟨hold, Nat.lt_irrefl _⟩
  · rintro rfl
    exact Nat.lt_irrefl _ hlt

/-- **Names are added twice when nameless elements do not come first.** -/
theorem namelessFirst_of_nodup (h : (old ++ added old texts).Nodup) : NamelessFirst old texts := by
  intro n hn
  have hlt : n < texts.length := (List.getElem?_eq_some_iff.mp hn).1
  have hempty : nameAt texts n = "" := nameAt_of_nameless hn
  have hadded : "" ∈ added old texts := mem_added.mpr ⟨n, hlt, .inl hn, hempty⟩
  have hold : "" ∉ old := fun hmem => List.disjoint_of_nodup_append h hmem hadded
  refine ⟨hold, fun htake => ?_⟩
  -- the first element of the empty name adds it, and so does this one
  have hmet : "" ∈ namesMet texts := hempty ▸ nameAt_mem hlt
  have hfirst : Adds old texts ((namesMet texts).idxOf "") := by
    refine .inr ?_
    rw [nameAt_idxOf hmet, mem_take_namesMet hmet]
    exact ⟨hold, Nat.lt_irrefl _⟩
  have hsame := List.inj_on_of_nodup_map (List.Nodup.of_append_right h)
    (List.mem_filter.mpr ⟨List.mem_range.mpr (idxOf_namesMet_lt hmet), decide_eq_true hfirst⟩)
    (List.mem_filter.mpr ⟨List.mem_range.mpr hlt, decide_eq_true (.inl hn)⟩)
    ((nameAt_idxOf hmet).trans hempty.symm)
  have hbefore := (mem_take_namesMet hmet).mp htake
  omega

end

/-! ## All elements -/

/-- What is collected from a formula, beside the old names. -/
structure Collected (k : Kind) (t : Formula) (old result : List String) : Prop where
  /-- Every element that adds its name does so in the order of the walk. -/
  content : result = old ++ added old (t.walk k)
  /-- The new names are the names met, each once, where nameless elements come first. -/
  exact : NamelessFirst old (t.walk k) →
    ∃ new, result = old ++ new ∧ FirstMet old (namesMet (t.walk k)) new
  /-- There are no duplicates just then. -/
  nodup_iff : result.Nodup ↔ NamelessFirst old (t.walk k)

theorem collected_collect (k : Kind) (t : Formula) {old : List String} (h : old.Nodup) :
    Collected k t old (t.collect k old) := by
  have hcontent := collect_eq_append k t old
  refine ⟨hcontent, fun hfirst => ⟨_, hcontent, hfirst.firstMet⟩, ?_⟩
  rw [hcontent]
  refine ⟨namelessFirst_of_nodup, fun hfirst => ?_⟩
  have hnew := hfirst.firstMet
  refine List.Nodup.append h hnew.nodup fun name hold hadded => ?_
  exact ((hnew.mem_iff name).mp hadded).2 hold

/-- **Names are collected in the order of their first occurrence.**  To lists of variables and of lists
without duplicates, a formula adds the names of its elements of this kind that were not there, each
once, unless an element without text comes after the empty name is there: such an element adds that
name again, and then the list has duplicates. -/
theorem names_collected (t : Formula) (variableNames listNames : List String)
    (hvariables : variableNames.Nodup) (hlists : listNames.Nodup) :
    Collected .userVariable t variableNames (t.collect .userVariable variableNames) ∧
    Collected .userList t listNames (t.collect .userList listNames) :=
  ⟨collected_collect .userVariable t hvariables, collected_collect .userList t hlists⟩

/-- Two variables, one of them twice, a list, and a variable without text. -/
def ledger : Formula :=
  .node .operator (some "PLUS")
    (.node .operator (some "MINUS") (leaf .userVariable "a")
      (.node .function (some "NUMBER_OF_ITEMS") (leaf .userList "L") .empty))
    (.node .operator (some "MULT") (leaf .userVariable "b")
      (.node .bracket none (.node .userVariable none .empty .empty) (leaf .userVariable "a")))

theorem names_collected_ledger :
    ledger.collect .userVariable ["total"] = ["total", "a", "b", ""] ∧
    FirstMet ["total"] ["a", "b", "", "a"] ["a", "b", ""] ∧
    (ledger.collect .userList ["existing"]).Nodup := by
  obtain ⟨hvariables, hlists⟩ := names_collected ledger ["total"] ["existing"] (by decide) (by decide)
  have hresult : ledger.collect .userVariable ["total"] = ["total", "a", "b", ""] := by decide
  have hfirst : NamelessFirst ["total"] (ledger.walk .userVariable) := by
    rw [← hvariables.nodup_iff, hresult]
    decide
  obtain ⟨new, hnew, hmet⟩ := hvariables.exact hfirst
  obtain rfl : new = ["a", "b", ""] := (List.cons.inj (hnew.symm.trans hresult)).2
  refine ⟨hresult, hmet, hlists.nodup_iff.mpr fun n hn => ?_⟩
  have hwalk : ledger.walk .userList = [some "L"] := by decide
  rw [hwalk] at hn
  cases n <;> cases hn

/-- Two variables without text. -/
def unnamedSum : Formula :=
  .node .operator (some "PLUS") (.node .userVariable none .empty .empty)
    (.node .userVariable none .empty .empty)

theorem collect_unnamedSum :
    unnamedSum.collect .userVariable [] = ["", ""] ∧
    ¬ ∃ new, unnamedSum.collect .userVariable [] = [] ++ new ∧
      FirstMet [] (namesMet (unnamedSum.walk .userVariable)) new := by
  have hresult : unnamedSum.collect .userVariable [] = ["", ""] := by decide
  refine ⟨hresult, ?_⟩
  rintro ⟨new, hnew, hmet⟩
  have hnodup := hmet.nodup
  rw [← List.nil_append new, ← hnew, hresult] at hnodup
  exact absurd hnodup (by decide)

end BrickFormula.Formula
