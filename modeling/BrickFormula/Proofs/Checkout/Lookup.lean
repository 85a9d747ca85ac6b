import BrickFormula.Checkout
import BrickFormula.Proofs.Toml.Integers
import BrickFormula.Proofs.Toml.Refusals

/-!
# Looking up a version

The look-up answers with a version just if the document tells one.  It stops without an answer where the
project is no table, and where the document is refused for an integer; a project that is a whole number
stops it in one way or the other.

    ofText?_projectLine            a document of one line
    Tells, Misplaces, Overflows    what a document says about the project
    Answer                         what the look-up can come to, and why
    version?_answers               the answers by what the document says
    version?_integer               every whole number as the project stops the look-up
-/

namespace BrickFormula

/-! ## Documents of one line -/

namespace Toml
namespace Reader

/-- A line with a value for the key `project`. -/
def projectLine (text : List Char) : List Char := "project = ".toList ++ text

section
variable {text : List Char} {r : Except ReadError Toml}

theorem entry_projectLine (hblank : text.dropWhile isBlank = text) (fuel : Nat) :
    (entry (fuel + 1)).run (projectLine text) =
      (value fuel >>= fun v => pure (["project"], v) : Reader (Key × Toml)).run text := by
  have hkey : key.run (projectLine text) = .ok (["project"], '=' :: ' ' :: text) := rfl
  have hequals : (expect ['=']).run ('=' :: ' ' :: text) = .ok ((), ' ' :: text) := rfl
  have hskip : (skip isBlank).run (' ' :: text) = .ok ((), text) :=
    congrArg (fun rest => Except.ok ((), rest)) hblank
  unfold entry
  rw [run_bind_of_ok hkey, run_bind_of_ok hequals, run_bind_of_ok hskip]

/-- The line is read as its value is. -/
theorem addLine_projectLine (hblank : text.dropWhile isBlank = text)
    (hvalue : ∀ fuel, (value (fuel + 1)).run text = r.map fun v => (v, [])) :
    ((addLine {}).run (projectLine text)).map (fun result => (result.1.entries, result.2)) =
      r.map fun v => ([("project", v)], []) := by
  have hfuel : fuelAhead.run (projectLine text) =
      .ok ((projectLine text).length + 1, projectLine text) := rfl
  have hentry : (entry (4 * ((projectLine text).length + 1))).run (projectLine text) = _ :=
    entry_projectLine hblank _
  unfold addLine
  rw [run_bind_of_ok hfuel]
  cases r with
  | error e =>
    rw [run_bind_of_error (hvalue _)] at hentry
    rw [run_bind_of_error hentry]
    rfl
  | ok v =>
    rw [run_bind_of_ok (hvalue _)] at hentry
    rw [run_bind_of_ok hentry]
    rfl

theorem lines_projectLine (hblank : text.dropWhile isBlank = text)
    (hvalue : ∀ fuel, (value (fuel + 1)).run text = r.map fun v => (v, [])) (fuel : Nat) :
    ((lines (fuel + 1) {}).run (projectLine text)).map (fun result => result.1.entries) =
      r.map fun v => [("project", v)] := by
  have hskip : (skip isBlank).run (projectLine text) = .ok ((), projectLine text) := rfl
  have hline := addLine_projectLine hblank hvalue
  have hstatement : (statement {}).run (projectLine text) = (addLine {}).run (projectLine text) := rfl
  unfold lines
  rw [run_bind_of_ok hskip]
  cases hadd : (addLine {}).run (projectLine text) with
  | error e' =>
    rw [hadd] at hline hstatement
    rw [run_bind_of_error hstatement]
    cases r with
    | error e => exact congrArg Except.error (Except.error.inj hline)
    | ok v => cases hline
  | ok result =>
    rw [hadd] at hline hstatement
    cases r with
    | error e => cases hline
    | ok v =>
      obtain ⟨hentries, hrest⟩ := Prod.mk.inj (Except.ok.inj hline)
      obtain ⟨draft, rest⟩ := result
      cases hrest
      rw [run_bind_of_ok hstatement]
      exact congrArg Except.ok hentries

end

end Reader

theorem unifyLineEnds_of_notMem {text : List Char} (h : '\r' ∉ text) : unifyLineEnds text = text := by
  induction text with
  | nil => rfl
  | cons c rest ih =>
    rw [unifyLineEnds.eq_3, ih fun hmem => h (List.mem_cons_of_mem c hmem)]
    · rintro more rfl
      exact fun _ => h List.mem_cons_self
    · rintro rfl
      exact h List.mem_cons_self

/-- **A document of one line.** -/
theorem ofText?_projectLine {text : List Char} {r : Except ReadError Toml} (hreturn : '\r' ∉ text)
    (hblank : text.dropWhile Reader.isBlank = text)
    (hvalue : ∀ fuel, (Reader.value (fuel + 1)).run text = r.map fun v => (v, [])) :
    ofText? (String.ofList (Reader.projectLine text)) = r.map fun v => [("project", v)] := by
  have hunify : unifyLineEnds (Reader.projectLine text) = Reader.projectLine text := by
    refine unifyLineEnds_of_notMem fun hmem => ?_
    exact (List.mem_append.mp hmem).elim (by decide) hreturn
  unfold ofText?
  rw [String.toList_ofList, hunify]
  exact Reader.lines_projectLine hblank hvalue _

end Toml

/-! ## Answers -/

namespace Checkout

section
variable (content : Option String)

/-- The document says that the project is this distribution, with a version. -/
def Tells (v : String) : Prop :=
  ∃ text entries project, content = some text ∧ Toml.ofText? text = .ok entries ∧
    entries.lookup "project" = some (.table project) ∧
    project.lookup "name" = some (.text distribution) ∧ project.lookup "version" = some (.text v)

/-- The document has something else than a table as the project. -/
def Misplaces (value : Toml) : Prop :=
  ∃ text entries, content = some text ∧ Toml.ofText? text = .ok entries ∧
    entries.lookup "project" = some value ∧ ∀ project, value ≠ .table project

/-- The document is refused for an integer of so many digits. -/
def Overflows (digits : Nat) : Prop :=
  ∃ text, content = some text ∧ Toml.ofText? text = .error (.integerTooLong digits)

end

theorem textOf?_eq_some_iff {value : Option Toml} {s : String} :
    textOf? value = some s ↔ value = some (.text s) := by
  unfold textOf?
  split
  · rw [Option.some.injEq, Option.some.injEq, Toml.text.injEq]
  · next hother => exact ⟨nofun, fun h => absurd h (hother s)⟩

theorem versionOf?_eq_some_iff {project : Toml.Entries} {v : String} : versionOf? project = some v ↔
    project.lookup "name" = some (.text distribution) ∧ project.lookup "version" = some (.text v) := by
  unfold versionOf?
  rw [Option.ite_none_right_eq_some, textOf?_eq_some_iff, textOf?_eq_some_iff]

section
variable {content : Option String} {v : String} {value : Toml} {digits : Nat}

theorem Overflows.lt (h : Overflows content digits) : 4300 < digits :=
  h.elim fun _ h => Toml.ofText?_integerTooLong h.2

theorem version?_of_tells (h : Tells content v) : version? content = .ok (some v) := by
  obtain ⟨text, entries, project, rfl, htext, hproject, htells⟩ := h
  simp only [version?, htext, hproject]
  rw [versionOf?_eq_some_iff.mpr htells]

theorem version?_of_misplaces (h : Misplaces content value) :
    version? content = .error (.projectNotTable value) := by
  obtain ⟨text, entries, rfl, htext, hproject, hother⟩ := h
  simp only [version?, htext, hproject]

theorem version?_of_overflows (h : Overflows content digits) :
    version? content = .error (.integerTooLong digits) := by
  obtain ⟨text, rfl, htext⟩ := h
  simp only [version?, htext]

/-- What the look-up can come to, and why. -/
inductive Answer (content : Option String) : Except Error (Option String) → Prop
  | version {v : String} : Tells content v → Answer content (.ok (some v))
  | notTable {value : Toml} : Misplaces content value → Answer content (.error (.projectNotTable value))
  | tooLong {digits : Nat} : Overflows content digits → Answer content (.error (.integerTooLong digits))
  | nothing : Answer content (.ok none)

theorem answer_version? (content : Option String) : Answer content (version? content) := by
  cases content with
  | none => exact .nothing
  | some text =>
    simp only [version?]
    cases htext : Toml.ofText? text with
    | error e =>
      cases e with
      | malformed => exact .nothing
      | integerTooLong digits => exact .tooLong ⟨text, rfl, htext⟩
    | ok entries =>
      dsimp only
      cases hproject : entries.lookup "project" with
      | none => exact .nothing
      | some value =>
        cases value with
        | table project =>
          dsimp only
          cases hversion : versionOf? project with
          | none => exact .nothing
          | some v =>
            exact .version ⟨text, entries, project, rfl, htext, hproject,
              versionOf?_eq_some_iff.mp hversion⟩
        | _ => exact .notTable ⟨text, entries, rfl, htext, hproject, nofun⟩

theorem version?_eq_version_iff : version? content = .ok (some v) ↔ Tells content v := by
  refine ⟨fun h => ?_, version?_of_tells⟩
  have hanswer := answer_version? content
  rw [h] at hanswer
  cases hanswer with
  | version htells => exact htells

theorem version?_eq_notTable_iff :
    version? content = .error (.projectNotTable value) ↔ Misplaces content value := by
  refine ⟨fun h => ?_, version?_of_misplaces⟩
  have hanswer := answer_version? content
  rw [h] at hanswer
  cases hanswer with
  | notTable hmisplaces => exact hmisplaces

theorem version?_eq_tooLong_iff :
    version? content = .error (.integerTooLong digits) ↔ Overflows content digits := by
  refine ⟨fun h => ?_, version?_of_overflows⟩
  have hanswer := answer_version? content
  rw [h] at hanswer
  cases hanswer with
  | tooLong hoverflows => exact hoverflows

end

/-- **The answers of the look-up.**  It gives a version just if the document tells this one.  It stops just
if the project is something else than a table, or if the document is refused for an integer with more than
4300 digits.  In every other case it gives nothing. -/
theorem version?_answers (content : Option String) :
    (∀ v, version? content = .ok (some v) ↔ Tells content v) ∧
    (∀ value, version? content = .error (.projectNotTable value) ↔ Misplaces content value) ∧
    (∀ digits, version? content = .error (.integerTooLong digits) ↔
      Overflows content digits ∧ 4300 < digits) ∧
    (version? content = .ok none ↔ (∀ v, ¬ Tells content v) ∧
      (∀ value, ¬ Misplaces content value) ∧ ∀ digits, ¬ Overflows content digits) := by
  refine ⟨fun v => version?_eq_version_iff, fun value => version?_eq_notTable_iff,
    fun digits => ?_, ?_⟩
  · rw [version?_eq_tooLong_iff]
    exact ⟨fun h => ⟨h, h.lt⟩, And.left⟩
  · simp only [← version?_eq_version_iff, ← version?_eq_notTable_iff, ← version?_eq_tooLong_iff]
    constructor
    · intro h
      rw [h]
      exact ⟨nofun, nofun, nofun⟩
    · rintro ⟨hversion, hnotTable, htooLong⟩
      cases hanswer : version? content with
      | ok answer =>
        cases answer with
        | none => rfl
        | some v => exact absurd hanswer (hversion v)
      | error e =>
        cases e with
        | integerTooLong digits => exact absurd hanswer (htooLong digits)
        | projectNotTable value => exact absurd hanswer (hnotTable value)

/-- **Every whole number as the project stops the look-up.** -/
theorem version?_integer {digits : List Char} (h : Digits.Only digits) (hne : digits ≠ [])
    (hzero : digits.head? ≠ some '0') :
    version? (some (String.ofList (Toml.Reader.projectLine digits))) =
      .error (if digits.length ≤ Toml.Reader.maxDigits
        then .projectNotTable (.integer (Digits.toNat 10 digits))
        else .integerTooLong digits.length) := by
  have hreturn : '\r' ∉ digits := h.notMem rfl
  have hblank : digits.dropWhile Toml.Reader.isBlank = digits :=
    Digits.dropWhile_only h fun _ hc => Toml.Reader.isBlank_of_isDigit hc
  have hvalue := Toml.Reader.value_only h hne hzero
  by_cases hfew : digits.length ≤ Toml.Reader.maxDigits
  · simp only [if_pos hfew] at hvalue ⊢
    have hdocument := Toml.ofText?_projectLine (r := .ok (.integer (Digits.toNat 10 digits)))
      hreturn hblank hvalue
    exact version?_eq_notTable_iff.mpr ⟨_, _, rfl, hdocument, rfl, nofun⟩
  · simp only [if_neg hfew] at hvalue ⊢
    have hdocument := Toml.ofText?_projectLine (r := .error (.integerTooLong digits.length))
      hreturn hblank hvalue
    exact version?_eq_tooLong_iff.mpr ⟨_, rfl, hdocument⟩

/-- The shortest of them. -/
theorem version?_one : version? (some "project = 1") = .error (.projectNotTable (.integer 1)) :=
  version?_integer (List.forall_mem_singleton.mpr rfl) nofun nofun

end Checkout

end BrickFormula
