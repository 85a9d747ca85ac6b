import BrickFormula.Proofs.CommandLine.Requests
import BrickFormula.Proofs.Evaluation.Operands
import BrickFormula.Proofs.Numeral.RoundTrip

/-!
# Runs that evaluate

A run loads the documents of its request one after the other, and stops at the first that fails, with
nothing put out.  With all of them it evaluates the formula again and again: each evaluation starts at
the random number where the one before has ended.  What is put out is one line for each value, without
terminal codes.

    Fails                     the first document that fails
    Loaded                    all documents are there
    Repeats                   the values of successive evaluations
    Stops                     successive evaluations up to a fault
    evaluateLines_append      their lines
    exists_stripped           the line of a value without terminal codes
    Outcome.Ends              what a run shows, and how it ends
    run_eval                  a run ends as its documents and its evaluations do
-/

namespace BrickFormula.CommandLine
open Evaluation

/-! ## Documents -/

section
variable (files : String → Option String) (env : Option String) (request : Request)

/-- The scenario of a request, if it names one. -/
inductive ScenarioOf : Option Scenario → Prop
  | absent : request.scenario = none → ScenarioOf none
  | present {file : String} {s : Scenario} : request.scenario = some file →
      loadScenario files file = .ok s → ScenarioOf (some s)

/-- All documents of a request are there. -/
structure Loaded (settings : Settings) (t : Formula) (scenario : Option Scenario) : Prop where
  settings : Settings.load files request.config env = .ok settings
  formula : loadFormula files request.tree = .ok t
  scenario : ScenarioOf files request scenario

/-- The first document that fails has this error.  The order is settings, formula, scenario. -/
inductive Fails : LoadError → Prop
  | settings {e : LoadError} : Settings.load files request.config env = .error e → Fails e
  | formula {settings : Settings} {e : LoadError} :
      Settings.load files request.config env = .ok settings →
      loadFormula files request.tree = .error e → Fails e
  | scenario {settings : Settings} {t : Formula} {file : String} {e : LoadError} :
      Settings.load files request.config env = .ok settings →
      loadFormula files request.tree = .ok t → request.scenario = some file →
      loadScenario files file = .error e → Fails e

theorem loaded_or_fails :
    (∃ settings t scenario, Loaded files env request settings t scenario) ∨
      ∃ e, Fails files env request e := by
  cases hsettings : Settings.load files request.config env with
  | error e => exact .inr ⟨e, .settings hsettings⟩
  | ok settings =>
    cases hformula : loadFormula files request.tree with
    | error e => exact .inr ⟨e, .formula hsettings hformula⟩
    | ok t =>
      cases hfile : request.scenario with
      | none => exact .inl ⟨settings, t, none, hsettings, hformula, .absent hfile⟩
      | some file =>
        cases hscenario : loadScenario files file with
        | error e => exact .inr ⟨e, .scenario hsettings hformula hfile hscenario⟩
        | ok s => exact .inl ⟨settings, t, some s, hsettings, hformula, .present hfile hscenario⟩

end

/-! ## Evaluations -/

/-- Successive evaluations, from the count `n` of random numbers on, have these values, and leave the
count `m`. -/
inductive Repeats (env : Environment) (t : Formula) : Nat → List Value → Nat → Prop
  | nil (n : Nat) : Repeats env t n [] n
  | cons {n m k : Nat} {v : Value} {vs : List Value} : (t.evaluate env).Gives n v m →
      Repeats env t m vs k → Repeats env t n (v :: vs) k

/-- The evaluation after these values stops with a fault. -/
def Stops (env : Environment) (t : Formula) (n : Nat) (vs : List Value) (fault : Fault) : Prop :=
  ∃ m k, Repeats env t n vs m ∧ (t.evaluate env).run m = (.error fault, k)

section
variable {env : Environment} {t : Formula} {n m : Nat} {vs : List Value} {fault : Fault}

/-- The lines of successive evaluations stand before those of more. -/
theorem evaluateLines_append (h : Repeats env t n vs m) (more : Nat) :
    evaluateLines env t (vs.length + more) n =
      (String.join (vs.map line) ++ (evaluateLines env t more m).1, (evaluateLines env t more m).2) := by
  induction h with
  | nil n => simp
  | @cons n m k v vs hv _ ih =>
    have hrun : (t.evaluate env).run n = (.ok v, m) := hv
    rw [List.length_cons, Nat.add_right_comm, evaluateLines, hrun]
    simp only [ih, List.map_cons, String.join_cons, line, String.append_assoc]

/-- The values of all evaluations. -/
theorem evaluateLines_of_repeats (h : Repeats env t n vs m) :
    evaluateLines env t vs.length n = (String.join (vs.map line), none) := by
  have happend := evaluateLines_append h 0
  rwa [evaluateLines, String.append_empty] at happend

/-- The values up to a fault. -/
theorem evaluateLines_of_stops (h : Stops env t n vs fault) {times : Nat} (hlt : vs.length < times) :
    evaluateLines env t times n = (String.join (vs.map line), some fault) := by
  obtain ⟨m, k, hvs, hfault⟩ := h
  obtain ⟨more, rfl⟩ := Nat.exists_eq_add_of_lt hlt
  have happend := evaluateLines_append hvs (more + 1)
  rwa [evaluateLines, hfault, String.append_empty] at happend

/-- The line of a value is what it has on display, without terminal codes. -/
theorem exists_stripped (v : Value) :
    ∃ left, TerminalCode.Stripped (Value.display (some v)).toList left ∧
      shownLine v = String.ofList left ++ "\n" := ⟨_, TerminalCode.stripped _, rfl⟩

/-- So many evaluations have values, unless one of them stops. -/
theorem repeats_or_stops (env : Environment) (t : Formula) (times n : Nat) :
    (∃ vs m, Repeats env t n vs m ∧ vs.length = times) ∨
      ∃ vs fault, Stops env t n vs fault ∧ vs.length < times := by
  induction times generalizing n with
  | zero => exact .inl ⟨[], n, .nil n, rfl⟩
  | succ times ih =>
    rcases hrun : (t.evaluate env).run n with ⟨fault | v, m⟩
    · exact .inr ⟨[], fault, ⟨n, m, .nil n, hrun⟩, Nat.succ_pos times⟩
    · rcases ih m with ⟨vs, k, hvs, hlength⟩ | ⟨vs, fault, ⟨k, l, hvs, hfault⟩, hlt⟩
      · exact .inl ⟨v :: vs, k, .cons hrun hvs, congrArg (· + 1) hlength⟩
      · exact .inr ⟨v :: vs, fault, ⟨k, l, .cons hrun hvs, hfault⟩, Nat.succ_lt_succ hlt⟩

end

/-! ## Runs -/

/-- The run shows these values, and ends with the error if there is one. -/
structure Outcome.Ends (o : Outcome) (vs : List Value) (e : Option LoadError) : Prop where
  output : o.output = .text (String.join (vs.map shownLine))
  error : o.error = e
  exitCode : o.exitCode = if e.isSome then 1 else 0

section
variable {files : String → Option String} {env : Option String} {fresh : Nat → Binary64}
  {characters : CharacterNames} {request : Request} {settings : Settings} {t : Formula}
  {scenario : Option Scenario} {e : LoadError}

theorem ends_failed (level : Option LogLevel) (e : LoadError) : (failed level e).Ends [] (some e) :=
  ⟨rfl, rfl, rfl⟩

/-- The first document that fails ends the run. -/
theorem ends_of_fails (heval : request.command = .eval) (h : Fails files env request e) :
    (runRequest files env fresh characters request).Ends [] (some e) := by
  unfold runRequest
  cases h with
  | settings h =>
    rw [h]
    exact ends_failed _ e
  | formula hsettings h =>
    rw [hsettings, h]
    exact ends_failed _ e
  | scenario hsettings hformula hfile h =>
    rw [hsettings, hformula, heval]
    unfold runEval
    dsimp only
    rw [hfile]
    dsimp only
    rw [h]
    exact ends_failed _ e

/-- With all documents, the run ends as its evaluations do. -/
theorem ends_of_loaded (heval : request.command = .eval)
    (h : Loaded files env request settings t scenario) {vs : List Value} {fault : Option Fault}
    (hlines : evaluateLines (environmentOf settings scenario fresh characters) t request.repetitions 0 =
      (String.join (vs.map line), fault)) :
    (runRequest files env fresh characters request).Ends vs (fault.map .fault) := by
  have hends (level : LogLevel) : Outcome.Ends
      { exitCode := if fault.isSome then 1 else 0, logLevel := some level,
        output := .text (TerminalCode.strip (String.join (vs.map line))), error := fault.map .fault }
      vs (fault.map .fault) :=
    ⟨congrArg Output.text (strip_lines vs), rfl, by rw [Option.isSome_map]⟩
  unfold runRequest
  rw [h.settings, h.formula, heval]
  unfold runEval
  dsimp only
  cases h.scenario with
  | absent hfile =>
    rw [hfile]
    dsimp only
    rw [hlines]
    exact hends _
  | present hfile hscenario =>
    rw [hfile]
    dsimp only
    rw [hscenario]
    dsimp only [Except.map]
    rw [hlines]
    exact hends _

/-- A seed leaves nothing to chance. -/
theorem environmentOf_of_seed {seed : Int} (h : settings.randomSeed = some seed)
    (scenario : Option Scenario) (fresh fresh' : Nat → Binary64) :
    environmentOf settings scenario fresh characters =
      environmentOf settings scenario fresh' characters := by
  have hdraw : drawOf settings fresh = drawOf settings fresh' := by
    unfold drawOf
    rw [h]
    rfl
  unfold environmentOf
  rw [hdraw]

theorem runRequest_of_seed {seed : Int} (h : Settings.load files request.config env = .ok settings)
    (hseed : settings.randomSeed = some seed) (fresh fresh' : Nat → Binary64) :
    runRequest files env fresh characters request = runRequest files env fresh' characters request := by
  have henvironment (scenario : Option Scenario) :
      environmentOf settings scenario fresh characters =
        environmentOf settings scenario fresh' characters :=
    environmentOf_of_seed hseed scenario fresh fresh'
  unfold runRequest
  rw [h]
  dsimp only
  cases loadFormula files request.tree with
  | error e => rfl
  | ok t =>
    cases request.command with
    | eval =>
      unfold runEval
      simp only [henvironment]
    | _ => rfl

end

/-- **All documents or none.**  Any number of evaluations can be asked for.  A run fails with the first
document that fails, and nothing is put out.  With all documents it shows the values of as many
successive evaluations as the request says, in the environment of the scenario and the settings, as they
are on display but without terminal codes; only an evaluation that stops with a fault ends it before.
With a seed in the settings there is one outcome. -/
theorem run_eval (files : String → Option String) (env : Option String) (fresh : Nat → Binary64)
    (characters : CharacterNames) :
    (∀ tree n, tree.toList.head? ≠ some '-' → 1 ≤ n → (toString n).length ≤ LooseNumber.maxDigits →
      Request.ofArguments ["eval", tree, "-n", toString n] =
        .ok { command := .eval, tree, repetitions := n }) ∧
    (∀ v, ∃ left, TerminalCode.Stripped (Value.display (some v)).toList left ∧
      shownLine v = String.ofList left ++ "\n") ∧
    ∀ arguments request, Request.ofArguments arguments = .ok request → request.command = .eval →
      1 ≤ request.repetitions ∧
      ((∃ settings t scenario, Loaded files env request settings t scenario) ∨
        ∃ e, Fails files env request e) ∧
      (∀ e, Fails files env request e →
        (run files env fresh characters arguments).Ends [] (some e)) ∧
      (∀ settings t scenario, Loaded files env request settings t scenario →
        (∃ vs m, Repeats (environmentOf settings scenario fresh characters) t 0 vs m ∧
          vs.length = request.repetitions ∧ (run files env fresh characters arguments).Ends vs none) ∨
        ∃ vs fault, Stops (environmentOf settings scenario fresh characters) t 0 vs fault ∧
          vs.length < request.repetitions ∧
          (run files env fresh characters arguments).Ends vs (some (.fault fault))) ∧
      ∀ settings seed, Settings.load files request.config env = .ok settings →
        settings.randomSeed = some seed → ∀ fresh',
          run files env fresh' characters arguments = run files env fresh characters arguments := by
  refine ⟨fun tree n htree hpos hfew => ofArguments_repetitions htree hpos hfew, exists_stripped,
    fun arguments request hrequest heval => ?_⟩
  have hrun (fresh : Nat → Binary64) :
      run files env fresh characters arguments = runRequest files env fresh characters request := by
    unfold run
    rw [hrequest]
  simp only [hrun]
  refine ⟨one_le_repetitions hrequest, loaded_or_fails files env request,
    fun e hfails => ends_of_fails heval hfails, ?_, ?_⟩
  · intro settings t scenario hloaded
    rcases repeats_or_stops (environmentOf settings scenario fresh characters) t request.repetitions 0
      with ⟨vs, m, hvs, hlength⟩ | ⟨vs, fault, hstops, hlt⟩
    · have hlines := evaluateLines_of_repeats hvs
      rw [hlength] at hlines
      exact .inl ⟨vs, m, hvs, hlength, ends_of_loaded heval hloaded hlines⟩
    · exact .inr ⟨vs, fault, hstops, hlt,
        ends_of_loaded heval hloaded (evaluateLines_of_stops hstops hlt)⟩
  · intro settings seed hsettings hseed fresh'
    exact runRequest_of_seed hsettings hseed fresh' fresh

/-- A text, and settings with a seed. -/
def catFiles : String → Option String
  | "cat.json" => some "\x7b\"type\": \"STRING\", \"value\": \"Cat\"\x7d"
  | "formulakit.toml" => some "[formula]\nrandom_seed = 7\n"
  | _ => none

/-- The text twice. -/
theorem run_eval_cat :
    (∃ vs, vs.length = 2 ∧
      (run catFiles none (fun _ => .zero) (fun _ => none) ["eval", "cat.json", "-n", "2"]).Ends vs
        none) ∧
    ∀ fresh, run catFiles none fresh (fun _ => none) ["eval", "cat.json", "-n", "2"] =
      run catFiles none (fun _ => .zero) (fun _ => none) ["eval", "cat.json", "-n", "2"] := by
  have hread : (Settings.load catFiles none none).toOption.map Settings.randomSeed = some (some 7) := by
    decide +kernel
  obtain ⟨settings, hoption, hrandomSeed⟩ := Option.map_eq_some_iff.mp hread
  have hsettings : Settings.load catFiles none none = .ok settings := by
    cases hload : Settings.load catFiles none none with
    | error e =>
      rw [hload] at hoption
      cases hoption
    | ok s =>
      rw [hload] at hoption
      exact congrArg Except.ok (Option.some.inj hoption)
  have hformula : loadFormula catFiles "cat.json" = .ok (.leaf .string "Cat") := by decide +kernel
  obtain ⟨hrequest, -, hrun⟩ := run_eval catFiles none (fun _ => .zero) (fun _ => none)
  obtain ⟨-, -, -, hloaded, hseed⟩ :=
    hrun _ _ (hrequest "cat.json" 2 (by decide) (by decide) (by decide)) rfl
  refine ⟨?_, hseed _ 7 hsettings hrandomSeed⟩
  rcases hloaded _ _ _ ⟨hsettings, hformula, .absent rfl⟩ with ⟨vs, m, -, hlength, hends⟩ |
    ⟨vs, fault, ⟨m, k, -, hfault⟩, -⟩
  · exact ⟨vs, hlength, hends⟩
  · cases hfault

/-- A text with a code that colours it. -/
def redFiles : String → Option String
  | "red.json" => some "\x7b\"type\": \"STRING\", \"value\": \"\\u001b[31mred\"\x7d"
  | _ => none

/-- But the code of a colour is not put out, though it is on display. -/
theorem run_eval_red :
    Loaded redFiles none { command := .eval, tree := "red.json" } {} (.leaf .string "\x1b[31mred") none ∧
      Repeats (environmentOf {} none (fun _ => .zero) fun _ => none) (.leaf .string "\x1b[31mred") 0
        [.text "\x1b[31mred"] 0 ∧
      (run redFiles none (fun _ => .zero) (fun _ => none) ["eval", "red.json"]).exitCode = 0 ∧
      (run redFiles none (fun _ => .zero) (fun _ => none) ["eval", "red.json"]).output = .text "red\n" ∧
      (run redFiles none (fun _ => .zero) (fun _ => none) ["eval", "red.json"]).output ≠
        .text (String.join ([.text "\x1b[31mred"].map line)) := by
  have hformula : loadFormula redFiles "red.json" = .ok (.leaf .string "\x1b[31mred") := by
    decide +kernel
  refine ⟨⟨rfl, hformula, .absent rfl⟩, .cons rfl (.nil 0), ?_, ?_, ?_⟩ <;> decide +kernel

end BrickFormula.CommandLine
