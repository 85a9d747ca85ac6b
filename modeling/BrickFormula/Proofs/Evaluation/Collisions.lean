import BrickFormula.Proofs.Evaluation.Equality
import BrickFormula.Scenario

/-!
# Collision probes

A probe names a sprite, a clone or a group.  It looks at the members of a group, and otherwise at the
named sprite and its clones, for a name that is declared to touch the evaluating sprite.  Of a sprite
and its clones, the evaluating sprite itself does not count.

    Scenario.probed          the names that a probe looks at
    touchesAny_environment   the search, by induction on the names
    touches_group            the probe of a group
    touches_sprite           the probe of any other name
    probe_iff                what a probe finds
-/

namespace BrickFormula

namespace Scenario

/-! ## Declarations -/

/-- The two names are declared to touch, in either order. -/
def Declares (s : Scenario) (a b : String) : Prop := (a, b) ∈ s.touching ∨ (b, a) ∈ s.touching

instance (s : Scenario) (a b : String) : Decidable (s.Declares a b) :=
  inferInstanceAs (Decidable (_ ∨ _))

/-- A sprite or a clone has the name. -/
def HasSprite (s : Scenario) (name : String) : Prop :=
  name ∈ s.sprites.map SpriteSnapshot.name ∨ name ∈ s.clones.flatMap Prod.snd

/-- A group has the name. -/
def HasGroup (s : Scenario) (name : String) : Prop := (s.groups.lookup name).isSome = true

instance (s : Scenario) (name : String) : Decidable (s.HasSprite name) :=
  inferInstanceAs (Decidable (_ ∨ _))

instance (s : Scenario) (name : String) : Decidable (s.HasGroup name) :=
  inferInstanceAs (Decidable (_ = true))

/-- The names that a probe looks at: the members of a group, or a sprite and its clones. -/
def probed (s : Scenario) (target : String) : List String :=
  match s.groups.lookup target with
  | some members => members
  | none => if s.HasSprite target then target :: (s.clones.lookup target).getD [] else []

variable {s : Scenario} {target : String}

theorem areTouching_iff (a b : String) :
    s.areTouching (some a) (some b) = true ↔ s.Declares a b := by
  unfold areTouching Declares
  simp only [List.any_eq_true, Bool.or_eq_true, Bool.and_eq_true, decide_eq_true_eq,
    Option.some.injEq]
  constructor
  · rintro ⟨⟨first, second⟩, hpair, ⟨rfl, rfl⟩ | ⟨rfl, rfl⟩⟩
    · exact .inl hpair
    · exact .inr hpair
  · rintro (hpair | hpair)
    · exact ⟨_, hpair, .inl ⟨rfl, rfl⟩⟩
    · exact ⟨_, hpair, .inr ⟨rfl, rfl⟩⟩

theorem hasGroup_iff : s.HasGroup target ↔ target ∈ s.groups.map Prod.fst := by
  unfold HasGroup
  rw [List.lookup_isSome_iff]
  simp

theorem mem_spriteNames : target ∈ s.spriteNames ↔ s.HasSprite target ∨ s.HasGroup target := by
  rw [hasGroup_iff]
  unfold spriteNames HasSprite
  rw [List.mem_append, List.mem_append]

end Scenario

/-! ## Probes -/

namespace Environment
variable {env : Environment} {name : String} {target : SpriteName}

theorem ok_bind {α β : Type} (a : α) (f : α → Except Fault β) : (Except.ok a >>= f) = f a := rfl

theorem touches_of_absent (hfind : env.collisions.findSprite name = .ok none) :
    env.touches name = .ok false := by
  unfold touches
  rw [hfind]
  rfl

/-- The members of a group are all looked at, the evaluating sprite among them. -/
theorem touches_of_group {members : List SpriteName}
    (hfind : env.collisions.findSprite name = .ok (some target))
    (hgroup : env.collisions.isGroup target = .ok true)
    (hmembers : env.collisions.groupMembers name = .ok members) :
    env.touches name = env.touchesAny members := by
  unfold touches
  simp only [hfind, hgroup, hmembers, ok_bind, if_true]

/-- Of a sprite and its clones, the evaluating sprite is left out. -/
theorem touches_of_sprite {clones : List SpriteName}
    (hfind : env.collisions.findSprite name = .ok (some target))
    (hgroup : env.collisions.isGroup target = .ok false)
    (hclones : env.collisions.clonesOf target = .ok clones) :
    env.touches name = env.touchesAny ((target :: clones).filter (· ≠ env.sprite)) := by
  unfold touches
  simp only [hfind, hgroup, hclones, ok_bind, Bool.false_eq_true, if_false]

end Environment

namespace Scenario
variable {s : Scenario} {target : String} {settings : Settings} {draw : Nat → Binary64}
  {characters : CharacterNames} {me : String}

/-- The search goes through all names until one of them touches. -/
theorem touchesAny_environment (others : List SpriteName) :
    (s.environment settings draw characters).touchesAny others =
      .ok (others.any (s.areTouching s.sprite)) := by
  induction others with
  | nil => rfl
  | cons other others ih =>
    unfold Environment.touchesAny
    rw [ih, List.any_cons]
    show (if s.areTouching s.sprite other then Except.ok true else Except.ok _) = _
    cases s.areTouching s.sprite other <;> rfl

variable (s target settings draw characters) in
theorem findSprite_environment :
    (s.environment settings draw characters).collisions.findSprite target =
      .ok (if s.HasSprite target ∨ s.HasGroup target then some (some target) else none) := by
  show Except.ok (if s.spriteNames.contains target then _ else _) = _
  simp only [List.contains_iff_mem, mem_spriteNames]

variable (s target settings draw characters) in
theorem isGroup_environment :
    (s.environment settings draw characters).collisions.isGroup (some target) =
      .ok (s.groups.lookup target).isSome := by
  have hgroup : (s.groups.map Prod.fst).contains target = (s.groups.lookup target).isSome := by
    rw [Bool.eq_iff_iff, List.contains_iff_mem, ← hasGroup_iff]
    rfl
  exact congrArg Except.ok hgroup

/-- The probe of a group. -/
theorem touches_group {members : List String} (hgroup : s.groups.lookup target = some members) :
    (s.environment settings draw characters).touches target =
      .ok ((members.map some).any (s.areTouching s.sprite)) := by
  have hhas : s.HasGroup target := Option.isSome_of_eq_some hgroup
  have hfind := findSprite_environment s target settings draw characters
  have hisGroup := isGroup_environment s target settings draw characters
  rw [if_pos (.inr hhas)] at hfind
  rw [hgroup] at hisGroup
  have hmembers : (s.environment settings draw characters).collisions.groupMembers target =
      .ok (members.map some) := by
    show Except.ok (((s.groups.lookup target).getD []).map some) = _
    rw [hgroup]
    rfl
  rw [Environment.touches_of_group hfind hisGroup hmembers, touchesAny_environment]

/-- The probe of a sprite or a clone. -/
theorem touches_sprite (hgroup : s.groups.lookup target = none) (hsprite : s.HasSprite target) :
    (s.environment settings draw characters).touches target =
      .ok (((some target :: ((s.clones.lookup target).getD []).map some).filter
        (· ≠ s.sprite)).any (s.areTouching s.sprite)) := by
  have hfind := findSprite_environment s target settings draw characters
  have hisGroup := isGroup_environment s target settings draw characters
  rw [if_pos (.inl hsprite)] at hfind
  rw [hgroup] at hisGroup
  rw [Environment.touches_of_sprite hfind hisGroup rfl, touchesAny_environment]
  rfl

/-- The probe of any other name. -/
theorem touches_other (hgroup : s.groups.lookup target = none) (hsprite : ¬ s.HasSprite target) :
    (s.environment settings draw characters).touches target = .ok false := by
  have hfind := findSprite_environment s target settings draw characters
  have hnone : ¬ (s.HasSprite target ∨ s.HasGroup target) := by
    rintro (h | h)
    · exact hsprite h
    · unfold HasGroup at h
      rw [hgroup] at h
      cases h
  rw [if_neg hnone] at hfind
  exact Environment.touches_of_absent hfind

theorem any_areTouching_iff (names : List String) :
    (names.map some).any (s.areTouching (some me)) = true ↔ ∃ c ∈ names, s.Declares me c := by
  rw [List.any_map, List.any_eq_true]
  simp only [Function.comp_apply, areTouching_iff]

theorem any_filter_areTouching_iff (names : List String) :
    ((names.map some).filter (· ≠ some me)).any (s.areTouching (some me)) = true ↔
      ∃ c ∈ names, c ≠ me ∧ s.Declares me c := by
  rw [List.any_eq_true]
  constructor
  · rintro ⟨other, hother, htouch⟩
    obtain ⟨hmem, hne⟩ := List.mem_filter.mp hother
    obtain ⟨c, hc, rfl⟩ := List.mem_map.mp hmem
    exact ⟨c, hc, fun heq => of_decide_eq_true hne (congrArg some heq),
      (areTouching_iff me c).mp htouch⟩
  · rintro ⟨c, hc, hne, hdeclared⟩
    refine ⟨some c, List.mem_filter.mpr ⟨List.mem_map_of_mem hc, ?_⟩,
      (areTouching_iff me c).mpr hdeclared⟩
    exact decide_eq_true fun heq => hne (Option.some.inj heq)

/-- **What a probe finds**: a name that is declared to touch the evaluating sprite, and is not the
evaluating sprite itself, unless this is a member of a group. -/
theorem touches_iff (hme : s.sprite = some me) :
    ∃ b, (s.environment settings draw characters).touches target = .ok b ∧
      (b = true ↔ ∃ c ∈ s.probed target, (c ≠ me ∨ s.HasGroup target) ∧ s.Declares me c) := by
  unfold probed
  cases hgroup : s.groups.lookup target with
  | some members =>
    have hhas : s.HasGroup target := Option.isSome_of_eq_some hgroup
    refine ⟨_, touches_group hgroup, ?_⟩
    rw [hme, any_areTouching_iff]
    simp only [hhas, or_true, true_and]
  | none =>
    have hhas : ¬ s.HasGroup target := by
      unfold HasGroup
      rw [hgroup]
      exact nofun
    simp only [hhas, or_false]
    by_cases hsprite : s.HasSprite target
    · refine ⟨_, touches_sprite hgroup hsprite, ?_⟩
      rw [hme, ← List.map_cons, any_filter_areTouching_iff, if_pos hsprite]
    · refine ⟨false, touches_other hgroup hsprite, ?_⟩
      rw [if_neg hsprite]
      exact iff_of_false nofun nofun

end Scenario

/-- A probe has a value of its own, without a draw. -/
theorem Formula.gives_probe (env : Environment) (target : String) (left right : Formula) (n : Nat) :
    ((node .collisionFormula (some target) left right).evaluate env).Gives n (env.probe target) n := by
  have hnormalize : (Datum.ofValue (env.probe target)).normalize = .ok (env.probe target) := by
    unfold Environment.probe
    split
    · exact normalize_ofBool _
    · rfl
  exact gives_leaf (by decide) (by simp) (by simp) rfl hnormalize n

/-- **A probe finds what is declared to touch.**  In a scenario with an evaluating sprite, a probe is
true exactly when this sprite is declared to touch one of the probed names, which are the members of
a group, and otherwise a sprite or a clone and its own clones.  The evaluating sprite does not touch
itself, except as a member of a group. -/
theorem probe_iff (s : Scenario) (settings : Settings) (draw : Nat → Binary64)
    (characters : CharacterNames) (me target : String) (left right : Formula) (n : Nat)
    (hme : s.sprite = some me) :
    ∃ b, ((Formula.node .collisionFormula (some target) left right).evaluate
        (s.environment settings draw characters)).Gives n (.ofBool b) n ∧
      (b = true ↔ ∃ c ∈ s.probed target, (c ≠ me ∨ s.HasGroup target) ∧ s.Declares me c) := by
  obtain ⟨b, htouches, hb⟩ :
      ∃ b, (s.environment settings draw characters).touches target = .ok b ∧ _ :=
    Scenario.touches_iff hme
  have hprobe : (s.environment settings draw characters).probe target = .ofBool b := by
    unfold Environment.probe
    rw [htouches]
  exact ⟨b, hprobe ▸ Formula.gives_probe _ target left right n, hb⟩

/-- A cat that plays with a clone of a mouse, in a team of its own. -/
def playground : Scenario where
  sprite := some "Cat"
  sprites := [{ name := "Cat" }, { name := "Mouse" }]
  clones := [("Mouse", ["Mouse 2"])]
  groups := [("Team", ["Cat"])]
  touching := [("Mouse 2", "Cat"), ("Cat", "Cat")]

theorem probe_iff_playground :
    playground.sprite = some "Cat" ∧ "Mouse 2" ∈ playground.probed "Mouse" ∧
    playground.Declares "Cat" "Mouse 2" ∧
    ((Formula.leaf .collisionFormula "Mouse").evaluate
      (playground.environment {} fun _ => .zero)).Gives 0 (.ofBool true) 0 := by
  obtain ⟨b, hgives, hb⟩ :=
    probe_iff playground {} (fun _ => .zero) _ "Cat" "Mouse" .empty .empty 0 rfl
  have hprobed : "Mouse 2" ∈ playground.probed "Mouse" := by decide
  have hdeclared : playground.Declares "Cat" "Mouse 2" := by decide
  obtain rfl : b = true := hb.mpr ⟨"Mouse 2", hprobed, .inl (by decide), hdeclared⟩
  exact ⟨rfl, hprobed, hdeclared, hgives⟩

/-- **The only member of a group collides with the group**, by a declaration that lets no sprite
collide with itself. -/
theorem probe_team_playground :
    ((Formula.leaf .collisionFormula "Team").evaluate
      (playground.environment {} fun _ => .zero)).Gives 0 (.ofBool true) 0 ∧
    ((Formula.leaf .collisionFormula "Cat").evaluate
      (playground.environment {} fun _ => .zero)).Gives 0 (.ofBool false) 0 ∧
    ¬ ∃ c ∈ playground.probed "Team", c ≠ "Cat" ∧ playground.Declares "Cat" c := by
  refine ⟨Formula.gives_probe _ "Team" .empty .empty 0, Formula.gives_probe _ "Cat" .empty .empty 0,
    ?_⟩
  decide +kernel

end BrickFormula
