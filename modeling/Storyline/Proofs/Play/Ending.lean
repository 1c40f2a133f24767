import Mathlib.Data.Nat.Find
import Storyline.Play.BuiltIn
import Storyline.Play.Game
import Storyline.Proofs.Play.Turn
import Storyline.Tree.Loading

/-!
# How a game ends

A game is played turn by turn until its engine is idle (`Game.afterTurns`, `Game.finish`). No turn
of a game that was opened is refused, so no game is given up with an error on its way. Every turn
uses up one of the lines that are to be typed, or ends the dialogue, unless it takes a lone choice
without asking, and the lines are the measure that all other turns have in common: a game finishes,
or from some turn on it takes lone choices forever (`Game.Sound.finishes_or_spins`).

Lone choices are taken without asking only in trees that say so, and in those a choice may lead back
to its own node. Nothing stops the game then (`Game.not_finishes_carousel`).
-/

namespace Storyline

namespace Play

open Rehearsal

/-- How long the player waits between two looks at the clock. -/
def tick : Duration := .ofNanos 100000000

namespace Game

variable {lib : Libraries} {g : Game} {r : Rehearsal}

/-! ### The course of a game -/

/-- The game and what is around it once so many turns have been taken; none if it was over before
that, or was given up with an error. -/
def afterTurns (lib : Libraries) : Nat → Game → Rehearsal → Option (Game × Rehearsal)
  | 0, g, r => some (g, r)
  | n + 1, g, r =>
    if g.isOver then none
    else match follow (g.next lib) r with
      | (.ok g, r) => afterTurns lib n g r
      | (.error _, _) => none

/-- The engine plays in the tree of the game. -/
def Sound (g : Game) : Prop := g.engine.PlaysIn g.tree

/-- The next turn takes a lone choice without asking. -/
def TakesLone (g : Game) : Prop := g.isOver = false ∧ TakesLoneChoice g.engine

theorem follow_next_of_turn {e : Engine} (h : (follow (turn lib g.tree g.engine) r).1 = .ok e) :
    follow (g.next lib) r =
      (.ok { g with engine := e }, (follow (turn lib g.tree g.engine) r).2) := by
  rw [next, follow_bind, h]
  rfl

/-- A turn of a game that is not over is taken without an error. Either it takes a lone choice, and
no line is used up, or the game is over then, or there is one line less. -/
theorem next_spec (h : g.Sound) (hrun : g.isOver = false) (r : Rehearsal) :
    ∃ g' s, follow (g.next lib) r = (.ok g', s) ∧ g'.tree = g.tree ∧ g'.Sound ∧
      (g.TakesLone → s.lines = r.lines) ∧
      (¬g.TakesLone → g'.isOver = true ∨ s.lines.length < r.lines.length) := by
  have hactive : g.engine.isActive = true := by simpa [isOver] using hrun
  by_cases hlone : TakesLoneChoice g.engine
  · obtain ⟨hanswer, hlines⟩ := follow_turn_of_lone h hactive hlone r
    exact ⟨_, _, follow_next_of_turn hanswer, rfl, h.select 0, fun _ ↦ hlines,
      fun hnot ↦ absurd ⟨hrun, hlone⟩ hnot⟩
  · obtain ⟨e', hanswer, hplays, hgone⟩ := follow_turn_of_not_lone h hlone r
    refine ⟨_, _, follow_next_of_turn hanswer, rfl, hplays,
      fun hlone' ↦ absurd hlone'.2 hlone, fun _ ↦ ?_⟩
    rcases hgone with hidle | hfewer
    · exact .inl (by simp [isOver, hidle])
    · exact .inr hfewer

theorem afterTurns_succ {g' : Game} {s : Rehearsal} (hrun : g.isOver = false)
    (hnext : follow (g.next lib) r = (.ok g', s)) (n : Nat) :
    g.afterTurns lib (n + 1) r = g'.afterTurns lib n s := by
  rw [afterTurns, hrun, hnext]
  rfl

/-- Where one turn and more have been taken, the first of them was taken without an error. -/
theorem next_of_afterTurns_succ {n : Nat} {p : Game × Rehearsal}
    (h : g.afterTurns lib (n + 1) r = some p) :
    g.isOver = false ∧
      ∃ g' s, follow (g.next lib) r = (.ok g', s) ∧ g'.afterTurns lib n s = some p := by
  rw [afterTurns] at h
  split at h
  · cases h
  · rename_i hrun
    split at h
    · rename_i g' s hnext
      exact ⟨eq_false_of_ne_true hrun, g', s, hnext, h⟩
    · cases h

theorem afterTurns_add (m n : Nat) (g : Game) (r : Rehearsal) :
    g.afterTurns lib (m + n) r = (g.afterTurns lib m r).bind fun p ↦ p.1.afterTurns lib n p.2 := by
  induction m generalizing g r with
  | zero => simp [afterTurns]
  | succ m ih =>
    rw [Nat.add_right_comm, afterTurns, afterTurns]
    split
    · rfl
    · split
      · exact ih _ _
      · rfl

theorem afterTurns_snoc {n : Nat} {g' after : Game} {s around : Rehearsal}
    (hn : g.afterTurns lib n r = some (g', s)) (hrun : g'.isOver = false)
    (hnext : follow (g'.next lib) s = (.ok after, around)) :
    g.afterTurns lib (n + 1) r = some (after, around) := by
  rw [afterTurns_add, hn, Option.bind_some, afterTurns_succ hrun hnext]
  rfl

/-- Turns keep the tree of a game, and that its engine plays in it. -/
theorem Sound.afterTurns (h : g.Sound) {n : Nat} {g' : Game} {s : Rehearsal}
    (hn : g.afterTurns lib n r = some (g', s)) : g'.Sound ∧ g'.tree = g.tree := by
  induction n generalizing g r with
  | zero =>
    cases hn
    exact ⟨h, rfl⟩
  | succ n ih =>
    obtain ⟨hrun, next, around, hnext, hrest⟩ := next_of_afterTurns_succ hn
    obtain ⟨next', around', hnext', htree, hsound, -⟩ := next_spec h hrun r
    cases hnext.symm.trans hnext'
    obtain ⟨hsound', htree'⟩ := ih hsound hrest
    exact ⟨hsound', htree'.trans htree⟩

/-! ### Finishing and spinning -/

/-- After some turns the engine is idle, and playing to the end closes the game there. -/
def Finishes (lib : Libraries) (g : Game) (r : Rehearsal) : Prop :=
  ∃ turns last s, g.afterTurns lib turns r = some (last, s) ∧ last.engine.isActive = false ∧
    ∀ more, follow (g.finish lib (turns + 1 + more)) r = (some (.ok ()), (follow last.close s).2)

/-- From some turn on, every turn takes a lone choice without asking. -/
def Spins (lib : Libraries) (g : Game) (r : Rehearsal) : Prop :=
  ∃ n, ∀ m, n ≤ m → ∃ g' s, g.afterTurns lib m r = some (g', s) ∧ g'.TakesLone

/-- Playing to the end closes a game that is over. -/
theorem follow_finish_of_over (hover : g.isOver = true) (n : Nat) :
    follow (g.finish lib (n + 1)) r = (some (.ok ()), (follow g.close r).2) := by
  rw [finish, if_pos hover, follow_bind]
  rfl

/-- Playing to the end of a game that is not over takes its next turn first. -/
theorem follow_finish_of_next {g' : Game} {s : Rehearsal} (hrun : g.isOver = false)
    (hnext : follow (g.next lib) r = (.ok g', s)) (n : Nat) :
    follow (g.finish lib (n + 1)) r = follow (g'.finish lib n) s := by
  rw [finish, hrun, if_neg Bool.false_ne_true, follow_bind, hnext]

/-- What is reached after some turns is finished to the same end. -/
theorem follow_finish_add {n : Nat} {g' : Game} {s : Rehearsal}
    (hn : g.afterTurns lib n r = some (g', s)) (more : Nat) :
    follow (g.finish lib (n + more)) r = follow (g'.finish lib more) s := by
  induction n generalizing g r with
  | zero =>
    cases hn
    rw [Nat.zero_add]
  | succ n ih =>
    obtain ⟨hrun, next, around, hnext, hrest⟩ := next_of_afterTurns_succ hn
    rw [Nat.add_right_comm, follow_finish_of_next hrun hnext]
    exact ih hrest

/-- Playing on never ends with an error. -/
theorem follow_finish_ne_error (h : g.Sound) (n : Nat) (causes : Causes) :
    (follow (g.finish lib n) r).1 ≠ some (.error causes) := by
  induction n generalizing g r with
  | zero =>
    intro herror
    cases herror
  | succ n ih =>
    rcases hrun : g.isOver with - | -
    · obtain ⟨next, around, hnext, -, hsound, -⟩ := next_spec h hrun r
      rw [follow_finish_of_next hrun hnext]
      exact ih hsound
    · rw [follow_finish_of_over hrun]
      intro herror
      cases herror

theorem isOver_eq (g : Game) : g.isOver = !g.engine.isActive := rfl

/-- A game that is over finishes. -/
theorem finishes_of_over (hover : g.isOver = true) : g.Finishes lib r := by
  refine ⟨0, g, r, rfl, by simpa [isOver_eq] using hover, fun more ↦ ?_⟩
  rw [Nat.zero_add, Nat.add_comm]
  exact follow_finish_of_over hover more

/-- A game finishes if it finishes once some turns have been taken. -/
theorem finishes_of_afterTurns {n : Nat} {g' : Game} {s : Rehearsal}
    (hn : g.afterTurns lib n r = some (g', s)) (h : g'.Finishes lib s) : g.Finishes lib r := by
  obtain ⟨turns, last, around, hlast, hidle, hfinish⟩ := h
  refine ⟨n + turns, last, around, ?_, hidle, fun more ↦ ?_⟩
  · rw [afterTurns_add, hn]
    exact hlast
  · rw [Nat.add_assoc, Nat.add_assoc, follow_finish_add hn, ← Nat.add_assoc]
    exact hfinish more

/-- A game spins if it spins once some turns have been taken. -/
theorem spins_of_afterTurns {n : Nat} {g' : Game} {s : Rehearsal}
    (hn : g.afterTurns lib n r = some (g', s)) (h : g'.Spins lib s) : g.Spins lib r := by
  obtain ⟨first, hspins⟩ := h
  refine ⟨n + first, fun m hm ↦ ?_⟩
  obtain ⟨k, rfl⟩ := Nat.exists_eq_add_of_le (Nat.le_trans (Nat.le_add_right n first) hm)
  obtain ⟨last, around, hlast, hlone⟩ := hspins k (by omega)
  refine ⟨last, around, ?_, hlone⟩
  rw [afterTurns_add, hn]
  exact hlast

/-- A game that finishes does not spin. -/
theorem Finishes.not_spins (h : g.Finishes lib r) : ¬g.Spins lib r := by
  rintro ⟨first, hspins⟩
  obtain ⟨turns, last, s, hlast, hidle, -⟩ := h
  obtain ⟨g', s', hlater, -⟩ := hspins (turns + (first + 1)) (by omega)
  rw [afterTurns_add, hlast, Option.bind_some, afterTurns, isOver_eq, hidle] at hlater
  cases hlater

/-- As long as lone choices are taken, no line is used up. -/
theorem Sound.lines_afterTurns (h : g.Sound) {n : Nat}
    (hlone : ∀ m, m < n → ∃ g' s, g.afterTurns lib m r = some (g', s) ∧ g'.TakesLone) :
    ∃ g' s, g.afterTurns lib n r = some (g', s) ∧ s.lines = r.lines := by
  induction n with
  | zero => exact ⟨g, r, rfl, rfl⟩
  | succ n ih =>
    obtain ⟨g', s, hn, hlines⟩ := ih fun m hm ↦ hlone m (Nat.lt_succ_of_lt hm)
    obtain ⟨g'', s'', hn', hlast⟩ := hlone n (Nat.lt_succ_self n)
    cases hn.symm.trans hn'
    obtain ⟨after, around, hnext, -, -, hkept, -⟩ := next_spec (h.afterTurns hn).1 hlast.1 s
    exact ⟨after, around, afterTurns_snoc hn hlast.1 hnext, (hkept hlast).trans hlines⟩

/-- A game finishes or spins: turns that do not take a lone choice use up the lines that are to be
typed, and so there is a last one of them. -/
theorem Sound.finishes_or_spins (h : g.Sound) : g.Finishes lib r ∨ g.Spins lib r := by
  induction hlength : r.lines.length using Nat.strongRecOn generalizing g r with
  | ind length ih =>
    let Lone (m : Nat) : Prop := ∃ g' s, g.afterTurns lib m r = some (g', s) ∧ g'.TakesLone
    by_cases hspins : ∀ m, Lone m
    · exact .inr ⟨0, fun m _ ↦ hspins m⟩
    · -- the first turn that takes no lone choice is the last of the game or uses up a line
      classical
      have hex : ∃ m, ¬Lone m := Classical.not_forall.mp hspins
      obtain ⟨g', s, hn, hlines⟩ := h.lines_afterTurns (n := Nat.find hex) fun m hm ↦
        Classical.not_not.mp (Nat.find_min hex hm)
      have hlone : ¬g'.TakesLone := fun hlone ↦ Nat.find_spec hex ⟨g', s, hn, hlone⟩
      rcases hrun : g'.isOver with - | -
      · obtain ⟨after, around, hnext, -, hsound, -, hgone⟩ := next_spec (h.afterTurns hn).1 hrun s
        have hafter := afterTurns_snoc hn hrun hnext
        rcases hgone hlone with hover | hfewer
        · exact .inl (finishes_of_afterTurns hafter (finishes_of_over hover))
        · rw [hlines, hlength] at hfewer
          exact (ih _ hfewer hsound rfl).imp (finishes_of_afterTurns hafter)
            (spins_of_afterTurns hafter)
      · exact .inl (finishes_of_afterTurns hn (finishes_of_over hrun))

/-- In a tree that does not set it, no lone choice is taken without asking. -/
theorem Sound.not_spins (h : g.Sound) (hflag : g.tree.tree.autoAdvanceSingleChoice = false) :
    ¬g.Spins lib r := by
  rintro ⟨first, hspins⟩
  obtain ⟨g', s, hn, -, -, hany⟩ := hspins first (Nat.le_refl first)
  obtain ⟨hsound, htree⟩ := h.afterTurns hn
  rcases hactive : g'.engine.active with - | a
  · simp [Engine.currentTree?, hactive] at hany
  · have htree' : a.tree = g.tree := (hsound.staysIn a hactive).trans htree
    simp [Engine.currentTree?, hactive, htree', hflag] at hany

/-! ### Games that were opened -/

/-- Opening a game starts its tree. -/
theorem follow_openTree (tree : IndexedTree) (config : Config) (r : Rehearsal) :
    (follow (openTree lib tree config) r).1 =
      match ((newEngine config).start tree).value.1 with
      | .ok () => .ok ⟨tree, ((newEngine config).start tree).value.2⟩
      | .error err => .error [err.message] := by
  rw [openTree, follow_bind, follow_bind, value_follow_shown]
  rcases ((newEngine config).start tree).value with ⟨err | _, engine⟩ <;> rfl

/-- A new engine plays in every tree: it is idle. -/
theorem playsIn_newEngine (tree : IndexedTree) (config : Config) :
    (newEngine config).PlaysIn tree where
  coherent := Session.coherent_start { seeds := config.seeds, settings := config.settings }
  staysIn := Engine.staysIn_of_idle rfl

/-- A game that was opened plays in its tree. -/
theorem sound_of_openTree {tree : IndexedTree} {config : Config}
    (h : (follow (openTree lib tree config) r).1 = .ok g) : g.Sound ∧ g.tree = tree := by
  rw [follow_openTree] at h
  split at h
  · cases h
    exact ⟨(playsIn_newEngine tree config).start, rfl⟩
  · cases h

/-- A game that was opened is never given up with an error, and the end nodes on its way close after
some ticks. It finishes, unless from some turn on it takes lone choices without asking, forever. In
a tree that does not ask for this it always finishes. -/
theorem finishes_unless_spins {tree : IndexedTree} {config : Config} {r s : Rehearsal} {g : Game}
    (h : follow (openTree lib tree config) r = (.ok g, s)) :
    (∀ turns causes, (follow (g.finish lib turns) s).1 ≠ some (.error causes)) ∧
      (∀ n g' s', g.afterTurns lib n s = some (g', s') → g'.engine.pendingAutoEnd = true →
        g'.engine.TicksOut tick) ∧
      (g.Finishes lib s ↔ ¬g.Spins lib s) ∧
      (tree.tree.autoAdvanceSingleChoice = false → g.Finishes lib s) := by
  obtain ⟨hsound, htree⟩ := sound_of_openTree (congrArg Prod.fst h)
  have hfinishes (hspins : ¬g.Spins lib s) : g.Finishes lib s :=
    hsound.finishes_or_spins.resolve_right hspins
  refine ⟨follow_finish_ne_error hsound, fun n g' s' hn hpending ↦ ?_,
    ⟨Finishes.not_spins, hfinishes⟩, fun hflag ↦ hfinishes (hsound.not_spins ?_)⟩
  · exact (hsound.afterTurns hn).1.coherent.ticksOut hpending (by decide)
  · rw [htree]
    exact hflag

/-- A game that waits for its only node to close. -/
theorem finishes_unless_spins_door :
    ∃ g s, follow (openTree .builtIn doorTree {}) { lines := [], folder := .ofFiles [] } =
        (.ok g, s) ∧
      g.engine.pendingAutoEnd = true ∧ g.engine.TicksOut tick ∧ g.Finishes .builtIn s := by
  let r : Rehearsal := { lines := [], folder := .ofFiles [] }
  let g : Game := ⟨doorTree, ((newEngine {}).start doorTree).value.2⟩
  have hopen : (follow (openTree .builtIn doorTree {}) r).1 = .ok g := by
    have hstart : ((newEngine {}).start doorTree).value.1 = .ok () := by rfl
    rw [follow_openTree, hstart]
  have hpending : g.engine.pendingAutoEnd = true := by decide +kernel
  obtain ⟨-, hticks, -, hfinishes⟩ := finishes_unless_spins (Prod.ext hopen rfl)
  exact ⟨g, _, Prod.ext hopen rfl, hpending, hticks 0 g _ rfl hpending, hfinishes rfl⟩

/-- A node, the only choice of which leads back to it. -/
def roundNode : Node where
  id := "round"
  choices := [{ text := "Again", nextNode := some "round" }]

/-- A tree with this node only, which takes its choice without asking. -/
def carouselTree : IndexedTree where
  tree := { id := "fair", startNode := some "round", autoAdvanceSingleChoice := true
            nodes := [roundNode] }
  index := KeyMap.empty.insert "round" roundNode
  index_eq := rfl

/-- Its text. -/
def carouselText : String :=
  "(id: \"fair\", start_node: Some(\"round\"), auto_advance_single_choice: true, " ++
    "nodes: [(id: \"round\", choices: [(text: \"Again\", next_node: Some(\"round\"))])])"

/-- The tree that goes round is accepted when it is loaded from its text. -/
theorem carousel_loads :
    (IndexedTree.load Libraries.builtIn.readTree "tree.ron" (.ok carouselText) :
      Told Notice (Except Causes IndexedTree)).value = .ok carouselTree := by
  decide +kernel

/-- The engine that goes round. -/
def roundEngine : Engine := ((newEngine {}).start carouselTree).value.2

/-- The game that goes round. -/
def carousel : Game := ⟨carouselTree, roundEngine⟩

/-- After a turn, the game is as it was. -/
theorem follow_next_carousel (lib : Libraries) (r : Rehearsal) :
    ∃ s, follow (carousel.next lib) r = (.ok carousel, s) := by
  have hplays : roundEngine.PlaysIn carouselTree := (playsIn_newEngine carouselTree {}).start
  have hround : (roundEngine.select 0).value.2 = roundEngine := by decide +kernel
  have hanswer : (follow (turn lib carouselTree roundEngine) r).1 = .ok roundEngine := by
    rw [(follow_turn_of_lone hplays (by decide +kernel) (by decide +kernel) r).1, hround]
  exact ⟨_, follow_next_of_turn hanswer⟩

/-- However many turns are taken, the game that goes round is where it was. -/
theorem afterTurns_carousel (lib : Libraries) (n : Nat) (r : Rehearsal) :
    ∃ s, carousel.afterTurns lib n r = some (carousel, s) := by
  induction n generalizing r with
  | zero => exact ⟨r, rfl⟩
  | succ n ih =>
    obtain ⟨s, hnext⟩ := follow_next_carousel lib r
    rw [afterTurns_succ (by decide +kernel) hnext]
    exact ih s

/-- It never finishes, although its tree can be loaded. -/
theorem not_finishes_carousel :
    ¬∀ (lib : Libraries) (path text : String) (tree : IndexedTree) (config : Config)
      (r s : Rehearsal) (g : Game),
      (IndexedTree.load lib.readTree path (.ok text) :
        Told Notice (Except Causes IndexedTree)).value = .ok tree →
      follow (openTree lib tree config) r = (.ok g, s) → g.Finishes lib s := by
  intro h
  let r : Rehearsal := { lines := [], folder := .ofFiles [] }
  have hopen : (follow (openTree Libraries.builtIn carouselTree {}) r).1 = .ok carousel := by
    have hstart : ((newEngine {}).start carouselTree).value.1 = .ok () := by rfl
    rw [follow_openTree, hstart]
    rfl
  obtain ⟨turns, last, s, hlast, hidle, -⟩ := h Libraries.builtIn "tree.ron" carouselText
    carouselTree {} r _ carousel carousel_loads (Prod.ext hopen rfl)
  obtain ⟨s', hround⟩ := afterTurns_carousel Libraries.builtIn turns
    (follow (openTree Libraries.builtIn carouselTree {}) r).2
  cases hlast.symm.trans hround
  revert hidle
  decide +kernel

end Game

end Play

end Storyline
