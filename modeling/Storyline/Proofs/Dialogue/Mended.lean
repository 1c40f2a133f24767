import Storyline.Proofs.Dialogue.Calls
import Storyline.Proofs.Tree.Mended
import Storyline.Saved.Snapshot

/-!
# Dialogues without broken content

An engine that plays a mended tree does what it does with the tree itself. What it announces shows
the content as it is mended, so notices are compared without the content that mending touches
(`Notice.bare`). A phase is an echo of another if it announces the same in this sense and leads to
the same, mended (`Echo`); echoes are chained as phases are (`Echo.bind`).

What carries the simulation is a fact for each kind of broken content: commands that cannot be
read do nothing (`Engine.runCommands_filter`), impacts that cannot be made change nothing
(`Engine.applyImpacts_filter`), choices under conditions that cannot be read are never shown
(`Node.shown_mended`), and a choice that leads to no node ends the dialogue as one without a next
node does (`Engine.echo_showNode_filter`).
-/

namespace Storyline

/-! ### Notices without the content that mending touches -/

/-- The tree without its nodes. -/
def Tree.bare (t : Tree) : Tree := { t with nodes := [] }

/-- The node without choices and commands. -/
def Node.bare (n : Node) : Node := { n with choices := [], startCommands := [], endCommands := [] }

/-- The choice without impacts and without the node that it leads to. -/
def Choice.bare (c : Choice) : Choice := { c with nextNode := none, impacts := [] }

/-- The event, showing of content only what mending leaves as it is. -/
def Event.bare : Event → Event
  | .nodeDisplayed tree node => .nodeDisplayed tree.bare node.bare
  | .choicesUpdated node visible => .choicesUpdated node.bare visible
  | .choiceSelected node choice index => .choiceSelected node.bare choice.bare index
  | .impactApplied key delta => .impactApplied key delta
  | .itemGiven id => .itemGiven id
  | .ended => .ended

/-- The notice, showing of content only what mending leaves as it is. -/
def Notice.bare : Notice → Notice
  | .change c => .change c
  | .event e => .event e.bare

/-! ### Echoes -/

/-- The same is announced, up to what mending touches, and the value is what a function makes of
the other one. -/
structure Echo {β γ : Type} (f : β → γ) (x : Told Notice β) (y : Told Notice γ) : Prop where
  value : y.value = f x.value
  notices : y.notices.map Notice.bare = x.notices.map Notice.bare

section Echo

variable {β γ δ ε : Type} {f : β → γ} {g : δ → ε}

theorem Echo.pure {b : β} {c : γ} (h : c = f b) : Echo f (Pure.pure b) (Pure.pure c) := ⟨h, rfl⟩

/-- Two echoes behind one another, where the second is one for the values that are reached. -/
theorem Echo.chain {x : Told Notice β} {y : Told Notice γ} {k : β → Told Notice δ}
    {l : γ → Told Notice ε} (hnotices : y.notices.map Notice.bare = x.notices.map Notice.bare)
    (h : Echo g (k x.value) (l y.value)) : Echo g (x >>= k) (y >>= l) where
  value := h.value
  notices := by
    rw [Told.notices_bind, Told.notices_bind, List.map_append, List.map_append, hnotices, h.notices]

/-- Echoes go one behind the other. -/
theorem Echo.bind {x : Told Notice β} {y : Told Notice γ} {k : β → Told Notice δ}
    {l : γ → Told Notice ε} (h : Echo f x y) (hk : ∀ b, Echo g (k b) (l (f b))) :
    Echo g (x >>= k) (y >>= l) := by
  refine .chain h.notices ?_
  rw [h.value]
  exact hk x.value

/-- A record in the log does not count, on neither side. -/
theorem Echo.log {x : Told Notice β} {y : Told Notice γ} (h : Echo f x y) (l l' : Level)
    (t t' : String) : Echo f (Told.log l t >>= fun _ ↦ x) (Told.log l' t' >>= fun _ ↦ y) :=
  .chain rfl h

/-- A record in the log of the one side is no matter for the other. -/
theorem Echo.log_left {x : Told Notice β} {y : Told Notice γ} (h : Echo f x y) (l : Level)
    (t : String) : Echo f (Told.log l t >>= fun _ ↦ x) y where
  value := h.value
  notices := by
    rw [Told.notices_bind, Told.notices_log, List.nil_append]
    exact h.notices

end Echo

/-! ### Broken content has no effect -/

theorem isOk_eq_false {ε α : Type} {x : Except ε α} (h : x.isOk = false) :
    ∃ err, x = .error err := by
  rcases x with err | a
  · exact ⟨err, rfl⟩
  · cases h

/-- A text that is no command does nothing. -/
theorem World.run_of_not_command (w : World) {raw : String} (h : isCommand raw = false) :
    (w.run raw).value = (none, w) ∧ (w.run raw).notices = [] := by
  obtain ⟨err, herr⟩ := isOk_eq_false h
  rw [run, herr]
  exact ⟨rfl, rfl⟩

/-- A condition that cannot be read is not true. -/
theorem Condition.value_of_not_readable {α : Type} (store : Store) {c : Option String}
    (h : isReadable c = false) : (evaluateOptional store c : Told α Bool).value = false := by
  rcases c with - | expression
  · cases h
  · obtain ⟨err, herr⟩ := isOk_eq_false h
    rw [evaluateOptional, evaluate, herr]
    rfl

namespace Engine

/-- An impact that cannot be made changes nothing and is not announced. -/
theorem impact_of_not_usable (store : Store) {i : Impact} (h : i.isUsable = false) :
    impactStep store i = pure store ∧ impactNotices store i = [] := by
  rw [impactStep, impactNotices]
  by_cases hkey : Text.isBlankText i.key = true
  · rw [if_pos hkey, if_pos hkey]
    exact ⟨rfl, rfl⟩
  · have hcondition : isReadable i.condition = false := by
      simpa [Impact.isUsable, hkey] using h
    rw [if_neg hkey, if_neg hkey, Condition.value_of_not_readable store hcondition]
    exact ⟨rfl, rfl⟩

/-- Running only the commands that can be read has the same effect. -/
theorem runCommands_filter (e : Engine) (commands : List String) :
    (e.runCommands (commands.filter isCommand)).value = (e.runCommands commands).value ∧
      (e.runCommands (commands.filter isCommand)).notices = (e.runCommands commands).notices := by
  induction commands generalizing e with
  | nil => exact ⟨rfl, rfl⟩
  | cons raw rest ih =>
    rw [value_runCommands_cons, notices_runCommands_cons]
    rcases hraw : isCommand raw with - | -
    · obtain ⟨hvalue, hnotices⟩ := e.world.run_of_not_command hraw
      rw [List.filter_cons_of_neg (by simp [hraw]), hvalue, hnotices]
      exact ih e
    · obtain ⟨hvalue, hnotices⟩ := ih { e with world := (e.world.run raw).value.2 }
      rw [List.filter_cons_of_pos hraw, value_runCommands_cons, notices_runCommands_cons, hvalue,
        hnotices]
      exact ⟨rfl, rfl⟩

/-- The node at which impacts are made shows in the log only. -/
theorem applyImpacts_filter (e : Engine) (node node' : Node) (impacts : List Impact) :
    (e.applyImpacts node' (impacts.filter Impact.isUsable)).value =
        (e.applyImpacts node impacts).value ∧
      (e.applyImpacts node' (impacts.filter Impact.isUsable)).notices =
        (e.applyImpacts node impacts).notices := by
  induction impacts generalizing e with
  | nil => exact ⟨rfl, rfl⟩
  | cons i rest ih =>
    rw [value_applyImpacts_cons, notices_applyImpacts_cons]
    rcases husable : i.isUsable with - | -
    · obtain ⟨hstep, hnotices⟩ := impact_of_not_usable e.world.store husable
      rw [List.filter_cons_of_neg (by simp [husable]), hstep, hnotices]
      exact ih e
    · obtain ⟨hvalue, hnotices⟩ := ih (e.inStore (impactStep e.world.store i).value)
      rw [List.filter_cons_of_pos husable, value_applyImpacts_cons, notices_applyImpacts_cons,
        hvalue, hnotices]
      exact ⟨rfl, rfl⟩

end Engine

/-! ### Visible choices -/

/-- Whether a choice is visible in a store. -/
def Choice.isVisible (store : Store) (c : Choice) : Bool :=
  (Condition.evaluateOptional store c.condition : Told Empty Bool).value

/-- The visible choices are those whose conditions hold. -/
theorem choices_visibleFrom (store : Store) (i : Nat) (cs : List Choice) :
    (visibleFrom store i cs : Told Empty (List (Nat × Choice))).value.map (·.2) =
      cs.filter (Choice.isVisible store) := by
  induction cs generalizing i with
  | nil => rfl
  | cons c cs ih =>
    rw [visibleFrom, Told.value_bind, Told.value_bind, Told.value_pure]
    by_cases hvisible : c.isVisible store = true
    · have hcondition : (Condition.evaluateOptional store c.condition : Told Empty Bool).value =
          true := hvisible
      rw [List.filter_cons_of_pos hvisible, hcondition, ← ih (i + 1)]
      rfl
    · have hcondition : (Condition.evaluateOptional store c.condition : Told Empty Bool).value =
          false := eq_false_of_ne_true hvisible
      rw [List.filter_cons_of_neg hvisible, hcondition, ← ih (i + 1)]
      rfl

/-- What is shown of a node are its visible choices in order. -/
theorem Node.choices_shown (n : Node) (store : Store) :
    (n.shown store).map (·.2) = n.choices.filter (Choice.isVisible store) :=
  choices_visibleFrom store 0 n.choices

/-- Of a mended node the same choices are shown, mended; only their authored positions differ. -/
theorem Node.shown_mended (known : String → Bool) (n : Node) (store : Store) :
    ((n.mended known).shown store).map (·.2) =
      ((n.shown store).map (·.2)).map (Choice.mended known) := by
  have hvisible (c : Choice) : (Choice.isVisible store c && isReadable c.condition) =
      Choice.isVisible store c := by
    rcases hreadable : isReadable c.condition with - | -
    · rw [Choice.isVisible, Condition.value_of_not_readable store hreadable, Bool.false_and]
    · rw [Bool.and_true]
  have hmended : Choice.isVisible store ∘ Choice.mended known = Choice.isVisible store := rfl
  rw [choices_shown, choices_shown, mended, List.filter_map, List.filter_filter, hmended]
  simp only [hvisible]

/-- A mended node has as many visible choices. -/
theorem Node.length_shown_mended (known : String → Bool) (n : Node) (store : Store) :
    ((n.mended known).shown store).length = (n.shown store).length := by
  have h := congrArg List.length (n.shown_mended known store)
  rwa [List.length_map, List.length_map, List.length_map] at h

/-- The choice at a place among those shown of a mended node is the mended one. -/
theorem Node.getElem?_shown_mended (known : String → Bool) (n : Node) (store : Store)
    (index : Nat) :
    ((n.mended known).shown store)[index]?.map (·.2) =
      ((n.shown store)[index]?.map (·.2)).map (Choice.mended known) := by
  rw [← List.getElem?_map, ← List.getElem?_map, n.shown_mended, List.getElem?_map]

/-- A mended node closes itself exactly if the node does. -/
theorem Node.closes_mended (known : String → Bool) (n : Node) (store : Store) :
    (n.mended known).closes store ↔ n.closes store := by
  rw [closes, closes, ← List.length_eq_zero_iff, n.length_shown_mended, List.length_eq_zero_iff]
  exact Iff.rfl

/-! ### Phases -/

/-- The node on screen, in the mended tree. -/
def ActiveNode.mended (a : ActiveNode) : ActiveNode := { a with tree := a.tree.mended }

/-- The node on screen is found in the mended tree if it is in the tree. -/
theorem ActiveNode.node?_mended (a : ActiveNode) :
    a.mended.tree.node? a.mended.nodeId =
      (a.tree.node? a.nodeId).map (Node.mended a.tree.knows) :=
  a.tree.node?_mended a.nodeId

namespace Engine

/-- The engine with the mended tree in the place of the one that is played. -/
def mended (e : Engine) : Engine := { e with active := e.active.map ActiveNode.mended }

variable (e : Engine) (t : IndexedTree)

theorem world_mended : e.mended.world = e.world := rfl

/-- The mended engine has the mended node on screen. -/
theorem active_mended : e.mended.active = e.active.map ActiveNode.mended := rfl

theorem pendingEnd_mended : e.mended.pendingEnd = e.pendingEnd := rfl

/-- It is idle exactly if the engine is. -/
theorem isActive_mended : e.mended.isActive = e.isActive := Option.isSome_map

/-- The commands that can be read echo all commands. -/
theorem echo_runCommands (commands : List String) :
    Echo mended (e.runCommands commands) (e.mended.runCommands (commands.filter isCommand)) := by
  obtain ⟨hvalue, hnotices⟩ := runCommands_congr (e := e.mended) (d := e) rfl
    (commands.filter isCommand)
  obtain ⟨hfilter, hfilterNotices⟩ := e.runCommands_filter commands
  refine ⟨?_, by rw [hnotices, hfilterNotices]⟩
  rw [hvalue, hfilter, runCommands_eq e]
  rfl

/-- The impacts that can be used echo all impacts. -/
theorem echo_applyImpacts (node node' : Node) (impacts : List Impact) :
    Echo mended (e.applyImpacts node impacts)
      (e.mended.applyImpacts node' (impacts.filter Impact.isUsable)) := by
  obtain ⟨hvalue, hnotices⟩ := applyImpacts_congr (e := e.mended) (d := e) rfl node'
    (impacts.filter Impact.isUsable)
  obtain ⟨hfilter, hfilterNotices⟩ := e.applyImpacts_filter node node' impacts
  refine ⟨?_, by rw [hnotices, hfilterNotices]⟩
  rw [hvalue, hfilter, applyImpacts_eq e]
  rfl

/-- The same closing is given up in both engines. -/
theorem echo_cancelPendingEnd : Echo mended e.cancelPendingEnd e.mended.cancelPendingEnd := by
  refine ⟨?_, by rw [notices_cancelPendingEnd, notices_cancelPendingEnd]⟩
  rw [cancelPendingEnd, cancelPendingEnd, e.pendingEnd_mended]
  rcases e.pendingEnd with - | handle <;> rfl

/-- The same dialogue ends. -/
theorem echo_endDialogue : Echo mended e.endDialogue e.mended.endDialogue := by
  refine e.echo_cancelPendingEnd.bind fun d ↦ ?_
  rw [d.active_mended]
  rcases hactive : d.active with - | a
  · exact .pure rfl
  · refine Echo.log ?_ _ _ _ _
    exact .chain rfl (.pure rfl)

/-- The mended node is announced in the place of the node, with as many visible choices. -/
theorem echo_announceNode (node : Node) :
    Echo mended (e.announceNode t node)
      (e.mended.announceNode t.mended (node.mended t.knows)) := by
  constructor
  · rw [value_announceNode, value_announceNode, e.world_mended]
    simp only [node.closes_mended]
    split <;> rfl
  · rw [notices_announceNode, notices_announceNode, e.world_mended,
      node.length_shown_mended]
    rfl

/-- It is entered in the place of the node. -/
theorem echo_enter (node : Node) :
    Echo mended (e.enter t node) (e.mended.enter t.mended (node.mended t.knows)) := by
  refine Echo.log ?_ _ _ _ _
  exact (echo_runCommands { e with active := some ⟨t, node.id⟩ } node.startCommands).bind
    fun d ↦ d.echo_announceNode t node

/-- Going on leads to the mended node, or to the end where there is none. -/
theorem echo_showNode (name : Option String) :
    Echo mended (e.showNode t name) (e.mended.showNode t.mended name) := by
  refine e.echo_cancelPendingEnd.bind fun d ↦ ?_
  rcases name with - | name
  · exact d.echo_endDialogue
  · dsimp only
    rw [t.node?_mended]
    rcases t.node? name with - | node
    · exact d.echo_endDialogue.log _ _ _ _
    · exact d.echo_enter t node

/-- A name that is missing from the tree ends the dialogue as no name does. -/
theorem echo_showNode_filter (name : Option String) :
    Echo mended (e.showNode t name) (e.mended.showNode t.mended (name.filter t.knows)) := by
  rcases hname : name.any t.knows with - | -
  · rcases name with - | name
    · exact e.echo_showNode t none
    · have hunknown : t.knows name = false := hname
      have hnode : t.node? name = none := by
        simpa [IndexedTree.knows] using hunknown
      rw [Option.filter_some_neg (by simp [hunknown])]
      refine e.echo_cancelPendingEnd.bind fun d ↦ ?_
      dsimp only
      rw [hnode]
      exact d.echo_endDialogue.log_left _ _
  · obtain ⟨name, rfl, hknown⟩ := (Option.any_eq_true _ _).mp hname
    rw [Option.filter_some_pos hknown]
    exact e.echo_showNode t (some name)

/-- Taking the mended choice echoes taking the choice. -/
theorem echo_take (node : Node) (choice : Choice) (index : Nat) :
    Echo mended (e.take t node choice index)
      (e.mended.take t.mended (node.mended t.knows) (choice.mended t.knows) index) := by
  refine Echo.log ?_ _ _ _ _
  refine .chain rfl ?_
  refine (e.echo_applyImpacts node (node.mended t.knows) choice.impacts).bind fun d ↦ ?_
  refine (d.echo_runCommands node.endCommands).bind fun d ↦ ?_
  exact d.echo_showNode_filter t choice.nextNode

theorem echo_leave (node : Node) :
    Echo mended (e.leave t node) (e.mended.leave t.mended (node.mended t.knows)) := by
  have hauto : (node.mended t.knows).autoNext = node.autoNext := rfl
  rw [leave, leave, hauto]
  rcases node.autoNext with - | next
  · exact e.echo_endDialogue.log _ _ _ _
  · exact (e.echo_runCommands node.endCommands).bind fun d ↦ d.echo_showNode t (some next)

/-! ### Calls -/

/-- The same answer, with the engine mended. -/
def mendedAnswer {β : Type} (p : β × Engine) : β × Engine := (p.1, p.2.mended)

/-- A refusal is echoed by the same refusal. -/
theorem echo_refuse (err : DialogueError) :
    Echo mendedAnswer (e.refuse err) (e.mended.refuse err) :=
  Echo.log (.pure rfl) _ _ _ _

/-- A call that is carried out is echoed if its phase is. -/
theorem echo_carryOut {x y : Told Notice Engine} (h : Echo mended x y) :
    Echo mendedAnswer (carryOut x) (carryOut y) :=
  h.bind fun _ ↦ .pure rfl

/-- Starting at a node is answered alike, for the mended tree has a node exactly where the tree
has. -/
theorem echo_startAt (name : String) :
    Echo mendedAnswer (e.startAt t name) (e.mended.startAt t.mended name) := by
  rw [startAt, startAt, t.node?_mended]
  rcases t.node? name with - | node
  · exact e.echo_refuse _
  · refine echo_carryOut ?_
    have hshow := e.echo_showNode t (some node.id)
    rw [e.active_mended]
    rcases e.active with - | a
    · exact hshow.log _ _ _ _
    · exact (hshow.log _ _ _ _).log _ _ _ _

theorem echo_start : Echo mendedAnswer (e.start t) (e.mended.start t.mended) := by
  have hstart : t.mended.tree.startNode = t.tree.startNode := rfl
  rw [start, start, hstart]
  rcases t.tree.startNode with - | name
  · exact e.echo_refuse _
  · exact e.echo_startAt t name

theorem echo_resumeAt (name : String) :
    Echo mendedAnswer (e.resumeAt t name) (e.mended.resumeAt t.mended name) := by
  rw [resumeAt, resumeAt, t.node?_mended]
  rcases t.node? name with - | node
  · exact e.echo_refuse _
  · refine echo_carryOut ?_
    refine e.echo_cancelPendingEnd.bind fun d ↦ ?_
    exact (echo_announceNode { d with active := some ⟨t, node.id⟩ } t node).log _ _ _ _

/-- The tree and the node on screen are those of before, mended. -/
theorem activeNode_mended :
    e.mended.activeNode =
      e.activeNode.map fun p ↦ (p.1.mended, p.2.mended p.1.knows) := by
  rw [activeNode, activeNode, e.active_mended]
  rcases e.active with - | a
  · rfl
  · simp only [Option.map_some, a.node?_mended]
    rcases a.tree.node? a.nodeId with - | node <;> rfl

/-- Taking a choice is answered alike, for as many choices are visible. -/
theorem echo_select (index : Nat) :
    Echo mendedAnswer (e.select index) (e.mended.select index) := by
  rw [select, select, e.activeNode_mended, e.world_mended]
  rcases e.activeNode with err | ⟨t, node⟩
  · exact e.echo_refuse err
  · refine .chain (by rw [Node.notices_visible, Node.notices_visible]) ?_
    rw [Node.value_visible, Node.value_visible, node.length_shown_mended]
    -- the choices shown are the same at each place, but for what mending touches
    have hchoice := node.getElem?_shown_mended t.knows e.world.store index
    rcases hshown : (node.shown e.world.store)[index]? with - | ⟨i, choice⟩
    · rw [hshown, Option.map_none, Option.map_none, Option.map_eq_none_iff] at hchoice
      rw [hchoice]
      exact e.echo_refuse _
    · rw [hshown, Option.map_some, Option.map_some, Option.map_eq_some_iff] at hchoice
      obtain ⟨⟨i', choice'⟩, hshown', rfl⟩ := hchoice
      rw [hshown']
      exact echo_carryOut (e.echo_take t node choice index)

theorem echo_advance : Echo mendedAnswer e.advance e.mended.advance := by
  rw [advance, advance, e.activeNode_mended, e.world_mended]
  rcases e.activeNode with err | ⟨t, node⟩
  · exact e.echo_refuse err
  · refine .chain (by rw [Node.notices_visible, Node.notices_visible]) ?_
    rw [Node.value_visible, Node.value_visible, node.length_shown_mended]
    dsimp only
    split
    · exact e.echo_refuse _
    · exact echo_carryOut (e.echo_leave t node)

theorem echo_forceEnd : Echo mendedAnswer e.forceEnd e.mended.forceEnd := by
  rw [forceEnd, forceEnd, e.isActive_mended]
  split
  · refine Echo.log ?_ _ _ _ _
    exact e.echo_endDialogue.bind fun _ ↦ .pure rfl
  · exact Echo.log (.pure rfl) _ _ _ _

/-! ### Time -/

/-- The same end node closes. -/
theorem echo_close (due : Nat × Deferred String) :
    Echo mended (e.close due) (e.mended.close due) := by
  rw [close, close, e.pendingEnd_mended]
  split
  · exact (echo_endDialogue { e with pendingEnd := none }).log _ _ _ _
  · exact .pure rfl

theorem echo_closeAll (due : List (Nat × Deferred String)) :
    Echo mended (due.foldlM close e) (due.foldlM close e.mended) := by
  induction due generalizing e with
  | nil => exact .pure rfl
  | cons first rest ih =>
    rw [List.foldlM_cons, List.foldlM_cons]
    exact (e.echo_close first).bind ih

theorem echo_update (elapsed : Duration) :
    Echo mended (e.update elapsed) (e.mended.update elapsed) :=
  echo_closeAll { e with schedule := (e.schedule.advance elapsed).drain.2 }
    (e.schedule.advance elapsed).drain.1

/-! ### The world -/

theorem echo_withStore (change : Store → Told Change Store) :
    Echo mended (e.withStore change) (e.mended.withStore change) :=
  .chain rfl (.pure rfl)

end Engine

/-! ### Snapshots -/

namespace Snapshot

variable (s : Snapshot)

/-- A snapshot is taken up in a mended tree where it is in the tree. -/
theorem position_mended (tree : Option IndexedTree) :
    s.position (tree.map IndexedTree.mended) =
      (s.position tree).map (Option.map fun p ↦ (p.1.mended, p.2)) := by
  rw [position, position]
  rcases s.treeId with - | saved
  · rfl
  · rcases s.nodeId with - | node
    · rfl
    · rcases tree with - | t
      · rfl
      · dsimp only [Option.map_some]
        rw [t.id_mended]
        split <;> rfl

/-- The same values and items are put back. -/
theorem echo_restoreWorld (e : Engine) :
    Echo Engine.mended (s.restoreWorld e) (s.restoreWorld e.mended) := by
  refine e.echo_forceEnd.bind fun p ↦ ?_
  exact (p.2.echo_withStore _).bind fun _ ↦ .pure rfl

/-- A snapshot is put back with the same answer. -/
theorem echo_apply (e : Engine) (tree : Option IndexedTree) :
    Echo Engine.mendedAnswer (s.apply e tree)
      (s.apply e.mended (tree.map IndexedTree.mended)) := by
  rw [apply, apply, s.position_mended]
  rcases s.position tree with err | - | ⟨t, name⟩
  · exact .pure rfl
  · exact (s.echo_restoreWorld e).bind fun _ ↦ .pure rfl
  · refine (s.echo_restoreWorld e).bind fun d ↦ ?_
    exact (d.echo_resumeAt t name).bind fun _ ↦ .pure rfl

end Snapshot

end Storyline
