import Storyline.Play.Rehearsal
import Storyline.Play.Screen

/-!
# Interactions that ask for nothing

An interaction that asks the player for no line leaves the lines that are still to be typed alone,
whatever it prints, and whatever it reads from files and writes to them. `Interaction.Quietly` says
that of an interaction, and that all its results have some property. It is put together along the
interaction (`Interaction.Quietly.bind`), and read off when the interaction is followed
(`Rehearsal.follow_of_quietly`).
-/

namespace Storyline

namespace Interaction

variable {α β : Type} {P : α → Prop} {Q : β → Prop}

/-- No line is asked for, and every result has the property, whatever answers files give. -/
inductive Quietly (P : α → Prop) : Interaction α → Prop where
  | done {a : α} (h : P a) : Quietly P (done a)
  | print {text : String} {next : Interaction α} (h : Quietly P next) : Quietly P (print text next)
  | askWidth {next : Nat → Interaction α} (h : ∀ width, Quietly P (next width)) :
    Quietly P (askWidth next)
  | read {path : String} {next : Except FileError String → Interaction α}
      (h : ∀ answer, Quietly P (next answer)) : Quietly P (read path next)
  | hasDirectory {path : String} {next : Bool → Interaction α}
      (h : ∀ answer, Quietly P (next answer)) : Quietly P (hasDirectory path next)
  | makeDirectory {path : String} {next : Except FileError Unit → Interaction α}
      (h : ∀ answer, Quietly P (next answer)) : Quietly P (makeDirectory path next)
  | write {path text : String} {next : Except FileError Unit → Interaction α}
      (h : ∀ answer, Quietly P (next answer)) : Quietly P (write path text next)
  | wait {time : Duration} {next : Interaction α} (h : Quietly P next) : Quietly P (wait time next)

theorem quietly_pure {a : α} (h : P a) : (pure a : Interaction α).Quietly P := .done h

/-- Steps that ask for nothing, one after the other, ask for nothing. -/
theorem Quietly.bind {x : Interaction α} {f : α → Interaction β} (h : x.Quietly P)
    (hf : ∀ a, P a → (f a).Quietly Q) : (x >>= f).Quietly Q := by
  change (x.andThen f).Quietly Q
  induction h with
  | done h => exact hf _ h
  | print _ ih => exact .print ih
  | askWidth _ ih => exact .askWidth ih
  | read _ ih => exact .read ih
  | hasDirectory _ ih => exact .hasDirectory ih
  | makeDirectory _ ih => exact .makeDirectory ih
  | write _ ih => exact .write ih
  | wait _ ih => exact .wait ih

/-- Nothing is asked to print a line. -/
theorem quietly_sayLine (text : String) : (sayLine text).Quietly fun _ ↦ True :=
  .print (.done trivial)

/-- A line is printed, and then a result is given. -/
theorem quietly_sayLine_bind {x : Unit → Interaction α} (text : String) (h : (x ()).Quietly P) :
    (sayLine text >>= x).Quietly P := .print h

end Interaction

namespace Play

open Interaction

variable {lib : Libraries}

/-- No step of the dialogue asks for a line when it is printed. -/
theorem quietly_sayEvent (e : Event) : (sayEvent lib e).Quietly fun _ ↦ True := by
  cases e with
  | nodeDisplayed tree node =>
    refine quietly_sayLine_bind _ ?_
    have hparagraph : (sayParagraph lib node.text).Quietly fun _ ↦ True :=
      .askWidth fun _ ↦ quietly_sayLine _
    rcases node.speaker with - | speaker
    · exact hparagraph
    · exact quietly_sayLine_bind _ hparagraph
  | impactApplied key delta => exact quietly_sayLine _
  | itemGiven id => exact quietly_sayLine _
  | ended => exact quietly_sayLine _
  | choicesUpdated node visible => exact quietly_pure trivial
  | choiceSelected node choice index => exact quietly_pure trivial

theorem quietly_sayNotices (notices : List Notice) :
    (sayNotices lib notices).Quietly fun _ ↦ True := by
  induction notices with
  | nil => exact quietly_pure trivial
  | cons notice rest ih =>
    cases notice with
    | event e => exact (quietly_sayEvent e).bind fun _ _ ↦ ih
    | change c => exact ih

/-- Showing what an operation announces gives the value of the operation. -/
theorem quietly_shown {β : Type} {P : β → Prop} {x : Told Notice β} (h : P x.value) :
    (shown lib x).Quietly P :=
  (quietly_sayNotices x.notices).bind fun _ _ ↦ quietly_pure h

namespace Rehearsal

variable {α β : Type}

@[simp] theorem lines_print (text : String) (r : Rehearsal) : (r.print text).lines = r.lines := rfl

@[simp] theorem lines_change (r : Rehearsal) (folder : Except FileError Folder) :
    (r.change folder).2.lines = r.lines := by
  rcases folder with err | folder <;> rfl

/-- A line that is asked for is the first one that is still to be typed. -/
theorem follow_ask (prompt : String) (next : Option String → Interaction α) (r : Rehearsal) :
    follow (.ask prompt next) r =
      follow (next r.lines.head?) { r.print prompt with lines := r.lines.tail } := rfl

/-- Followed in whatever surroundings, such an interaction gives a result with the property, and the
same lines are still to be typed. -/
theorem follow_of_quietly {P : α → Prop} {x : Interaction α} (h : x.Quietly P) (r : Rehearsal) :
    P (follow x r).1 ∧ (follow x r).2.lines = r.lines := by
  induction h generalizing r with
  | done h => exact ⟨h, rfl⟩
  | print _ ih => exact ih _
  | askWidth _ ih => exact ih _ _
  | read _ ih => exact ih _ _
  | hasDirectory _ ih => exact ih _ _
  | makeDirectory _ ih =>
    obtain ⟨hresult, hlines⟩ := ih _ (r.change (r.folder.makeDirectory _)).2
    exact ⟨hresult, hlines.trans (lines_change _ _)⟩
  | write _ ih =>
    obtain ⟨hresult, hlines⟩ := ih _ (r.change (r.folder.write _ _)).2
    exact ⟨hresult, hlines.trans (lines_change _ _)⟩
  | wait _ ih => exact ih _

/-- Followed in whatever surroundings, showing what an operation announces gives its value. -/
@[simp] theorem value_follow_shown (x : Told Notice β) (r : Rehearsal) :
    (follow (shown lib x) r).1 = x.value :=
  (follow_of_quietly (quietly_shown (P := (· = x.value)) rfl) r).1

/-- Showing what an operation announces leaves the lines that are still to be typed. -/
@[simp] theorem lines_follow_shown (x : Told Notice β) (r : Rehearsal) :
    (follow (shown lib x) r).2.lines = r.lines :=
  (follow_of_quietly (quietly_shown (P := fun _ ↦ True) trivial) r).2

@[simp] theorem follow_map (f : α → β) (x : Interaction α) (r : Rehearsal) :
    follow (f <$> x) r = (f (follow x r).1, (follow x r).2) := by
  rw [← bind_pure_comp, follow_bind]
  rfl

end Rehearsal

end Play

end Storyline
