import Mathlib.Data.List.Nodup
import Storyline.Audience

/-!
# Listeners that are present

Listeners of the store and of the dialogue come and go in any order, and between that they hear
notices. Who should hear one can be told from the calls before and their answers alone: whoever was
subscribed under some identifier and has not been unsubscribed under it since (`Audience.present`).
Unsubscribing looks forward from a subscription only, so an identifier that was named before it was
given does no harm.

Along every run the registries hold just these listeners, and the next identifier is above all that
were given (`Audience.Follows`). So the identifiers differ, and what is answered to a call can be
read off the history (`Audience.heard_by_present`).
-/

namespace Storyline

namespace Audience

variable {τ : Type}

/-! ### Calls -/

/-- What a listener listens to. -/
inductive Channel where
  /-- The changes of the store. -/
  | store
  /-- The events of the dialogue. -/
  | dialogue
  deriving DecidableEq

/-- The listeners of a channel. -/
def registry (a : Audience τ) : Channel → Registry τ
  | .store => a.store
  | .dialogue => a.dialogue

/-- The audience with other listeners of a channel. -/
def withRegistry (a : Audience τ) (r : Registry τ) : Channel → Audience τ
  | .store => { a with store := r }
  | .dialogue => { a with dialogue := r }

/-- Something that is asked of an audience. -/
inductive Call (τ : Type) where
  /-- Adds a listener. -/
  | subscribe (channel : Channel) (listener : τ)
  /-- Removes a listener. -/
  | unsubscribe (channel : Channel) (id : Nat)
  /-- Announces something. -/
  | announce (n : Notice)

/-- The answer to a call. -/
inductive Answer (τ : Type) where
  /-- The identifier of a new listener. -/
  | id (n : Nat)
  /-- Whether there was such a listener. -/
  | found (was : Bool)
  /-- What was heard, and by whom. -/
  | heard (hs : List (Heard τ))

/-- Answers a call. -/
def answer (a : Audience τ) : Call τ → Answer τ × Audience τ
  | .subscribe channel listener =>
    let (id, r) := (a.registry channel).subscribe listener
    (.id id, a.withRegistry r channel)
  | .unsubscribe channel id =>
    let (was, r) := (a.registry channel).unsubscribe id
    (.found was, a.withRegistry r channel)
  | .announce n => (.heard (a.hear [.notice n]), a)

/-- A call with its answer. -/
abbrev Exchange (τ : Type) := Call τ × Answer τ

/-- Calls with their answers, made one after the other. -/
def exchanges (a : Audience τ) : List (Call τ) → List (Exchange τ)
  | [] => []
  | c :: cs => (c, (a.answer c).1) :: (a.answer c).2.exchanges cs

/-- What calls leave. -/
def after (a : Audience τ) (cs : List (Call τ)) : Audience τ :=
  cs.foldl (fun a c ↦ (a.answer c).2) a

/-! ### Histories -/

/-- The listener that was subscribed to a channel, with the identifier that it was given. -/
def Exchange.subscribed? (channel : Channel) : Exchange τ → Option (Nat × τ)
  | (.subscribe other listener, .id id) => if other = channel then some (id, listener) else none
  | _ => none

/-- Whether a channel was asked to remove the listener with an identifier. -/
def Exchange.unsubscribes (channel : Channel) (id : Nat) : Exchange τ → Bool
  | (.unsubscribe other named, _) => other = channel && id == named
  | _ => false

/-- All listeners that were subscribed to a channel, in this order. -/
def subscribed (channel : Channel) (history : List (Exchange τ)) : List (Nat × τ) :=
  history.filterMap (Exchange.subscribed? channel)

/-- Those of them that were not unsubscribed afterwards. -/
def present (channel : Channel) : List (Exchange τ) → List (Nat × τ)
  | [] => []
  | e :: es =>
    match e.subscribed? channel with
    | some l =>
      if es.any (·.unsubscribes channel l.1) then present channel es else l :: present channel es
    | none => present channel es

variable {channel : Channel} {history : List (Exchange τ)}

/-- Whoever is present has subscribed, in this order. -/
theorem present_sublist (channel : Channel) (history : List (Exchange τ)) :
    (present channel history).Sublist (subscribed channel history) := by
  induction history with
  | nil => exact .slnil
  | cons e es ih =>
    rw [present, subscribed, List.filterMap_cons]
    split
    · rename_i l hl
      rw [hl]
      split
      · exact ih.cons l
      · exact ih.cons_cons l
    · rename_i hnone
      rw [hnone]
      exact ih

/-- One more call adds at most one listener to those who have subscribed. -/
theorem subscribed_append_singleton (channel : Channel) (history : List (Exchange τ))
    (e : Exchange τ) :
    subscribed channel (history ++ [e]) =
      subscribed channel history ++ (e.subscribed? channel).toList := by
  rw [subscribed, List.filterMap_append, List.filterMap_cons]
  rcases e.subscribed? channel with - | l <;> rfl

/-- With one more exchange, whoever is unsubscribed by it leaves, and whoever is subscribed by it
stands last. -/
theorem present_append_singleton (channel : Channel) (history : List (Exchange τ))
    (e : Exchange τ) :
    present channel (history ++ [e]) =
      (present channel history).filter (fun l ↦ !e.unsubscribes channel l.1) ++
        (e.subscribed? channel).toList := by
  induction history with
  | nil =>
    simp only [List.nil_append, present, List.filter_nil]
    rcases e.subscribed? channel with - | l
    · rfl
    · rfl
  | cons first es ih =>
    rw [List.cons_append, present, present, ih]
    rcases first.subscribed? channel with - | l
    · rfl
    · simp only [List.any_append, List.any_cons, List.any_nil, Bool.or_false, Bool.or_eq_true]
      by_cases hlater : es.any (·.unsubscribes channel l.1) = true
      · simp [hlater]
      · by_cases hnow : e.unsubscribes channel l.1 = true
        · simp [hlater, hnow]
        · simp [hlater, hnow]

/-! ### One call -/

variable (a : Audience τ) (c : Call τ)

/-- The other channel keeps its registry. -/
theorem registry_withRegistry (r : Registry τ) (other channel : Channel) :
    (a.withRegistry r other).registry channel =
      if other = channel then r else a.registry channel := by
  cases other <;> cases channel <;> rfl

/-- A call together with its answer. -/
def exchange : Exchange τ := (c, (a.answer c).1)

section

variable (other : Channel) (listener : τ) (id : Nat) (n : Notice)

@[simp] theorem subscribed?_exchange_subscribe :
    (a.exchange (.subscribe other listener)).subscribed? channel =
      if other = channel then some ((a.registry other).next, listener) else none := rfl

@[simp] theorem subscribed?_exchange_unsubscribe :
    (a.exchange (.unsubscribe other id)).subscribed? channel = none := rfl

@[simp] theorem subscribed?_exchange_announce :
    (a.exchange (.announce n)).subscribed? channel = none := rfl

@[simp] theorem unsubscribes_exchange_subscribe (k : Nat) :
    (a.exchange (.subscribe other listener)).unsubscribes channel k = false := rfl

@[simp] theorem unsubscribes_exchange_unsubscribe (k : Nat) :
    (a.exchange (.unsubscribe other id)).unsubscribes channel k =
      (decide (other = channel) && k == id) := rfl

@[simp] theorem unsubscribes_exchange_announce (k : Nat) :
    (a.exchange (.announce n)).unsubscribes channel k = false := rfl

end

/-- Whoever a call unsubscribes leaves, and whoever it subscribes stands last. -/
theorem listeners_answer (channel : Channel) :
    ((a.answer c).2.registry channel).listeners =
      (a.registry channel).listeners.filter
          (fun l ↦ !(a.exchange c).unsubscribes channel l.1) ++
        ((a.exchange c).subscribed? channel).toList := by
  cases c with
  | subscribe other listener =>
    rw [answer, registry_withRegistry]
    by_cases hchannel : other = channel
    · simp [hchannel, Registry.subscribe]
    · simp [hchannel]
  | unsubscribe other id =>
    rw [answer, registry_withRegistry]
    by_cases hchannel : other = channel
    · simp [hchannel, Registry.unsubscribe, bne]
    · simp [hchannel]
  | announce n => simp [answer]

/-- The identifier that a call gives is the next one, and then the one behind it is next. -/
theorem next_answer (channel : Channel) :
    (∀ l, (a.exchange c).subscribed? channel = some l → l.1 = (a.registry channel).next) ∧
      ((a.answer c).2.registry channel).next =
        (a.registry channel).next + ((a.exchange c).subscribed? channel).toList.length := by
  cases c with
  | subscribe other listener =>
    rw [answer, registry_withRegistry]
    by_cases hchannel : other = channel
    · simp [hchannel, Registry.subscribe]
    · simp [hchannel]
  | unsubscribe other id =>
    rw [answer, registry_withRegistry]
    by_cases hchannel : other = channel
    · simp [hchannel, Registry.unsubscribe]
    · simp [hchannel]
  | announce n => simp [answer]

/-! ### Runs -/

/-- An audience holds the listeners that are present after a history. -/
structure Follows (a : Audience τ) (history : List (Exchange τ)) : Prop where
  /-- They stand in the order of their subscription. -/
  listeners : ∀ channel, (a.registry channel).listeners = present channel history
  /-- The next identifier is above all that were given. -/
  lt_next : ∀ channel, ∀ l ∈ subscribed channel history, l.1 < (a.registry channel).next
  /-- No identifier was given twice. -/
  distinct : ∀ channel, ((subscribed channel history).map (·.1)).Nodup

/-- Before the first call, nobody has subscribed and nobody is there. -/
theorem follows_nil : ({} : Audience τ).Follows [] where
  listeners channel := by cases channel <;> rfl
  lt_next channel l hl := by cases hl
  distinct channel := .nil

variable {a}

/-- The identifier that is given next has not been given before. -/
theorem Follows.next_notMem (h : a.Follows history) (channel : Channel) :
    (a.registry channel).next ∉ (subscribed channel history).map (·.1) := by
  intro hmem
  obtain ⟨l, hl, hnext⟩ := List.mem_map.mp hmem
  exact Nat.ne_of_lt (h.lt_next channel l hl) hnext

/-- One call keeps the registries in step with the history. -/
theorem Follows.answer (h : a.Follows history) (c : Call τ) :
    (a.answer c).2.Follows (history ++ [a.exchange c]) where
  listeners channel := by
    rw [present_append_singleton, listeners_answer, h.listeners]
  lt_next channel l hl := by
    obtain ⟨hgiven, hnext⟩ := a.next_answer c channel
    rw [subscribed_append_singleton, List.mem_append] at hl
    rw [hnext]
    rcases hl with hl | hl
    · exact Nat.lt_add_right _ (h.lt_next channel l hl)
    · rw [hgiven l (Option.mem_toList.mp hl)]
      exact Nat.lt_add_of_pos_right (List.length_pos_of_mem hl)
  distinct channel := by
    rw [subscribed_append_singleton, List.map_append, List.nodup_append]
    refine ⟨h.distinct channel, ?_, fun id hid id' hid' ↦ ?_⟩
    · rcases (a.exchange c).subscribed? channel with - | l
      · exact .nil
      · exact List.nodup_singleton _
    · -- what the call gives is the next identifier, which none of the others has
      obtain ⟨l, hl, rfl⟩ := List.mem_map.mp hid'
      rw [(a.next_answer c channel).1 l (Option.mem_toList.mp hl)]
      exact fun heq ↦ h.next_notMem channel (heq ▸ hid)

theorem Follows.after (h : a.Follows history) (calls : List (Call τ)) :
    (a.after calls).Follows (history ++ a.exchanges calls) := by
  induction calls generalizing a history with
  | nil =>
    rw [exchanges, List.append_nil]
    exact h
  | cons c cs ih =>
    rw [exchanges, List.append_cons]
    exact ih (h.answer c)

/-- After any calls, a listener that is subscribed is given an identifier that no other has had on
its channel. Whether a listener is found when it is unsubscribed is whether it is present: whether
it was subscribed under the identifier, and not unsubscribed since. And what is announced is heard
by all that are present on the channel, by each once, in the order of their subscription. -/
theorem heard_by_present (calls : List (Call τ)) :
    let history := exchanges {} calls
    let a := after {} calls
    (∀ channel listener, ∃ id, (a.answer (.subscribe channel listener)).1 = .id id ∧
        id ∉ (subscribed channel history).map (·.1)) ∧
      (∀ channel, (present channel history).Sublist (subscribed channel history) ∧
        ((subscribed channel history).map (·.1)).Nodup) ∧
      (∀ channel id, (a.answer (.unsubscribe channel id)).1 =
        .found (decide (id ∈ (present channel history).map (·.1)))) ∧
      (∀ c, (a.answer (.announce (.change c))).1 =
        .heard ((present .store history).map fun l ↦ .change l.2 c)) ∧
      ∀ e, (a.answer (.announce (.event e))).1 =
        .heard ((present .dialogue history).map fun l ↦ .event l.2 e) := by
  intro history a
  have h : a.Follows history := follows_nil.after calls
  refine ⟨fun channel listener ↦ ⟨_, rfl, h.next_notMem channel⟩,
    fun channel ↦ ⟨present_sublist channel history, h.distinct channel⟩, fun channel id ↦ ?_,
    fun c ↦ ?_, fun e ↦ ?_⟩
  · rw [← h.listeners, answer]
    refine congrArg Answer.found ?_
    rw [Registry.unsubscribe, Bool.eq_iff_iff, List.any_eq_true, decide_eq_true_eq, List.mem_map]
    simp only [beq_iff_eq]
  · rw [← h.listeners]
    simp [answer, hear, hearOne, registry, Registry.deliveries]
  · rw [← h.listeners]
    simp [answer, hear, hearOne, registry, Registry.deliveries]

end Audience

end Storyline
