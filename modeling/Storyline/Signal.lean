/-!
# What an operation makes known

Operations of the engine have no effects. What they would log or announce to listeners is part of
their result: a `Told α β` is a value together with the signals given on the way to it, in order.
A signal is a log record or a notice, and `α` is the type of the notices; an operation that only
logs is polymorphic in it.

Values of type `Told` are chained as a monad: the signals of the second come after those of the
first.
-/

namespace Storyline

/-- How much a log record matters. -/
inductive Level where
  | warn
  | info
  | debug
  deriving DecidableEq, Repr

/-- A log record. -/
structure Record where
  /-- How much it matters. -/
  level : Level
  /-- What it says. -/
  text : String
  deriving DecidableEq, Repr

/-- One thing made known: a log record, or a notice for listeners. -/
inductive Signal (α : Type) where
  | log (record : Record)
  | notice (a : α)
  deriving DecidableEq

/-- The same signal with its notice changed. -/
def Signal.map {α γ : Type} (f : α → γ) : Signal α → Signal γ
  | .log r => .log r
  | .notice a => .notice (f a)

/-- The notice that a signal carries; a log record carries none. -/
def Signal.notice? {α : Type} : Signal α → Option α
  | .log _ => none
  | .notice a => some a

/-- A value, with what was made known on the way to it. -/
structure Told (α β : Type) where
  /-- The value. -/
  value : β
  /-- The signals, the first given first. -/
  signals : List (Signal α)

namespace Told

variable {α β γ : Type}

instance : Monad (Told α) where
  pure b := ⟨b, []⟩
  bind x f := ⟨(f x.value).value, x.signals ++ (f x.value).signals⟩

/-- Logs a text. -/
def log (level : Level) (text : String) : Told α Unit := ⟨(), [.log ⟨level, text⟩]⟩

/-- Announces something to the listeners. -/
def notify (a : α) : Told α Unit := ⟨(), [.notice a]⟩

/-- The same, with the notices changed. -/
def mapNotices (f : α → γ) (x : Told α β) : Told γ β := ⟨x.value, x.signals.map (.map f)⟩

/-- The notices, without the log. -/
def notices (x : Told α β) : List α := x.signals.filterMap Signal.notice?

@[simp] theorem value_pure (b : β) : (pure b : Told α β).value = b := rfl

@[simp] theorem signals_pure (b : β) : (pure b : Told α β).signals = [] := rfl

@[simp] theorem value_bind (x : Told α β) (f : β → Told α γ) :
    (x >>= f).value = (f x.value).value := rfl

@[simp] theorem signals_bind (x : Told α β) (f : β → Told α γ) :
    (x >>= f).signals = x.signals ++ (f x.value).signals := rfl

@[simp] theorem value_mapNotices (f : α → γ) (x : Told α β) :
    (x.mapNotices f).value = x.value := rfl

@[simp] theorem notices_pure (b : β) : (pure b : Told α β).notices = [] := rfl

@[simp] theorem notices_bind (x : Told α β) (f : β → Told α γ) :
    (x >>= f).notices = x.notices ++ (f x.value).notices := by
  simp [notices]

@[simp] theorem notices_log (level : Level) (text : String) :
    (log level text : Told α Unit).notices = [] := rfl

@[simp] theorem notices_notify (a : α) : (notify a).notices = [a] := rfl

@[simp] theorem notices_mapNotices (f : α → γ) (x : Told α β) :
    (x.mapNotices f).notices = x.notices.map f := by
  have h (s : Signal α) : (s.map f).notice? = s.notice?.map f := by cases s <;> rfl
  rw [notices, notices, mapNotices, List.filterMap_map, List.map_filterMap]
  exact congrArg (List.filterMap · x.signals) (funext h)

instance : LawfulMonad (Told α) := LawfulMonad.mk' (Told α)
  (fun x ↦ by cases x; simp [Functor.map])
  (fun a f ↦ by simp [bind, pure])
  (fun x f g ↦ by simp [bind, List.append_assoc])

@[simp] theorem value_map (f : β → γ) (x : Told α β) : (f <$> x).value = f x.value := rfl

@[simp] theorem notices_map (f : β → γ) (x : Told α β) : (f <$> x).notices = x.notices := by
  rw [← bind_pure_comp, notices_bind, notices_pure, List.append_nil]

/-- What each step of a fold keeps, the fold keeps. -/
theorem foldlM_keeps {P : β → Prop} {f : β → γ → Told α β} (hf : ∀ b c, P b → P (f b c).value)
    {b : β} (hb : P b) (cs : List γ) : P (cs.foldlM f b).value := by
  induction cs generalizing b with
  | nil => exact hb
  | cons c cs ih =>
    rw [List.foldlM_cons, value_bind]
    exact ih (hf b c hb)

end Told

end Storyline
