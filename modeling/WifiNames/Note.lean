namespace WifiNames

/-!
# Notes — what an operation reports on the way

* `Note` — a diagnostic message with its level.
* `Noted α` — an answer together with the notes made while it was found, in order.
-/

/-- How much a note matters. -/
inductive Level where
  | debug
  | info
  | warn
  deriving DecidableEq

/-- The word for a level. -/
def Level.word : Level → String
  | debug => "DEBUG"
  | info => "INFO"
  | warn => "WARN"

/-- A diagnostic message. -/
structure Note where
  level : Level
  message : String
  deriving DecidableEq

/-- A note on one line. -/
def Note.line (n : Note) : String :=
  n.level.word ++ " " ++ n.message

/-- An answer and the notes made while it was found. -/
structure Noted (α : Type) where
  value : α
  notes : List Note

namespace Noted

instance : Monad Noted where
  pure a := ⟨a, []⟩
  bind x f :=
    let y := f x.value
    ⟨y.value, x.notes ++ y.notes⟩

/-- Makes one note. -/
def note (level : Level) (message : String) : Noted Unit :=
  ⟨(), [⟨level, message⟩]⟩

/-- Makes a note of level `debug`. -/
def debug (message : String) : Noted Unit :=
  note .debug message

/-- Makes a note of level `info`. -/
def info (message : String) : Noted Unit :=
  note .info message

/-- Makes a note of level `warn`. -/
def warn (message : String) : Noted Unit :=
  note .warn message

@[simp] theorem value_pure {α : Type} (a : α) : (pure a : Noted α).value = a := rfl

@[simp] theorem value_bind {α β : Type} (x : Noted α) (f : α → Noted β) :
    (x >>= f).value = (f x.value).value := rfl

@[simp] theorem notes_pure {α : Type} (a : α) : (pure a : Noted α).notes = [] := rfl

@[simp] theorem notes_bind {α β : Type} (x : Noted α) (f : α → Noted β) :
    (x >>= f).notes = x.notes ++ (f x.value).notes := rfl

end Noted

end WifiNames
