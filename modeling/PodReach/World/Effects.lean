import PodReach.World.Basic
import PodReach.Text.Blank

/-!
# Acting on the world

The elementary actions: writing to the journal, printing, asking, pausing. A text with markup is
printed only if the console can render it; otherwise nothing of it appears and the run is halted.
Printing a text may be followed by an interrupt, and so may every question. The journal holds what
the console was given, and not what became of it there.
-/

namespace PodReach

namespace Run

/-- Append an entry to the journal. -/
def record (entry : Entry) : Run Unit :=
  modify fun w => { w with journal := w.journal.push entry }

/-- Run a second action whatever the outcome of the first, as the first ends. -/
def always {α : Type} (action : Run α) (cleanup : Run Unit) : Run α := fun w =>
  match action w with
  | (.ok a, w') =>
    match cleanup w' with
    | (.ok _, w'') => (.ok a, w'')
    | (.error halt, w'') => (.error halt, w'')
  | (.error halt, w') =>
    match cleanup w' with
    | (.ok _, w'') => (.error halt, w'')
    | (.error later, w'') => (.error later, w'')

/-- The outcome of an action as a value. -/
def attempt {α : Type} (action : Run α) : Run (Except Halt α) := fun w =>
  match action w with
  | (outcome, w') => (.ok outcome, w')

/-- Fail with an expected failure. -/
def fail {α : Type} (failure : Failure) : Run α :=
  throw (.failed failure)

/-- The second action runs whatever the outcome of the first. -/
theorem always_world {α : Type} (action : Run α) (cleanup : Run Unit) (w : World) :
    (always action cleanup w).2 = (cleanup (action w).2).2 := by
  unfold always
  rcases action w with ⟨_ | _, w'⟩ <;> dsimp only <;> rcases cleanup w' with ⟨_ | _, _⟩ <;> rfl

/-- Go on unless something reports a fault. -/
def unlessBroken : Option Fault → Run Unit
  | some fault => throw (.fault fault)
  | none => pure ()

/-- A part that has to be there. -/
def need {α : Type} : Option α → Run α
  | some a => pure a
  | none => throw (.mistake .noSuchPart)

end Run

namespace Console

open Run

/-- Interrupt the run if the awaited text is on the console now. -/
def interruptAfter (text : String) : Run Unit := do
  match (← get).interruptOn with
  | some awaited =>
    if Text.contains text awaited then
      modify fun w => { w with interruptOn := none }
      throw .interrupted
  | none => pure ()

/-- Render texts with markup; the first one for which that is not possible halts the run. -/
def render (texts : List String) : Run Unit := do
  let markup := (← get).markup
  match texts.find? fun text => !markup.renders text with
  | some text => throw (.unrendered text)
  | none => pure ()

/-- Print a line with markup. -/
def line (text : String) : Run Unit := do
  render [text]
  record (.display (.line text))
  interruptAfter text

/-- Print a text as it is, in a style or none. -/
def styled (text : String) (style : Option String) : Run Unit := do
  record (.display (.styled text style))
  interruptAfter text

/-- Show something without markup of its own on the console. -/
def display (d : Display) : Run Unit :=
  record (.display d)

/-- Show a table; its title and its cells may hold markup. -/
def table (t : Table) : Run Unit := do
  render t.texts
  display (.table t)

/-- Show that something is under way, in a text with markup. -/
def spinner (text : String) : Run Unit := do
  render [text]
  display (.spinner text)

/-- Report a success. -/
def success (message : String) : Run Unit := line s!"[green]✅ 主人，{message}[/green]"

/-- Report an error. -/
def error (message : String) : Run Unit := line s!"[red]❌ 主人，{message}[/red]"

/-- Warn. -/
def warning (message : String) : Run Unit := line s!"[yellow]⚠️  主人，{message}[/yellow]"

/-- Inform. -/
def info (message : String) : Run Unit := line s!"[cyan]ℹ️  主人，{message}[/cyan]"

/-- The next answer at a prompt. Once there are no more, every prompt is interrupted. -/
def nextAnswer : Run Answer := do
  match (← get).answers with
  | [] => throw .interrupted
  | answer :: rest =>
    modify fun w => { w with answers := rest }
    match answer with
    | .interrupt => throw .interrupted
    | .endOfInput => throw .endOfInput
    | other => pure other

/-- Offer named choices and return the value of the one that is picked. -/
def choose {α : Type} (message : String) (choices : List (String × α)) (preset : Option String) :
    Run α := do
  display (.choice message (choices.map (·.1)) preset)
  match ← nextAnswer with
  | .pick index =>
    match choices[index]? with
    | some (_, value) => pure value
    | none => throw .interrupted
  | _ => throw .interrupted

/-- The text typed at a prompt. -/
def typedAnswer : Run String := do
  match ← nextAnswer with
  | .typed text => pure text
  | _ => throw .interrupted

/-- Ask for a line of text. -/
def ask (message : String) : Run String := do
  display (.question message)
  typedAnswer

/-- Ask for a number; the answer is the text that was typed. -/
def askNumber (message : String) (preset low high : Int) : Run String := do
  display (.numberQuestion message preset low high)
  typedAnswer

end Console

namespace Clock

/-- The seconds that have passed. -/
def read : Run Double := do
  return (← get).clock

/-- Let time pass. -/
def advance (seconds : Double) : Run Unit :=
  modify fun w => { w with clock := w.clock.add seconds }

/-- Pause a search. -/
def pause (seconds : Double) : Run Unit := do
  Run.record (.slept seconds)
  advance seconds

end Clock

namespace Log

/-- Write a log line. -/
def write (level : Level) (text : String) : Run Unit :=
  Run.record (.log level text)

end Log

end PodReach
