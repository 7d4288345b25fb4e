import PodReach.Proofs.World.Frames

/-!
# What prompts take

Every prompt takes the next answer, whether it is one that the prompt can use or not.
-/

namespace PodReach.Console

open Run World

variable {α : Type}

/-- What a prompt takes from the answers that are left. -/
def taken : List Answer → Except Halt Answer
  | [] => .error .interrupted
  | .interrupt :: _ => .error .interrupted
  | .endOfInput :: _ => .error .endOfInput
  | answer :: _ => .ok answer

theorem nextAnswer_apply (w : World) :
    nextAnswer w = (taken w.answers, { w with answers := w.answers.tail }) := by
  obtain ⟨_, _, answers, _, _, _, _, _, _, _, _, _, _, _⟩ := w
  rcases answers with _ | ⟨_ | _ | _ | _, _⟩ <;> rfl

/-- What an answer picks from choices. -/
def picked (choices : List (String × α)) : Answer → Except Halt α
  | .pick index =>
    match choices[index]? with
    | some choice => .ok choice.2
    | none => .error .interrupted
  | _ => .error .interrupted

theorem choose_apply (message : String) (choices : List (String × α)) (preset : Option String)
    (w : World) :
    choose message choices preset w = ((taken w.answers).bind (picked choices),
      { w.noted [.display (.choice message (choices.map (·.1)) preset)] with
        answers := w.answers.tail }) := by
  unfold choose display
  rw [bind_of_ok (record_apply _ _), bind_apply, nextAnswer_apply,
    show (w.noted _).answers = w.answers from rfl]
  rcases taken w.answers with halt | answer
  · rfl
  · cases answer with
    | pick index =>
        simp only [Except.bind, picked]
        cases choices[index]? <;> rfl
    | _ => rfl

/-- A line of text that is asked for. -/
def entered : Answer → Except Halt String
  | .typed text => .ok text
  | _ => .error .interrupted

theorem typedAnswer_apply (w : World) :
    typedAnswer w = ((taken w.answers).bind entered, { w with answers := w.answers.tail }) := by
  unfold typedAnswer
  rw [bind_apply, nextAnswer_apply]
  rcases taken w.answers with halt | answer
  · rfl
  · cases answer <;> rfl

theorem ask_apply (message : String) (w : World) :
    ask message w = ((taken w.answers).bind entered,
      { w.noted [.display (.question message)] with answers := w.answers.tail }) := by
  unfold ask display
  rw [bind_of_ok (record_apply _ _), typedAnswer_apply]
  rfl

theorem askNumber_apply (message : String) (preset low high : Int) (w : World) :
    askNumber message preset low high w = ((taken w.answers).bind entered,
      { w.noted [.display (.numberQuestion message preset low high)] with
        answers := w.answers.tail }) := by
  unfold askNumber display
  rw [bind_of_ok (record_apply _ _), typedAnswer_apply]
  rfl

end PodReach.Console
