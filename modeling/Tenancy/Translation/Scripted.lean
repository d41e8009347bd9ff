/-
# Scripted translators

A translator that follows a script: for chosen prompts it breaks down or gives a fixed
answer, whatever else was asked, and every other prompt goes to another translator. The
fixed answer is checked only when it is wanted, so that a malformed one breaks down the
translation it was meant for and no other.
-/

import Tenancy.Translation.Prebuilt

namespace Tenancy.Translator

open Validation

/-- What a script says about a prompt. -/
inductive ScriptedAnswer where
  /-- Break down with a message. -/
  | raise (message : String)
  /-- Answer with a payload. -/
  | fixed (payload : Json)

/-- Scripted answers by normalised prompt, the latest first. -/
abbrev ScriptedAnswers := List (String × ScriptedAnswer)

/-- Carry out what a script says. -/
def ScriptedAnswer.give : ScriptedAnswer → Except Breakdown Translation
  | .raise message => .error (.raised message)
  | .fixed payload =>
      match Translation.reader.run "TranslationResult" payload with
      | .ok accepted => .ok accepted.value
      | .error report => .error (.malformed report)

/-- The translator that follows a script and leaves the rest to another one. -/
def scripted (script : ScriptedAnswers) (otherwise : Translator) : Translator := fun request =>
  match script.find? fun s => s.1 == normalize request.input with
  | some (_, answer) => answer.give
  | none => otherwise request

end Tenancy.Translator
