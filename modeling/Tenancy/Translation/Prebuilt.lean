/-
# Prepared translations

Two translators: one that is not there at all, and one that looks prompts up in a table of
prepared commands. Prompts are compared without regard to case and spacing. The scope and
the dry-run flag of the answer are the caller's.
-/

import Tenancy.Catalog.Name
import Tenancy.Catalog.Snapshot
import Tenancy.Json.Search
import Tenancy.Translation.Basic

namespace Tenancy.Translator

open Validation

/-- The translator that never has a translation. -/
def unavailable : Translator := fun _ =>
  .ok (.failed "No natural-language translator is configured; send a canonical request instead." [])

/-- Prepared commands by normalised prompt, in order of registration. -/
abbrev Prepared := List (String × Command)

/-- A prompt without regard to case and spacing. -/
def normalize (prompt : String) : String :=
  Name.phrase prompt

/-- Prepare a command for a prompt, replacing what was prepared for it before. -/
def register : Prepared → String → Command → Prepared
  | [], prompt, command => [(prompt, command)]
  | (p, c) :: rest, prompt, command =>
      if p == prompt then (p, command) :: rest else (p, c) :: register rest prompt command

/-- Why nothing can be prepared from a payload. -/
inductive PayloadFault where
  /-- It cannot be looked through for a command, or there is none under that name. -/
  | unsearchable
  /-- What it carries is no command. -/
  | malformed (report : Report)

/-- Read a command. -/
def readCommand (j : Json) : Except PayloadFault Command :=
  match Command.reader.run Command.title j with
  | .ok accepted => .ok accepted.value
  | .error report => .error (.malformed report)

/-- The command in a prepared payload, which is a command or an object that carries one. -/
def payloadCommand (payload : Json) : Except PayloadFault Command :=
  match payload.includes? "command", payload.field? "command" with
  | none, _ | some true, none => .error .unsearchable
  | some true, some command => readCommand command
  | some false, _ => readCommand payload

/-- The command that was prepared for a prompt. -/
def lookup? (prepared : Prepared) (prompt : String) : Option Command :=
  (prepared.find? fun p => p.1 == prompt).map Prod.snd

/-- The greatest number of suggestions. -/
def maxSuggestions : Nat := 5

/-- The translator that serves prepared commands. -/
def prebuilt (prepared : Prepared) : Translator := fun request =>
  match lookup? prepared (normalize request.input) with
  | none =>
      .ok (.failed ("No translation registered for prompt: " ++ request.input)
        ((Catalog.sortNames (prepared.map Prod.fst)).take maxSuggestions))
  | some command =>
      .ok { success := true, confidence := .ofInt 1, notes := ["Served from pre-built translations."]
            request := some (.ofCommand request.dryRun request.scope command), error := none }

end Tenancy.Translator
