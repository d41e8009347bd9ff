/-
# Translations

A prompt in plain words is handed to a translator, which answers with a request or with the
reason why it has none. What a translator does is not known here; it is a function from
translation requests to answers, and it may break down.
-/

import Tenancy.Command.Reading
import Tenancy.Command.Form

namespace Tenancy

open Validation

/-- What a translator is told about the command it should come up with. -/
structure TranslationOptions where
  /-- The table to use. -/
  forceTable : Option String
  /-- The action to use. -/
  forceAction : Option String
deriving DecidableEq, Repr

/-- A prompt to translate. -/
structure TranslationRequest where
  /-- The prompt. -/
  input : String
  /-- Whether the request is going to be undone. -/
  dryRun : Bool
  /-- On whose behalf. -/
  scope : Scope
  /-- What the command should be like. -/
  options : Option TranslationOptions

/-- Why there is no translation. -/
structure TranslationError where
  /-- What to tell the caller. -/
  message : String
  /-- Prompts that would have worked. -/
  suggestions : List String
deriving DecidableEq, Repr

/-- The answer of a translator. -/
structure Translation where
  /-- Whether there is a translation. -/
  success : Bool
  /-- How sure the translator is. -/
  confidence : Binary64
  /-- Remarks. -/
  notes : List String
  /-- The request that the prompt means. -/
  request : Option Request
  /-- Why there is none. -/
  error : Option TranslationError

/-- The payload of translation options. -/
def TranslationOptions.reader : Reader TranslationOptions :=
  .object "TranslationOptions" (TranslationOptions.mk <$> maybe "forceTable" .word
    <*> maybe "forceAction" (.oneOf (["query", "insert", "update", "delete"].map fun w => (w, w))))

/-- The payload of a translation request. -/
def TranslationRequest.reader : Reader TranslationRequest :=
  .object "TranslationRequest" (TranslationRequest.mk <$> need "input" .word
    <*> flag "dryRun" true <*> Scope.field <*> maybe "options" TranslationOptions.reader)

/-- The payload of a translation error. -/
def TranslationError.reader : Reader TranslationError :=
  .object "TranslationError" (TranslationError.mk <$> need "message" .text
    <*> many "suggestions" .text)

/-- The payload of a translation. -/
def Translation.reader : Reader Translation :=
  .object "TranslationResult" (Translation.mk <$> need "success" .bool
    <*> (FieldName.camel "confidence").orElse Reader.number (.signedZero false)
      (.float (.signedZero false))
    <*> many "notes" .text
    <*> maybe "pseudoRequest" Request.reader
    <*> maybe "error" TranslationError.reader)

/-- The form of a translation error. -/
def TranslationError.form (e : TranslationError) : Form :=
  .object [("message", .text e.message), ("suggestions", .texts e.suggestions)]

/-- The form of a translation. -/
def Translation.form (t : Translation) : Form :=
  .object [("success", .bool t.success), ("confidence", .float t.confidence), ("notes", .texts t.notes),
    ("pseudoRequest", .ofOption Request.form t.request),
    ("error", .ofOption TranslationError.form t.error)]

namespace Translation

/-- The answer that there is no translation. -/
def failed (message : String) (suggestions : List String) : Translation :=
  { success := false, confidence := .signedZero false, notes := [], request := none
    error := some ⟨message, suggestions⟩ }

/-- The request of a translation that succeeded. -/
def usable? (t : Translation) : Option Request :=
  if t.success then t.request else none

/-- What to tell the caller about a translation that cannot be used. -/
def failureMessage (t : Translation) : String :=
  match t.error with
  | some e => e.message
  | none => "translation_failed"

end Translation

/-- How a translator breaks down. -/
inductive Breakdown where
  | raised (message : String)
  /-- With an answer that is none. -/
  | malformed (report : Report)

/-- What to tell about a translator that broke down. -/
def Breakdown.message : Breakdown → String
  | .raised message => message
  | .malformed report => report.message

/-- A translator answers, or breaks down, and what it does depends on nothing but what it is asked. A
translator that remembers what it was asked before, or that answers differently for a reason of its
own, is not expressed. -/
abbrev Translator := TranslationRequest → Except Breakdown Translation

end Tenancy
