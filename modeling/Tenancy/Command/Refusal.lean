/-
# Refusals

Why a command can never become a statement. A refusal is a cause with the names it is about;
its kind and its message are functions of the cause. Among the causes is one that nobody has
foreseen as a refusal, a value that cannot be written down: it is reported as any breakdown is.
-/

namespace Tenancy

/-- The kinds of refusal that callers tell apart. -/
inductive RefusalKind where
  /-- A table that the catalog does not have. -/
  | unknownTable
  /-- A column that the table does not have. -/
  | unknownColumn
  /-- A catalog name that must not be written into a statement. -/
  | unsafeIdentifier
  /-- A tenant table without a tenant in scope. -/
  | tenantRequired
  /-- A tenant other than the one in scope. -/
  | tenantMismatch
  /-- An update or a delete of everything. -/
  | unsafeMutation
  /-- A filter that makes no sense. -/
  | invalidFilter
  /-- Nothing to write. -/
  | emptyValues
  /-- A command that is not understood. -/
  | unsupported
  /-- A breakdown, which callers do not tell apart from those that come later. -/
  | breakdown
deriving DecidableEq, Repr

/-- The code of a kind of refusal. -/
def RefusalKind.code : RefusalKind → String
  | .unknownTable => "UNKNOWN_TABLE"
  | .unknownColumn => "UNKNOWN_COLUMN"
  | .unsafeIdentifier => "UNSAFE_IDENTIFIER"
  | .tenantRequired => "TENANT_SCOPE_REQUIRED"
  | .tenantMismatch => "TENANT_SCOPE_MISMATCH"
  | .unsafeMutation => "UNSAFE_MUTATION"
  | .invalidFilter => "INVALID_FILTER"
  | .emptyValues => "EMPTY_VALUES"
  | .unsupported => "UNSUPPORTED_COMMAND"
  | .breakdown => "EXECUTION_ERROR"

/-- All kinds of refusal that are known by their codes. -/
def RefusalKind.all : List RefusalKind :=
  [.unknownTable, .unknownColumn, .unsafeIdentifier, .tenantRequired, .tenantMismatch,
    .unsafeMutation, .invalidFilter, .emptyValues, .unsupported]

/-- Every kind is listed but breaking down. -/
theorem RefusalKind.mem_all {k : RefusalKind} (h : k ≠ .breakdown) : k ∈ RefusalKind.all := by
  revert h
  cases k <;> simp [RefusalKind.all]

/-- The part of a command in which a column was named. -/
inductive Usage where
  | plain
  | filter
  | sort
  | insert
  | update
deriving DecidableEq, Repr

/-- The start of a message about an unknown column. -/
def Usage.label : Usage → String
  | .plain => "Unknown column"
  | .filter => "Unknown filter column"
  | .sort => "Unknown sort column"
  | .insert => "Unknown insert column"
  | .update => "Unknown update column"

/-- The statements that change rows chosen by a condition. -/
inductive Verb where
  /-- Change the chosen rows. -/
  | update
  /-- Remove the chosen rows. -/
  | delete
deriving DecidableEq, Repr

/-- A cause for refusing a command. -/
inductive Refusal where
  /-- The table is not in the catalog. -/
  | unknownTable (raw : String)
  /-- The column is not in the table. -/
  | unknownColumn (usage : Usage) (raw table : String)
  /-- A name of the catalog that is not a safe identifier. -/
  | unsafeIdentifier (name : String)
  /-- The table belongs to tenants and no tenant is in scope. -/
  | tenantRequired (table : String)
  /-- A filter asks for another tenant. -/
  | tenantFilterMismatch (tenantColumn : String)
  /-- A value belongs to another tenant. -/
  | tenantValueMismatch (tenantColumn : String)
  /-- An update or a delete without any filter. -/
  | unfiltered (verb : Verb)
  /-- Membership in something that is not an array. -/
  | membershipNeedsArray (column : String)
  /-- A comparison without anything to compare with. -/
  | missingOperand (operator column : String)
  /-- A comparison with an array. -/
  | arrayOperand (operator column : String)
  /-- A comparison with null other than equality. -/
  | nullOperand (operator column : String)
  /-- An insert without values. -/
  | nothingToInsert
  /-- An update without values. -/
  | nothingToUpdate
  /-- A command of a kind that is not understood. -/
  | unsupportedKind (kind : String)
  /-- A change of a kind that is not understood. -/
  | unsupportedAction (action : String)
  /-- A value that has to be written down and contains itself. -/
  | endlessValue
deriving DecidableEq, Repr

namespace Refusal

/-- The kind of a refusal. -/
def kind : Refusal → RefusalKind
  | .unknownTable _ => .unknownTable
  | .unknownColumn .. => .unknownColumn
  | .unsafeIdentifier _ => .unsafeIdentifier
  | .tenantRequired _ => .tenantRequired
  | .tenantFilterMismatch _ | .tenantValueMismatch _ => .tenantMismatch
  | .unfiltered _ => .unsafeMutation
  | .membershipNeedsArray _ | .missingOperand .. | .arrayOperand .. | .nullOperand .. => .invalidFilter
  | .nothingToInsert | .nothingToUpdate => .emptyValues
  | .unsupportedKind _ | .unsupportedAction _ => .unsupported
  | .endlessValue => .breakdown

/-- A name in double quotes. -/
def quoted (name : String) : String :=
  "\"" ++ name ++ "\""

/-- The message of a refusal. -/
def message : Refusal → String
  | .unknownTable raw => "Unknown table: " ++ raw
  | .unknownColumn usage raw table =>
      usage.label ++ " " ++ quoted raw ++ " for table " ++ quoted table
  | .unsafeIdentifier name => "Unsafe SQL identifier: " ++ name
  | .tenantRequired table =>
      "Table " ++ quoted table ++ " is tenant-scoped and requires scope.bizId in pseudo request."
  | .tenantFilterMismatch column =>
      "Tenant scope mismatch: command uses " ++ column ++
        " filter that does not match scope.bizId."
  | .tenantValueMismatch column =>
      "Tenant scope mismatch: values include " ++ column ++ " that does not match scope.bizId."
  | .unfiltered .update =>
      "Unsafe update blocked: mutation requires at least one filter condition."
  | .unfiltered .delete =>
      "Unsafe delete blocked: mutation requires at least one filter condition."
  | .membershipNeedsArray column =>
      "IN operator requires array value for column " ++ quoted column
  | .missingOperand operator column =>
      "Operator " ++ quoted operator ++ " requires value for column " ++ quoted column
  | .arrayOperand operator column =>
      "Operator " ++ quoted operator ++ " does not accept an array for column " ++ quoted column
  | .nullOperand operator column =>
      "Operator " ++ quoted operator ++ " cannot compare column " ++ quoted column ++ " to null"
  | .nothingToInsert => "Insert command requires at least one value."
  | .nothingToUpdate => "Update command requires at least one value."
  | .unsupportedKind kind => "Unsupported command kind: " ++ kind
  | .unsupportedAction action => "Unsupported mutate action: " ++ action
  | .endlessValue => "Circular reference detected"

end Refusal

end Tenancy
