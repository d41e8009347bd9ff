/-
# Tokens in text

A token is a nonempty body without closing braces between double braces. A text is a
sequence of plain characters and tokens, read from left to right; what looks like the start
of a token but is none is plain.
-/

import Tenancy.Text.Blank

namespace Tenancy.Template

/-- A piece of a text. -/
inductive Piece where
  /-- A plain character. -/
  | char (c : Char)
  /-- A token, by its body. -/
  | token (body : List Char)
deriving DecidableEq, Repr

/-- The body of the token whose second opening brace has just been read. -/
def bodyAhead? (cs : List Char) : Option (List Char) :=
  let body := cs.takeWhile (· != '\x7d')
  match cs.dropWhile (· != '\x7d') with
  | '\x7d' :: '\x7d' :: _ => if body.isEmpty then none else some body
  | _ => none

/-- The body of the token that starts at an opening brace already read. -/
def tokenAhead? : List Char → Option (List Char)
  | '\x7b' :: rest => bodyAhead? rest
  | _ => none

/-- The pieces of a text, of which the first `skip` characters belong to a token that has been
read already. -/
def pieces : Nat → List Char → List Piece
  | _, [] => []
  | skip + 1, _ :: rest => pieces skip rest
  | 0, c :: rest =>
      if c = '\x7b' then
        match tokenAhead? rest with
        | some body => .token body :: pieces (body.length + 3) rest
        | none => .char c :: pieces 0 rest
      else .char c :: pieces 0 rest

/-- The body of the one token that a text consists of, one line feed after it allowed. -/
def soleToken? (cs : List Char) : Option (List Char) :=
  match pieces 0 cs with
  | [.token body] => some body
  | [.token body, .char '\n'] => some body
  | _ => none

end Tenancy.Template
