/-
Connection templates.

A template is text with slots `{0}`, `{1}`, ... for arguments.  Between single
quotes text stands for itself, and two single quotes in a row, inside or outside
of quoted text, stand for one.  A template is copied out in a single pass: an
argument is put in where its slot is met, and its text is never looked at.
-/
import SqlAccess.Text.Blank
import SqlAccess.Text.Numeral

namespace SqlAccess

/-- What is wrong with a template. -/
inductive TemplateFlaw where
  /-- A slot is opened and never closed. -/
  | unmatchedBrace
  /-- A slot holds no index. -/
  | indexNotNumber
  deriving DecidableEq, Repr

namespace Template

/-- Where the scanner of a template stands. -/
inductive Mode where
  | plain
  | quoted
  /-- Inside a slot; the text read so far, last character first. -/
  | slot (read : List Char)
  deriving DecidableEq, Repr

/-- The index written in a slot: a number of 64 bits, with blanks around it. -/
def index? (written : List Char) : Option Nat :=
  match Text.natural? (Text.trim written) with
  | some n => if n < UInt64.size then some n else none
  | none => none

/-- Copies out the rest of a template behind the text that is already written.  A slot without an
argument stays as it is written. -/
def transcribe (args : List String) : Mode → List Char → List Char → Except TemplateFlaw (List Char)
  | .slot _, _, [] => .error .unmatchedBrace
  | .slot read, out, c :: cs =>
    if c = '}' then
      match index? read.reverse with
      | none => .error .indexNotNumber
      | some index =>
        match args[index]? with
        | some arg => transcribe args .plain (out ++ arg.toList) cs
        | none => transcribe args .plain (out ++ '{' :: read.reverse ++ ['}']) cs
    else transcribe args (.slot (c :: read)) out cs
  | _, out, [] => .ok out
  | mode, out, '\'' :: '\'' :: cs => transcribe args mode (out ++ ['\'']) cs
  | .plain, out, '\'' :: cs => transcribe args .quoted out cs
  | .quoted, out, '\'' :: cs => transcribe args .plain out cs
  | .plain, out, '{' :: cs => transcribe args (.slot []) out cs
  | mode, out, c :: cs => transcribe args mode (out ++ [c]) cs

end Template

end SqlAccess
