/-
The tracer of slow queries.

A tracer has a switch and a list of namespaces that count as application code.  What
it traces gives its result as it would without a tracer; a tracer that is switched on
reports it besides.
-/
import SqlAccess.Error
import SqlAccess.Text.Numeral
import SqlAccess.Trace.Frames

namespace SqlAccess

/-- A tracer of slow queries. -/
structure Tracer where
  enabled : Bool
  /-- The namespaces of the application, without repetition. -/
  namespaces : List String
  deriving DecidableEq, Repr

namespace Tracer

/-- A tracer that is switched off. -/
def new : Tracer := ⟨false, ["dbquery"]⟩

/-- Switches the tracer. -/
def setEnabled (t : Tracer) (enabled : Bool) : Tracer := { t with enabled }

/-- Adds a namespace of the application, unless it is there. -/
def addNamespace (t : Tracer) (name : String) : Tracer :=
  if t.namespaces.contains name then t else { t with namespaces := t.namespaces ++ [name] }

/-- Seconds with three digits of fraction, the rest being cut off. -/
def elapsedText (seconds nanos : Nat) : String :=
  String.ofList (Text.decimal seconds ++ '.' :: Text.padded 3 (nanos / 1000000))

/-- What a tracer reports of work: a label, and the namespaces to look for in the backtrace. -/
structure Report where
  label : String
  namespaces : List String
  deriving DecidableEq, Repr

/-- The report as it is logged: after how much time, from where, and with the frames of the
application in the backtrace. -/
def Report.text (r : Report) (seconds nanos : Nat) (caller rendered : String) : String :=
  "Query took " ++ elapsedText seconds nanos ++ " seconds at " ++ caller ++ ": " ++ r.label ++
    "\n" ++ "\n".intercalate (Trace.filterFrames rendered r.namespaces)

variable {σ α : Type}

/-- Does work on a state.  It is reported if the tracer is switched on, whether or not it
succeeds. -/
def trace (t : Tracer) (label : String) (work : σ → Result α × σ) (s : σ) :
    (Result α × σ) × Option Report :=
  if t.enabled then
    let done := work s
    (done, some ⟨label, t.namespaces⟩)
  else (work s, none)

/-- Work comes to the same with a tracer as without. -/
theorem trace_fst (t : Tracer) (label : String) (work : σ → Result α × σ) (s : σ) :
    (t.trace label work s).1 = work s := by
  rw [trace]
  split <;> rfl

end Tracer

end SqlAccess
