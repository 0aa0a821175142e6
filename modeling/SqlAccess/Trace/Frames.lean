/-
The application frames of a backtrace.

A rendered backtrace has a line `<index>: <name>` for every frame, and below it a
line `at <location>` if the place of the frame is known.  `filterFrames` goes over the
frames once (`pass`): it takes no notice of the frames of the tracer, nor of those
that lead to the application, and stops at the first foreign frame behind one of the
application.
-/
import SqlAccess.Text.Blank
import SqlAccess.Text.Split

namespace SqlAccess.Trace

/-- A frame of a backtrace. -/
structure Frame where
  name : List Char
  location : Option (List Char)
  deriving DecidableEq, Repr

namespace Frame

/-- What the names of the tracer's own frames start with. -/
def tracerModule : String := "dbquery::core::trace::"

/-- The name without the angle brackets in front. -/
def path (f : Frame) : List Char := f.name.dropWhile (· == '<')

/-- Whether a path is a namespace or lies in it. -/
def liesIn (path namespace' : List Char) : Bool :=
  match Text.stripPrefix? namespace' path with
  | some [] => true
  | some (':' :: ':' :: _) => true
  | _ => false

/-- Whether the frame belongs to the tracer. -/
def isTracer (f : Frame) : Bool := (Text.stripPrefix? tracerModule.toList f.path).isSome

/-- Whether the frame belongs to one of the namespaces. -/
def isApplication (namespaces : List String) (f : Frame) : Bool :=
  namespaces.any fun n => liesIn f.path n.toList

/-- The frame in one line. -/
def text (f : Frame) : String :=
  match f.location with
  | some place => String.ofList (f.name ++ " (".toList ++ place ++ [')'])
  | none => String.ofList f.name

end Frame

/-- A line of a rendered backtrace. -/
inductive Line where
  | frame (name : List Char)
  | location (place : List Char)
  | other
  deriving DecidableEq, Repr

/-- What a line says; blanks at its ends do not count. -/
def Line.ofText (cs : List Char) : Line :=
  let cs := Text.trim cs
  match Text.stripPrefix? "at ".toList cs with
  | some place => .location place
  | none =>
    match Text.splitOnce? ": ".toList cs with
    | some (index, name) =>
      if index ≠ [] ∧ index.all Char.isDigit then .frame name else .other
    | none => .other

/-- The location before the first frame of a list of lines. -/
def firstLocation : List Line → Option (List Char)
  | [] => none
  | .location place :: _ => some place
  | .frame _ :: _ => none
  | .other :: rest => firstLocation rest

/-- The frames of a list of lines, each with the first location before the next frame. -/
def framesOf : List Line → List Frame
  | [] => []
  | .frame name :: rest => ⟨name, firstLocation rest⟩ :: framesOf rest
  | _ :: rest => framesOf rest

/-- The frames of a rendered backtrace. -/
def parseFrames (rendered : String) : List Frame :=
  framesOf ((Text.splitOnChar '\n' rendered.toList).map Line.ofText)

/-- Goes over the frames, with the lines that were taken so far. -/
def pass (namespaces : List String) (out : List String) : List Frame → List String
  | [] => out
  | f :: rest =>
    if f.isTracer then pass namespaces out rest
    else if f.isApplication namespaces then pass namespaces (out ++ [f.text]) rest
    else if out.isEmpty then pass namespaces out rest
    else out

/-- The application frames of a rendered backtrace, each in one line. -/
def filterFrames (rendered : String) (namespaces : List String) : List String :=
  pass namespaces [] (parseFrames rendered)

end SqlAccess.Trace
