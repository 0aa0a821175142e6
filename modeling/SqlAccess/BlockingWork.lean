/-
Work that blocks its thread, done apart from its caller.

The caller gets the result of the work as it is.  Work that breaks off gives no
result, and the caller gets an error instead.
-/
import SqlAccess.Error

namespace SqlAccess

/-- Work that blocks, by how it ends. -/
inductive BlockingWork (α : Type) where
  | returns (result : Result α)
  /-- The work breaks off. -/
  | panics

namespace BlockingWork

/-- What the caller gets. -/
def run {α : Type} : BlockingWork α → Result α
  | returns result => result
  | panics => .error (.other "Task join error: <tokio>")

end BlockingWork

end SqlAccess
