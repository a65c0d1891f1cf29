import UnitScan.Diagnostic

/-!
# Collecting diagnostics

A collector keeps diagnostics up to a limit. It refuses any more, and remembers that it did. A
refusal names the limit; where the limit cannot be written, the collector fails instead, and
remembers this in the same way.
-/

namespace UnitScan.Diagnostic

/-- Diagnostics in the order in which they were added, and whether one was refused. -/
structure Collector where
  limit : Int := 100
  errors : List Diagnostic := []
  truncated : Bool := false
  deriving DecidableEq, Repr

namespace Collector

/-- Why a diagnostic is not kept. -/
inductive Refusal
  /-- A collector of the given limit is full. -/
  | full (limit : Int)
  /-- A collector is full, and its limit cannot be written. -/
  | unwritable (fault : Text.Unwritable)
  deriving DecidableEq, Repr

/-- The refusal of a full collector of the given limit. -/
def Refusal.ofLimit (limit : Int) : Refusal :=
  if Text.Writable limit then full limit else unwritable .number

/-- The diagnostic that stands for everything beyond a limit. -/
def beyond (limit : Int) : Diagnostic :=
  { message := tooManyMessage ++ " (" ++ toString limit ++ "), stopping" }

/-- Add a diagnostic, unless the collector is full. -/
def add (c : Collector) (d : Diagnostic) : Except Refusal Unit × Collector :=
  if c.limit ≤ c.errors.length then (.error (.ofLimit c.limit), { c with truncated := true })
  else (.ok (), { c with errors := c.errors ++ [d] })

/-- Forget all diagnostics, and that any was refused. -/
def clear (c : Collector) : Collector := { c with errors := [], truncated := false }

/-- How many diagnostics are kept. -/
def count (c : Collector) : Nat := c.errors.length

/-- Whether any diagnostic is kept. -/
def hasErrors (c : Collector) : Bool := !c.errors.isEmpty

/-- The number of diagnostics kept, and whether more were refused. -/
def summary (c : Collector) : String :=
  toString c.count ++ (if c.count = 1 then " error" else " errors") ++
    (if c.truncated then " (stopped after limit)" else "")

/-- The texts of the diagnostics, each with an empty line after it, and the summary. -/
def report (c : Collector) : String :=
  "\n".intercalate (c.errors.flatMap (fun d => [d.text, ""]) ++ [c.summary])

end Collector

end UnitScan.Diagnostic
