/-!
# Spans

A stretch of a text that is read from its start on.  How long the text is, is not known where it is read, so a
span counts the octets that are still to come.
-/

namespace QueryGateway.Text

/-- How many octets characters take. -/
def octetCount (cs : List Char) : Nat := cs.foldl (fun n c => n + c.utf8Size) 0

/-- A stretch of a text: how many octets are still to come at its start and at its end. -/
structure Span where
  fromStart : Nat
  fromEnd : Nat
  deriving DecidableEq, Repr, Inhabited

namespace Span

/-- The span from the start of `cs` to the start of `rest`, each of which reaches to the end of the text. -/
def between (cs rest : List Char) : Span := ⟨octetCount cs, octetCount rest⟩

/-- The span from the start of one span to the end of another. -/
def through (first last : Span) : Span := ⟨first.fromStart, last.fromEnd⟩

/-- The places of a span in a text of some length, counted from the start of the text. -/
def range (span : Span) (length : Nat) : Nat × Nat := (length - span.fromStart, length - span.fromEnd)

end Span

end QueryGateway.Text
