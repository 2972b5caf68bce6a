/-
What a time string stands for: one moment, or an inclusive span of time.

Both are in milliseconds since the start of 1970.  A span carries the proof that it
does not end before it begins.  Each of the three temporal comparisons is one
function here, so that a span is compared by the end that the comparison is about:
after a span is after the whole of it.
-/

namespace MediaSearch

/-- A moment or an inclusive span, in milliseconds since the start of 1970. -/
inductive TimeSpec
  /-- One moment. -/
  | moment (millis : Int)
  /-- Everything from the first to the last millisecond. -/
  | span (first last : Int) (ordered : first ≤ last)
  deriving DecidableEq

namespace TimeSpec

/-- The span between two milliseconds, both included, when they are in order. -/
def span? (first last : Int) : Option TimeSpec :=
  if h : first ≤ last then some (.span first last h) else none

/-- The complaint about two ends that are out of order. -/
def disorderMessage (first last : Int) : String :=
  "Range start " ++ toString first ++ " is after its end " ++ toString last

/-- The millisecond that a time counts as after from: the end of a span. -/
def forAfter : TimeSpec → Int
  | moment millis => millis
  | span _ last _ => last

/-- The millisecond that a time counts as before up to: the start of a span. -/
def forBefore : TimeSpec → Int
  | moment millis => millis
  | span first _ _ => first

/-- Whether a millisecond belongs to the time. -/
def contains : TimeSpec → Int → Bool
  | moment millis, t => t == millis
  | span first last _, t => first ≤ t && t ≤ last

/-- Whether the time is a span. -/
def isSpan : TimeSpec → Bool
  | moment _ => false
  | span _ _ _ => true

section

variable {millis first last t : Int} {ordered : first ≤ last}

@[simp] theorem forBefore_span : (span first last ordered).forBefore = first := rfl

@[simp] theorem contains_span_iff :
    (span first last ordered).contains t = true ↔ first ≤ t ∧ t ≤ last := by
  simp [contains]

@[simp] theorem isSpan_moment : (moment millis).isSpan = false := rfl

@[simp] theorem isSpan_span : (span first last ordered).isSpan = true := rfl

end

end TimeSpec

end MediaSearch
