/-!
Sets of characters as ascending spans of code points. Looking a code point up stops at the first
span that starts beyond it.
-/

set_option autoImplicit false
set_option relaxedAutoImplicit false

namespace CopyEditor

/-- Every `step`-th code point from `first` to `last`. -/
structure Span where
  first : Nat
  last : Nat
  step : Nat
  deriving DecidableEq, Repr

namespace Span

def contains (span : Span) (code : Nat) : Bool :=
  span.first ≤ code && code ≤ span.last && (code - span.first) % span.step == 0

/-- The spans stand in ascending order. -/
def covers : List Span → Nat → Bool
  | [], _ => false
  | span :: spans, code =>
    if code < span.first then false
    else if code ≤ span.last then span.contains code
    else covers spans code

end Span

/-- A span whose characters have images, at the same distances from `image`. -/
structure MappedSpan where
  span : Span
  image : Nat
  deriving DecidableEq, Repr

namespace MappedSpan

def image? : List MappedSpan → Nat → Option Nat
  | [], _ => none
  | mapped :: others, code =>
    if code < mapped.span.first then none
    else if code ≤ mapped.span.last then
      if mapped.span.contains code then some (mapped.image + (code - mapped.span.first)) else none
    else image? others code

end MappedSpan

end CopyEditor
