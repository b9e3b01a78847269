import MediaTransport.Library.GroupLoop

namespace MediaTransport.Library

/-!
# Loops over lines

The lines of the planes start at strides of their own.  What is stored in a line
is within the width of the line, so that a loop over lines whose strides are at
least as long leaves in each of them what it stored there.
-/

variable {Value : Type*}

/-- The start of a line in each plane. -/
def lineAt (stride : Nat -> Nat) (line : Nat) : Nat -> Nat := fun plane => stride plane * line

variable {dstStride width : Nat -> Nat} {Holds : Nat -> Nat -> Nat -> Value -> Prop}

/-- What is left after some lines: each has what its conversion gives, and nothing else has changed. -/
structure LinesFilled (dstStride width : Nat -> Nat) (Holds : Nat -> Nat -> Nat -> Value -> Prop)
    (dst : Planes Value) (lines : Nat) (result : Planes Value) : Prop where
  inside : ∀ line < lines, forall plane offset, offset < width plane ->
    Holds line plane offset (result plane (lineAt dstStride line plane + offset))
  outside : forall plane position,
    (∀ line < lines, ∀ offset < width plane,
      position ≠ lineAt dstStride line plane + offset) ->
    result plane position = dst plane position

theorem LinesFilled.zero (dst : Planes Value) : LinesFilled dstStride width Holds dst 0 dst where
  inside line below := absurd below (Nat.not_lt_zero line)
  outside _ _ _ := rfl

/-- A line that is stored behind those before it. -/
theorem LinesFilled.put {dst before values : Planes Value} {line : Nat}
    (fits : forall plane, width plane ≤ dstStride plane)
    (filled : LinesFilled dstStride width Holds dst line before)
    (here : forall plane offset, offset < width plane -> Holds line plane offset (values plane offset)) :
    LinesFilled dstStride width Holds dst (line + 1)
      (before.put (lineAt dstStride line) width values) where
  inside earlier below plane offset within := by
    unfold Planes.put
    rcases Nat.lt_succ_iff_lt_or_eq.mp below with less | rfl
    · have room := fits plane
      have upper : lineAt dstStride (earlier + 1) plane ≤ lineAt dstStride line plane :=
        Nat.mul_le_mul_left _ less
      have next : lineAt dstStride (earlier + 1) plane = lineAt dstStride earlier plane + dstStride plane :=
        Nat.mul_succ _ _
      rw [if_neg (by omega)]
      exact filled.inside earlier less plane offset within
    · rw [if_pos ⟨Nat.le_add_right _ _, by omega⟩, Nat.add_sub_cancel_left]
      exact here plane offset within
  outside plane position away := by
    have apart : ∀ earlier < line, ∀ offset < width plane,
        position ≠ lineAt dstStride earlier plane + offset :=
      fun earlier below => away earlier (Nat.lt_succ_of_lt below)
    unfold Planes.put
    rw [if_neg, filled.outside plane position apart]
    rintro ⟨after, within⟩
    exact away line (Nat.lt_succ_self line) (position - lineAt dstStride line plane) (by omega) (by omega)

theorem LinesFilled.of_empty {dst result : Planes Value} {lines : Nat}
    (filled : LinesFilled dstStride width Holds dst lines result) (none : forall plane, width plane = 0)
    (count : Nat) : LinesFilled dstStride width Holds dst count result where
  inside line _ plane offset below := by
    rw [none plane] at below
    exact absurd below (Nat.not_lt_zero offset)
  outside plane position _ := by
    refine filled.outside plane position (fun line _ offset below => ?_)
    rw [none plane] at below
    exact absurd below (Nat.not_lt_zero offset)

end MediaTransport.Library
