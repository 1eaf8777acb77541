/-!
# Sets of characters

A property of characters is a set of code points, written down as an ascending list of ranges, or
of strides where members and non-members alternate.  Membership is decided by looking through the
list; `CharacterSet.contains_iff` and `StrideSet.contains_iff` say what a list means.
-/

namespace ClientGen.Text

/-- Code points given by ranges, both ends included. -/
abbrev CharacterSet := List (Nat × Nat)

namespace CharacterSet

/-- Whether some range holds the character. -/
def contains (set : CharacterSet) (c : Char) : Bool :=
  set.any fun range => range.1 ≤ c.toNat && c.toNat ≤ range.2

theorem contains_iff {set : CharacterSet} {c : Char} :
    set.contains c = true ↔ ∃ range ∈ set, range.1 ≤ c.toNat ∧ c.toNat ≤ range.2 := by
  simp [contains]

end CharacterSet

/-- Code points given by triples of a first member, a last member and the distance between two
neighbours. -/
abbrev StrideSet := List (Nat × Nat × Nat)

namespace StrideSet

/-- Whether some stride holds the character. -/
def contains (set : StrideSet) (c : Char) : Bool :=
  set.any fun stride =>
    stride.1 ≤ c.toNat && c.toNat ≤ stride.2.1 && (c.toNat - stride.1) % stride.2.2 == 0

theorem contains_iff {set : StrideSet} {c : Char} :
    set.contains c = true ↔ ∃ stride ∈ set,
      (stride.1 ≤ c.toNat ∧ c.toNat ≤ stride.2.1) ∧ (c.toNat - stride.1) % stride.2.2 = 0 := by
  simp [contains]

end StrideSet

end ClientGen.Text
