/-!
# Powers

The powers that bound words and scale decimals. Both are plain `Nat.pow`, so that they mean the same
whatever instances of exponentiation are in scope.
-/

namespace SessionHub

/-- A power of two: the number of values of a word of so many bits. -/
abbrev twoTo (bits : Nat) : Nat := Nat.pow 2 bits

/-- A power of ten. -/
abbrev tenTo (places : Nat) : Nat := Nat.pow 10 places

end SessionHub
