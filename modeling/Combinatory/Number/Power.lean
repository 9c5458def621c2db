/-!
# Powers of naturals and integers

A power of a natural number or an integer with a natural exponent is computed by core's
`Nat.pow` or `Int.pow`, whatever other power instances are in scope: a definition that raises
a number to a power then denotes the same term in every context that imports it.
-/

namespace Combinatory

/-- Powers with a natural exponent, by the type's own `NatPow`. -/
instance (priority := 20000) natPow {α : Type} [NatPow α] : Pow α Nat := instPowNat

attribute [default_instance 20000] natPow

end Combinatory
