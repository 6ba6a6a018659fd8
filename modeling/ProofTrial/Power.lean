/-!
Powers of numbers. `2 ^ n` stands for `Nat.pow` and `Int.pow` in every module, also where the
powers of a monoid are in scope.
-/

attribute [instance (1100), default_instance 10100] instPowNat
