/-!
# `Foreman.Number.Power` — powers

Limits of machine words and powers of ten are written as powers. A power of a natural number or an integer
is always the elementary one here, also where a library with powers in every monoid is at hand, so that
a definition is the same term wherever it is read.
-/

namespace Foreman

attribute [instance (high), default_instance 20000] instPowNat

end Foreman
