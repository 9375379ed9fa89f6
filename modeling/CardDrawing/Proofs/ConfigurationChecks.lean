import CardDrawing.Configuration.Reader
import CardDrawing.Proofs.Failures
import CardDrawing.Proofs.NearestDoubles

/-!
# Checks of configurations

A configuration file is accepted with options that have passed their checks, or refused for a value
that is none. Two kinds of numbers slip through: an infinite bound and a timeout that is too large
pass for errors of another kind, and a timeout that is no number passes the check.
-/

namespace CardDrawing

namespace Configuration

open Toml (Item)

end Configuration

namespace Proofs
open CardDrawing.Configuration
open Toml (Item)

variable {α : Type}

/-! ## Letter case -/

end Proofs

end CardDrawing
