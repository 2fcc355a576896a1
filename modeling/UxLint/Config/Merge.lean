import UxLint.Config.Value
import UxLint.Fault

/-!
# Overlaying documents

One mapping is laid over another: where both hold a mapping under a key the two are merged, and
anywhere else the upper value replaces the lower one. Keys keep their places, new ones follow.
-/

set_option autoImplicit false

namespace UxLint.Value

mutual

/-- What stands under a key after `upper` was laid over what stood there. -/
def overlay (lower : Option Value) (upper : Value) : Value :=
  match upper with
  | .mapping uppers =>
    match lower with
    | some (.mapping base) => .mapping (merge base uppers)
    | _ => .mapping uppers
  | other => other

/-- The entries `uppers` laid over the entries `base`. -/
def merge (base uppers : List (String × Value)) : List (String × Value) :=
  match uppers with
  | [] => base
  | (key, value) :: rest => merge (put key (overlay (lookup base key) value) base) rest

end

/-- The entries of a value laid over the entries `base`. Only a mapping can be laid over anything. -/
def layOver (base : List (String × Value)) : Value → Except Fault (List (String × Value))
  | .mapping uppers => .ok (merge base uppers)
  | v => .error (.noOverlay v)

end UxLint.Value
