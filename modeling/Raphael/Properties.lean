import Mathlib.Logic.Function.Basic

namespace Raphael.Properties

-- The system properties: each one is unset or has a value, which may be empty.
abbrev Store := String → Option String

-- A read falls back to the default for an empty value too.
def Store.get (store : Store) (key default : String) : String :=
  match store key with
  | some value => if value = "" then default else value
  | none => default

def Store.set (store : Store) (key value : String) : Store :=
  Function.update store key (some value)

@[simp] theorem Store.set_self (store : Store) (key value : String) :
    store.set key value key = some value := by
  rw [Store.set, Function.update_self]

theorem Store.set_of_ne (store : Store) {key other : String} (value : String)
    (hne : other ≠ key) : store.set key value other = store other := by
  rw [Store.set, Function.update_of_ne hne]

end Raphael.Properties
