import TemplatePress.Text.Utf8

/-!
# Environment variables

Names with values, each name once. A value is bytes; one that is not UTF-8 counts as unset where a
text is wanted.
-/

namespace TemplatePress

/-- The variables that are set. -/
structure Environment where
  bindings : List (String × Bytes) := []
  deriving DecidableEq

namespace Environment

/-- The value of a variable. -/
def get? (env : Environment) (name : String) : Option Bytes :=
  (env.bindings.find? (·.1 == name)).map (·.2)

/-- The value of a variable as a text. -/
def text? (env : Environment) (name : String) : Option String :=
  (env.get? name).bind Text.Utf8.decode?

/-- Sets a variable. -/
def set (env : Environment) (name : String) (value : Bytes) : Environment :=
  ⟨(name, value) :: env.bindings.filter (·.1 != name)⟩

/-- Unsets a variable. -/
def unset (env : Environment) (name : String) : Environment :=
  ⟨env.bindings.filter (·.1 != name)⟩

@[simp] theorem get?_unset_self (env : Environment) (name : String) :
    (env.unset name).get? name = none := by
  simp [get?, unset, List.find?_filter, List.find?_eq_none]

end Environment

end TemplatePress
