import AgentGraft.Schema

/-!
# Health

The answer to the question whether the service is up. It keeps nothing that it does not know.
-/

namespace AgentGraft

/-- The answer of a service that is asked for its health. -/
structure Health where
  status : String
  deriving DecidableEq

namespace Health

def statusField : Field := .plain "status"

/-- The status of a service that is up. -/
def up : Health := ⟨"ok"⟩

/-- An answer from its members. -/
def ofMembers (o : Members) : Checked Health :=
  Health.mk <$> statusField.orElse up.status .text o

/-- An answer from a value. -/
def read : Reader Health := .object ofMembers .notModel

/-- An answer as a value. -/
def dump (h : Health) : Value := .obj (statusField.write (.str h.status))

end Health

end AgentGraft
