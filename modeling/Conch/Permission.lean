import Conch.Text.Ascii

/-!
# Permission levels

A session is either privileged or not.  The level is a classification of the shell,
not a boundary of the operating system.
-/

namespace Conch

/-- The level of a session. -/
inductive Permission where
  | admin
  | standard
  deriving DecidableEq, Repr, Inhabited

namespace Permission

/-- The name of a level. -/
def name : Permission → String
  | .admin => "admin"
  | .standard => "standard"

/-- Whether the level is privileged. -/
def isAdmin (level : Permission) : Bool :=
  level = .admin

/-- Reads the name of a level, in any case of its ASCII letters.  A text that names
none is given back in lower case. -/
def read (text : String) : Except String Permission :=
  let lowered := Text.asciiLower text
  if lowered = "admin" then .ok .admin
  else if lowered = "standard" then .ok .standard
  else .error lowered

/-- The wording for a text that names no level. -/
def unknownMessage (lowered : String) : String :=
  "unknown permission level: " ++ lowered

end Permission
end Conch
