/-!
# Fixed limits

Ceilings that no configuration changes.
-/

namespace Conch.Limits

/-- Octets that reading one file may deliver. -/
def fileRead : Nat := 50 * 1024

/-- Octets that the body of one remote answer may have. -/
def fetchBody : Nat := 50 * 1024

/-- Octets that one output redirection may write. -/
def fileWrite : Nat := 100 * 1024

/-- Stages of one pipeline. -/
def stages : Nat := 50

/-- Finished jobs that the job table keeps. -/
def finishedJobs : Nat := 20

/-- Characters of one requested input line. -/
def inputChars : Nat := 10000

end Conch.Limits
