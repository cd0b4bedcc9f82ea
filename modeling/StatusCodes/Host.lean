import StatusCodes.HostError

/-!
# Calls to the host

Host calls answer with a status word, or leave an error number behind for the caller to collect.
Both are turned into codes here, and a failing word keeps its number in the text of the fault.
-/

namespace StatusCodes

namespace Host

/-- The name of the host's operating system. -/
def name : String := "linux"

/-- The code for the error number that the last failing operation left behind. -/
def lastError (errno : Int32) : Code :=
  (HostError.numbered errno).code

/-- The outcome of a host call that answers with a status word: a word that is not negative is
the result, a negative one is a negated error number. -/
def check (word : Int32) : Except Fault UInt32 :=
  if 0 ≤ word.toInt then .ok word.toUInt32
  else .error (.composed (Errno.toCode word) s!"os call failed with errno {-word.toInt}")

end Host

end StatusCodes
