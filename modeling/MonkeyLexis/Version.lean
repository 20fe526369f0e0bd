/-!
# Version

The version of the program, as it tells it to its user.
-/

namespace MonkeyLexis

def version : String := "0.1.0"

end MonkeyLexis
