import Scaffold.Build.Construct
import Scaffold.Source.Params

/-!
# Signatures from text

A signature is built from its name and the texts of its two lists.
-/

namespace Scaffold.Signature

/-- The signature with the given name and lists. -/
def ofText (name params results : String) : Except Error Signature := do
  let params ← Error.ofSource (Source.readParams params.toList)
  let params ← params.mapM fun param => param.checked.orError
  let results ← Error.ofSource (Source.readResults results.toList)
  let results ← results.mapM fun result => result.checked.orError
  (Signature.mk name params results).checked.orError

end Scaffold.Signature
