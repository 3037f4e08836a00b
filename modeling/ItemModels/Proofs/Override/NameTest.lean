import ItemModels.Proofs.Override.SingleTest
import ItemModels.Proofs.Pattern.Framing
import ItemModels.Proofs.Pattern.Matching

namespace ItemModels

/-!
# Tests for names

A test for names states a pattern and asks it to match the whole display name.  When
the text is a pattern by itself, the test holds for the names that the pattern covers
from start to end.  When it is none, the test is malformed and holds for no name.

Both depend on the text standing apart from the ends that are written around it.
What happens otherwise is seen at the end: a text may close the group around it, so
that each of its alternatives has one of the two ends only, and a comment may hide
the closing end, so that there is no pattern at all.
-/

namespace Test

variable {source : Attributes} {text name : String}

end Test

namespace Rule

section Tools

end Tools

end Rule
end ItemModels
