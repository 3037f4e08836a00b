import ItemModels.Text.Category
import ItemModels.Text.Script.Sharing
import ItemModels.Text.Script.Writing

namespace ItemModels
namespace Text
namespace Script

/-!
Scripts.

Each assigned character belongs to one script, except for those of private use.  What
no other script has is common to all.  An extended script has the characters that are
shared with it as well, and lacks those of its own that only others use.
-/

/-- The characters that have a script. -/
def scripted : CharSet :=
  .unionAll [Category.visible, .ofRuns Category.control, .ofRuns Category.formatting]

def common : CharSet :=
  .without scripted (.ofRuns (writings.flatMap Prod.snd))

/-- The names and characters of each script. -/
def named : List (List String × CharSet) :=
  (["zyyy", "common"], common) ::
    writings.map fun (names, runs) => (names, .meet scripted (.ofRuns runs))

def named? (name : String) : Option CharSet := CharSet.called? named name

/-- The characters that are shared with a script, of which the first name is its short one. -/
def sharedWith (names : List String) : List Run :=
  let used := sharings.filter fun sharing => sharing.1.any fun user => names.head? == some user
  used.flatMap Prod.snd

/-- The names and characters of each extended script. -/
def extended : List (List String × CharSet) :=
  named.map fun (names, own) =>
    let unshared : CharSet := .without own (.ofRuns (sharings.flatMap Prod.snd))
    (names, .union unshared (.ofRuns (sharedWith names)))

def extended? (name : String) : Option CharSet := CharSet.called? extended name

end Script
end Text
end ItemModels
