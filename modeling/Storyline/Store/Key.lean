import Storyline.Text.Blank
import Storyline.Text.LowerCase

/-!
# Keys of variables and nodes

Variables and nodes are named in any spelling: blanks around a name and the case of its letters do
not matter. `foldName` is the common form of all spellings of a name. A blank name folds to the
empty text and names nothing; `normalizeKey?` refuses it.
-/

namespace Storyline

/-- The common form of all spellings of a name: no blanks around it, and in lower case. -/
def foldName (name : String) : String := Text.lower (Text.trim name)

/-- The key that a spelling stands for; a blank one stands for none. -/
def normalizeKey? (key : String) : Option String :=
  if Text.isBlankText key then none else some (foldName key)

end Storyline
