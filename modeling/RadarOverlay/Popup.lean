import RadarOverlay.TagFunction

/-!
Entries of the host's popup lists.
-/
namespace RadarOverlay

/-- The checkbox next to an entry of a popup list. -/
inductive PopupCheckbox where
  | noCheckbox
  | unchecked
  | checked
  deriving DecidableEq, Repr

namespace PopupCheckbox

/-- The number of a checkbox on the host's side. -/
def id : PopupCheckbox → Int32
  | .noCheckbox => 0
  | .unchecked => 1
  | .checked => 2

/-- A checkbox that shows whether a condition holds. -/
def checkedIf (condition : Bool) : PopupCheckbox := if condition then .checked else .unchecked

def name : PopupCheckbox → String
  | .noCheckbox => "NoCheckbox"
  | .unchecked => "Unchecked"
  | .checked => "Checked"

end PopupCheckbox

/-- One entry of a popup list. -/
structure PopupElement where
  label : String
  /-- What activating the entry asks for. -/
  function : TagFunction
  checkbox : PopupCheckbox
  /-- Whether the host keeps the entry from being activated. -/
  disabled : Bool
  deriving DecidableEq, Repr

/-- An enabled entry without a checkbox. -/
def PopupElement.plain (label : String) (function : TagFunction) : PopupElement :=
  ⟨label, function, .noCheckbox, false⟩

end RadarOverlay
