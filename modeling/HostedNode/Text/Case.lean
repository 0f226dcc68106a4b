/-! # Letter case of names

Names of environments, networks, log levels and commands are compared without regard to the case
of the letters `A` to `Z`. No other character has a case here: the inputs may hold any text, and
all that lies outside these letters is compared as it stands. -/

namespace HostedNode.Text

/-- The text with `A` to `Z` replaced by `a` to `z`. -/
def lower (s : String) : String := String.ofList (s.toList.map Char.toLower)

/-- The text with `a` to `z` replaced by `A` to `Z`. -/
def upper (s : String) : String := String.ofList (s.toList.map Char.toUpper)

theorem toList_lower (s : String) : (lower s).toList = s.toList.map Char.toLower := by
  simp [lower]

theorem toList_upper (s : String) : (upper s).toList = s.toList.map Char.toUpper := by
  simp [upper]

end HostedNode.Text
